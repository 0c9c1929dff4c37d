/-
Job messages as they travel through the broker.

A message is published as JSON text and read back by `JSON.parse` and
`isJobEnvelope`.  The text consists of ASCII code units only, so its UTF-8
bytes stand for it one by one.
-/

import ModelMux.Queue.JobRow
import ModelMux.Json.Number

namespace ModelMux.Queue

def stringifyEnvelope (message : JobEnvelope) : JsString :=
  Json.print (.object
    [(JsString.ofString "id", .string message.id),
      (JsString.ofString "attempt", .number (Json.integerToken message.attempt))])

def isJobIdUnit (unit : CodeUnit) : Bool :=
  (0x41 ≤ unit && unit ≤ 0x5A) || (0x61 ≤ unit && unit ≤ 0x7A) || unit.isDigit ||
    unit = 0x5F || unit = 0x2D

def isJobIdText (id : JsString) : Bool :=
  1 ≤ id.length && id.length ≤ 128 && id.all isJobIdUnit

def isAttemptNumber : JsNumber → Bool
  | .finite value =>
      (JsNumber.finite value).isSafeInteger && 0 < value && value ≤ 2147483647
  | .infinite _ => false
  | .notANumber => false

/-- The message a value is narrowed to; everything else is rejected. -/
def isJobEnvelope : Option Json → Option JobEnvelope
  | some (.object members) =>
      match Json.get members (JsString.ofString "id"),
          Json.get members (JsString.ofString "attempt") with
      | some (.string id), some (.number token) =>
          match token.value with
          | .finite attempt =>
              if isJobIdText id && isAttemptNumber (.finite attempt) then
                some { id := id, attempt := attempt.num }
              else none
          | .infinite _ => none
          | .notANumber => none
      | _, _ => none
  | _ => none

def readEnvelope (content : JsString) : Option JobEnvelope :=
  isJobEnvelope (Json.parse content)

/-- Well-formed messages survive the round trip through their text. -/
theorem readEnvelope_stringify {message : JobEnvelope} (idText : isJobIdText message.id = true)
    (positive : 0 < message.attempt) (bounded : message.attempt ≤ 2147483647) :
    readEnvelope (stringifyEnvelope message) = some message := by
  obtain ⟨id, attempt⟩ := message
  simp only at idText positive bounded
  have parsed : Json.parse (stringifyEnvelope ⟨id, attempt⟩) = some (.object
      [(JsString.ofString "id", .string id),
        (JsString.ofString "attempt", .number (Json.integerToken attempt))]) := by
    unfold Json.parse stringifyEnvelope
    rw [Json.parseText_print]
    simp [Json.build, Json.buildMembers, Json.fromEntries, Json.setMember, Json.ownOrder,
      Json.arrayIndex?, JsString.ofString, CodeUnit.ofChar, CodeUnit.isDigit]
  have value := Json.integerToken_value positive (by omega)
  have safe := Json.isSafeInteger_intCast positive (by omega)
  have numeric : isAttemptNumber (.finite (attempt : ℚ)) = true := by
    have positive' : (0 : ℚ) < attempt := by exact_mod_cast positive
    have bounded' : (attempt : ℚ) ≤ 2147483647 := by exact_mod_cast bounded
    simp [isAttemptNumber, safe, positive', bounded']
  rw [readEnvelope, parsed]
  have idKey : Json.get [(JsString.ofString "id", .string id),
      (JsString.ofString "attempt", .number (Json.integerToken attempt))]
      (JsString.ofString "id") = some (.string id) := by
    simp [Json.get]
  have attemptKey : Json.get [(JsString.ofString "id", .string id),
      (JsString.ofString "attempt", .number (Json.integerToken attempt))]
      (JsString.ofString "attempt") = some (.number (Json.integerToken attempt)) := by
    simp [Json.get, JsString.ofString, CodeUnit.ofChar]
  simp [isJobEnvelope, idKey, attemptKey, value, idText, numeric]

theorem isJobIdUnit_of_isLowerHex {unit : CodeUnit} (hex : isLowerHex unit = true) :
    isJobIdUnit unit = true := by
  simp only [isLowerHex, Bool.or_eq_true, Bool.and_eq_true, decide_eq_true_eq] at hex
  rcases hex with digit | ⟨above, below⟩
  · simp [isJobIdUnit, digit]
  · have inRange : 0x61 ≤ unit ∧ unit ≤ 0x7A := by
      simp only [UInt16.le_iff_toNat_le, UInt16.reduceToNat] at *
      omega
    simp [isJobIdUnit, inRange]

theorem isJobIdText_jobId (uuid : Uuid) : isJobIdText (jobId uuid) = true := by
  have shape := uuid.shape
  simp only [isUuid, Bool.and_eq_true, decide_eq_true_eq, List.all_eq_true] at shape
  obtain ⟨length, units⟩ := shape
  have listed : ∀ unit ∈ uuid.text, isJobIdUnit unit = true := by
    intro unit member
    obtain ⟨index, inside, rfl⟩ := List.getElem_of_mem member
    have entry := units (uuid.text[index], index)
      (List.mem_zipIdx_iff_getElem?.mpr (by simp [inside]))
    simp only at entry
    split at entry
    · have hyphen : uuid.text[index] = 0x2D := by simpa using entry
      rw [hyphen]
      decide
    · exact isJobIdUnit_of_isLowerHex entry
  have whole : (jobId uuid).all isJobIdUnit = true := by
    rw [jobId, List.all_append, Bool.and_eq_true]
    exact ⟨by decide, List.all_eq_true.mpr listed⟩
  have size : (jobId uuid).length = 40 := by
    rw [jobId, List.length_append, length]
    rfl
  simp [isJobIdText, size, whole]

end ModelMux.Queue
