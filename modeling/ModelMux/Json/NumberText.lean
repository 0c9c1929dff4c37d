/-
The number that `Number` reads from a text.

White space around the literal is ignored and a blank text is zero.  What is
left is a hexadecimal, octal or binary integer without a sign, or a decimal
literal, which may be an infinity.  Any other text is not a number.
-/

import ModelMux.Json.Number
import Mathlib.Data.Nat.Digits.Defs

namespace ModelMux

namespace JsNumber

def digitsValue (radix : ℕ) (digits : List ℕ) : ℕ := Nat.ofDigits radix digits.reverse

/-! ### Integers with a radix -/

def radixOf (mark : CodeUnit) : Option ℕ :=
  if mark = 0x78 || mark = 0x58 then some 16
  else if mark = 0x6F || mark = 0x4F then some 8
  else if mark = 0x62 || mark = 0x42 then some 2
  else none

def radixDigit (radix : ℕ) (unit : CodeUnit) : Option ℕ :=
  (Json.hexValue unit).filter (fun digit => digit < radix)

def radixInteger (radix : ℕ) (text : JsString) : JsNumber :=
  match text.mapM (radixDigit radix) with
  | none => .notANumber
  | some digits => if digits = [] then .notANumber else ofRational (digitsValue radix digits)

/-- A text that begins with a radix mark is no decimal literal. -/
def nonDecimalInteger : JsString → Option JsNumber
  | zero :: mark :: text =>
      if zero = 0x30 then (radixOf mark).map (fun radix => radixInteger radix text) else none
  | _ => none

/-! ### Decimal literals -/

def decimalValue (text : JsString) : ℕ := digitsValue 10 (text.map CodeUnit.digitValue)

def splitSign : JsString → Bool × JsString
  | [] => (false, [])
  | unit :: text =>
      if unit = 0x2D then (true, text)
      else if unit = 0x2B then (false, text)
      else (false, unit :: text)

def exponentPart : JsString → Option ℤ
  | [] => some 0
  | mark :: text =>
      let (negative, digits) := splitSign text
      if (mark = 0x65 || mark = 0x45) && digits ≠ [] && digits.all CodeUnit.isDigit then
        some (if negative then -(decimalValue digits : ℤ) else decimalValue digits)
      else none

def fractionPart : JsString → JsString × JsString
  | [] => ([], [])
  | unit :: text =>
      if unit = 0x2E then (text.takeWhile CodeUnit.isDigit, text.dropWhile CodeUnit.isDigit)
      else ([], unit :: text)

def unsignedDecimal (text : JsString) : Option ℚ :=
  let whole := text.takeWhile CodeUnit.isDigit
  let (fraction, rest) := fractionPart (text.dropWhile CodeUnit.isDigit)
  match exponentPart rest with
  | none => none
  | some exponent =>
      if whole = [] && fraction = [] then none
      else some (decimalValue (whole ++ fraction) * 10 ^ (exponent - fraction.length))

def decimalLiteral (text : JsString) : JsNumber :=
  let (negative, body) := splitSign text
  if body = JsString.ofString "Infinity" then .infinite negative
  else
    match unsignedDecimal body with
    | none => .notANumber
    | some value => ofRational (if negative then -value else value)

def ofText (text : JsString) : JsNumber :=
  let body := text.trim
  if body = [] then .finite 0
  else
    match nonDecimalInteger body with
    | some value => value
    | none => decimalLiteral body

end JsNumber

/-! ### White space around a text -/

theorem JsString.trim_spaced {before text after : JsString}
    (leading : ∀ unit ∈ before, unit.isSpace = true) (trailing : ∀ unit ∈ after, unit.isSpace = true)
    (solid : ∀ unit ∈ text, unit.isSpace = false) : JsString.trim (before ++ text ++ after) = text := by
  unfold JsString.trim
  cases text with
  | nil =>
      have blank : ∀ unit ∈ before ++ [] ++ after, unit.isSpace = true := by
        intro unit member
        rw [List.append_nil, List.mem_append] at member
        exact member.elim (leading unit) (trailing unit)
      rw [List.dropWhile_eq_nil_iff.mpr blank, List.rdropWhile_nil]
  | cons first rest =>
      have kept : (before ++ (first :: rest) ++ after).dropWhile CodeUnit.isSpace =
          (first :: rest) ++ after := by
        rw [List.append_assoc, List.dropWhile_append_of_pos leading, List.cons_append,
          List.dropWhile_cons_of_neg (by simp [solid first])]
      have ends : ∀ nonempty : (first :: rest) ≠ [],
          ¬((first :: rest).getLast nonempty).isSpace = true := by
        intro nonempty
        rw [solid _ (List.getLast_mem nonempty)]
        simp
      rw [kept, List.rdropWhile, List.reverse_append,
        List.dropWhile_append_of_pos (by simpa using trailing)]
      exact List.rdropWhile_eq_self_iff.mpr ends

/-! ### Decimal texts of integers -/

namespace JsNumber

theorem isDigit_decimalUnits (value : ℕ) :
    ∀ unit ∈ Json.decimalUnits value, unit.isDigit = true := by
  induction value using Json.decimalUnits.induct with
  | case1 value small =>
      rw [Json.decimalUnits, if_pos small]
      simp [CodeUnit.isDigit_ofDigit small]
  | case2 value large ih =>
      have digit : value % 10 < 10 := Nat.mod_lt _ (by norm_num)
      rw [Json.decimalUnits, if_neg large]
      intro unit member
      rcases List.mem_append.mp member with earlier | last
      · exact ih unit earlier
      · rw [List.mem_singleton.mp last, CodeUnit.isDigit_ofDigit digit]

theorem decimalUnits_ne_nil (value : ℕ) : Json.decimalUnits value ≠ [] := by
  rw [Json.decimalUnits]
  split <;> simp

theorem decimalValue_decimalUnits (value : ℕ) : decimalValue (Json.decimalUnits value) = value := by
  unfold decimalValue digitsValue
  induction value using Json.decimalUnits.induct with
  | case1 value small =>
      rw [Json.decimalUnits, if_pos small]
      simp [CodeUnit.digitValue_ofDigit small]
  | case2 value large ih =>
      have digit : value % 10 < 10 := Nat.mod_lt _ (by norm_num)
      rw [Json.decimalUnits, if_neg large, List.map_append, List.reverse_append]
      simp only [List.map_cons, List.map_nil, List.reverse_singleton, List.singleton_append,
        Nat.ofDigits_cons, ih, CodeUnit.digitValue_ofDigit digit]
      omega

theorem not_isSpace_of_isDigit {unit : CodeUnit} (digit : unit.isDigit = true) :
    unit.isSpace = false := by
  simp only [CodeUnit.isDigit, Bool.and_eq_true, decide_eq_true_eq, UInt16.le_iff_toNat_le] at digit
  obtain ⟨least, greatest⟩ := digit
  simp only [CodeUnit.isSpace, Bool.or_eq_false_iff, Bool.and_eq_false_iff, decide_eq_false_iff_not,
    UInt16.le_iff_toNat_le, ← UInt16.toNat_inj]
  simp at *
  omega

theorem ne_of_isDigit {unit : CodeUnit} (digit : unit.isDigit = true) {other : CodeUnit}
    (letter : other.isDigit = false) : unit ≠ other := by
  rintro rfl
  rw [digit] at letter
  cases letter

theorem splitSign_digits {text : JsString} (digits : ∀ unit ∈ text, unit.isDigit = true) :
    splitSign text = (false, text) := by
  cases text with
  | nil => rfl
  | cons unit text =>
      have first := digits unit List.mem_cons_self
      rw [splitSign, if_neg (ne_of_isDigit first (by decide)),
        if_neg (ne_of_isDigit first (by decide))]

theorem radixOf_digit {mark : CodeUnit} (digit : mark.isDigit = true) : radixOf mark = none := by
  have differs (letter : CodeUnit) (other : letter.isDigit = false) : mark ≠ letter :=
    ne_of_isDigit digit other
  simp [radixOf, differs 0x78 rfl, differs 0x58 rfl, differs 0x6F rfl, differs 0x4F rfl,
    differs 0x62 rfl, differs 0x42 rfl]

theorem nonDecimalInteger_digits {text : JsString} (digits : ∀ unit ∈ text, unit.isDigit = true) :
    nonDecimalInteger text = none := by
  rcases text with _ | ⟨zero, _ | ⟨mark, text⟩⟩
  · rfl
  · rfl
  · rw [nonDecimalInteger, radixOf_digit (digits mark (by simp))]
    simp

theorem unsignedDecimal_digits {text : JsString} (digits : ∀ unit ∈ text, unit.isDigit = true)
    (nonempty : text ≠ []) : unsignedDecimal text = some (decimalValue text : ℚ) := by
  have whole : text.takeWhile CodeUnit.isDigit = text := List.takeWhile_eq_self_iff.mpr digits
  have rest : text.dropWhile CodeUnit.isDigit = [] := List.dropWhile_eq_nil_iff.mpr digits
  simp [unsignedDecimal, whole, rest, fractionPart, exponentPart, nonempty]

/-- A decimal integer is read back, with any white space around it. -/
theorem ofText_decimalUnits {value : ℕ} (small : value < 2 ^ 53) {before after : JsString}
    (leading : ∀ unit ∈ before, unit.isSpace = true)
    (trailing : ∀ unit ∈ after, unit.isSpace = true) :
    ofText (before ++ Json.decimalUnits value ++ after) = .finite value := by
  have digits := isDigit_decimalUnits value
  have nonempty := decimalUnits_ne_nil value
  have trimmed := JsString.trim_spaced leading trailing
    (fun unit member => not_isSpace_of_isDigit (digits unit member))
  have finite : Json.decimalUnits value ≠ JsString.ofString "Infinity" := by
    intro same
    have letter := digits 0x49 (by rw [same]; decide)
    exact absurd letter (by decide)
  rw [ofText, trimmed]
  simp only [nonempty, if_false, nonDecimalInteger_digits digits, decimalLiteral,
    splitSign_digits digits, finite, unsignedDecimal_digits digits nonempty,
    decimalValue_decimalUnits, Bool.false_eq_true]
  exact ofRational_natCast small

end JsNumber

end ModelMux
