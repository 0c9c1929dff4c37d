/-
UTF-8 bytes of JavaScript strings.

Encoding replaces an unpaired surrogate by U+FFFD, as `Buffer` does; decoding is
that of a fatal `TextDecoder`.  Text without unpaired surrogates, and so all
text that `JSON.stringify` writes, survives the round trip.
-/

import ModelMux.Json.Text
import Mathlib.Tactic.Common

namespace ModelMux

namespace Utf8

/-! ### Scalar values -/

def replacement : Nat := 0xFFFD

def unitScalar (unit : CodeUnit) : Nat := if unit.isSurrogate then replacement else unit.toNat

def pairScalar (high low : CodeUnit) : Nat :=
  0x10000 + (high.toNat - 0xD800) * 0x400 + (low.toNat - 0xDC00)

def scalars : JsString → List Nat
  | [] => []
  | [unit] => [unitScalar unit]
  | first :: second :: rest =>
      if first.isHighSurrogate && second.isLowSurrogate then
        pairScalar first second :: scalars rest
      else unitScalar first :: scalars (second :: rest)

def scalarUnits (scalar : Nat) : JsString :=
  if scalar < 0x10000 then [UInt16.ofNat scalar]
  else
    [UInt16.ofNat (0xD800 + (scalar - 0x10000) / 0x400),
      UInt16.ofNat (0xDC00 + (scalar - 0x10000) % 0x400)]

/-! ### Bytes -/

def tail (scalar : Nat) : UInt8 := UInt8.ofNat (0x80 + scalar % 0x40)

def encodeScalar (scalar : Nat) : List UInt8 :=
  if scalar < 0x80 then [UInt8.ofNat scalar]
  else if scalar < 0x800 then [UInt8.ofNat (0xC0 + scalar / 0x40), tail scalar]
  else if scalar < 0x10000 then
    [UInt8.ofNat (0xE0 + scalar / 0x1000), tail (scalar / 0x40), tail scalar]
  else
    [UInt8.ofNat (0xF0 + scalar / 0x40000), tail (scalar / 0x1000), tail (scalar / 0x40),
      tail scalar]

def encode (text : JsString) : List UInt8 := (scalars text).flatMap encodeScalar

def byteLength (text : JsString) : Nat := (encode text).length

def isWithin (least greatest : Nat) (byte : UInt8) : Bool :=
  least ≤ byte.toNat && byte.toNat ≤ greatest

def isTail (byte : UInt8) : Bool := isWithin 0x80 0xBF byte

/-- The bounds on the second byte exclude surrogates, values that are written with
fewer bytes and values above U+10FFFF. -/
def isSecond (first second : UInt8) : Bool :=
  isWithin (if first = 0xE0 then 0xA0 else if first = 0xF0 then 0x90 else 0x80)
    (if first = 0xED then 0x9F else if first = 0xF4 then 0x8F else 0xBF) second

def tailValue (byte : UInt8) : Nat := byte.toNat - 0x80

def decodeScalars : List UInt8 → Option (List Nat)
  | [] => some []
  | first :: rest =>
      if first.toNat < 0x80 then (decodeScalars rest).map (List.cons first.toNat)
      else if isWithin 0xC2 0xDF first then
        match rest with
        | second :: rest =>
            if isTail second then
              (decodeScalars rest).map
                (List.cons ((first.toNat - 0xC0) * 0x40 + tailValue second))
            else none
        | _ => none
      else if isWithin 0xE0 0xEF first then
        match rest with
        | second :: third :: rest =>
            if isSecond first second && isTail third then
              (decodeScalars rest).map
                (List.cons
                  ((first.toNat - 0xE0) * 0x1000 + tailValue second * 0x40 + tailValue third))
            else none
        | _ => none
      else if isWithin 0xF0 0xF4 first then
        match rest with
        | second :: third :: fourth :: rest =>
            if isSecond first second && isTail third && isTail fourth then
              (decodeScalars rest).map
                (List.cons
                  ((first.toNat - 0xF0) * 0x40000 + tailValue second * 0x1000 +
                    tailValue third * 0x40 + tailValue fourth))
            else none
        | _ => none
      else none

def withoutMark (scalars : List Nat) : List Nat :=
  if scalars.head? = some 0xFEFF then scalars.tail else scalars

/-- `new TextDecoder("utf-8", { fatal: true }).decode(bytes)`, with `none` for a
thrown `TypeError`. -/
def decode (bytes : List UInt8) : Option JsString :=
  (decodeScalars bytes).map (fun scalars => (withoutMark scalars).flatMap scalarUnits)

/-! ### Well-formed text -/

def wellFormed : JsString → Bool
  | [] => true
  | [unit] => !unit.isSurrogate
  | first :: second :: rest =>
      if first.isHighSurrogate && second.isLowSurrogate then wellFormed rest
      else !first.isSurrogate && wellFormed (second :: rest)

theorem highSurrogate_iff {unit : CodeUnit} :
    unit.isHighSurrogate = true ↔ 0xD800 ≤ unit.toNat ∧ unit.toNat ≤ 0xDBFF := by
  simp only [CodeUnit.isHighSurrogate, Bool.and_eq_true, decide_eq_true_eq,
    UInt16.le_iff_toNat_le, UInt16.reduceToNat]

theorem lowSurrogate_iff {unit : CodeUnit} :
    unit.isLowSurrogate = true ↔ 0xDC00 ≤ unit.toNat ∧ unit.toNat ≤ 0xDFFF := by
  simp only [CodeUnit.isLowSurrogate, Bool.and_eq_true, decide_eq_true_eq,
    UInt16.le_iff_toNat_le, UInt16.reduceToNat]

theorem not_surrogate_iff {unit : CodeUnit} :
    (!unit.isSurrogate) = true ↔ unit.toNat < 0xD800 ∨ 0xE000 ≤ unit.toNat := by
  rw [CodeUnit.isSurrogate, Bool.not_or, Bool.and_eq_true, Bool.not_eq_true', Bool.not_eq_true',
    ← Bool.not_eq_true, ← Bool.not_eq_true, highSurrogate_iff, lowSurrogate_iff]
  omega

def IsScalar (scalar : Nat) : Prop := scalar < 0xD800 ∨ 0xE000 ≤ scalar ∧ scalar < 0x110000

theorem isScalar_unit {unit : CodeUnit} (single : (!unit.isSurrogate) = true) :
    IsScalar unit.toNat := by
  have below := unit.toNat_lt
  rw [not_surrogate_iff] at single
  unfold IsScalar
  omega

theorem pairScalar_bounds {high low : CodeUnit} (isHigh : high.isHighSurrogate = true)
    (isLow : low.isLowSurrogate = true) :
    0x10000 ≤ pairScalar high low ∧ pairScalar high low < 0x110000 := by
  rw [highSurrogate_iff] at isHigh
  rw [lowSurrogate_iff] at isLow
  unfold pairScalar
  omega

theorem isScalar_scalars (text : JsString) : ∀ scalar ∈ scalars text, IsScalar scalar := by
  have single : ∀ unit : CodeUnit, IsScalar (unitScalar unit) := by
    intro unit
    unfold unitScalar
    split
    · exact Or.inr (by decide)
    · rename_i ordinary
      exact isScalar_unit (by simpa using ordinary)
  induction text using scalars.induct with
  | case1 => simp [scalars]
  | case2 unit =>
      intro scalar member
      rw [scalars, List.mem_singleton] at member
      exact member ▸ single unit
  | case3 first second rest pair ih =>
      intro scalar member
      rw [scalars, if_pos pair, List.mem_cons] at member
      rw [Bool.and_eq_true] at pair
      rcases member with here | later
      · rw [here]
        have bounds := pairScalar_bounds pair.1 pair.2
        exact Or.inr (by omega)
      · exact ih scalar later
  | case4 first second rest unpaired ih =>
      intro scalar member
      rw [scalars, if_neg unpaired, List.mem_cons] at member
      rcases member with here | later
      · exact here ▸ single first
      · exact ih scalar later

theorem scalarUnits_unit (unit : CodeUnit) : scalarUnits unit.toNat = [unit] := by
  have below := unit.toNat_lt
  rw [scalarUnits, if_pos (by omega), UInt16.ofNat_toNat]

theorem scalarUnits_pair {high low : CodeUnit} (isHigh : high.isHighSurrogate = true)
    (isLow : low.isLowSurrogate = true) : scalarUnits (pairScalar high low) = [high, low] := by
  have bounds := pairScalar_bounds isHigh isLow
  rw [highSurrogate_iff] at isHigh
  rw [lowSurrogate_iff] at isLow
  have upper : 0xD800 + (pairScalar high low - 0x10000) / 0x400 = high.toNat := by
    unfold pairScalar
    omega
  have lower : 0xDC00 + (pairScalar high low - 0x10000) % 0x400 = low.toNat := by
    unfold pairScalar
    omega
  rw [scalarUnits, if_neg (by omega), upper, lower, UInt16.ofNat_toNat, UInt16.ofNat_toNat]

/-- The code units come back from the scalar values of well-formed text. -/
theorem scalarUnits_scalars {text : JsString} (formed : wellFormed text = true) :
    (scalars text).flatMap scalarUnits = text := by
  induction text using wellFormed.induct with
  | case1 => rfl
  | case2 unit =>
      rw [wellFormed] at formed
      have same : unitScalar unit = unit.toNat := by
        rw [unitScalar, if_neg (by simpa using formed)]
      simp [scalars, same, scalarUnits_unit]
  | case3 first second rest pair ih =>
      rw [wellFormed, if_pos pair] at formed
      have here := pair
      rw [Bool.and_eq_true] at here
      rw [scalars, if_pos pair, List.flatMap_cons, scalarUnits_pair here.1 here.2, ih formed]
      rfl
  | case4 first second rest unpaired ih =>
      rw [wellFormed, if_neg unpaired, Bool.and_eq_true] at formed
      have same : unitScalar first = first.toNat := by
        rw [unitScalar, if_neg (by simpa using formed.1)]
      rw [scalars, if_neg unpaired, List.flatMap_cons, same, scalarUnits_unit, ih formed.2]
      rfl

/-! ### Round trip -/

theorem toNat_ofNat_byte {value : Nat} (small : value < 0x100) : (UInt8.ofNat value).toNat = value := by
  rw [UInt8.toNat_ofNat']
  omega

theorem isWithin_iff {least greatest : Nat} {byte : UInt8} :
    isWithin least greatest byte = true ↔ least ≤ byte.toNat ∧ byte.toNat ≤ greatest := by
  simp [isWithin]

theorem tail_toNat (scalar : Nat) : (tail scalar).toNat = 0x80 + scalar % 0x40 := by
  rw [tail, toNat_ofNat_byte (by omega)]

theorem isTail_tail (scalar : Nat) : isTail (tail scalar) = true := by
  rw [isTail, isWithin_iff, tail_toNat]
  omega

theorem tailValue_tail (scalar : Nat) : tailValue (tail scalar) = scalar % 0x40 := by
  have value := tail_toNat scalar
  unfold tailValue
  omega

theorem isSecond_iff {first second : UInt8} :
    isSecond first second = true ↔
      0x80 ≤ second.toNat ∧ second.toNat ≤ 0xBF ∧
        (first.toNat = 0xE0 → 0xA0 ≤ second.toNat) ∧ (first.toNat = 0xF0 → 0x90 ≤ second.toNat) ∧
        (first.toNat = 0xED → second.toNat ≤ 0x9F) ∧ (first.toNat = 0xF4 → second.toNat ≤ 0x8F) := by
  simp only [isSecond, isWithin_iff, ← UInt8.toNat_inj, UInt8.reduceToNat]
  split_ifs <;> omega

theorem decodeScalars_encodeScalar {scalar : Nat} (valid : IsScalar scalar) (rest : List UInt8) :
    decodeScalars (encodeScalar scalar ++ rest) = (decodeScalars rest).map (List.cons scalar) := by
  unfold IsScalar at valid
  by_cases one : scalar < 0x80
  · have value := toNat_ofNat_byte (show scalar < 0x100 by omega)
    rw [encodeScalar, if_pos one, List.singleton_append, decodeScalars.eq_def]
    dsimp only
    rw [if_pos (by omega), value]
  · by_cases two : scalar < 0x800
    · have value := toNat_ofNat_byte (show 0xC0 + scalar / 0x40 < 0x100 by omega)
      have lead : isWithin 0xC2 0xDF (UInt8.ofNat (0xC0 + scalar / 0x40)) = true := by
        rw [isWithin_iff, value]
        omega
      have whole : (0xC0 + scalar / 0x40 - 0xC0) * 0x40 + scalar % 0x40 = scalar := by omega
      rw [encodeScalar, if_neg one, if_pos two, List.cons_append, List.singleton_append,
        decodeScalars, if_neg (by omega), if_pos lead, if_pos (isTail_tail scalar), value,
        tailValue_tail, whole]
    · by_cases three : scalar < 0x10000
      · have value := toNat_ofNat_byte (show 0xE0 + scalar / 0x1000 < 0x100 by omega)
        have notTwo : ¬isWithin 0xC2 0xDF (UInt8.ofNat (0xE0 + scalar / 0x1000)) = true := by
          rw [isWithin_iff, value]
          omega
        have lead : isWithin 0xE0 0xEF (UInt8.ofNat (0xE0 + scalar / 0x1000)) = true := by
          rw [isWithin_iff, value]
          omega
        have second : isSecond (UInt8.ofNat (0xE0 + scalar / 0x1000)) (tail (scalar / 0x40)) =
            true := by
          rw [isSecond_iff, value, tail_toNat]
          omega
        have whole : (0xE0 + scalar / 0x1000 - 0xE0) * 0x1000 + scalar / 0x40 % 0x40 * 0x40 +
            scalar % 0x40 = scalar := by omega
        rw [encodeScalar, if_neg one, if_neg two, if_pos three, List.cons_append, List.cons_append,
          List.singleton_append, decodeScalars, if_neg (by omega), if_neg notTwo, if_pos lead]
        dsimp only
        rw [second, isTail_tail, Bool.and_self, if_pos rfl, value, tailValue_tail, tailValue_tail,
          whole]
      · have value := toNat_ofNat_byte (show 0xF0 + scalar / 0x40000 < 0x100 by omega)
        have notTwo : ¬isWithin 0xC2 0xDF (UInt8.ofNat (0xF0 + scalar / 0x40000)) = true := by
          rw [isWithin_iff, value]
          omega
        have notThree : ¬isWithin 0xE0 0xEF (UInt8.ofNat (0xF0 + scalar / 0x40000)) = true := by
          rw [isWithin_iff, value]
          omega
        have lead : isWithin 0xF0 0xF4 (UInt8.ofNat (0xF0 + scalar / 0x40000)) = true := by
          rw [isWithin_iff, value]
          omega
        have second : isSecond (UInt8.ofNat (0xF0 + scalar / 0x40000)) (tail (scalar / 0x1000)) =
            true := by
          rw [isSecond_iff, value, tail_toNat]
          omega
        have whole : (0xF0 + scalar / 0x40000 - 0xF0) * 0x40000 + scalar / 0x1000 % 0x40 * 0x1000 +
            scalar / 0x40 % 0x40 * 0x40 + scalar % 0x40 = scalar := by omega
        rw [encodeScalar, if_neg one, if_neg two, if_neg three, List.cons_append, List.cons_append,
          List.cons_append, List.singleton_append, decodeScalars, if_neg (by omega), if_neg notTwo,
          if_neg notThree, if_pos lead]
        dsimp only
        rw [second, isTail_tail, isTail_tail, Bool.and_self, Bool.and_self, if_pos rfl, value,
          tailValue_tail, tailValue_tail, tailValue_tail, whole]

theorem decodeScalars_flatMap {values : List Nat} (valid : ∀ scalar ∈ values, IsScalar scalar) :
    decodeScalars (values.flatMap encodeScalar) = some values := by
  induction values with
  | nil => rfl
  | cons scalar rest ih =>
      rw [List.flatMap_cons, decodeScalars_encodeScalar (valid scalar List.mem_cons_self),
        ih (fun other member => valid other (List.mem_cons_of_mem scalar member))]
      rfl

theorem unitScalar_ne_mark {unit : CodeUnit} (ordinary : unit ≠ 0xFEFF) :
    unitScalar unit ≠ 0xFEFF := by
  unfold unitScalar
  split
  · decide
  · rw [ne_eq, ← UInt16.toNat_inj] at ordinary
    exact ordinary

theorem scalars_head {text : JsString} (unmarked : text.head? ≠ some 0xFEFF) :
    (scalars text).head? ≠ some 0xFEFF := by
  unfold scalars
  split
  · simp
  · rename_i unit
    simpa using unitScalar_ne_mark (by simpa using unmarked)
  · rename_i first second rest
    split
    · rename_i pair
      rw [Bool.and_eq_true] at pair
      have bounds := pairScalar_bounds pair.1 pair.2
      simp only [List.head?_cons, ne_eq, Option.some.injEq]
      omega
    · simpa using unitScalar_ne_mark (by simpa using unmarked)

/-- Well-formed text that does not begin with a byte order mark is read back. -/
theorem decode_encode {text : JsString} (formed : wellFormed text = true)
    (unmarked : text.head? ≠ some 0xFEFF) : decode (encode text) = some text := by
  rw [decode, encode, decodeScalars_flatMap (isScalar_scalars text), Option.map_some, withoutMark,
    if_neg (scalars_head unmarked), scalarUnits_scalars formed]

theorem decode_single_chunk {text : JsString} (formed : wellFormed text = true)
    (unmarked : text.head? ≠ some 0xFEFF) : decode [encode text].flatten = some text := by
  rw [List.flatten_singleton, decode_encode formed unmarked]

/-! ### Concatenation -/

theorem unpaired_of_single {unit : CodeUnit} (single : (!unit.isSurrogate) = true)
    (next : CodeUnit) : ¬(unit.isHighSurrogate && next.isLowSurrogate) = true := by
  have ordinary := not_surrogate_iff.mp single
  rw [Bool.and_eq_true, highSurrogate_iff]
  omega

theorem scalars_append {left : JsString} (formed : wellFormed left = true) (right : JsString) :
    scalars (left ++ right) = scalars left ++ scalars right := by
  induction left using wellFormed.induct with
  | case1 => rfl
  | case2 unit =>
      rw [wellFormed] at formed
      cases right with
      | nil => simp [scalars]
      | cons next rest =>
          rw [List.singleton_append, scalars.eq_3, if_neg (unpaired_of_single formed next)]
          rfl
  | case3 first second rest pair ih =>
      rw [wellFormed, if_pos pair] at formed
      rw [List.cons_append, List.cons_append, scalars, if_pos pair, scalars, if_pos pair, ih formed,
        List.cons_append]
  | case4 first second rest unpaired ih =>
      rw [wellFormed, if_neg unpaired, Bool.and_eq_true] at formed
      rw [List.cons_append, List.cons_append, scalars, if_neg unpaired, scalars, if_neg unpaired,
        ← List.cons_append, ih formed.2, List.cons_append]

theorem wellFormed_append {left right : JsString} (formedLeft : wellFormed left = true)
    (formedRight : wellFormed right = true) : wellFormed (left ++ right) = true := by
  induction left using wellFormed.induct with
  | case1 => exact formedRight
  | case2 unit =>
      rw [wellFormed] at formedLeft
      cases right with
      | nil => simpa [wellFormed] using formedLeft
      | cons next rest =>
          rw [List.singleton_append, wellFormed, if_neg (unpaired_of_single formedLeft next),
            Bool.and_eq_true]
          exact ⟨formedLeft, formedRight⟩
  | case3 first second rest pair ih =>
      rw [wellFormed, if_pos pair] at formedLeft
      rw [List.cons_append, List.cons_append, wellFormed, if_pos pair]
      exact ih formedLeft
  | case4 first second rest unpaired ih =>
      rw [wellFormed, if_neg unpaired, Bool.and_eq_true] at formedLeft
      rw [List.cons_append, List.cons_append, wellFormed, if_neg unpaired, Bool.and_eq_true]
      exact ⟨formedLeft.1, ih formedLeft.2⟩

theorem byteLength_append {left : JsString} (formed : wellFormed left = true) (right : JsString) :
    byteLength (left ++ right) = byteLength left + byteLength right := by
  rw [byteLength, encode, scalars_append formed, List.flatMap_append, List.length_append]
  rfl

/-! ### JSON text -/

theorem scalars_of_single {text : JsString}
    (single : ∀ unit ∈ text, (!unit.isSurrogate) = true) :
    wellFormed text = true ∧ scalars text = text.map UInt16.toNat := by
  have value : ∀ {unit : CodeUnit}, (!unit.isSurrogate) = true → unitScalar unit = unit.toNat :=
    fun ordinary => if_neg (by simpa using ordinary)
  induction text using scalars.induct with
  | case1 => exact ⟨rfl, rfl⟩
  | case2 unit =>
      have ordinary := single unit List.mem_cons_self
      rw [wellFormed, scalars, value ordinary]
      exact ⟨ordinary, rfl⟩
  | case3 first second rest pair ih =>
      have ordinary := not_surrogate_iff.mp (single first List.mem_cons_self)
      rw [Bool.and_eq_true, highSurrogate_iff] at pair
      omega
  | case4 first second rest unpaired ih =>
      have ordinary := single first List.mem_cons_self
      obtain ⟨formed, later⟩ := ih (fun unit member => single unit (List.mem_cons_of_mem _ member))
      rw [wellFormed, if_neg unpaired, scalars, if_neg unpaired, value ordinary, later,
        Bool.and_eq_true]
      exact ⟨⟨ordinary, formed⟩, rfl⟩

theorem encodeScalar_length_pos (scalar : Nat) : 1 ≤ (encodeScalar scalar).length := by
  unfold encodeScalar
  split_ifs <;> simp

theorem length_le_byteLength {text : JsString}
    (single : ∀ unit ∈ text, (!unit.isSurrogate) = true) : text.length ≤ byteLength text := by
  rw [byteLength, encode, (scalars_of_single single).2]
  clear single
  induction text with
  | nil => exact Nat.le_refl _
  | cons unit rest ih =>
      have one := encodeScalar_length_pos unit.toNat
      simp only [List.map_cons, List.flatMap_cons, List.length_append, List.length_cons]
      omega

theorem hexEscape_single (unit : CodeUnit) :
    ∀ escaped ∈ Json.hexEscape unit, (!escaped.isSurrogate) = true := by
  have below := unit.toNat_lt
  have digit : ∀ value, value < 16 → (!(Json.hexDigit value).isSurrogate) = true := by
    intro value small
    have all : ∀ candidate : Fin 16, (!(Json.hexDigit candidate.val).isSurrogate) = true := by decide
    exact all ⟨value, small⟩
  simp only [Json.hexEscape, List.forall_mem_cons, List.not_mem_nil, false_implies, implies_true,
    and_true]
  exact ⟨by decide, by decide, digit _ (by omega), digit _ (by omega), digit _ (by omega),
    digit _ (by omega)⟩

open Json in
theorem wellFormed_escapeUnit (unit : CodeUnit) : wellFormed (escapeUnit unit) = true := by
  have marks : ∀ pair ∈ shortEscapes, wellFormed [0x5C, pair.2] = true :=
    List.all_iff_forall_prop.mp (by decide)
  have escaped := escapedAs_escapeUnit unit
  generalize escapeUnit unit = text at escaped ⊢
  cases escaped with
  | @short mark listed =>
      have formed := marks (unit, mark) listed
      dsimp only at formed
      exact formed
  | hex => exact (scalars_of_single (hexEscape_single unit)).1
  | plain visible single notQuote notBackslash => simp [wellFormed, single]

/-- `JSON.stringify` leaves no surrogate unpaired. -/
theorem wellFormed_escape (text : JsString) : wellFormed (Json.escape text) = true := by
  induction text using Json.escape.induct with
  | case1 => rfl
  | case2 unit => exact wellFormed_escapeUnit unit
  | case3 first second rest pair ih =>
      rw [Json.escape, if_pos pair, wellFormed, if_pos pair]
      exact ih
  | case4 first second rest unpaired ih =>
      rw [Json.escape, if_neg unpaired]
      exact wellFormed_append (wellFormed_escapeUnit first) ih

theorem printClosed_wellFormed : Json.PrintClosed (fun text => wellFormed text = true) := by
  refine ⟨wellFormed_append, ?_, ?_⟩
  · intro text plain
    refine (scalars_of_single ?_).1
    intro unit member
    have bounds := List.all_eq_true.mp plain unit member
    simp only [Json.isPlain, Bool.and_eq_true, decide_eq_true_eq, UInt16.lt_iff_toNat_lt,
      UInt16.reduceToNat] at bounds
    rw [not_surrogate_iff]
    omega
  · intro text
    exact @wellFormed_append [0x22] _ rfl
      (wellFormed_append (wellFormed_escape text) rfl)

theorem wellFormed_print (value : Json) : wellFormed value.print = true :=
  printClosed_wellFormed.print value

theorem byteLength_cons {first second : CodeUnit} (rest : JsString)
    (unpaired : ¬(first.isHighSurrogate && second.isLowSurrogate) = true) :
    byteLength (first :: second :: rest) = byteLength [first] + byteLength (second :: rest) := by
  simp only [byteLength, encode]
  rw [scalars.eq_3, if_neg unpaired, List.flatMap_cons, List.length_append]
  simp [scalars]

theorem byteLength_unit_le (unit : CodeUnit) : byteLength [unit] ≤ 3 := by
  have below := unit.toNat_lt
  have small : unitScalar unit < 0x10000 := by
    unfold unitScalar replacement
    split <;> omega
  simp only [byteLength, encode, scalars, List.flatMap_cons, List.flatMap_nil, List.append_nil,
    encodeScalar, if_pos small]
  split_ifs <;> simp

theorem byteLength_escapeUnit (unit : CodeUnit) :
    byteLength [unit] ≤ byteLength (Json.escapeUnit unit) := by
  have marks : ∀ pair ∈ Json.shortEscapes, byteLength [pair.1] ≤ byteLength [0x5C, pair.2] :=
    List.all_iff_forall_prop.mp (by decide)
  have escaped := Json.escapedAs_escapeUnit unit
  generalize Json.escapeUnit unit = text at escaped ⊢
  cases escaped with
  | @short mark listed =>
      have longer := marks (unit, mark) listed
      dsimp only at longer
      exact longer
  | hex =>
      have written := length_le_byteLength (hexEscape_single unit)
      have three := byteLength_unit_le unit
      have six : (Json.hexEscape unit).length = 6 := rfl
      omega
  | plain visible single notQuote notBackslash => exact Nat.le_refl _

theorem byteLength_le_escape (text : JsString) : byteLength text ≤ byteLength (Json.escape text) := by
  induction text using Json.escape.induct with
  | case1 => exact Nat.le_refl _
  | case2 unit => exact byteLength_escapeUnit unit
  | case3 first second rest pair ih =>
      rw [Json.escape, if_pos pair]
      simp only [byteLength, encode] at ih ⊢
      rw [scalars.eq_3, if_pos pair, scalars.eq_3, if_pos pair, List.flatMap_cons, List.flatMap_cons,
        List.length_append, List.length_append]
      omega
  | case4 first second rest unpaired ih =>
      rw [Json.escape, if_neg unpaired, byteLength_cons rest unpaired,
        byteLength_append (wellFormed_escapeUnit first)]
      exact Nat.add_le_add (byteLength_escapeUnit first) ih

end Utf8

end ModelMux
