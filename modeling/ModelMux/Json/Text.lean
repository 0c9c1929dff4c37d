/-
JSON values and the text `JSON.stringify` writes for them.

Strings are sequences of UTF-16 code units, so unpaired surrogates are values
like any other.  A number is carried as the token it is written with; members
of an object are kept in the order in which they are enumerated.
-/

import Mathlib.Data.Bool.AllAny
import Mathlib.Data.List.DropRight

namespace ModelMux

abbrev CodeUnit := UInt16

abbrev JsString := List CodeUnit

instance : LawfulBEq JsString := inferInstance

namespace CodeUnit

def ofChar (character : Char) : List CodeUnit :=
  if character.val < 0x10000 then [character.val.toUInt16]
  else
    [(0xD800 : UInt16) + ((character.val - 0x10000) >>> 10).toUInt16,
      (0xDC00 : UInt16) + ((character.val - 0x10000) &&& 0x3FF).toUInt16]

def isHighSurrogate (unit : CodeUnit) : Bool := 0xD800 ≤ unit && unit ≤ 0xDBFF

def isLowSurrogate (unit : CodeUnit) : Bool := 0xDC00 ≤ unit && unit ≤ 0xDFFF

def isSurrogate (unit : CodeUnit) : Bool := isHighSurrogate unit || isLowSurrogate unit

def isSpace (unit : CodeUnit) : Bool :=
  (0x09 ≤ unit && unit ≤ 0x0D) || unit = 0x20 || unit = 0xA0 || unit = 0x1680 ||
    (0x2000 ≤ unit && unit ≤ 0x200A) || unit = 0x2028 || unit = 0x2029 || unit = 0x202F ||
    unit = 0x205F || unit = 0x3000 || unit = 0xFEFF

def isDigit (unit : CodeUnit) : Bool := 0x30 ≤ unit && unit ≤ 0x39

def digitValue (unit : CodeUnit) : Nat := unit.toNat - 0x30

def ofDigit (digit : Nat) : CodeUnit := UInt16.ofNat (0x30 + digit)

theorem digitValue_ofDigit {digit : Nat} (small : digit < 10) :
    digitValue (ofDigit digit) = digit := by
  unfold digitValue ofDigit
  rw [UInt16.toNat_ofNat']
  omega

theorem isDigit_ofDigit {digit : Nat} (small : digit < 10) : isDigit (ofDigit digit) = true := by
  have all : ∀ candidate : Fin 10, isDigit (ofDigit candidate.val) = true := by decide
  exact all ⟨digit, small⟩

end CodeUnit

def JsString.ofString (text : String) : JsString := text.toList.flatMap CodeUnit.ofChar

def JsString.trim (text : JsString) : JsString :=
  (text.dropWhile CodeUnit.isSpace).rdropWhile CodeUnit.isSpace

/-! ### Number tokens -/

namespace Json

inductive NumberPhase where
  | start
  | sign
  | zero
  | integer
  | point
  | fraction
  | exponentMark
  | exponentSign
  | exponent
deriving Repr, DecidableEq

/-- The JSON number grammar, one code unit at a time. -/
def NumberPhase.next (phase : NumberPhase) (unit : CodeUnit) : Option NumberPhase :=
  if unit.isDigit then
    match phase with
    | .start | .sign => some (if unit = 0x30 then .zero else .integer)
    | .zero => none
    | .integer => some .integer
    | .point | .fraction => some .fraction
    | .exponentMark | .exponentSign | .exponent => some .exponent
  else if unit = 0x2D then
    match phase with
    | .start => some .sign
    | .exponentMark => some .exponentSign
    | _ => none
  else if unit = 0x2B then
    match phase with
    | .exponentMark => some .exponentSign
    | _ => none
  else if unit = 0x2E then
    match phase with
    | .zero | .integer => some .point
    | _ => none
  else if unit = 0x65 ∨ unit = 0x45 then
    match phase with
    | .zero | .integer | .fraction => some .exponentMark
    | _ => none
  else none

def NumberPhase.accepting : NumberPhase → Bool
  | .zero | .integer | .fraction | .exponent => true
  | _ => false

def numberPhase (phase : NumberPhase) : JsString → Option NumberPhase
  | [] => some phase
  | unit :: rest =>
      match phase.next unit with
      | none => none
      | some following => numberPhase following rest

def isNumber (text : JsString) : Bool :=
  match numberPhase .start text with
  | some phase => phase.accepting
  | none => false

def isNumberUnit (unit : CodeUnit) : Bool :=
  unit.isDigit || unit = 0x2D || unit = 0x2B || unit = 0x2E || unit = 0x65 || unit = 0x45

structure NumberToken where
  text : JsString
  valid : isNumber text = true
deriving DecidableEq

theorem isNumberUnit_of_next {phase following : NumberPhase} {unit : CodeUnit}
    (step : phase.next unit = some following) : isNumberUnit unit = true := by
  cases listed : isNumberUnit unit with
  | true => rfl
  | false =>
      simp only [isNumberUnit, Bool.or_eq_false_iff, decide_eq_false_iff_not] at listed
      simp [NumberPhase.next, listed] at step

theorem isNumberUnit_of_numberPhase {phase final : NumberPhase} {text : JsString}
    (accepted : numberPhase phase text = some final) :
    ∀ unit ∈ text, isNumberUnit unit = true := by
  induction text generalizing phase with
  | nil => simp
  | cons first rest ih =>
      simp only [numberPhase] at accepted
      cases stepped : phase.next first with
      | none => simp [stepped] at accepted
      | some following =>
          rw [stepped] at accepted
          intro unit member
          rcases List.mem_cons.mp member with here | later
          · rw [here]
            exact isNumberUnit_of_next stepped
          · exact ih accepted unit later

namespace NumberToken

theorem units_listed (token : NumberToken) : ∀ unit ∈ token.text, isNumberUnit unit = true := by
  have valid := token.valid
  unfold isNumber at valid
  cases reached : numberPhase .start token.text with
  | none => simp [reached] at valid
  | some phase => exact isNumberUnit_of_numberPhase reached

theorem text_ne_nil (token : NumberToken) : token.text ≠ [] := by
  intro empty
  have valid := token.valid
  rw [empty] at valid
  simp [isNumber, numberPhase, NumberPhase.accepting] at valid

end NumberToken

end Json

/-! ### Values and their text -/

inductive Json where
  | null
  | bool (value : Bool)
  | number (token : Json.NumberToken)
  | string (units : JsString)
  | array (items : List Json)
  | object (members : List (JsString × Json))

namespace Json

def hexDigit (digit : Nat) : CodeUnit :=
  if digit < 10 then UInt16.ofNat (0x30 + digit) else UInt16.ofNat (0x57 + digit)

def hexEscape (unit : CodeUnit) : JsString :=
  [0x5C, 0x75, hexDigit (unit.toNat / 4096), hexDigit (unit.toNat / 256 % 16),
    hexDigit (unit.toNat / 16 % 16), hexDigit (unit.toNat % 16)]

/-- `QuoteJSONString` on one code unit that is not half of a surrogate pair. -/
def escapeUnit (unit : CodeUnit) : JsString :=
  if unit = 0x08 then [0x5C, 0x62]
  else if unit = 0x09 then [0x5C, 0x74]
  else if unit = 0x0A then [0x5C, 0x6E]
  else if unit = 0x0C then [0x5C, 0x66]
  else if unit = 0x0D then [0x5C, 0x72]
  else if unit = 0x22 then [0x5C, 0x22]
  else if unit = 0x5C then [0x5C, 0x5C]
  else if unit < 0x20 || unit.isSurrogate then hexEscape unit
  else [unit]

/-- A surrogate pair is written as it is; an unpaired half is escaped. -/
def escape : JsString → JsString
  | [] => []
  | [unit] => escapeUnit unit
  | first :: second :: rest =>
      if first.isHighSurrogate && second.isLowSurrogate then
        first :: second :: escape rest
      else escapeUnit first ++ escape (second :: rest)

def quote (text : JsString) : JsString := 0x22 :: (escape text ++ [0x22])

mutual

def print : Json → JsString
  | .null => JsString.ofString "null"
  | .bool true => JsString.ofString "true"
  | .bool false => JsString.ofString "false"
  | .number token => token.text
  | .string units => quote units
  | .array [] => [0x5B, 0x5D]
  | .array (item :: rest) => 0x5B :: (print item ++ printItems rest)
  | .object [] => [0x7B, 0x7D]
  | .object ((key, value) :: rest) =>
      0x7B :: (quote key ++ 0x3A :: (print value ++ printMembers rest))

def printItems : List Json → JsString
  | [] => [0x5D]
  | item :: rest => 0x2C :: (print item ++ printItems rest)

def printMembers : List (JsString × Json) → JsString
  | [] => [0x7D]
  | (key, value) :: rest =>
      0x2C :: (quote key ++ 0x3A :: (print value ++ printMembers rest))

end

/-! ### What a printed text is made of -/

/-- ASCII that stands for itself inside and outside of a string. -/
def isPlain (unit : CodeUnit) : Bool :=
  0x20 ≤ unit && unit < 0x80 && unit ≠ 0x22 && unit ≠ 0x5C

theorem isPlain_of_isNumberUnit {unit : CodeUnit} (listed : isNumberUnit unit = true) :
    isPlain unit = true := by
  simp only [isNumberUnit, CodeUnit.isDigit, isPlain, Bool.or_eq_true, Bool.and_eq_true,
    decide_eq_true_eq, UInt16.le_iff_toNat_le, UInt16.lt_iff_toNat_lt, ne_eq,
    ← UInt16.toNat_inj, UInt16.reduceToNat] at listed ⊢
  omega

theorem NumberToken.all_isPlain (token : NumberToken) : token.text.all isPlain = true := by
  rw [List.all_eq_true]
  intro unit member
  exact isPlain_of_isNumberUnit (token.units_listed unit member)

/-- A property of texts that every printed text has. -/
structure PrintClosed (holds : JsString → Prop) : Prop where
  append : ∀ {left right}, holds left → holds right → holds (left ++ right)
  plain : ∀ {text : JsString}, text.all isPlain = true → holds text
  quoted : ∀ text, holds (quote text)

namespace PrintClosed

variable {holds : JsString → Prop}

theorem mark (closed : PrintClosed holds) {unit : CodeUnit} (plain : isPlain unit = true)
    {text : JsString} (rest : holds text) : holds (unit :: text) := by
  have single : [unit].all isPlain = true := by simpa using plain
  exact closed.append (closed.plain single) rest

mutual

theorem print (closed : PrintClosed holds) (value : Json) : holds value.print := by
  match value with
  | .null => exact closed.plain (by decide)
  | .bool true => exact closed.plain (by decide)
  | .bool false => exact closed.plain (by decide)
  | .number token => exact closed.plain token.all_isPlain
  | .string units => exact closed.quoted units
  | .array [] => exact closed.plain (by decide)
  | .array (item :: rest) =>
      exact closed.mark (by decide) (closed.append (closed.print item) (closed.printItems rest))
  | .object [] => exact closed.plain (by decide)
  | .object ((key, value) :: rest) =>
      exact closed.mark (by decide) (closed.append (closed.quoted key)
        (closed.mark (by decide)
          (closed.append (closed.print value) (closed.printMembers rest))))

theorem printItems (closed : PrintClosed holds) (items : List Json) :
    holds (Json.printItems items) := by
  match items with
  | [] => exact closed.plain (by decide)
  | item :: rest =>
      exact closed.mark (by decide) (closed.append (closed.print item) (closed.printItems rest))

theorem printMembers (closed : PrintClosed holds) (members : List (JsString × Json)) :
    holds (Json.printMembers members) := by
  match members with
  | [] => exact closed.plain (by decide)
  | (key, value) :: rest =>
      exact closed.mark (by decide) (closed.append (closed.quoted key)
        (closed.mark (by decide)
          (closed.append (closed.print value) (closed.printMembers rest))))

end

end PrintClosed

/-! ### Escapes -/

def shortEscapes : List (CodeUnit × CodeUnit) :=
  [(0x08, 0x62), (0x09, 0x74), (0x0A, 0x6E), (0x0C, 0x66), (0x0D, 0x72), (0x22, 0x22), (0x5C, 0x5C)]

inductive EscapedAs (unit : CodeUnit) : JsString → Prop
  | short {mark : CodeUnit} (listed : (unit, mark) ∈ shortEscapes) : EscapedAs unit [0x5C, mark]
  | hex : EscapedAs unit (hexEscape unit)
  | plain (visible : ¬unit < 0x20) (single : unit.isSurrogate = false) (notQuote : unit ≠ 0x22)
      (notBackslash : unit ≠ 0x5C) : EscapedAs unit [unit]

theorem escapedAs_escapeUnit (unit : CodeUnit) : EscapedAs unit (escapeUnit unit) := by
  unfold escapeUnit
  by_cases backspace : unit = 0x08
  · rw [if_pos backspace, backspace]
    exact .short (by decide)
  rw [if_neg backspace]
  by_cases tab : unit = 0x09
  · rw [if_pos tab, tab]
    exact .short (by decide)
  rw [if_neg tab]
  by_cases newline : unit = 0x0A
  · rw [if_pos newline, newline]
    exact .short (by decide)
  rw [if_neg newline]
  by_cases feed : unit = 0x0C
  · rw [if_pos feed, feed]
    exact .short (by decide)
  rw [if_neg feed]
  by_cases carriage : unit = 0x0D
  · rw [if_pos carriage, carriage]
    exact .short (by decide)
  rw [if_neg carriage]
  by_cases quotation : unit = 0x22
  · rw [if_pos quotation, quotation]
    exact .short (by decide)
  rw [if_neg quotation]
  by_cases backslash : unit = 0x5C
  · rw [if_pos backslash, backslash]
    exact .short (by decide)
  rw [if_neg backslash]
  split_ifs with special
  · exact .hex
  · simp only [Bool.or_eq_true, decide_eq_true_eq, not_or, Bool.not_eq_true] at special
    exact .plain special.1 special.2 quotation backslash

/-! ### Control characters -/

theorem hexEscape_visible (unit : CodeUnit) : ∀ written ∈ hexEscape unit, 0x20 ≤ written := by
  have below := unit.toNat_lt
  have digit : ∀ value, value < 16 → 0x20 ≤ hexDigit value := by
    intro value small
    have all : ∀ candidate : Fin 16, 0x20 ≤ hexDigit candidate.val := by decide
    exact all ⟨value, small⟩
  simp only [hexEscape, List.forall_mem_cons, List.not_mem_nil, false_implies, implies_true,
    and_true]
  exact ⟨by decide, by decide, digit _ (by omega), digit _ (by omega), digit _ (by omega),
    digit _ (by omega)⟩

theorem escapeUnit_visible (unit : CodeUnit) : ∀ written ∈ escapeUnit unit, 0x20 ≤ written := by
  have marks : ∀ pair ∈ shortEscapes, 0x20 ≤ pair.2 := List.all_iff_forall_prop.mp (by decide)
  have escaped := escapedAs_escapeUnit unit
  generalize escapeUnit unit = text at escaped ⊢
  cases escaped with
  | short listed => simpa using marks _ listed
  | hex => exact hexEscape_visible unit
  | plain visible single notQuote notBackslash => simpa using visible

theorem escape_visible (text : JsString) : ∀ written ∈ escape text, 0x20 ≤ written := by
  induction text using escape.induct with
  | case1 => simp [escape]
  | case2 unit => exact escapeUnit_visible unit
  | case3 first second rest pair ih =>
      have surrogates := pair
      simp only [Bool.and_eq_true, CodeUnit.isHighSurrogate, CodeUnit.isLowSurrogate,
        decide_eq_true_eq] at surrogates
      rw [escape, if_pos pair]
      intro written member
      rcases List.mem_cons.mp member with rfl | member
      · exact UInt16.le_trans (by decide) surrogates.1.1
      · rcases List.mem_cons.mp member with rfl | member
        · exact UInt16.le_trans (by decide) surrogates.2.1
        · exact ih written member
  | case4 first second rest unpaired ih =>
      rw [escape, if_neg unpaired]
      intro written member
      rcases List.mem_append.mp member with here | later
      · exact escapeUnit_visible first written here
      · exact ih written later

theorem printClosed_visible : PrintClosed (fun text => ∀ written ∈ text, 0x20 ≤ written) := by
  refine ⟨?_, ?_, ?_⟩
  · intro left right leftVisible rightVisible written member
    rcases List.mem_append.mp member with here | later
    · exact leftVisible written here
    · exact rightVisible written later
  · intro text plain written member
    have bounds := List.all_eq_true.mp plain written member
    simp only [isPlain, Bool.and_eq_true, decide_eq_true_eq] at bounds
    exact bounds.1.1.1
  · intro text written member
    simp only [quote, List.mem_cons, List.mem_append, List.not_mem_nil, or_false] at member
    rcases member with rfl | member | rfl
    · decide
    · exact escape_visible text written member
    · decide

theorem print_visible (value : Json) : ∀ written ∈ print value, 0x20 ≤ written :=
  printClosed_visible.print value

end Json

end ModelMux
