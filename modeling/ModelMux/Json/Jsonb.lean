/-
What the `jsonb` type of Postgres accepts.

A JSON text is refused if one of its escapes stands for U+0000 or for half of a
surrogate pair whose other half is not escaped next to it; every other JSON text is
accepted.  `JSON.stringify` writes both of them as escapes, so the strings of a value
decide whether its text can be stored.
-/

import ModelMux.Json.Parser
import ModelMux.Json.Utf8

namespace ModelMux.Json

/-! ### Escapes -/

/-- Whether an escape leaves a high surrogate pending; `none` is one that is refused. -/
def nextEscape (pending : Bool) (unit : CodeUnit) : Option Bool :=
  if pending then if unit.isLowSurrogate then some false else none
  else if unit.isHighSurrogate then some true
  else if unit = 0 || unit.isLowSurrogate then none
  else some false

/-- No escape of the text is refused.  A backslash only occurs inside of strings. -/
def escapesAccepted (pending : Bool) : JsString → Bool
  | [] => !pending
  | unit :: rest =>
      if unit = 0x5C then
        match rest with
        | [] => false
        | mark :: tail =>
            if mark = 0x75 then
              match tail with
              | first :: second :: third :: fourth :: after =>
                  match (hexUnit first second third fourth).bind (nextEscape pending) with
                  | none => false
                  | some following => escapesAccepted following after
              | _ => false
            else !pending && escapesAccepted false tail
      else !pending && escapesAccepted false rest

def jsonbAccepts (text : JsString) : Bool :=
  (parseText text).isSome && escapesAccepted false text

theorem escapesAccepted_plain (pending : Bool) {unit : CodeUnit} (plain : unit ≠ 0x5C)
    (rest : JsString) :
    escapesAccepted pending (unit :: rest) = (!pending && escapesAccepted false rest) := by
  rw [escapesAccepted.eq_def]
  simp only [if_neg plain]

theorem escapesAccepted_short (pending : Bool) {mark : CodeUnit} (notHex : mark ≠ 0x75)
    (rest : JsString) :
    escapesAccepted pending (0x5C :: mark :: rest) = (!pending && escapesAccepted false rest) := by
  rw [escapesAccepted.eq_def]
  simp only [if_true, if_neg notHex]

theorem escapesAccepted_hexEscape (pending : Bool) (unit : CodeUnit) (rest : JsString) :
    escapesAccepted pending (hexEscape unit ++ rest) =
      match nextEscape pending unit with
      | none => false
      | some following => escapesAccepted following rest := by
  rw [escapesAccepted.eq_def]
  simp only [hexEscape, List.cons_append, List.nil_append, if_true, hexUnit_hexDigits,
    Option.bind_some]

theorem nextEscape_ordinary (pending : Bool) {unit : CodeUnit} (nonzero : unit ≠ 0)
    (single : unit.isSurrogate = false) :
    nextEscape pending unit = if pending then none else some false := by
  simp only [CodeUnit.isSurrogate, Bool.or_eq_false_iff] at single
  simp [nextEscape, single, nonzero]

theorem escapesAccepted_escapeUnit (pending : Bool) (unit : CodeUnit) (rest : JsString) :
    escapesAccepted pending (escapeUnit unit ++ rest) =
      match nextEscape pending unit with
      | none => false
      | some following => escapesAccepted following rest := by
  have ordinary (nonzero : unit ≠ 0) (single : unit.isSurrogate = false) :
      (!pending && escapesAccepted false rest) =
        match nextEscape pending unit with
        | none => false
        | some following => escapesAccepted following rest := by
    rw [nextEscape_ordinary pending nonzero single]
    cases pending <;> rfl
  have marks : ∀ pair ∈ shortEscapes,
      pair.2 ≠ 0x75 ∧ pair.1 ≠ 0 ∧ pair.1.isSurrogate = false :=
    List.all_iff_forall_prop.mp (by decide)
  have escaped := escapedAs_escapeUnit unit
  generalize escapeUnit unit = text at escaped ⊢
  cases escaped with
  | short listed =>
      obtain ⟨notHex, nonzero, single⟩ := marks _ listed
      exact (escapesAccepted_short pending notHex rest).trans (ordinary nonzero single)
  | hex => exact escapesAccepted_hexEscape pending unit rest
  | plain visible single notQuote notBackslash =>
      have nonzero : unit ≠ 0 := by
        rintro rfl
        exact visible (by decide)
      exact (escapesAccepted_plain pending notBackslash rest).trans (ordinary nonzero single)

/-! ### Strings -/

/-- A string without U+0000 and without unpaired surrogates. -/
def isStorable (text : JsString) : Bool := text.all (· ≠ 0) && Utf8.wellFormed text

theorem escapesAccepted_pending {text : JsString}
    (unpaired : ∀ unit, text.head? = some unit → unit.isLowSurrogate = false) (rest : JsString) :
    escapesAccepted true (escape text ++ 0x22 :: rest) = false := by
  have refused {unit : CodeUnit} (other : unit.isLowSurrogate = false) (after : JsString) :
      escapesAccepted true (escapeUnit unit ++ after) = false := by
    rw [escapesAccepted_escapeUnit]
    simp [nextEscape, other]
  match text with
  | [] => exact escapesAccepted_plain true (by decide) rest
  | [unit] => exact refused (unpaired unit rfl) _
  | first :: second :: tail =>
      rw [escape]
      split_ifs with pair
      · simp only [Bool.and_eq_true] at pair
        have surrogate : first.isSurrogate = true := by simp [CodeUnit.isSurrogate, pair.1]
        exact escapesAccepted_plain true (surrogate_plain surrogate).2.1 _
      · rw [List.append_assoc]
        exact refused (unpaired first rfl) _

theorem nextEscape_cases (unit : CodeUnit) :
    (unit.isHighSurrogate = true ∧ unit.isSurrogate = true ∧ nextEscape false unit = some true) ∨
      ((unit = 0 ∨ unit.isSurrogate = true) ∧ nextEscape false unit = none) ∨
      (unit ≠ 0 ∧ unit.isSurrogate = false ∧ nextEscape false unit = some false) := by
  cases high : unit.isHighSurrogate with
  | true => simp [nextEscape, CodeUnit.isSurrogate, high]
  | false =>
      cases low : unit.isLowSurrogate with
      | true => simp [nextEscape, CodeUnit.isSurrogate, high, low]
      | false =>
          by_cases zero : unit = 0
          · subst zero
            exact Or.inr (Or.inl ⟨Or.inl rfl, by decide⟩)
          · simp [nextEscape, CodeUnit.isSurrogate, high, low, zero]

theorem isStorable_single (unit : CodeUnit) :
    isStorable [unit] = (unit ≠ 0 && !unit.isSurrogate) := by
  simp [isStorable, Utf8.wellFormed]

theorem isStorable_pair {first second : CodeUnit} (rest : JsString)
    (pair : (first.isHighSurrogate && second.isLowSurrogate) = true) :
    isStorable (first :: second :: rest) = isStorable rest := by
  have surrogates := pair
  simp only [Bool.and_eq_true] at surrogates
  have firstNonzero : first ≠ 0 := by
    rintro rfl
    exact absurd surrogates.1 (by decide)
  have secondNonzero : second ≠ 0 := by
    rintro rfl
    exact absurd surrogates.2 (by decide)
  rw [isStorable, Utf8.wellFormed, if_pos pair]
  simp [isStorable, firstNonzero, secondNonzero]

theorem isStorable_unpaired {first second : CodeUnit} (rest : JsString)
    (unpaired : ¬(first.isHighSurrogate && second.isLowSurrogate) = true) :
    isStorable (first :: second :: rest) = (isStorable [first] && isStorable (second :: rest)) := by
  rw [isStorable_single, isStorable, isStorable, Utf8.wellFormed, if_neg unpaired, List.all_cons]
  cases first.isSurrogate <;> simp [Bool.and_assoc]

theorem escapesAccepted_unpaired (unit : CodeUnit) {text rest : JsString}
    (unpaired : unit.isHighSurrogate = true → escapesAccepted true text = false)
    (after : escapesAccepted false text = escapesAccepted false rest) :
    escapesAccepted false (escapeUnit unit ++ text) =
      (isStorable [unit] && escapesAccepted false rest) := by
  rw [escapesAccepted_escapeUnit, isStorable_single, ← after]
  rcases nextEscape_cases unit with ⟨high, surrogate, next⟩ | ⟨refused, next⟩ |
    ⟨nonzero, single, next⟩
  · simp [next, surrogate, unpaired high]
  · rcases refused with rfl | surrogate
    · simp [next]
    · simp [next, surrogate]
  · simp [next, nonzero, single]

theorem escapesAccepted_escape (text rest : JsString) :
    escapesAccepted false (escape text ++ 0x22 :: rest) =
      (isStorable text && escapesAccepted false rest) := by
  induction text using escape.induct with
  | case1 => exact escapesAccepted_plain false (by decide) rest
  | case2 unit =>
      exact escapesAccepted_unpaired unit (fun _ => escapesAccepted_plain true (by decide) rest)
        (escapesAccepted_plain false (by decide) rest)
  | case3 first second tail pair ih =>
      have surrogates := pair
      simp only [Bool.and_eq_true] at surrogates
      have firstPlain := (surrogate_plain
        (show first.isSurrogate = true by simp [CodeUnit.isSurrogate, surrogates.1])).2.1
      have secondPlain := (surrogate_plain
        (show second.isSurrogate = true by simp [CodeUnit.isSurrogate, surrogates.2])).2.1
      rw [escape, if_pos pair, List.cons_append, List.cons_append,
        escapesAccepted_plain false firstPlain, escapesAccepted_plain false secondPlain, ih,
        isStorable_pair tail pair]
      rfl
  | case4 first second tail single ih =>
      rw [escape, if_neg single, List.append_assoc, isStorable_unpaired tail single,
        Bool.and_assoc, ← ih]
      refine escapesAccepted_unpaired first (fun high => ?_) rfl
      apply escapesAccepted_pending
      rintro unit ⟨⟩
      simpa [high] using single

/-! ### Values -/

mutual

/-- Every string of the value, and every key, can be stored. -/
def storable : Json → Bool
  | .string units => isStorable units
  | .array items => storableItems items
  | .object members => storableMembers members
  | _ => true

def storableItems : List Json → Bool
  | [] => true
  | item :: rest => storable item && storableItems rest

def storableMembers : List (JsString × Json) → Bool
  | [] => true
  | (key, value) :: rest => isStorable key && storable value && storableMembers rest

end

theorem escapesAccepted_of_plain {text : JsString} (plain : text.all isPlain = true)
    (rest : JsString) : escapesAccepted false (text ++ rest) = escapesAccepted false rest := by
  induction text with
  | nil => rfl
  | cons unit text ih =>
      rw [List.all_cons, Bool.and_eq_true] at plain
      have notBackslash : unit ≠ 0x5C := by
        have here := plain.1
        simp only [isPlain, Bool.and_eq_true, decide_eq_true_eq] at here
        exact here.2
      rw [List.cons_append, escapesAccepted_plain false notBackslash, Bool.not_false,
        Bool.true_and]
      exact ih plain.2

theorem escapesAccepted_mark {unit : CodeUnit} (plain : unit ≠ 0x5C) (rest : JsString) :
    escapesAccepted false (unit :: rest) = escapesAccepted false rest := by
  rw [escapesAccepted_plain false plain, Bool.not_false, Bool.true_and]

theorem escapesAccepted_quote (text rest : JsString) :
    escapesAccepted false (quote text ++ rest) = (isStorable text && escapesAccepted false rest) := by
  rw [quote, List.cons_append, escapesAccepted_mark (by decide), List.append_assoc]
  exact escapesAccepted_escape text rest

mutual

theorem escapesAccepted_print (value : Json) (rest : JsString) :
    escapesAccepted false (print value ++ rest) = (storable value && escapesAccepted false rest) := by
  match value with
  | .null => exact escapesAccepted_of_plain (by decide) rest
  | .bool true => exact escapesAccepted_of_plain (by decide) rest
  | .bool false => exact escapesAccepted_of_plain (by decide) rest
  | .number token => exact escapesAccepted_of_plain token.all_isPlain rest
  | .string units => exact escapesAccepted_quote units rest
  | .array [] => exact escapesAccepted_of_plain (by decide) rest
  | .array (item :: items) =>
      rw [print, List.cons_append, escapesAccepted_mark (by decide), List.append_assoc,
        escapesAccepted_print item, escapesAccepted_printItems items, storable, storableItems,
        Bool.and_assoc]
  | .object [] => exact escapesAccepted_of_plain (by decide) rest
  | .object ((key, value) :: members) =>
      rw [print, List.cons_append, escapesAccepted_mark (by decide), List.append_assoc,
        escapesAccepted_quote, List.cons_append, escapesAccepted_mark (by decide),
        List.append_assoc, escapesAccepted_print value, escapesAccepted_printMembers members,
        storable, storableMembers, Bool.and_assoc, Bool.and_assoc]

theorem escapesAccepted_printItems (items : List Json) (rest : JsString) :
    escapesAccepted false (printItems items ++ rest) =
      (storableItems items && escapesAccepted false rest) := by
  match items with
  | [] => exact escapesAccepted_of_plain (by decide) rest
  | item :: items =>
      rw [printItems, List.cons_append, escapesAccepted_mark (by decide), List.append_assoc,
        escapesAccepted_print item, escapesAccepted_printItems items, storableItems,
        Bool.and_assoc]

theorem escapesAccepted_printMembers (members : List (JsString × Json)) (rest : JsString) :
    escapesAccepted false (printMembers members ++ rest) =
      (storableMembers members && escapesAccepted false rest) := by
  match members with
  | [] => exact escapesAccepted_of_plain (by decide) rest
  | (key, value) :: members =>
      rw [printMembers, List.cons_append, escapesAccepted_mark (by decide), List.append_assoc,
        escapesAccepted_quote, List.cons_append, escapesAccepted_mark (by decide),
        List.append_assoc, escapesAccepted_print value, escapesAccepted_printMembers members,
        storableMembers, Bool.and_assoc, Bool.and_assoc]

end

/-- The text of a value is accepted exactly if all its strings can be stored. -/
theorem jsonbAccepts_print (value : Json) : jsonbAccepts (print value) = storable value := by
  have whole := escapesAccepted_print value []
  rw [List.append_nil] at whole
  rw [jsonbAccepts, parseText_print, whole]
  simp [escapesAccepted]

end ModelMux.Json
