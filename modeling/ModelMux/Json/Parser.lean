/-
The JSON grammar as a parser, and its round trip with the written text.

The parser is driven by fuel; every call consumes at least one code unit, so
the length of the input is always enough.  A parsed object lists its members
as they stand in the text: duplicate keys and the enumeration order of a
JavaScript object are resolved by whoever builds the object.
-/

import ModelMux.Json.Text

namespace ModelMux.Json

def isWhitespace (unit : CodeUnit) : Bool :=
  unit = 0x20 || unit = 0x09 || unit = 0x0A || unit = 0x0D

def skipWhitespace (input : JsString) : JsString := input.dropWhile isWhitespace

def hexValue (unit : CodeUnit) : Option Nat :=
  if 0x30 ≤ unit ∧ unit ≤ 0x39 then some (unit.toNat - 0x30)
  else if 0x61 ≤ unit ∧ unit ≤ 0x66 then some (unit.toNat - 0x57)
  else if 0x41 ≤ unit ∧ unit ≤ 0x46 then some (unit.toNat - 0x37)
  else none

def escapedUnit (unit : CodeUnit) : Option CodeUnit :=
  if unit = 0x22 then some 0x22
  else if unit = 0x5C then some 0x5C
  else if unit = 0x2F then some 0x2F
  else if unit = 0x62 then some 0x08
  else if unit = 0x66 then some 0x0C
  else if unit = 0x6E then some 0x0A
  else if unit = 0x72 then some 0x0D
  else if unit = 0x74 then some 0x09
  else none

def hexUnit (first second third fourth : CodeUnit) : Option CodeUnit := do
  let a ← hexValue first
  let b ← hexValue second
  let c ← hexValue third
  let d ← hexValue fourth
  pure (UInt16.ofNat (a * 4096 + b * 256 + c * 16 + d))

def parseString : JsString → Option (JsString × JsString)
  | [] => none
  | unit :: rest =>
      if unit = 0x22 then some ([], rest)
      else if unit = 0x5C then
        match rest with
        | [] => none
        | mark :: tail =>
            if mark = 0x75 then
              match tail with
              | first :: second :: third :: fourth :: after =>
                  match hexUnit first second third fourth with
                  | none => none
                  | some value =>
                      (parseString after).map (fun parsed => (value :: parsed.1, parsed.2))
              | _ => none
            else
              match escapedUnit mark with
              | none => none
              | some value =>
                  (parseString tail).map (fun parsed => (value :: parsed.1, parsed.2))
      else if unit < 0x20 then none
      else (parseString rest).map (fun parsed => (unit :: parsed.1, parsed.2))

def stripLiteral (literal input : JsString) : Option JsString :=
  if literal.isPrefixOf input then some (input.drop literal.length) else none

def parseNumber (input : JsString) : Option (Json × JsString) :=
  if valid : isNumber (input.takeWhile isNumberUnit) then
    some (.number ⟨input.takeWhile isNumberUnit, valid⟩, input.dropWhile isNumberUnit)
  else none

def parseKeyword (input : JsString) : Option (Json × JsString) :=
  match stripLiteral (JsString.ofString "null") input with
  | some rest => some (.null, rest)
  | none =>
      match stripLiteral (JsString.ofString "true") input with
      | some rest => some (.bool true, rest)
      | none =>
          match stripLiteral (JsString.ofString "false") input with
          | some rest => some (.bool false, rest)
          | none => none

def parseKey (input : JsString) : Option (JsString × JsString) :=
  match skipWhitespace input with
  | [] => none
  | unit :: rest =>
      if unit = 0x22 then
        match parseString rest with
        | none => none
        | some (key, after) =>
            match skipWhitespace after with
            | [] => none
            | colon :: value => if colon = 0x3A then some (key, value) else none
      else none

mutual

def parseValue : Nat → JsString → Option (Json × JsString)
  | 0, _ => none
  | fuel + 1, input =>
      match skipWhitespace input with
      | [] => none
      | unit :: rest =>
          if unit = 0x22 then
            (parseString rest).map (fun parsed => (.string parsed.1, parsed.2))
          else if unit = 0x5B then
            match skipWhitespace rest with
            | [] => none
            | close :: after =>
                if close = 0x5D then some (.array [], after)
                else (parseItems fuel (close :: after)).map
                  (fun parsed => (.array parsed.1, parsed.2))
          else if unit = 0x7B then
            match skipWhitespace rest with
            | [] => none
            | close :: after =>
                if close = 0x7D then some (.object [], after)
                else (parseMembers fuel (close :: after)).map
                  (fun parsed => (.object parsed.1, parsed.2))
          else if isNumberUnit unit && unit != 0x65 && unit != 0x45 then
            parseNumber (unit :: rest)
          else parseKeyword (unit :: rest)

def parseItems : Nat → JsString → Option (List Json × JsString)
  | 0, _ => none
  | fuel + 1, input =>
      match parseValue fuel input with
      | none => none
      | some (item, rest) =>
          match skipWhitespace rest with
          | [] => none
          | unit :: after =>
              if unit = 0x5D then some ([item], after)
              else if unit = 0x2C then
                (parseItems fuel after).map (fun parsed => (item :: parsed.1, parsed.2))
              else none

def parseMembers : Nat → JsString → Option (List (JsString × Json) × JsString)
  | 0, _ => none
  | fuel + 1, input =>
      match parseKey input with
      | none => none
      | some (key, valueText) =>
          match parseValue fuel valueText with
          | none => none
          | some (value, rest) =>
              match skipWhitespace rest with
              | [] => none
              | unit :: after =>
                  if unit = 0x7D then some ([(key, value)], after)
                  else if unit = 0x2C then
                    (parseMembers fuel after).map
                      (fun parsed => ((key, value) :: parsed.1, parsed.2))
                  else none

end

def parseText (input : JsString) : Option Json :=
  match parseValue (input.length + 1) input with
  | none => none
  | some (value, rest) => if skipWhitespace rest = [] then some value else none

theorem parseNumber_not_object (input : JsString) (members : List (JsString × Json))
    (rest : JsString) : parseNumber input ≠ some (.object members, rest) := by
  unfold parseNumber
  split <;> simp

theorem parseKeyword_not_object (input : JsString) (members : List (JsString × Json))
    (rest : JsString) : parseKeyword input ≠ some (.object members, rest) := by
  unfold parseKeyword
  split
  · simp
  · split
    · simp
    · split <;> simp

theorem brace_of_parseValue {fuel : Nat} {input rest : JsString}
    {members : List (JsString × Json)}
    (parsed : parseValue fuel input = some (.object members, rest)) : 0x7B ∈ input := by
  cases fuel with
  | zero => simp [parseValue] at parsed
  | succ fuel =>
      rw [parseValue] at parsed
      cases skipped : skipWhitespace input with
      | nil => simp [skipped] at parsed
      | cons unit tail =>
          have member : unit ∈ skipWhitespace input := skipped ▸ List.mem_cons_self
          rw [skipped] at parsed
          dsimp only at parsed
          split_ifs at parsed with quotation bracket brace number
          · simp at parsed
          · split at parsed
            · simp at parsed
            · split at parsed <;> simp at parsed
          · exact brace ▸ (List.dropWhile_suffix isWhitespace).subset member
          · exact (parseNumber_not_object _ _ _ parsed).elim
          · exact (parseKeyword_not_object _ _ _ parsed).elim

theorem brace_of_parseText {input : JsString} {members : List (JsString × Json)}
    (parsed : parseText input = some (.object members)) : 0x7B ∈ input := by
  unfold parseText at parsed
  split at parsed
  · simp at parsed
  · rename_i value rest read
    split at parsed
    · rw [Option.some.injEq] at parsed
      exact brace_of_parseValue (parsed ▸ read)
    · simp at parsed

/-! ### Strings -/

theorem hexValue_hexDigit {digit : Nat} (small : digit < 16) :
    hexValue (hexDigit digit) = some digit := by
  have all : ∀ candidate : Fin 16, hexValue (hexDigit candidate.val) = some candidate.val := by
    decide
  exact all ⟨digit, small⟩

theorem hexUnit_hexDigits (unit : CodeUnit) :
    hexUnit (hexDigit (unit.toNat / 4096)) (hexDigit (unit.toNat / 256 % 16))
      (hexDigit (unit.toNat / 16 % 16)) (hexDigit (unit.toNat % 16)) = some unit := by
  have bound : unit.toNat < 65536 := unit.toNat_lt
  have sum : unit.toNat / 4096 * 4096 + unit.toNat / 256 % 16 * 256 +
      unit.toNat / 16 % 16 * 16 + unit.toNat % 16 = unit.toNat := by
    omega
  unfold hexUnit
  rw [hexValue_hexDigit (by omega), hexValue_hexDigit (by omega), hexValue_hexDigit (by omega),
    hexValue_hexDigit (by omega)]
  change some (UInt16.ofNat _) = some unit
  rw [sum, UInt16.ofNat_toNat]

theorem parseString_plain {unit : CodeUnit} (rest : JsString) (notQuote : unit ≠ 0x22)
    (notBackslash : unit ≠ 0x5C) (printable : ¬unit < 0x20) :
    parseString (unit :: rest) =
      (parseString rest).map (fun parsed => (unit :: parsed.1, parsed.2)) := by
  rw [parseString.eq_def]
  simp only [if_neg notQuote, if_neg notBackslash, if_neg printable]

@[simp] theorem parseString_close (rest : JsString) :
    parseString (0x22 :: rest) = some ([], rest) := by
  rw [parseString.eq_def]
  simp

theorem parseString_short {mark value : CodeUnit} (rest : JsString) (notHex : mark ≠ 0x75)
    (known : escapedUnit mark = some value) :
    parseString (0x5C :: mark :: rest) =
      (parseString rest).map (fun parsed => (value :: parsed.1, parsed.2)) := by
  rw [parseString.eq_def]
  simp [notHex, known]

theorem parseString_hexEscape (unit : CodeUnit) (rest : JsString) :
    parseString (hexEscape unit ++ rest) =
      (parseString rest).map (fun parsed => (unit :: parsed.1, parsed.2)) := by
  rw [parseString.eq_def]
  simp [hexEscape, hexUnit_hexDigits]

theorem parseString_escapeUnit (unit : CodeUnit) (rest : JsString) :
    parseString (escapeUnit unit ++ rest) =
      (parseString rest).map (fun parsed => (unit :: parsed.1, parsed.2)) := by
  have marks : ∀ pair ∈ shortEscapes, pair.2 ≠ 0x75 ∧ escapedUnit pair.2 = some pair.1 :=
    List.all_iff_forall_prop.mp (by decide)
  have escaped := escapedAs_escapeUnit unit
  generalize escapeUnit unit = text at escaped ⊢
  cases escaped with
  | short listed => exact parseString_short rest (marks _ listed).1 (marks _ listed).2
  | hex => exact parseString_hexEscape unit rest
  | plain visible single notQuote notBackslash =>
      exact parseString_plain rest notQuote notBackslash visible

theorem surrogate_plain {unit : CodeUnit} (surrogate : unit.isSurrogate = true) :
    unit ≠ 0x22 ∧ unit ≠ 0x5C ∧ ¬unit < 0x20 := by
  simp only [CodeUnit.isSurrogate, CodeUnit.isHighSurrogate, CodeUnit.isLowSurrogate,
    Bool.or_eq_true, Bool.and_eq_true, decide_eq_true_eq] at surrogate
  simp only [UInt16.le_iff_toNat_le, UInt16.lt_iff_toNat_lt, ne_eq, ← UInt16.toNat_inj] at *
  simp only [UInt16.reduceToNat] at *
  omega

theorem parseString_escape (text rest : JsString) :
    parseString (escape text ++ 0x22 :: rest) = some (text, rest) := by
  induction text using escape.induct with
  | case1 => simp [escape]
  | case2 unit =>
      rw [escape, parseString_escapeUnit]
      simp
  | case3 first second tail pair ih =>
      rw [escape, if_pos pair]
      simp only [Bool.and_eq_true] at pair
      obtain ⟨firstQuote, firstBackslash, firstPrintable⟩ :=
        surrogate_plain (show first.isSurrogate = true by simp [CodeUnit.isSurrogate, pair.1])
      obtain ⟨secondQuote, secondBackslash, secondPrintable⟩ :=
        surrogate_plain (show second.isSurrogate = true by simp [CodeUnit.isSurrogate, pair.2])
      rw [List.cons_append, List.cons_append,
        parseString_plain _ firstQuote firstBackslash firstPrintable,
        parseString_plain _ secondQuote secondBackslash secondPrintable, ih]
      rfl
  | case4 first second tail single ih =>
      rw [escape, if_neg single, List.append_assoc, parseString_escapeUnit, ih]
      rfl

/-! ### Round trip -/

def NoNumberHead (rest : JsString) : Prop :=
  ∀ unit tail, rest = unit :: tail → isNumberUnit unit = false

theorem noNumberHead_cons {unit : CodeUnit} (rest : JsString) (other : isNumberUnit unit = false) :
    NoNumberHead (unit :: rest) := by
  intro first tail same
  cases same
  exact other

theorem takeWhile_number {text rest : JsString} (listed : ∀ unit ∈ text, isNumberUnit unit = true)
    (stop : NoNumberHead rest) :
    (text ++ rest).takeWhile isNumberUnit = text ∧ (text ++ rest).dropWhile isNumberUnit = rest := by
  induction text with
  | nil =>
      cases rest with
      | nil => simp
      | cons unit tail => simp [stop unit tail rfl]
  | cons unit tail ih =>
      have here := listed unit List.mem_cons_self
      have later := ih (fun other member => listed other (List.mem_cons_of_mem unit member))
      simp [here, later.1, later.2]

theorem parseNumber_text (token : NumberToken) {rest : JsString} (stop : NoNumberHead rest) :
    parseNumber (token.text ++ rest) = some (.number token, rest) := by
  obtain ⟨taken, dropped⟩ := takeWhile_number token.units_listed stop
  unfold parseNumber
  simp only [taken, dropped]
  rw [dif_pos token.valid]

theorem NumberToken.head (token : NumberToken) :
    ∃ unit tail, token.text = unit :: tail ∧ (unit.isDigit = true ∨ unit = 0x2D) := by
  cases shape : token.text with
  | nil => exact absurd shape token.text_ne_nil
  | cons unit tail =>
      refine ⟨unit, tail, rfl, ?_⟩
      have valid := token.valid
      rw [shape] at valid
      cases digit : unit.isDigit with
      | true => exact Or.inl rfl
      | false =>
          refine Or.inr ?_
          by_cases minus : unit = 0x2D
          · exact minus
          · simp [isNumber, numberPhase, NumberPhase.next, digit, minus] at valid

private theorem digit_ordinary {unit : CodeUnit} (start : unit.isDigit = true ∨ unit = 0x2D) :
    isWhitespace unit = false ∧ unit ≠ 0x22 ∧ unit ≠ 0x5B ∧ unit ≠ 0x7B ∧ unit ≠ 0x5D ∧
      unit ≠ 0x7D ∧ unit ≠ 0x65 ∧ unit ≠ 0x45 := by
  simp only [isWhitespace, Bool.or_eq_false_iff, decide_eq_false_iff_not]
  rcases start with digit | minus
  · simp only [CodeUnit.isDigit, Bool.and_eq_true, decide_eq_true_eq] at digit
    simp only [UInt16.le_iff_toNat_le, ne_eq, ← UInt16.toNat_inj, UInt16.reduceToNat] at *
    omega
  · subst minus
    decide

/-- No value starts with whitespace or with a closing bracket. -/
theorem print_head (value : Json) :
    ∃ unit tail, print value = unit :: tail ∧ isWhitespace unit = false ∧ unit ≠ 0x5D ∧
      unit ≠ 0x7D := by
  cases value with
  | null => exact ⟨0x6E, _, rfl, by decide, by decide, by decide⟩
  | bool value =>
      cases value with
      | true => exact ⟨0x74, _, rfl, by decide, by decide, by decide⟩
      | false => exact ⟨0x66, _, rfl, by decide, by decide, by decide⟩
  | number token =>
      obtain ⟨unit, tail, shape, start⟩ := token.head
      obtain ⟨notSpace, _, _, _, notBracket, notBrace, _, _⟩ := digit_ordinary start
      exact ⟨unit, tail, by rw [print, shape], notSpace, notBracket, notBrace⟩
  | string units => exact ⟨0x22, _, by rw [print, quote], by decide, by decide, by decide⟩
  | array items =>
      cases items with
      | nil => exact ⟨0x5B, _, by rw [print], by decide, by decide, by decide⟩
      | cons item rest => exact ⟨0x5B, _, by rw [print], by decide, by decide, by decide⟩
  | object members =>
      cases members with
      | nil => exact ⟨0x7B, _, by rw [print], by decide, by decide, by decide⟩
      | cons member rest => exact ⟨0x7B, _, by rw [print], by decide, by decide, by decide⟩

@[simp] theorem skipWhitespace_cons {unit : CodeUnit} (rest : JsString)
    (visible : isWhitespace unit = false) : skipWhitespace (unit :: rest) = unit :: rest := by
  simp [skipWhitespace, visible]

theorem skipWhitespace_print (value : Json) (rest : JsString) :
    skipWhitespace (print value ++ rest) = print value ++ rest := by
  obtain ⟨unit, tail, shape, visible, _, _⟩ := print_head value
  rw [shape, List.cons_append, skipWhitespace_cons _ visible]

theorem parseKey_quote (key value : JsString) :
    parseKey (quote key ++ 0x3A :: value) = some (key, value) := by
  have opened : quote key ++ 0x3A :: value = 0x22 :: (escape key ++ 0x22 :: 0x3A :: value) := by
    simp [quote]
  rw [opened, parseKey, skipWhitespace_cons _ (by decide)]
  simp only [↓reduceIte]
  rw [parseString_escape]
  simp only
  rw [skipWhitespace_cons _ (by decide)]
  simp

mutual

/-- Fuel that is enough to read the text of a value. -/
def weight : Json → Nat
  | .null => 1
  | .bool _ => 1
  | .number _ => 1
  | .string _ => 1
  | .array items => weightItems items + 1
  | .object members => weightMembers members + 1

def weightItems : List Json → Nat
  | [] => 0
  | item :: rest => weight item + weightItems rest + 1

def weightMembers : List (JsString × Json) → Nat
  | [] => 0
  | (_, value) :: rest => weight value + weightMembers rest + 1

end

theorem weight_pos (value : Json) : 0 < weight value := by
  cases value <;> simp [weight]

/-! The three readers call each other with one unit of fuel less, so their
round trips are proved together by induction on the fuel. -/

def ReadsValue (fuel : Nat) : Prop :=
  ∀ (value : Json) (rest : JsString), weight value ≤ fuel → NoNumberHead rest →
    parseValue fuel (print value ++ rest) = some (value, rest)

def ReadsItems (fuel : Nat) : Prop :=
  ∀ (item : Json) (items : List Json) (rest : JsString),
    weight item + weightItems items + 1 ≤ fuel →
      parseItems fuel (print item ++ (printItems items ++ rest)) = some (item :: items, rest)

def ReadsMembers (fuel : Nat) : Prop :=
  ∀ (key : JsString) (value : Json) (members : List (JsString × Json)) (rest : JsString),
    weight value + weightMembers members + 1 ≤ fuel →
      parseMembers fuel (quote key ++ 0x3A :: (print value ++ (printMembers members ++ rest))) =
        some ((key, value) :: members, rest)

theorem readsValue_succ {fuel : Nat} (readsItems : ReadsItems fuel)
    (readsMembers : ReadsMembers fuel) : ReadsValue (fuel + 1) := by
  intro value rest enough stop
  rw [parseValue, skipWhitespace_print]
  cases value with
  | null => rfl
  | bool value => cases value <;> rfl
  | number token =>
      obtain ⟨unit, tail, shape, start⟩ := token.head
      obtain ⟨_, notQuote, notBracket, notBrace, _, _, notE, notUpperE⟩ := digit_ordinary start
      have listed := token.units_listed unit (by simp [shape])
      have whole : print (.number token) = unit :: tail := by rw [print, shape]
      rw [whole]
      simp only [List.cons_append, if_neg notQuote, if_neg notBracket, if_neg notBrace]
      have number := parseNumber_text token stop
      rw [shape, List.cons_append] at number
      simp [listed, notE, notUpperE, number]
  | string units =>
      have opened : print (.string units) ++ rest = 0x22 :: (escape units ++ 0x22 :: rest) := by
        simp [print, quote]
      rw [opened]
      simp [parseString_escape]
  | array items =>
      cases items with
      | nil => simp [print, skipWhitespace_cons _ (show isWhitespace 0x5D = false by decide)]
      | cons item items =>
          have parsed := readsItems item items rest
            (by simp only [weight, weightItems] at enough; omega)
          obtain ⟨unit, tail, shape, visible, notBracket, _⟩ := print_head item
          rw [shape] at parsed
          simp only [List.cons_append] at parsed
          simp [print, shape, skipWhitespace_cons _ visible, notBracket, parsed]
  | object members =>
      cases members with
      | nil => simp [print, skipWhitespace_cons _ (show isWhitespace 0x7D = false by decide)]
      | cons member members =>
          obtain ⟨key, value⟩ := member
          have parsed := readsMembers key value members rest
            (by simp only [weight, weightMembers] at enough; omega)
          have opened : print (.object ((key, value) :: members)) ++ rest =
              0x7B :: (quote key ++ 0x3A :: (print value ++ (printMembers members ++ rest))) := by
            simp [print]
          rw [opened]
          simp only [quote, List.cons_append] at parsed ⊢
          simp [skipWhitespace_cons _ (show isWhitespace 0x22 = false by decide)] at parsed ⊢
          rw [parsed]

theorem readsItems_succ {fuel : Nat} (readsValue : ReadsValue fuel)
    (readsItems : ReadsItems fuel) : ReadsItems (fuel + 1) := by
  intro item items rest enough
  cases items with
  | nil =>
      have first := readsValue item (0x5D :: rest) (by omega)
        (noNumberHead_cons rest (by decide))
      simp [parseItems, printItems, first,
        skipWhitespace_cons _ (show isWhitespace 0x5D = false by decide)]
  | cons next items =>
      have first := readsValue item
        (0x2C :: (print next ++ (printItems items ++ rest))) (by omega)
        (noNumberHead_cons _ (by decide))
      have later := readsItems next items rest
        (by simp only [weightItems] at enough; omega)
      simp [parseItems, printItems, first, later,
        skipWhitespace_cons _ (show isWhitespace 0x2C = false by decide)]

theorem readsMembers_succ {fuel : Nat} (readsValue : ReadsValue fuel)
    (readsMembers : ReadsMembers fuel) : ReadsMembers (fuel + 1) := by
  intro key value members rest enough
  rw [parseMembers, parseKey_quote]
  cases members with
  | nil =>
      have first := readsValue value (0x7D :: rest) (by omega)
        (noNumberHead_cons rest (by decide))
      simp [printMembers, first,
        skipWhitespace_cons _ (show isWhitespace 0x7D = false by decide)]
  | cons next members =>
      obtain ⟨nextKey, nextValue⟩ := next
      have first := readsValue value
        (0x2C :: (quote nextKey ++ 0x3A :: (print nextValue ++ (printMembers members ++ rest))))
        (by omega) (noNumberHead_cons _ (by decide))
      have later := readsMembers nextKey nextValue members rest
        (by simp only [weightMembers] at enough; omega)
      simp [printMembers, first, later,
        skipWhitespace_cons _ (show isWhitespace 0x2C = false by decide)]

theorem readers_invert_print (fuel : Nat) :
    ReadsValue fuel ∧ ReadsItems fuel ∧ ReadsMembers fuel := by
  induction fuel with
  | zero =>
      refine ⟨?_, ?_, ?_⟩
      · intro value rest enough _stop
        have positive := weight_pos value
        omega
      · intro item items rest enough
        omega
      · intro key value members rest enough
        omega
  | succ fuel ih =>
      exact ⟨readsValue_succ ih.2.1 ih.2.2, readsItems_succ ih.1 ih.2.1,
        readsMembers_succ ih.1 ih.2.2⟩

mutual

theorem weight_le_length (value : Json) : weight value ≤ (print value).length := by
  cases value with
  | null => simp [weight, print, JsString.ofString, CodeUnit.ofChar]
  | bool value => cases value <;> simp [weight, print, JsString.ofString, CodeUnit.ofChar]
  | number token =>
      have nonempty := List.length_pos_iff.mpr token.text_ne_nil
      simp only [weight, print]
      omega
  | string units => simp [weight, print, quote]
  | array items =>
      cases items with
      | nil => simp [weight, weightItems, print]
      | cons item items =>
          have first := weight_le_length item
          have later := weightItems_le_length items
          simp only [weight, weightItems, print, List.length_cons, List.length_append]
          omega
  | object members =>
      cases members with
      | nil => simp [weight, weightMembers, print]
      | cons member members =>
          obtain ⟨key, value⟩ := member
          have first := weight_le_length value
          have later := weightMembers_le_length members
          simp only [weight, weightMembers, print, List.length_cons, List.length_append]
          omega

theorem weightItems_le_length (items : List Json) :
    weightItems items + 1 ≤ (printItems items).length := by
  cases items with
  | nil => simp [weightItems, printItems]
  | cons item items =>
      have first := weight_le_length item
      have later := weightItems_le_length items
      simp only [weightItems, printItems, List.length_cons, List.length_append]
      omega

theorem weightMembers_le_length (members : List (JsString × Json)) :
    weightMembers members + 1 ≤ (printMembers members).length := by
  cases members with
  | nil => simp [weightMembers, printMembers]
  | cons member members =>
      obtain ⟨key, value⟩ := member
      have first := weight_le_length value
      have later := weightMembers_le_length members
      simp only [weightMembers, printMembers, List.length_cons, List.length_append]
      omega

end

/-- Reading back a written text gives the value that was written. -/
theorem parseText_print (value : Json) : parseText (print value) = some value := by
  have enough : weight value ≤ (print value).length + 1 := by
    have bound := weight_le_length value
    omega
  have parsed := (readers_invert_print ((print value).length + 1)).1 value [] enough
    (by intro unit tail impossible; cases impossible)
  rw [List.append_nil] at parsed
  simp [parseText, parsed, skipWhitespace]

theorem print_injective : Function.Injective print := by
  intro left right same
  have read := congrArg parseText same
  rw [parseText_print, parseText_print] at read
  exact Option.some.inj read

end ModelMux.Json
