/-
Which bodies `OpenAIProvider.stream` accepts.

The data events of a body are recognised by a protocol: events with a choice, of
which the last carries a finish reason, events without choices anywhere, and
`[DONE]`.  An event outside the protocol ends the stream with a
`ProviderResponseError`, unless converting its finish reason to a string throws.
-/

import ModelMux.Providers.StreamAdapter

namespace ModelMux.Providers

/-! ### Data events of a body -/

def dataValue (line : JsString) : Option JsString :=
  if dataField.isPrefixOf line then some (fieldValue line) else none

def groupData (group : List JsString) : List JsString := group.filterMap dataValue

def groupSize (group : List JsString) : ℕ :=
  ((groupData group).map (fun value => value.length + 1)).sum

def groupEvent (group : List JsString) : Option JsString :=
  if groupData group = [] then none else some (joinLines (groupData group))

def groupFits (group : List JsString) : Bool := groupSize group ≤ maxFrameSize

/-- The events that a blank line terminates, up to one that is too large. -/
def dataEvents (lines : List JsString) : List JsString :=
  ((lines.splitOn []).dropLast.takeWhile groupFits).filterMap groupEvent

/-- The events of a text up to the first line or event that is too large. -/
def bodyEvents (text : JsString) : List JsString :=
  dataEvents (((textLines text).takeWhile fits).map withoutCarriage)

theorem groupData_append (left right : List JsString) :
    groupData (left ++ right) = groupData left ++ groupData right := List.filterMap_append

theorem groupSize_append (left right : List JsString) :
    groupSize (left ++ right) = groupSize left + groupSize right := by
  rw [groupSize, groupData_append, List.map_append, List.sum_append]
  rfl

section Lines

variable {group : List JsString} (unterminated : [] ∉ group)

include unterminated

theorem dataEvents_line (short : groupFits group = true) (rest : List JsString) :
    dataEvents (group ++ [] :: rest) = (groupEvent group).toList ++ dataEvents rest := by
  rw [dataEvents, List.splitOn_append_cons_self_of_not_mem unterminated,
    List.dropLast_cons_of_ne_nil (List.splitOn_ne_nil _ _), List.takeWhile_cons, if_pos short]
  cases event : groupEvent group <;> simp [event, dataEvents]

theorem dataEvents_open : dataEvents group = [] := by
  rw [dataEvents, List.splitOn_eq_singleton unterminated]
  rfl

theorem dataEvents_oversized (long : groupFits group = false) (rest : List JsString) :
    dataEvents (group ++ rest) = [] := by
  by_cases ends : [] ∈ rest
  · obtain ⟨more, after, rfl, notMore⟩ := List.eq_append_cons_of_mem ends
    have still : groupFits (group ++ more) = false := by
      simp only [groupFits, groupSize_append, decide_eq_false_iff_not] at long ⊢
      omega
    rw [← List.append_assoc, dataEvents,
      List.splitOn_append_cons_self_of_not_mem (by simp [unterminated, notMore]),
      List.dropLast_cons_of_ne_nil (List.splitOn_ne_nil _ _), List.takeWhile_cons, still]
    rfl
  · exact dataEvents_open (by simp [unterminated, ends])

end Lines

def SseReader.inside (group : List JsString) : SseReader := ⟨groupData group, groupSize group⟩

theorem take_blank_line (group : List JsString) :
    (SseReader.inside group).take [] = some (groupEvent group, SseReader.inside []) := rfl

theorem take_line {line : JsString} (written : line ≠ []) {group : List JsString}
    (short : groupFits group = true) :
    (SseReader.inside group).take line =
      if groupFits (group ++ [line]) then some (none, SseReader.inside (group ++ [line]))
      else none := by
  by_cases field : dataField.isPrefixOf line = true
  · have value : dataValue line = some (fieldValue line) := if_pos field
    have size : groupSize (group ++ [line]) = groupSize group + (fieldValue line).length + 1 := by
      rw [groupSize_append]
      simp [groupSize, groupData, value, Nat.add_assoc]
    have data : groupData (group ++ [line]) = groupData group ++ [fieldValue line] := by
      rw [groupData_append]
      simp [groupData, value]
    rw [SseReader.take, if_neg written, if_pos field]
    cases fitting : groupFits (group ++ [line]) with
    | false =>
        rw [groupFits, decide_eq_false_iff_not, size, Nat.not_le] at fitting
        exact if_pos fitting
    | true =>
        rw [groupFits, decide_eq_true_iff, size] at fitting
        rw [if_pos rfl, SseReader.inside.eq_1 (group ++ [line]), data, size]
        exact if_neg (Nat.not_lt.mpr fitting)
  · have value : dataValue line = none := if_neg field
    have data : groupData [line] = [] := by simp [groupData, value]
    have size : groupSize [line] = 0 := by simp [groupSize, data]
    have same : groupFits (group ++ [line]) = true := by
      rw [groupFits, groupSize_append, size]
      exact short
    rw [SseReader.take, if_neg written, if_neg field, if_pos same, SseReader.inside,
      SseReader.inside, groupData_append, groupSize_append, data, size, List.append_nil,
      Nat.add_zero]

theorem takeLines_yielded {group : List JsString} (unterminated : [] ∉ group)
    (short : groupFits group = true) (provider : String) (lines : List JsString)
    (outcome : Except ProviderResponseError Unit) :
    ((SseReader.inside group).takeLines provider lines outcome).yielded =
      dataEvents (group ++ lines) := by
  induction lines generalizing group with
  | nil => rw [List.append_nil, dataEvents_open unterminated]; rfl
  | cons line lines ih =>
      rw [SseReader.takeLines]
      by_cases blank : line = []
      · subst blank
        have later := ih (List.not_mem_nil) rfl
        rw [List.nil_append] at later
        rw [take_blank_line, dataEvents_line unterminated short, ← later]
      · have still : [] ∉ group ++ [line] := by simpa [unterminated] using Ne.symm blank
        have regrouped : group ++ line :: lines = group ++ [line] ++ lines := by simp
        rw [take_line blank short, regrouped]
        cases fitting : groupFits (group ++ [line]) with
        | true =>
            rw [if_pos rfl]
            exact ih still fitting
        | false =>
            rw [dataEvents_oversized still fitting]
            rfl

/-- Both ways in which the lines end give the same error. -/
theorem takeLines_outcome (reader : SseReader) (provider : String) (lines : List JsString)
    (outcome : Except ProviderResponseError Unit) :
    (reader.takeLines provider lines outcome).outcome = outcome ∨
      (reader.takeLines provider lines outcome).outcome = .error ⟨provider⟩ := by
  induction lines generalizing reader with
  | nil => exact Or.inl rfl
  | cons line lines ih =>
      rw [SseReader.takeLines]
      split
      · exact Or.inr rfl
      · exact ih _

namespace OpenAIProvider

open Json (Member)

variable {runtime : StringRuntime}

theorem stream_eq {chunks : List (List UInt8)} {text : JsString}
    (valid : Utf8.decode chunks.flatten = some text) :
    stream runtime (some chunks) =
      consume (react runtime) (.providerResponseError "OpenAI") false (bodyEvents text) := by
  have lines := readLines_valid valid "OpenAI"
  rw [finish_scan] at lines
  have yielded := takeLines_yielded (List.not_mem_nil) rfl "OpenAI"
    (readLines "OpenAI" (some chunks)).yielded (readLines "OpenAI" (some chunks)).outcome
  have same : (readSseData "OpenAI" (some chunks)).yielded = bodyEvents text := by
    rw [bodyEvents, readSseData]
    rw [lines] at yielded ⊢
    exact yielded
  have failed : ∀ error : ProviderResponseError,
      (readSseData "OpenAI" (some chunks)).outcome = .error error → error.provider = "OpenAI" := by
    intro error outcome
    rcases takeLines_outcome ⟨[], 0⟩ "OpenAI" (readLines "OpenAI" (some chunks)).yielded
        (readLines "OpenAI" (some chunks)).outcome with kept | replaced
    · rw [readSseData, kept, lines] at outcome
      dsimp only at outcome
      split_ifs at outcome
      rw [← Except.error.inj outcome]
    · rw [readSseData, replaced] at outcome
      rw [← Except.error.inj outcome]
  rw [stream, consumeAll, same]
  split
  · rename_i error outcome
    rw [failed error outcome]
  · rfl

/-! ### Events -/

def Nullish (value : Option Json) : Prop := value = none ∨ value = some .null

/-- A well-formed event without choices. -/
def IsUsage (event : JsString) : Prop :=
  ∃ data, parseStreamJson event = some data ∧
    Json.get data (JsString.ofString "error") = none ∧
    Json.get data (JsString.ofString "choices") = some (.array [])

/-- `content` and `refusal` are both null, or yield a text. -/
def HasText (delta : List Member) (text : JsString) : Prop :=
  Nullish (Json.get delta (JsString.ofString "content")) ∧
      Nullish (Json.get delta (JsString.ofString "refusal")) ∧ text = [] ∨
    Json.get delta (JsString.ofString "content") = some (.string text) ∨
    Nullish (Json.get delta (JsString.ofString "content")) ∧
      Json.get delta (JsString.ofString "refusal") = some (.string text)

/-- A delta of the assistant without tool calls, and its text. -/
def IsDelta (delta : List Member) (text : JsString) : Prop :=
  (Json.get delta (JsString.ofString "role") = none ∨
      Json.get delta (JsString.ofString "role") =
        some (.string (JsString.ofString "assistant"))) ∧
    Json.get delta (JsString.ofString "tool_calls") = none ∧
    Json.get delta (JsString.ofString "function_call") = none ∧ HasText delta text

/-- An event whose first choice is well formed up to its finish reason. -/
def IsChoice (event text : JsString) (reason : Option Json) : Prop :=
  ∃ data choice others delta, parseStreamJson event = some data ∧
    Json.get data (JsString.ofString "error") = none ∧
    Json.get data (JsString.ofString "choices") = some (.array (.object choice :: others)) ∧
    Json.get choice (JsString.ofString "delta") = some (.object delta) ∧
    (Json.get choice (JsString.ofString "index") = none ∨
      ∃ token, Json.get choice (JsString.ofString "index") = some (.number token) ∧
        token.value = .finite 0) ∧
    IsDelta delta text ∧
    Json.get choice (JsString.ofString "finish_reason") = reason

/-- The event carries a finish reason. -/
def Finishes (event : JsString) : Prop :=
  ∃ text reason, IsChoice event text (some reason) ∧ reason ≠ .null

def ReasonAccepted (runtime : StringRuntime) (reason : Option Json) : Prop :=
  Nullish reason ∨ ∃ value form, reason = some value ∧
    stringForm runtime runtime.nestingLimit value = .ok form ∧ form ∈ finishReasons

def ValidEvent (runtime : StringRuntime) (event : JsString) : Prop :=
  IsUsage event ∨ ∃ text reason, IsChoice event text reason ∧ ReasonAccepted runtime reason

theorem isNullish_iff (value : Option Json) : isNullish value = true ↔ Nullish value := by
  match value with
  | none => simp [isNullish, Nullish]
  | some .null => simp [isNullish, Nullish]
  | some (.bool _) => simp [isNullish, Nullish]
  | some (.number _) => simp [isNullish, Nullish]
  | some (.string _) => simp [isNullish, Nullish]
  | some (.array _) => simp [isNullish, Nullish]
  | some (.object _) => simp [isNullish, Nullish]

theorem isIndexZero_iff (index : Option Json) :
    isIndexZero index = true ↔
      index = none ∨ ∃ token, index = some (.number token) ∧ token.value = .finite 0 := by
  match index with
  | none => simp [isIndexZero]
  | some .null => simp [isIndexZero]
  | some (.bool _) => simp [isIndexZero]
  | some (.number _) => simp [isIndexZero]
  | some (.string _) => simp [isIndexZero]
  | some (.array _) => simp [isIndexZero]
  | some (.object _) => simp [isIndexZero]

theorem textContent_iff (delta : List Member) (text : JsString) :
    textContent delta = some text ↔
      Json.get delta (JsString.ofString "content") = some (.string text) ∨
        Nullish (Json.get delta (JsString.ofString "content")) ∧
          Json.get delta (JsString.ofString "refusal") = some (.string text) := by
  unfold textContent
  split
  · rename_i content found
    simp [found, Nullish]
  · rename_i content other
    have noText : Json.get delta (JsString.ofString "content") ≠ some (.string text) :=
      fun found => other text found
    simp only [noText, false_or]
    split_ifs with missing
    · rw [isNullish_iff] at missing
      split
      · rename_i refusal found
        simp [found, missing]
      · rename_i notText
        simp only [reduceCtorEq, missing, true_and, false_iff]
        exact fun found => notText text found
    · rw [isNullish_iff] at missing
      simp [missing]

theorem hasText_iff (delta : List Member) (text : JsString) :
    (if isNullish (Json.get delta (JsString.ofString "content")) &&
        isNullish (Json.get delta (JsString.ofString "refusal")) then some []
      else textContent delta) = some text ↔ HasText delta text := by
  rw [HasText, ← textContent_iff, ← isNullish_iff, ← isNullish_iff, ← and_assoc, ← Bool.and_eq_true]
  split_ifs with empty
  · have silent : textContent delta ≠ some text := by
      rw [Bool.and_eq_true, isNullish_iff, isNullish_iff] at empty
      obtain ⟨noContent | nullContent, noRefusal | nullRefusal⟩ := empty <;>
        simp_all [textContent_iff, Nullish]
    simp [empty, silent, eq_comm]
  · simp [empty]

theorem deltaText_iff (delta : List Member) (text : JsString) :
    deltaText delta = some text ↔ IsDelta delta text := by
  rw [deltaText, IsDelta, ← hasText_iff, ← isAssistantRole_iff, ← Option.isNone_iff_eq_none,
    ← Option.isNone_iff_eq_none, ← and_assoc, ← and_assoc, ← Bool.and_eq_true, ← Bool.and_eq_true]
  split
  · rename_i accepted
    simp only [accepted, true_and]
  · rename_i refused
    simp only [refused, false_and, reduceCtorEq]

/-! ### Reactions -/

theorem parse_doneEvent : parseStreamJson doneEvent = none := by
  rfl

theorem IsUsage.not_choice {event text : JsString} {reason : Option Json} (usage : IsUsage event) :
    ¬IsChoice event text reason := by
  rintro ⟨data, choice, others, delta, parsed, -, chosen, -⟩
  obtain ⟨same, parsed', -, none⟩ := usage
  rw [parsed, Option.some.injEq] at parsed'
  rw [← parsed', chosen] at none
  simp at none

theorem IsChoice.unique {event text text' : JsString} {reason reason' : Option Json}
    (choice : IsChoice event text reason) (choice' : IsChoice event text' reason') :
    text = text' ∧ reason = reason' := by
  obtain ⟨data, first, others, delta, parsed, -, chosen, found, -, written, rfl⟩ := choice
  obtain ⟨data', first', others', delta', parsed', -, chosen', found', -, written', rfl⟩ := choice'
  obtain rfl : data = data' := Option.some.inj (parsed.symm.trans parsed')
  have firsts := Option.some.inj (chosen.symm.trans chosen')
  simp only [Json.array.injEq, List.cons.injEq, Json.object.injEq] at firsts
  obtain ⟨rfl, -⟩ := firsts
  have deltas := Option.some.inj (found.symm.trans found')
  rw [Json.object.injEq] at deltas
  subst deltas
  rw [← deltaText_iff] at written written'
  exact ⟨Option.some.inj (written.symm.trans written'), rfl⟩

theorem react_usage {event : JsString} (usage : IsUsage event) (finished : Bool) :
    react runtime finished event = .act [] (.next finished) := by
  obtain ⟨data, parsed, clean, none⟩ := usage
  have other : event ≠ doneEvent := by
    rintro rfl
    simp [parse_doneEvent] at parsed
  rw [react, if_neg other, parsed]
  dsimp only
  rw [clean, none]

theorem react_choice {event text : JsString} {reason : Option Json}
    (choice : IsChoice event text reason) (finished : Bool) :
    react runtime finished event =
      if finished then reject else .act text (afterText runtime reason) := by
  obtain ⟨data, first, others, delta, parsed, clean, chosen, found, index, written, rfl⟩ := choice
  have other : event ≠ doneEvent := by
    rintro rfl
    simp [parse_doneEvent] at parsed
  rw [← isIndexZero_iff] at index
  rw [← deltaText_iff] at written
  rw [react, if_neg other, parsed]
  dsimp only
  rw [clean, chosen]
  dsimp only
  rw [found]
  dsimp only
  rw [index, written]
  cases finished <;> rfl

theorem react_invalid {event : JsString} (other : event ≠ doneEvent) (noUsage : ¬IsUsage event)
    (noChoice : ¬∃ text reason, IsChoice event text reason) (finished : Bool) :
    react runtime finished event = reject := by
  rw [react, if_neg other]
  cases parsed : parseStreamJson event with
  | none => rfl
  | some data =>
      dsimp only
      split
      · rename_i clean none
        exact (noUsage ⟨data, parsed, clean, none⟩).elim
      · rename_i first others clean chosen
        split
        · rename_i delta found
          split_ifs with acceptable
          · cases written : deltaText delta with
            | none => rfl
            | some text =>
                rw [Bool.and_eq_true, isIndexZero_iff] at acceptable
                exact (noChoice ⟨text, _, data, first, others, delta, parsed, clean, chosen, found,
                  acceptable.2, (deltaText_iff delta text).mp written, rfl⟩).elim
          · rfl
        · rfl
      · rfl

/-! ### Runs of events -/

def eventText (event : JsString) : JsString :=
  match (parseStreamJson event).bind (fun data => Json.get data (JsString.ofString "choices")) with
  | some (.array (.object choice :: _)) =>
      match Json.get choice (JsString.ofString "delta") with
      | some (.object delta) => (deltaText delta).getD []
      | _ => []
  | _ => []

def texts (events : List JsString) : List JsString :=
  events.flatMap (fun event => deliver (eventText event))

/-- Every event is valid, and only events without choices follow a finish reason. -/
def Going (runtime : StringRuntime) (events : List JsString) : Prop :=
  (∀ event ∈ events, ValidEvent runtime event) ∧
    events.Pairwise (fun event later => Finishes event → IsUsage later)

theorem IsUsage.eventText {event : JsString} (usage : IsUsage event) : eventText event = [] := by
  obtain ⟨data, parsed, -, none⟩ := usage
  simp [OpenAIProvider.eventText, parsed, none]

theorem IsChoice.eventText {event text : JsString} {reason : Option Json}
    (choice : IsChoice event text reason) : eventText event = text := by
  obtain ⟨data, first, others, delta, parsed, -, chosen, found, -, written, -⟩ := choice
  rw [← deltaText_iff] at written
  simp [OpenAIProvider.eventText, parsed, chosen, found, written]

theorem IsUsage.not_finishes {event : JsString} (usage : IsUsage event) : ¬Finishes event := by
  rintro ⟨text, reason, choice, -⟩
  exact usage.not_choice choice

theorem IsChoice.finishes_iff {event text : JsString} {reason : Option Json}
    (choice : IsChoice event text reason) : Finishes event ↔ ¬Nullish reason := by
  constructor
  · rintro ⟨text', value, choice', written⟩
    rw [(choice.unique choice').2]
    simp [Nullish, written]
  · intro written
    cases reason with
    | none => exact (written (Or.inl rfl)).elim
    | some value =>
        exact ⟨text, value, choice, fun null => written (Or.inr (by rw [null]))⟩

theorem IsChoice.valid_iff {event text : JsString} {reason : Option Json}
    (choice : IsChoice event text reason) :
    ValidEvent runtime event ↔ ReasonAccepted runtime reason := by
  constructor
  · rintro (usage | ⟨text', reason', choice', accepted⟩)
    · exact (usage.not_choice choice).elim
    · rw [(choice.unique choice').2]
      exact accepted
  · exact fun accepted => Or.inr ⟨text, reason, choice, accepted⟩

theorem afterText_unformed {value : Json} {error : AdapterError} (written : value ≠ .null)
    (form : stringForm runtime runtime.nestingLimit value = .error error) :
    afterText runtime (some value) = .reject error := by
  rw [afterText, form]
  exact written

theorem afterText_formed {value : Json} {text : JsString} (written : value ≠ .null)
    (form : stringForm runtime runtime.nestingLimit value = .ok text) :
    afterText runtime (some value) =
      if text ∈ finishReasons then .next true else .reject (.providerResponseError "OpenAI") := by
  rw [afterText, form]
  exact written

theorem afterText_cases (reason : Option Json) :
    Nullish reason ∧ afterText runtime reason = .next false ∨
      ¬Nullish reason ∧ ReasonAccepted runtime reason ∧
        afterText runtime reason = .next true ∨
      ¬ReasonAccepted runtime reason ∧
        ((∃ value error, reason = some value ∧ value ≠ .null ∧
            stringForm runtime runtime.nestingLimit value = .error error ∧
            afterText runtime reason = .reject error) ∨
          (∃ value form, reason = some value ∧ value ≠ .null ∧
              stringForm runtime runtime.nestingLimit value = .ok form) ∧
            afterText runtime reason = .reject (.providerResponseError "OpenAI")) := by
  cases reason with
  | none => exact Or.inl ⟨Or.inl rfl, rfl⟩
  | some value =>
      by_cases null : value = .null
      · subst null
        exact Or.inl ⟨Or.inr rfl, rfl⟩
      · have written : ¬Nullish (some value) := by simp [Nullish, null]
        cases form : stringForm runtime runtime.nestingLimit value with
        | error error =>
            refine Or.inr (Or.inr ⟨?_, Or.inl ⟨value, error, rfl, null, form,
              afterText_unformed null form⟩⟩)
            rintro (nullish | ⟨other, text, same, formed, -⟩)
            · exact written nullish
            · rw [Option.some.injEq] at same
              rw [← same, form] at formed
              cases formed
        | ok text =>
            rw [afterText_formed null form]
            by_cases accepted : text ∈ finishReasons
            · exact Or.inr (Or.inl ⟨written, Or.inr ⟨value, text, rfl, form, accepted⟩,
                if_pos accepted⟩)
            · refine Or.inr (Or.inr ⟨?_, Or.inr ⟨⟨value, text, rfl, null, form⟩, if_neg accepted⟩⟩)
              rintro (nullish | ⟨other, text', same, formed, listed⟩)
              · exact written nullish
              · rw [Option.some.injEq] at same
                rw [← same, form, Except.ok.injEq] at formed
                exact accepted (formed ▸ listed)

theorem going_cons {event : JsString} {events : List JsString} :
    Going runtime (event :: events) ↔
      ValidEvent runtime event ∧ (Finishes event → ∀ later ∈ events, IsUsage later) ∧
        Going runtime events := by
  simp only [Going, List.forall_mem_cons, List.pairwise_cons]
  constructor
  · rintro ⟨⟨valid, validRest⟩, last, pairs⟩
    exact ⟨valid, fun finishes later member => last later member finishes, validRest, pairs⟩
  · rintro ⟨valid, last, validRest, pairs⟩
    exact ⟨⟨valid, validRest⟩, fun later member finishes => last finishes later member, pairs⟩

theorem map_delivered_iff {passed : Option (Bool × List JsString)} {content deltas : List JsString}
    {later : Bool} :
    passed.map (fun rest => (rest.1, content ++ rest.2)) = some (later, deltas) ↔
      ∃ rest, passed = some (later, rest) ∧ deltas = content ++ rest := by
  rw [Option.map_eq_some_iff]
  constructor
  · rintro ⟨⟨reached, rest⟩, same, shown⟩
    simp only [Prod.mk.injEq] at shown
    exact ⟨rest, by rw [same, shown.1], shown.2.symm⟩
  · rintro ⟨rest, same, rfl⟩
    exact ⟨(later, rest), same, rfl⟩

/-- The loop passes the runs of events that keep to the protocol. -/
theorem passThrough_iff (finished later : Bool) (events deltas : List JsString) :
    passThrough (react runtime) finished events = some (later, deltas) ↔
      Going runtime events ∧ (finished = true → ∀ event ∈ events, IsUsage event) ∧
        (later = true ↔ finished = true ∨ ∃ event ∈ events, Finishes event) ∧
        deltas = texts events := by
  induction events generalizing finished deltas with
  | nil =>
      cases finished <;> cases later <;> simp [passThrough, Going, texts, eq_comm]
  | cons event events ih =>
      rw [passThrough, going_cons]
      by_cases usage : IsUsage event
      · have silent : texts (event :: events) = texts events := by
          simp [texts, usage.eventText, deliver]
        have valid : ValidEvent runtime event := Or.inl usage
        rw [react_usage usage, silent]
        simp [ih, deliver, usage, usage.not_finishes, valid]
      · by_cases choice : ∃ text reason, IsChoice event text reason
        · obtain ⟨text, reason, choice⟩ := choice
          have delivered : texts (event :: events) = deliver text ++ texts events := by
            simp [texts, choice.eventText]
          have finishes := choice.finishes_iff
          have valid := @IsChoice.valid_iff runtime _ _ _ choice
          rw [react_choice choice, delivered]
          cases finished with
          | true => simp [reject, usage]
          | false =>
              rcases @afterText_cases runtime reason with
                ⟨nullish, continued⟩ | ⟨written, accepted, continued⟩ | ⟨refused, stopped⟩
              · have accepted : ReasonAccepted runtime reason := Or.inl nullish
                rw [if_neg (by decide), continued]
                dsimp only
                rw [map_delivered_iff]
                simp only [ih]
                simp [finishes, valid, nullish, accepted, and_assoc]
              · rw [if_neg (by decide), continued]
                dsimp only
                rw [map_delivered_iff]
                simp only [ih]
                simp [finishes, valid, written, accepted, and_assoc, and_left_comm]
              · rcases stopped with ⟨_, _, _, _, _, stopped⟩ | ⟨_, stopped⟩ <;>
                  simp [stopped, valid, refused]
        · have invalid : ¬ValidEvent runtime event := by
            rintro (isUsage | ⟨text, reason, isChoice, -⟩)
            · exact usage isUsage
            · exact choice ⟨text, reason, isChoice⟩
          by_cases done : event = doneEvent
          · rw [done] at invalid ⊢
            cases finished <;> simp [react, reject, invalid]
          · rw [react_invalid done usage choice]
            simp [reject, invalid]

/-! ### String forms -/

/-- An object with a property `toString` of its own, an array with no room left, or an
array that contains one of these. -/
inductive Unconvertible : ℕ → Json → Prop
  | hidden {depth : ℕ} {members : List Member}
      (own : (Json.get members (JsString.ofString "toString")).isSome = true) :
      Unconvertible depth (.object members)
  | nested {items : List Json} : Unconvertible 0 (.array items)
  | element {depth : ℕ} {items : List Json} {item : Json} (member : item ∈ items)
      (within : Unconvertible depth item) : Unconvertible (depth + 1) (.array items)

theorem Unconvertible.ne_null {depth : ℕ} {value : Json}
    (unconvertible : Unconvertible depth value) : value ≠ .null := by
  cases unconvertible <;> simp

theorem elementForms_cons {depth : ℕ} {item : Json} (written : item ≠ .null) (rest : List Json) :
    elementForms runtime depth (item :: rest) =
      (stringForm runtime depth item).bind (fun text =>
        (elementForms runtime depth rest).map (List.cons text)) := by
  rw [elementForms]
  exact written

theorem elementForms_error {depth : ℕ} {items : List Json} {error : AdapterError}
    (thrown : elementForms runtime depth items = .error error) :
    ∃ item ∈ items, stringForm runtime depth item = .error error := by
  induction items with
  | nil => cases thrown
  | cons item items ih =>
      have later : elementForms runtime depth items = .error error →
          ∃ other ∈ item :: items, stringForm runtime depth other = .error error := by
        intro failed
        obtain ⟨other, member, converted⟩ := ih failed
        exact ⟨other, List.mem_cons_of_mem _ member, converted⟩
      by_cases null : item = .null
      · subst null
        rw [elementForms] at thrown
        cases rest : elementForms runtime depth items with
        | error own =>
            rw [rest] at thrown
            cases thrown
            exact later rest
        | ok forms =>
            rw [rest] at thrown
            cases thrown
      · rw [elementForms_cons null] at thrown
        cases form : stringForm runtime depth item with
        | error own =>
            rw [form] at thrown
            cases thrown
            exact ⟨item, List.mem_cons_self, form⟩
        | ok text =>
            rw [form] at thrown
            cases rest : elementForms runtime depth items with
            | error own =>
                rw [rest] at thrown
                cases thrown
                exact later rest
            | ok forms =>
                rw [rest] at thrown
                cases thrown

theorem elementForms_of_error {depth : ℕ} {items : List Json} {item : Json}
    (member : item ∈ items) {error : AdapterError}
    (thrown : stringForm runtime depth item = .error error) :
    ∃ error, elementForms runtime depth items = .error error := by
  induction items with
  | nil => cases member
  | cons first items ih =>
      by_cases null : first = .null
      · subst null
        rcases List.mem_cons.mp member with rfl | later
        · cases thrown
        · obtain ⟨error, failed⟩ := ih later
          exact ⟨error, by rw [elementForms, failed]; rfl⟩
      · rw [elementForms_cons null]
        cases form : stringForm runtime depth first with
        | error own => exact ⟨own, rfl⟩
        | ok text =>
            rcases List.mem_cons.mp member with rfl | later
            · cases form.symm.trans thrown
            · obtain ⟨error, failed⟩ := ih later
              exact ⟨error, by rw [failed]; rfl⟩

theorem stringForm_error_iff (value : Json) (depth : ℕ) :
    (∃ error, stringForm runtime depth value = .error error) ↔ Unconvertible depth value := by
  constructor
  · rintro ⟨error, thrown⟩
    induction value using Json.induction generalizing depth with
    | null => cases thrown
    | bool value => cases value <;> cases thrown
    | number token => cases thrown
    | string units => cases thrown
    | array items ih =>
        cases depth with
        | zero => exact .nested
        | succ depth =>
            rw [stringForm] at thrown
            cases forms : elementForms runtime depth items with
            | error own =>
                obtain ⟨item, member, failed⟩ := elementForms_error forms
                rw [forms] at thrown
                cases thrown
                exact .element member (ih item member depth failed)
            | ok texts =>
                rw [forms] at thrown
                cases thrown
    | object members ih =>
        rw [stringForm] at thrown
        split_ifs at thrown with own
        exact .hidden own
  · intro unconvertible
    induction unconvertible with
    | hidden own => exact ⟨.typeError, by rw [stringForm, if_pos own]⟩
    | nested => exact ⟨.rangeError, by rw [stringForm]⟩
    | element member within ih =>
        obtain ⟨error, thrown⟩ := ih
        obtain ⟨error, failed⟩ := elementForms_of_error member thrown
        exact ⟨error, by rw [stringForm, failed]; rfl⟩

theorem stringForm_error_ne {value : Json} {depth : ℕ} {error : AdapterError}
    (thrown : stringForm runtime depth value = .error error) (provider : String) :
    error ≠ .providerResponseError provider := by
  induction value using Json.induction generalizing depth with
  | null => cases thrown
  | bool value => cases value <;> cases thrown
  | number token => cases thrown
  | string units => cases thrown
  | array items ih =>
      cases depth with
      | zero =>
          cases thrown
          simp
      | succ depth =>
          rw [stringForm] at thrown
          cases forms : elementForms runtime depth items with
          | error own =>
              obtain ⟨item, member, failed⟩ := elementForms_error forms
              rw [forms] at thrown
              cases thrown
              exact ih item member failed
          | ok texts =>
              rw [forms] at thrown
              cases thrown
  | object members ih =>
      rw [stringForm] at thrown
      split_ifs at thrown with own
      cases thrown
      simp

/-! ### Accepted bodies -/

/-- Every event is valid; one of them carries a finish reason, and it is the last one
with choices. -/
def ProperlyFinished (runtime : StringRuntime) (events : List JsString) : Prop :=
  (∀ event ∈ events, ValidEvent runtime event) ∧
    ∃ early last late, events = early ++ last :: late ∧ (∀ event ∈ early, ¬Finishes event) ∧
      Finishes last ∧ ∀ event ∈ late, IsUsage event

def Accepted (runtime : StringRuntime) (events : List JsString) : Prop :=
  ∃ before after, events = before ++ doneEvent :: after ∧ ProperlyFinished runtime before

/-- The texts of the events before the first violation; if that is a refused finish
reason, its own text comes with them. -/
def StopsAfter (runtime : StringRuntime) (events deltas : List JsString) : Prop :=
  ∃ before rest, events = before ++ rest ∧ Going runtime before ∧
    (rest = [] ∧ deltas = texts before ∨
      ∃ bad after, rest = bad :: after ∧ ¬Going runtime (before ++ [bad]) ∧
        ((∃ text reason, IsChoice bad text reason ∧ (∀ event ∈ before, ¬Finishes event) ∧
            deltas = texts before ++ deliver text) ∨
          (¬∃ text reason, IsChoice bad text reason ∧ ∀ event ∈ before, ¬Finishes event) ∧
            deltas = texts before))

theorem properlyFinished_iff (events : List JsString) :
    ProperlyFinished runtime events ↔
      Going runtime events ∧ ∃ event ∈ events, Finishes event := by
  constructor
  · rintro ⟨valid, early, last, late, rfl, unfinished, finishes, usage⟩
    refine ⟨⟨valid, ?_⟩, last, by simp, finishes⟩
    rw [List.pairwise_append, List.pairwise_cons]
    refine ⟨?_, ⟨fun later member _ => usage later member, ?_⟩, ?_⟩
    · exact List.pairwise_iff_forall_sublist.mpr (fun pair finishes =>
        (unfinished _ (pair.subset (by simp)) finishes).elim)
    · exact List.pairwise_iff_forall_sublist.mpr (fun pair finishes =>
        ((usage _ (pair.subset (by simp))).not_finishes finishes).elim)
    · exact fun event member later _ finishes => (unfinished event member finishes).elim
  · rintro ⟨going, event, member, finishes⟩
    refine ⟨going.1, ?_⟩
    induction events with
    | nil => simp at member
    | cons first events ih =>
        obtain ⟨valid, last, rest⟩ := going_cons.mp going
        by_cases here : Finishes first
        · exact ⟨[], first, events, rfl, by simp, here, last here⟩
        · have later : event ∈ events := by
            rcases List.mem_cons.mp member with rfl | later
            · exact (here finishes).elim
            · exact later
          obtain ⟨early, final, late, rfl, unfinished, finished, usage⟩ := ih rest later
          exact ⟨first :: early, final, late, rfl, by simpa [here] using unfinished, finished, usage⟩

theorem consume_accepted {before : List JsString} (proper : ProperlyFinished runtime before)
    (ended : AdapterError) (after : List JsString) :
    consume (react runtime) ended false (before ++ doneEvent :: after) =
      ⟨texts before, .ok ()⟩ := by
  obtain ⟨going, finished⟩ := (properlyFinished_iff before).mp proper
  have through : passThrough (react runtime) false before = some (true, texts before) :=
    (passThrough_iff false true before _).mpr ⟨going, by simp, by simpa using finished, rfl⟩
  rw [consume_append through, consume, react, if_pos rfl]
  simp [deliver]

/-- An event is reached that is valid but for a finish reason that cannot be converted. -/
def ConversionFails (runtime : StringRuntime) (events : List JsString) : Prop :=
  ∃ before bad after text reason, events = before ++ bad :: after ∧ Going runtime before ∧
    (∀ event ∈ before, ¬Finishes event) ∧ IsChoice bad text (some reason) ∧
    Unconvertible runtime.nestingLimit reason

theorem consume_conversionFails {events : List JsString}
    (fails : ConversionFails runtime events) (ended : AdapterError) :
    ∃ error, (consume (react runtime) ended false events).outcome = .error error ∧
      error ≠ .providerResponseError "OpenAI" := by
  obtain ⟨before, bad, after, text, reason, rfl, going, unfinished, choice, unconvertible⟩ := fails
  have through : passThrough (react runtime) false before = some (false, texts before) :=
    (passThrough_iff false false before _).mpr ⟨going, by simp, by simpa using unfinished, rfl⟩
  obtain ⟨error, form⟩ :=
    (@stringForm_error_iff runtime reason runtime.nestingLimit).mpr unconvertible
  have thrown : afterText runtime (some reason) = .reject error :=
    afterText_unformed unconvertible.ne_null form
  rw [consume_append through, consume, react_choice choice, if_neg (by decide), thrown]
  exact ⟨error, rfl, stringForm_error_ne form "OpenAI"⟩

theorem not_going_of_invalid {before : List JsString} {bad : JsString}
    (invalid : ¬ValidEvent runtime bad) : ¬Going runtime (before ++ [bad]) :=
  fun going => invalid (going.1 bad (by simp))

theorem not_going_of_finished {before : List JsString} {bad event : JsString}
    (member : event ∈ before) (finishes : Finishes event) (noUsage : ¬IsUsage bad) :
    ¬Going runtime (before ++ [bad]) := by
  intro going
  exact noUsage ((List.pairwise_append.mp going.2).2.2 event member bad (by simp) finishes)

/-- The first event that the loop does not pass decides. -/
theorem consume_events (events : List JsString) :
    Accepted runtime events ∨ ConversionFails runtime events ∨
      (consume (react runtime) (.providerResponseError "OpenAI") false events).outcome =
          .error (.providerResponseError "OpenAI") ∧
        StopsAfter runtime events
          (consume (react runtime) (.providerResponseError "OpenAI") false events).deltas := by
  obtain ⟨before, later, deltas, through, whole | ⟨bad, rest, content, rfl, stop⟩⟩ :=
    passThrough_split (react runtime) false events
  · have consumed := consume_append through (.providerResponseError "OpenAI") []
    obtain ⟨going, -, -, rfl⟩ := (passThrough_iff false later before deltas).mp through
    rw [List.append_nil] at consumed
    rw [whole, consumed]
    exact Or.inr (Or.inr ⟨rfl, before, [], by simp, going, Or.inl ⟨rfl, by simp [consume]⟩⟩)
  · rw [consume_append through, consume]
    obtain ⟨going, -, finished, rfl⟩ := (passThrough_iff false later before deltas).mp through
    by_cases usage : IsUsage bad
    · simp [react_usage usage] at stop
    · by_cases choice : ∃ text reason, IsChoice bad text reason
      · obtain ⟨text, reason, choice⟩ := choice
        rw [react_choice choice] at stop ⊢
        cases later with
        | true =>
            obtain ⟨event, member, finishes⟩ := (finished.mp rfl).resolve_left (by decide)
            refine Or.inr (Or.inr ⟨rfl, before, bad :: rest, rfl, going, Or.inr ⟨bad, rest, rfl,
              not_going_of_finished member finishes usage, Or.inr ⟨?_, ?_⟩⟩⟩)
            · rintro ⟨-, -, -, unfinished⟩
              exact unfinished event member finishes
            · simp [reject, deliver]
        | false =>
            have unfinished : ∀ event ∈ before, ¬Finishes event := by simpa using finished
            rcases @afterText_cases runtime reason with
              ⟨-, continued⟩ | ⟨-, -, continued⟩ | ⟨refused, stopped⟩
            · simp [continued] at stop
            · simp [continued] at stop
            · rcases stopped with ⟨value, error, rfl, _, thrown, _⟩ | ⟨_, continued⟩
              · exact Or.inr (Or.inl ⟨before, bad, rest, text, value, rfl, going, unfinished, choice,
                  (stringForm_error_iff value _).mp ⟨error, thrown⟩⟩)
              · have invalid := mt choice.valid_iff.mp refused
                rw [if_neg (by decide), continued]
                exact Or.inr (Or.inr ⟨rfl, before, bad :: rest, rfl, going, Or.inr ⟨bad, rest, rfl,
                  not_going_of_invalid invalid, Or.inl ⟨text, reason, choice, unfinished, rfl⟩⟩⟩)
      · have invalid : ¬ValidEvent runtime bad := by
          rintro (isUsage | ⟨text, reason, isChoice, -⟩)
          · exact usage isUsage
          · exact choice ⟨text, reason, isChoice⟩
        have silent : ¬∃ text reason, IsChoice bad text reason ∧
            ∀ event ∈ before, ¬Finishes event := by
          rintro ⟨text, reason, isChoice, -⟩
          exact choice ⟨text, reason, isChoice⟩
        have stops : StopsAfter runtime (before ++ bad :: rest) (texts before) :=
          ⟨before, bad :: rest, rfl, going, Or.inr ⟨bad, rest, rfl, not_going_of_invalid invalid,
            Or.inr ⟨silent, rfl⟩⟩⟩
        by_cases done : bad = doneEvent
        · cases later with
          | true =>
              have proper := (properlyFinished_iff before).mpr
                ⟨going, (finished.mp rfl).resolve_left (by decide)⟩
              exact Or.inl ⟨before, rest, by rw [done], proper⟩
          | false =>
              refine Or.inr (Or.inr ?_)
              rw [react, if_pos done]
              exact ⟨rfl, by simpa [reject, deliver] using stops⟩
        · refine Or.inr (Or.inr ?_)
          rw [react_invalid done usage choice]
          exact ⟨rfl, by simpa [reject, deliver] using stops⟩

def KeepsProtocol (runtime : StringRuntime) (events : List JsString)
    (streamed : Streamed) : Prop :=
  (streamed.outcome = .ok () ↔ Accepted runtime events) ∧
    (∀ before after, events = before ++ doneEvent :: after → ProperlyFinished runtime before →
      streamed.deltas = texts before) ∧
    (¬Accepted runtime events →
      streamed.outcome = .error (.providerResponseError "OpenAI") ∧
        StopsAfter runtime events streamed.deltas)

/-- `stream` keeps to the protocol unless it reaches a finish reason that `String` cannot
convert. -/
theorem stream_keeps_protocol_iff (runtime : StringRuntime)
    (chunks : List (List UInt8)) (text : JsString)
    (valid : Utf8.decode chunks.flatten = some text) :
    KeepsProtocol runtime (bodyEvents text) (stream runtime (some chunks)) ↔
      ¬ConversionFails runtime (bodyEvents text) := by
  rw [stream_eq valid]
  constructor
  · rintro ⟨resolves, -, rejects⟩ fails
    obtain ⟨error, thrown, foreign⟩ :=
      consume_conversionFails fails (.providerResponseError "OpenAI")
    have refused : ¬Accepted runtime (bodyEvents text) := by
      rw [← resolves, thrown]
      simp
    have rejected := (rejects refused).1
    rw [thrown, Except.error.injEq] at rejected
    exact foreign rejected
  · intro converts
    have accepted : Accepted runtime (bodyEvents text) →
        (consume (react runtime) (.providerResponseError "OpenAI") false
          (bodyEvents text)).outcome = .ok () := by
      rintro ⟨before, after, split, proper⟩
      rw [split, consume_accepted proper]
    refine ⟨⟨?_, accepted⟩, ?_, ?_⟩
    · intro resolved
      rcases @consume_events runtime (bodyEvents text) with isAccepted | fails | ⟨rejected, -⟩
      · exact isAccepted
      · exact (converts fails).elim
      · rw [rejected] at resolved
        simp at resolved
    · intro before after split proper
      rw [split, consume_accepted proper]
    · intro refused
      exact ((@consume_events runtime (bodyEvents text)).resolve_left refused).resolve_left
        converts

/-! ### A finish reason that is an object -/

def eventBody (data : Json) : JsString :=
  JsString.ofString "data: " ++ data.print ++ JsString.ofString "\n\n"

def choiceEvent (reason : Json) : Json :=
  .object [(JsString.ofString "choices", .array [.object
    [(JsString.ofString "delta",
        .object [(JsString.ofString "content", .string (JsString.ofString "Hello"))]),
      (JsString.ofString "finish_reason", reason)]])]

theorem build_choiceEvent (reason : Json) :
    (choiceEvent reason).build = choiceEvent reason.build := rfl

theorem choiceEvent_isChoice {reason : Json} (built : reason.build = reason) :
    IsChoice (choiceEvent reason).print (JsString.ofString "Hello") (some reason) := by
  have parsed : parseStreamJson (choiceEvent reason).print = isRecord (choiceEvent reason) := by
    rw [parseStreamJson, Json.parse, Json.parseText_print, Option.map_some, Option.bind_some,
      build_choiceEvent, built]
  exact ⟨_, _, _, _, parsed, rfl, rfl, rfl, Or.inl rfl,
    ⟨Or.inl rfl, rfl, rfl, Or.inr (Or.inl rfl)⟩, rfl⟩

def stopReason : Json := .string (JsString.ofString "stop")

def sampleRuntime : StringRuntime where
  numberText := Json.NumberToken.text
  nestingLimit := 2000

def sampleAnswer : JsString :=
  eventBody (choiceEvent stopReason) ++ JsString.ofString "data: [DONE]\n\n"

theorem stream_keeps_protocol_sample :
    KeepsProtocol sampleRuntime (bodyEvents sampleAnswer)
      (stream sampleRuntime (some [Utf8.encode sampleAnswer])) := by
  have valid : Utf8.decode [Utf8.encode sampleAnswer].flatten = some sampleAnswer :=
    Utf8.decode_single_chunk (by decide) (by decide)
  have events : bodyEvents sampleAnswer = [(choiceEvent stopReason).print] ++ [doneEvent] := by
    decide
  have choice : IsChoice (choiceEvent stopReason).print (JsString.ofString "Hello")
    (some stopReason) := choiceEvent_isChoice rfl
  have proper : ProperlyFinished sampleRuntime [(choiceEvent stopReason).print] := by
    refine ⟨?_, [], _, [], rfl, by simp, ⟨_, _, choice, by simp [stopReason]⟩, by simp⟩
    rw [List.forall_mem_singleton, choice.valid_iff]
    exact Or.inr ⟨stopReason, JsString.ofString "stop", rfl, rfl, by decide⟩
  refine (stream_keeps_protocol_iff sampleRuntime _ _ valid).mpr ?_
  intro fails
  obtain ⟨_, thrown, _⟩ := consume_conversionFails fails (.providerResponseError "OpenAI")
  rw [events, consume_accepted proper] at thrown
  cases thrown

def objectReason : Json := .object [(JsString.ofString "toString", .null)]

/-- The text is delivered and a `TypeError` is thrown. -/
theorem object_reason_throws :
    Utf8.decode [Utf8.encode (eventBody (choiceEvent objectReason))].flatten =
        some (eventBody (choiceEvent objectReason)) ∧
      stream sampleRuntime (some [Utf8.encode (eventBody (choiceEvent objectReason))]) =
        ⟨[JsString.ofString "Hello"], .error .typeError⟩ ∧
      ¬KeepsProtocol sampleRuntime (bodyEvents (eventBody (choiceEvent objectReason)))
        (stream sampleRuntime
          (some [Utf8.encode (eventBody (choiceEvent objectReason))])) := by
  have valid : Utf8.decode [Utf8.encode (eventBody (choiceEvent objectReason))].flatten =
      some (eventBody (choiceEvent objectReason)) := Utf8.decode_single_chunk (by decide) (by decide)
  have events : bodyEvents (eventBody (choiceEvent objectReason)) =
      [(choiceEvent objectReason).print] := by
    decide
  have streamed : stream sampleRuntime
      (some [Utf8.encode (eventBody (choiceEvent objectReason))]) =
        ⟨[JsString.ofString "Hello"], .error .typeError⟩ := by
    rw [stream_eq valid, events, consume, react_choice (choiceEvent_isChoice rfl)]
    rfl
  refine ⟨valid, streamed, ?_⟩
  rintro ⟨resolves, -, rejects⟩
  rw [streamed] at resolves rejects
  have refused : ¬Accepted sampleRuntime
      (bodyEvents (eventBody (choiceEvent objectReason))) := by
    rw [← resolves]
    simp
  exact absurd (rejects refused).1 (by simp)

end OpenAIProvider

end ModelMux.Providers
