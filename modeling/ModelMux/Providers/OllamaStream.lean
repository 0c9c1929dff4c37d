/-
Which bodies `OllamaProvider.stream` accepts.

A body is an answer when a line with `done` is reached and every line up to it
is blank or a frame.  The texts of the frames are delivered in order; a line that
is neither, or too long, ends the stream with an error.
-/

import ModelMux.Providers.StreamAdapter

namespace ModelMux.Providers.OllamaProvider

open Json (Member)

/-! ### Frames -/

def Blank (line : JsString) : Prop := ∀ unit ∈ line, CodeUnit.isSpace unit = true

/-- A text message of the assistant without tool calls. -/
def IsTextMessage (message : Json) (content : JsString) : Prop :=
  ∃ members, message = .object members ∧
    Json.get members (JsString.ofString "content") = some (.string content) ∧
    (Json.get members (JsString.ofString "role") = none ∨
      Json.get members (JsString.ofString "role") =
        some (.string (JsString.ofString "assistant"))) ∧
    ¬∃ call calls,
      Json.get members (JsString.ofString "tool_calls") = some (.array (call :: calls))

/-- A JSON object without `error` whose `done` is boolean; only the last one may
lack a message. -/
def IsFrame (line : JsString) (done : Bool) (content : JsString) : Prop :=
  ∃ data, parseStreamJson line = some data ∧
    Json.get data (JsString.ofString "error") = none ∧
    Json.get data (JsString.ofString "done") = some (.bool done) ∧
    ((∃ message, Json.get data (JsString.ofString "message") = some message ∧
        IsTextMessage message content) ∨
      (Json.get data (JsString.ofString "message") = none ∧ done = true ∧ content = []))

def frameContent (line : JsString) : JsString :=
  match (parseStreamJson line).bind (fun data => Json.get data (JsString.ofString "message")) with
  | some (.object message) =>
      match Json.get message (JsString.ofString "content") with
      | some (.string content) => content
      | _ => []
  | _ => []

theorem trim_eq_nil_iff (line : JsString) : JsString.trim line = [] ↔ Blank line := by
  rw [JsString.trim, List.rdropWhile_eq_nil_iff, Blank]
  constructor
  · intro rest unit member
    rw [← @List.takeWhile_append_dropWhile _ CodeUnit.isSpace line] at member
    rcases List.mem_append.mp member with front | back
    · exact List.mem_takeWhile_imp front
    · exact rest unit back
  · intro spaces unit member
    exact spaces unit ((List.dropWhile_suffix CodeUnit.isSpace).subset member)

theorem hasToolCalls_iff (calls : Option Json) :
    hasToolCalls calls = true ↔ ∃ call rest, calls = some (.array (call :: rest)) := by
  unfold hasToolCalls
  split
  · simp
  · rename_i other
    simp only [Bool.false_eq_true, false_iff]
    rintro ⟨call, rest, rfl⟩
    exact other call rest rfl

theorem messageContent_iff (message : Json) (content : JsString) :
    messageContent message = some content ↔ IsTextMessage message content := by
  cases message with
  | object members =>
      simp only [messageContent, IsTextMessage, Json.object.injEq, exists_eq_left',
        ← isAssistantRole_iff, ← hasToolCalls_iff]
      split
      · rename_i written found
        rw [found]
        split_ifs with accepted
        · simp_all
        · simp_all
      · rename_i other
        simp only [reduceCtorEq, false_iff, not_and]
        intro found
        exact (other content found).elim
  | _ => simp [messageContent, IsTextMessage]

theorem not_blank_of_parse {line : JsString} {data : List Member}
    (parsed : parseStreamJson line = some data) : ¬Blank line := by
  intro blank
  obtain ⟨value, built, record⟩ := Option.bind_eq_some_iff.mp parsed
  obtain ⟨syntaxTree, read, rfl⟩ := Option.map_eq_some_iff.mp built
  cases syntaxTree with
  | object members => exact absurd (blank _ (Json.brace_of_parseText read)) (by decide)
  | _ => simp [Json.build, isRecord] at record

theorem IsFrame.not_blank {line content : JsString} {done : Bool}
    (frame : IsFrame line done content) : ¬Blank line := by
  obtain ⟨data, parsed, -⟩ := frame
  exact not_blank_of_parse parsed

theorem IsFrame.done_unique {line content content' : JsString} {done done' : Bool}
    (frame : IsFrame line done content) (frame' : IsFrame line done' content') : done = done' := by
  obtain ⟨data, parsed, -, found, -⟩ := frame
  obtain ⟨data', parsed', -, found', -⟩ := frame'
  rw [parsed, Option.some.injEq] at parsed'
  rw [← parsed', found, Option.some.injEq, Json.bool.injEq] at found'
  exact found'

theorem IsFrame.frameContent {line content : JsString} {done : Bool}
    (frame : IsFrame line done content) : frameContent line = content := by
  obtain ⟨data, parsed, -, -, ⟨message, found, members, rfl, written, -⟩ | ⟨missing, -, rfl⟩⟩ :=
    frame
  · simp [OllamaProvider.frameContent, parsed, found, written]
  · simp [OllamaProvider.frameContent, parsed, missing]

theorem react_frame {line content : JsString} {done : Bool} (frame : IsFrame line done content) :
    react () line = .act content (if done then .resolve else .next ()) := by
  have visible := frame.not_blank
  rw [← trim_eq_nil_iff] at visible
  obtain ⟨data, parsed, clean, found, body⟩ := frame
  rw [react, if_neg visible, parsed]
  dsimp only
  rw [clean, found]
  dsimp only
  rcases body with ⟨message, sent, shape⟩ | ⟨missing, rfl, rfl⟩
  · rw [sent]
    dsimp only
    rw [(messageContent_iff message content).mpr shape]
  · rw [missing]
    rfl

theorem react_blank {line : JsString} (blank : Blank line) : react () line = .ignore :=
  if_pos ((trim_eq_nil_iff line).mpr blank)

theorem react_invalid {line : JsString} (visible : ¬Blank line)
    (invalid : ¬∃ done content, IsFrame line done content) : react () line = reject := by
  rw [← trim_eq_nil_iff] at visible
  rw [react, if_neg visible]
  cases parsed : parseStreamJson line with
  | none => rfl
  | some data =>
      dsimp only
      split
      · rename_i done clean found
        cases sent : Json.get data (JsString.ofString "message") with
        | some message =>
            cases written : messageContent message with
            | some content =>
                exact (invalid ⟨done, content, data, parsed, clean, found,
                  Or.inl ⟨message, sent, (messageContent_iff message content).mp written⟩⟩).elim
            | none => simp [written]
        | none =>
            cases done with
            | true =>
                exact (invalid ⟨true, [], data, parsed, clean, found,
                  Or.inr ⟨sent, rfl, rfl⟩⟩).elim
            | false => rfl
      · rfl

/-! ### Lines -/

def Passed (line : JsString) : Prop := Blank line ∨ ∃ content, IsFrame line false content

def Invalid (line : JsString) : Prop := ¬Blank line ∧ ¬∃ done content, IsFrame line done content

/-- The texts of the frames among the lines, without the empty ones. -/
def contents (lines : List JsString) : List JsString :=
  lines.flatMap (fun line => deliver (frameContent line))

theorem frameContent_blank {line : JsString} (blank : Blank line) : frameContent line = [] := by
  have unread : parseStreamJson line = none := by
    cases parsed : parseStreamJson line with
    | none => rfl
    | some data => exact (not_blank_of_parse parsed blank).elim
  rw [frameContent, unread]
  rfl

theorem passThrough_iff (lines deltas : List JsString) :
    passThrough react () lines = some ((), deltas) ↔
      (∀ line ∈ lines, Passed line) ∧ deltas = contents lines := by
  induction lines generalizing deltas with
  | nil => simp [passThrough, contents, eq_comm]
  | cons line lines ih =>
      rw [List.forall_mem_cons, passThrough]
      by_cases blank : Blank line
      · have passed : Passed line := Or.inl blank
        rw [react_blank blank]
        simp [passed, ih, contents, frameContent_blank blank, deliver]
      · by_cases frame : ∃ done content, IsFrame line done content
        · obtain ⟨done, content, frame⟩ := frame
          rw [react_frame frame]
          cases done with
          | true =>
              have stops : ¬Passed line := by
                rintro (isBlank | ⟨other, going⟩)
                · exact blank isBlank
                · exact absurd (frame.done_unique going) (by decide)
              simp [stops]
          | false =>
              have passed : Passed line := Or.inr ⟨content, frame⟩
              simp only [Bool.false_eq_true, ↓reduceIte, Option.map_eq_some_iff, Prod.exists,
                Prod.mk.injEq, passed, true_and]
              constructor
              · rintro ⟨_, later, through, rfl⟩
                obtain ⟨rest, rfl⟩ := (ih later).mp through
                exact ⟨rest, by rw [contents, contents, List.flatMap_cons, frame.frameContent]⟩
              · rintro ⟨rest, rfl⟩
                refine ⟨(), contents lines, (ih _).mpr ⟨rest, rfl⟩, ?_⟩
                rw [contents, contents, List.flatMap_cons, frame.frameContent]
        · have stops : ¬Passed line := by
            rintro (isBlank | ⟨content, going⟩)
            · exact blank isBlank
            · exact frame ⟨false, content, going⟩
          rw [react_invalid blank frame]
          simp [reject, stops]

theorem consume_answer {before : List JsString} {last content : JsString}
    (passed : ∀ line ∈ before, Passed line) (done : IsFrame last true content)
    (ended : AdapterError) (rest : List JsString) :
    consume react ended () (before ++ last :: rest) = ⟨contents (before ++ [last]), .ok ()⟩ := by
  have through := (passThrough_iff before _).mpr ⟨passed, rfl⟩
  rw [consume_append through, consume, react_frame done]
  simp [contents, done.frameContent]

/-- The first line that is not passed decides. -/
theorem consume_lines (ended : AdapterError) (lines : List JsString) :
    (∃ before last rest content, lines = before ++ last :: rest ∧ (∀ line ∈ before, Passed line) ∧
        IsFrame last true content) ∨
      ∃ before rest, lines = before ++ rest ∧ (∀ line ∈ before, Passed line) ∧
        (consume react ended () lines).deltas = contents before ∧
        (rest = [] ∧ (consume react ended () lines).outcome = .error ended ∨
          ∃ bad after, rest = bad :: after ∧ Invalid bad ∧
            (consume react ended () lines).outcome =
              .error (.providerResponseError "Ollama")) := by
  obtain ⟨before, ⟨⟩, deltas, through, whole | ⟨line, rest, content, rfl, stop⟩⟩ :=
    passThrough_split react () lines
  · obtain ⟨passed, rfl⟩ := (passThrough_iff before deltas).mp through
    have consumed := consume_append through ended []
    rw [List.append_nil] at consumed
    refine Or.inr ⟨before, [], by simpa using whole, passed, ?_⟩
    rw [whole, consumed]
    simp [consume]
  · obtain ⟨passed, rfl⟩ := (passThrough_iff before deltas).mp through
    have visible : ¬Blank line := by
      intro blank
      rw [react_blank blank] at stop
      simp at stop
    by_cases frame : ∃ done content, IsFrame line done content
    · obtain ⟨done, written, frame⟩ := frame
      cases done with
      | true => exact Or.inl ⟨before, line, rest, written, rfl, passed, frame⟩
      | false =>
          rw [react_frame frame] at stop
          simp at stop
    · refine Or.inr ⟨before, line :: rest, rfl, passed, ?_⟩
      rw [consume_append through, consume, react_invalid visible frame]
      refine ⟨by simp [reject, deliver], Or.inr ⟨line, rest, rfl, ⟨visible, frame⟩, rfl⟩⟩

/-! ### Bodies -/

theorem stream_eq {chunks : List (List UInt8)} {text : JsString}
    (valid : Utf8.decode chunks.flatten = some text) :
    stream (some chunks) =
      consume react (.providerResponseError "Ollama") ()
        (((textLines text).takeWhile fits).map withoutCarriage) := by
  rw [stream, readLines_valid valid, finish_scan, consumeAll]
  split
  · rename_i ended
    split_ifs at ended
    rw [← Except.error.inj ended]
  · rfl

/-- A line with `done` is reached, and each line up to it is within the limit and
blank or a frame. -/
def Answer (segments : List JsString) : Prop :=
  ∃ before last after, segments = before ++ last :: after ∧
    (∀ segment ∈ before ++ [last], segment.length ≤ maxFrameSize) ∧
    (∀ segment ∈ before, Blank (withoutCarriage segment) ∨
      ∃ done content, IsFrame (withoutCarriage segment) done content) ∧
    ∃ content, IsFrame (withoutCarriage last) true content

/-- The segments up to the first violation, whose texts `deltas` are. -/
def StopsAfter (segments deltas : List JsString) : Prop :=
  ∃ before rest, segments = before ++ rest ∧
    (∀ segment ∈ before, segment.length ≤ maxFrameSize ∧ Passed (withoutCarriage segment)) ∧
    deltas = contents (before.map withoutCarriage) ∧
    (rest = [] ∨ ∃ bad after, rest = bad :: after ∧
      (maxFrameSize < bad.length ∨ Invalid (withoutCarriage bad)))

theorem consume_of_answer {before : List JsString} {last content : JsString}
    (read : ∀ line ∈ before, Blank line ∨ ∃ done content, IsFrame line done content)
    (done : IsFrame last true content) (ended : AdapterError) (rest : List JsString) :
    (consume react ended () (before ++ last :: rest)).outcome = .ok () := by
  induction before with
  | nil => rw [List.nil_append, consume, react_frame done]; rfl
  | cons line before ih =>
      obtain ⟨here, later⟩ := List.forall_mem_cons.mp read
      rw [List.cons_append, consume]
      rcases here with blank | ⟨done, content, frame⟩
      · rw [react_blank blank]
        exact ih later
      · rw [react_frame frame]
        cases done with
        | true => rfl
        | false => exact ih later

theorem takeWhile_fits_short {segments kept rest : List JsString}
    (split : segments.takeWhile fits = kept ++ rest) :
    ∀ segment ∈ kept, segment.length ≤ maxFrameSize := by
  intro segment member
  have short := List.mem_takeWhile_imp (split ▸ List.mem_append_left rest member)
  simpa [fits] using short

theorem dropWhile_fits (segments : List JsString) :
    segments.dropWhile fits = [] ∨
      ∃ bad after, segments.dropWhile fits = bad :: after ∧ maxFrameSize < bad.length := by
  cases dropped : segments.dropWhile fits with
  | nil => exact Or.inl rfl
  | cons bad after =>
      have long := List.head?_dropWhile_not fits segments
      rw [dropped, List.head?_cons] at long
      exact Or.inr ⟨bad, after, rfl, by simpa [fits] using long⟩

theorem consume_segments (segments : List JsString) :
    Answer segments ∨
      (consume react (.providerResponseError "Ollama") ()
          ((segments.takeWhile fits).map withoutCarriage)).outcome =
          .error (.providerResponseError "Ollama") ∧
        StopsAfter segments
          (consume react (.providerResponseError "Ollama") ()
            ((segments.takeWhile fits).map withoutCarriage)).deltas := by
  have whole := @List.takeWhile_append_dropWhile _ fits segments
  rcases consume_lines (.providerResponseError "Ollama")
      ((segments.takeWhile fits).map withoutCarriage) with
    ⟨before, last, rest, content, split, passed, done⟩ |
    ⟨before, rest, split, passed, deltas, stop⟩
  · obtain ⟨kept, others, shown, rfl, others_eq⟩ := List.map_eq_append_iff.mp split
    obtain ⟨final, after, rfl, rfl, rfl⟩ := List.map_eq_cons_iff.mp others_eq
    refine Or.inl ⟨kept, final, after ++ segments.dropWhile fits, ?_, ?_, ?_, content, done⟩
    · exact whole.symm.trans (by rw [shown]; simp)
    · exact @takeWhile_fits_short segments _ after (by rw [shown]; simp)
    · intro segment member
      exact (passed _ (List.mem_map_of_mem member)).imp id
        (fun ⟨content, frame⟩ => ⟨false, content, frame⟩)
  · obtain ⟨kept, others, shown, rfl, rfl⟩ := List.map_eq_append_iff.mp split
    have kept_passed : ∀ segment ∈ kept, segment.length ≤ maxFrameSize ∧
        Passed (withoutCarriage segment) := fun segment member =>
      ⟨takeWhile_fits_short shown segment member, passed _ (List.mem_map_of_mem member)⟩
    rcases stop with ⟨none, failed⟩ | ⟨bad, after, others_eq, invalid, failed⟩
    · rw [List.map_eq_nil_iff.mp none, List.append_nil] at shown
      refine Or.inr ⟨failed, kept, segments.dropWhile fits, by rw [← shown, whole], kept_passed,
        deltas, (dropWhile_fits segments).imp id ?_⟩
      rintro ⟨bad, after, dropped, long⟩
      exact ⟨bad, after, dropped, Or.inl long⟩
    · obtain ⟨final, later, rfl, rfl, rfl⟩ := List.map_eq_cons_iff.mp others_eq
      refine Or.inr ⟨failed, kept, final :: later ++ segments.dropWhile fits, ?_, kept_passed,
        deltas, Or.inr ⟨final, _, rfl, Or.inr invalid⟩⟩
      rw [← List.append_assoc, ← shown, whole]

/-- `stream` resolves exactly on answers and then delivers their texts in order;
otherwise it rejects with a `ProviderResponseError` after the texts of the lines before
the first violation. -/
theorem stream_accepts_answers (chunks : List (List UInt8)) (text : JsString)
    (valid : Utf8.decode chunks.flatten = some text) :
    ((stream (some chunks)).outcome = .ok () ↔ Answer (textLines text)) ∧
      (∀ before last after content, textLines text = before ++ last :: after →
        (∀ segment ∈ before ++ [last], segment.length ≤ maxFrameSize) →
        (∀ segment ∈ before, Passed (withoutCarriage segment)) →
        IsFrame (withoutCarriage last) true content →
        stream (some chunks) =
          ⟨contents ((before ++ [last]).map withoutCarriage), .ok ()⟩) ∧
      (¬Answer (textLines text) →
        (stream (some chunks)).outcome = .error (.providerResponseError "Ollama") ∧
          StopsAfter (textLines text) (stream (some chunks)).deltas) := by
  rw [stream_eq valid]
  have decided := consume_segments (textLines text)
  refine ⟨⟨?_, ?_⟩, ?_, fun other => decided.resolve_left other⟩
  · intro resolved
    rcases decided with answer | ⟨rejected, -⟩
    · exact answer
    · rw [rejected] at resolved
      simp at resolved
  · rintro ⟨before, last, after, split, short, read, content, done⟩
    have fitting : (before ++ [last]).all fits = true :=
      List.all_eq_true.mpr fun segment member => by simpa [fits] using short segment member
    rw [split, ← List.singleton_append, ← List.append_assoc, takeWhile_all fitting,
      List.append_assoc, List.singleton_append, List.map_append, List.map_cons]
    exact consume_of_answer (by simpa using read) done _ _
  · intro before last after content split short passed done
    have fitting : (before ++ [last]).all fits = true :=
      List.all_eq_true.mpr fun segment member => by simpa [fits] using short segment member
    rw [split, ← List.singleton_append, ← List.append_assoc, takeWhile_all fitting,
      List.append_assoc, List.singleton_append, List.map_append, List.map_cons,
      consume_answer (by simpa using passed) done]
    simp

def doneObject : Json := .object [(JsString.ofString "done", .bool true)]

theorem doneObject_frame : IsFrame doneObject.print true [] := by
  refine ⟨[(JsString.ofString "done", .bool true)], ?_, rfl, rfl, Or.inr ⟨rfl, rfl, rfl⟩⟩
  rw [parseStreamJson, Json.parse, Json.parseText_print]
  rfl

theorem stream_accepts_answers_done :
    (stream (some [Utf8.encode doneObject.print])).outcome = .ok () := by
  have valid : Utf8.decode [Utf8.encode doneObject.print].flatten = some doneObject.print :=
    Utf8.decode_single_chunk (Utf8.wellFormed_print _) (by decide)
  refine (stream_accepts_answers _ _ valid).1.mpr ⟨[], doneObject.print, [], by decide, by decide,
    by simp, [], doneObject_frame⟩

/-- A blank line that is too long. -/
def longBlank : JsString := List.replicate 65537 0x20

theorem longBlank_spaces : ∀ unit ∈ longBlank, unit = 0x20 :=
  fun _ member => List.eq_of_mem_replicate member

theorem longBlank_length : longBlank.length = 65537 := List.length_replicate

/-- The limit holds for blank lines as well: here every line that is not blank is a
frame within the limit, but the stream is rejected. -/
theorem oversized_blank_rejected :
    ∃ chunks text, Utf8.decode chunks.flatten = some text ∧
      (∃ before last after, textLines text = before ++ last :: after ∧
        (∀ segment ∈ before ++ [last], ¬Blank (withoutCarriage segment) →
          segment.length ≤ maxFrameSize ∧
            ∃ done content, IsFrame (withoutCarriage segment) done content) ∧
        ∃ content, IsFrame (withoutCarriage last) true content) ∧
      (stream (some chunks)).outcome ≠ .ok () := by
  have plain : lineFeed ∉ longBlank :=
    fun member => absurd (longBlank_spaces _ member) (by decide)
  have uncut : withoutCarriage longBlank = longBlank :=
    if_neg (fun last => absurd (longBlank_spaces _ (List.mem_of_getLast? last)) (by decide))
  have blank : Blank longBlank := by
    intro unit member
    rw [longBlank_spaces unit member]
    decide
  have long : fits longBlank = false := by
    rw [fits, longBlank_length]
    decide
  have lines : textLines (longBlank ++ lineFeed :: doneObject.print) =
      [longBlank, doneObject.print] := by
    rw [textLines, segments_line plain, segments_of_plain (by decide)]
    rfl
  have formed : Utf8.wellFormed longBlank = true :=
    (Utf8.scalars_of_single (fun unit member => by rw [longBlank_spaces unit member]; rfl)).1
  have head : (longBlank ++ lineFeed :: doneObject.print).head? ≠ some 0xFEFF := by
    intro mark
    rcases List.mem_append.mp (List.mem_of_mem_head? mark) with front | back
    · exact absurd (longBlank_spaces _ front) (by decide)
    · exact absurd back (by decide)
  have valid : Utf8.decode [Utf8.encode (longBlank ++ lineFeed :: doneObject.print)].flatten =
      some (longBlank ++ lineFeed :: doneObject.print) :=
    Utf8.decode_single_chunk (Utf8.wellFormed_append formed (by decide)) head
  refine ⟨_, _, valid, ⟨[longBlank], doneObject.print, [], lines, ?_, [], doneObject_frame⟩, ?_⟩
  · intro segment member visible
    rw [List.singleton_append, List.mem_cons, List.mem_singleton] at member
    rcases member with rfl | rfl
    · rw [uncut] at visible
      exact (visible blank).elim
    · exact ⟨by decide, true, [], doneObject_frame⟩
  · rw [stream_eq valid, lines, List.takeWhile_cons, long]
    simp [consume]

end ModelMux.Providers.OllamaProvider
