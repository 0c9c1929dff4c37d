/-
Server-sent events from the writer to the parser.

`writeSse` and `readSseData` are separate code.  Whatever the data of the events
and however the bytes of a stream are cut, the parser yields the JSON texts that
were written, one for each event.
-/

import ModelMux.Providers.StreamParser
import ModelMux.Routes.StreamHandler

namespace ModelMux.Routes

open Providers

inductive SseName where
  | delta
  | done
  | error
deriving DecidableEq

def SseName.text : SseName → String
  | .delta => "delta"
  | .done => "done"
  | .error => "error"

/-- What `writeSse` hands to `response.write` for any data. -/
def writeSse (name : SseName) (data : Json) : JsString :=
  JsString.ofString "event: " ++ JsString.ofString name.text ++ JsString.ofString "\ndata: " ++
    data.print ++ JsString.ofString "\n\n"

def SseEvent.sseName : SseEvent → SseName
  | .delta _ _ => .delta
  | .done _ => .done
  | .error _ _ _ => .error

theorem SseEvent.frame_eq_writeSse (event : SseEvent) :
    event.frame = writeSse event.sseName event.data := by
  cases event <;> rfl

/-! ### Lines of a frame -/

def eventLine (name : SseName) : JsString := JsString.ofString "event: " ++ JsString.ofString name.text

def dataLine (data : Json) : JsString := JsString.ofString "data: " ++ data.print

theorem writeSse_eq (name : SseName) (data : Json) (rest : JsString) :
    writeSse name data ++ rest =
      eventLine name ++ lineFeed :: (dataLine data ++ lineFeed :: ([] ++ lineFeed :: rest)) := by
  simp only [writeSse, eventLine, dataLine, List.append_assoc]
  rfl

theorem scan_visible {line : JsString} (visible : ∀ unit ∈ line, 0x20 ≤ unit)
    (short : line.length ≤ maxFrameSize) (rest : JsString) :
    scan [] (line ++ lineFeed :: rest) = (line :: (scan [] rest).1, (scan [] rest).2) := by
  have plain : lineFeed ∉ line := fun member => absurd (visible _ member) (by decide)
  have uncut : withoutCarriage line = line := by
    rw [withoutCarriage, if_neg]
    intro last
    exact absurd (visible _ (List.mem_of_getLast? last)) (by decide)
  rw [scan_line plain short, uncut]

theorem eventLine_visible (name : SseName) :
    (∀ unit ∈ eventLine name, 0x20 ≤ unit) ∧ (eventLine name).length ≤ maxFrameSize := by
  constructor
  · exact List.all_iff_forall_prop.mp (by cases name <;> decide)
  · cases name <;> decide

theorem dataLine_visible (data : Json) : ∀ unit ∈ dataLine data, 0x20 ≤ unit := by
  intro unit member
  rcases List.mem_append.mp member with field | printed
  · have field_visible : ∀ unit ∈ JsString.ofString "data: ", 0x20 ≤ unit :=
      List.all_iff_forall_prop.mp (by decide)
    exact field_visible unit field
  · exact Json.print_visible data unit printed

theorem scan_writeSse {data : Json} (short : data.print.length ≤ 65530) (name : SseName)
    (rest : JsString) :
    scan [] (writeSse name data ++ rest) =
      ([eventLine name, dataLine data, []] ++ (scan [] rest).1, (scan [] rest).2) := by
  obtain ⟨visible, shortEvent⟩ := eventLine_visible name
  have shortData : (dataLine data).length ≤ maxFrameSize := by
    have field : (JsString.ofString "data: ").length = 6 := by decide
    rw [dataLine, List.length_append, field, maxFrameSize]
    omega
  rw [writeSse_eq, scan_visible visible shortEvent, scan_visible (dataLine_visible data) shortData,
    scan_visible (by simp) (by decide)]
  rfl

theorem take_eventLine (reader : SseReader) (name : SseName) :
    reader.take (eventLine name) = some (none, reader) := by
  cases name <;> rfl

theorem take_dataLine {data : Json} (short : data.print.length ≤ 65530) :
    SseReader.take ⟨[], 0⟩ (dataLine data) = some (none, ⟨[data.print], data.print.length + 1⟩) := by
  have value : fieldValue (dataLine data) = data.print := rfl
  have isData : dataField.isPrefixOf (dataLine data) = true := rfl
  have size : ¬maxFrameSize < 0 + data.print.length + 1 := by
    rw [maxFrameSize]
    omega
  rw [SseReader.take, if_neg (by simp [dataLine, JsString.ofString, CodeUnit.ofChar]),
    if_pos isData]
  dsimp only
  rw [value, if_neg size, List.nil_append, Nat.zero_add]

theorem take_blank (data : JsString) (size : ℕ) :
    SseReader.take ⟨[data], size⟩ [] = some (some data, ⟨[], 0⟩) := by
  simp [SseReader.take, joinLines]

theorem takeLines_frames (provider : String) (outcome : Except ProviderResponseError Unit)
    {events : List (SseName × Json)} (short : ∀ event ∈ events, event.2.print.length ≤ 65530) :
    SseReader.takeLines ⟨[], 0⟩ provider
        (events.flatMap (fun event => [eventLine event.1, dataLine event.2, []])) outcome =
      ⟨events.map (fun event => event.2.print), outcome⟩ := by
  induction events with
  | nil => rfl
  | cons event rest ih =>
      obtain ⟨here, later⟩ := List.forall_mem_cons.mp short
      rw [List.flatMap_cons]
      simp only [List.cons_append, List.nil_append, SseReader.takeLines, take_eventLine,
        take_dataLine here, take_blank, ih later]
      rfl

theorem wellFormed_frames (events : List (SseName × Json)) :
    Utf8.wellFormed (events.flatMap (fun event => writeSse event.1 event.2)) = true := by
  induction events with
  | nil => rfl
  | cons event rest ih =>
      rw [List.flatMap_cons]
      refine Utf8.wellFormed_append ?_ ih
      refine Utf8.wellFormed_append (Utf8.wellFormed_append ?_ (Utf8.wellFormed_print _)) (by decide)
      cases event.1 <;> decide

theorem decode_frames (events : List (SseName × Json)) :
    Utf8.decode (Utf8.encode (events.flatMap (fun event => writeSse event.1 event.2))) =
      some (events.flatMap (fun event => writeSse event.1 event.2)) := by
  refine Utf8.decode_encode (wellFormed_frames events) ?_
  cases events with
  | nil => simp
  | cons event rest =>
      rw [List.flatMap_cons, writeSse_eq]
      simp [eventLine, JsString.ofString, CodeUnit.ofChar]

theorem scan_frames {events : List (SseName × Json)}
    (short : ∀ event ∈ events, event.2.print.length ≤ 65530) :
    scan [] (events.flatMap (fun event => writeSse event.1 event.2)) =
      (events.flatMap (fun event => [eventLine event.1, dataLine event.2, []]), some []) := by
  induction events with
  | nil => rfl
  | cons event rest ih =>
      obtain ⟨here, later⟩ := List.forall_mem_cons.mp short
      rw [List.flatMap_cons, scan_writeSse here, ih later, List.flatMap_cons]

/-- However the bytes of written events are cut, `readSseData` yields the JSON text
of each event and nothing else. -/
theorem sse_round_trip (provider : String) (events : List (SseName × Json))
    (short : ∀ event ∈ events, event.2.print.length ≤ 65530) (chunks : List (List UInt8))
    (cut : chunks.flatten =
      Utf8.encode (events.flatMap (fun event => writeSse event.1 event.2))) :
    readSseData provider (some chunks) = ⟨events.map (fun event => event.2.print), .ok ()⟩ := by
  have valid : Utf8.decode chunks.flatten =
      some (events.flatMap (fun event => writeSse event.1 event.2)) := by
    rw [cut]
    exact decode_frames events
  have lines := readLines_valid valid provider
  rw [scan_frames short] at lines
  simp only [finish, lastLine, ↓reduceIte, List.append_nil] at lines
  rw [readSseData, lines]
  exact takeLines_frames provider (.ok ()) short

def sampleEvents : List (SseName × Json) :=
  [(.delta, .object [(JsString.ofString "content",
      .string (JsString.ofString "a\r\n\nevent: done\ndata: \x7b\x7d\n\n" ++ [0xD800]))]),
    (.done, .object [])]

def sampleBytes : List UInt8 :=
  Utf8.encode (sampleEvents.flatMap (fun event => writeSse event.1 event.2))

/-- The round trip with chunks of one byte. -/
theorem sse_round_trip_bytewise :
    readSseData "OpenAI" (some (sampleBytes.map (fun byte => [byte]))) =
      ⟨sampleEvents.map (fun event => event.2.print), .ok ()⟩ := by
  refine sse_round_trip "OpenAI" sampleEvents (by decide) _ ?_
  rw [← List.flatMap_def]
  exact List.flatMap_singleton' sampleBytes

end ModelMux.Routes
