/-
The parsers of streamed provider answers.

`readLines` decodes the body of a response chunk by chunk and yields its lines;
`readSseData` yields the data of the server-sent events in them.  A generator is
described by the texts that it yields and by how it ends.  Here the body is read
to its end without interruption.
-/

import ModelMux.Json.Canonical
import ModelMux.Json.Utf8Decoder

namespace ModelMux.Providers

open Utf8 (TextDecoder)

def maxFrameSize : ℕ := 65536

structure ProviderResponseError where
  provider : String
deriving DecidableEq

def isRecord : Json → Option (List Json.Member)
  | .object members => some members
  | _ => none

/-- `none` stands for a thrown `ProviderResponseError`. -/
def parseStreamJson (value : JsString) : Option (List Json.Member) :=
  (Json.parse value).bind isRecord

/-- What a generator yields before it returns or throws. -/
structure Generated where
  yielded : List JsString
  outcome : Except ProviderResponseError Unit

/-! ### Lines -/

def lineFeed : CodeUnit := 0x0A

def carriageReturn : CodeUnit := 0x0D

def withoutCarriage (pending : JsString) : JsString :=
  if pending.getLast? = some carriageReturn then pending.dropLast else pending

/-- The lines that one decoded piece completes, and the text that is pending
after it; `none` stands for a line that is too long. -/
def scan (pending : JsString) : JsString → List JsString × Option JsString
  | [] => ([], if maxFrameSize < pending.length then none else some pending)
  | unit :: rest =>
      if unit = lineFeed then
        if maxFrameSize < pending.length then ([], none)
        else (withoutCarriage pending :: (scan [] rest).1, (scan [] rest).2)
      else scan (pending ++ [unit]) rest

/-- The last line need not be terminated. -/
def lastLine (pending : JsString) : List JsString :=
  if pending = [] then [] else [withoutCarriage pending]

def finish (provider : String) : List JsString × Option JsString → Generated
  | (lines, none) => ⟨lines, .error ⟨provider⟩⟩
  | (lines, some pending) => ⟨lines ++ lastLine pending, .ok ()⟩

structure LineReader where
  decoder : TextDecoder
  pending : JsString

namespace LineReader

def start : LineReader := ⟨.start, []⟩

/-- The lines that are yielded for a chunk, and the reader after it unless it
throws. -/
def receive (reader : LineReader) (chunk : List UInt8) : List JsString × Option LineReader :=
  match reader.decoder.decodeChunk chunk with
  | none => ([], none)
  | some (decoded, decoder) =>
      ((scan reader.pending decoded).1,
        (scan reader.pending decoded).2.map (fun pending => ⟨decoder, pending⟩))

def close (reader : LineReader) (provider : String) : Generated :=
  match reader.decoder.flush with
  | none => ⟨[], .error ⟨provider⟩⟩
  | some decoded => finish provider (scan reader.pending decoded)

def readChunks (reader : LineReader) (provider : String) : List (List UInt8) → Generated
  | [] => reader.close provider
  | chunk :: rest =>
      match reader.receive chunk with
      | (lines, none) => ⟨lines, .error ⟨provider⟩⟩
      | (lines, some next) =>
          ⟨lines ++ (next.readChunks provider rest).yielded, (next.readChunks provider rest).outcome⟩

def after (reader : LineReader) : List (List UInt8) → Option LineReader
  | [] => some reader
  | chunk :: rest => (reader.receive chunk).2.bind (fun next => next.after rest)

end LineReader

/-- `response.body` may be missing. -/
def readLines (provider : String) : Option (List (List UInt8)) → Generated
  | none => ⟨[], .error ⟨provider⟩⟩
  | some chunks => LineReader.start.readChunks provider chunks

/-! ### Server-sent events -/

structure SseReader where
  data : List JsString
  size : ℕ

def dataField : JsString := JsString.ofString "data:"

/-- `line.slice(5).replace(/^ /, "")`. -/
def fieldValue (line : JsString) : JsString :=
  if (line.drop 5).head? = some 0x20 then line.drop 6 else line.drop 5

def joinLines (data : List JsString) : JsString := [lineFeed].intercalate data

/-- The event that a line completes, if any, and the reader after it; `none`
stands for an event that is too large. -/
def SseReader.take (reader : SseReader) (line : JsString) : Option (Option JsString × SseReader) :=
  if line = [] then
    some (if reader.data = [] then none else some (joinLines reader.data), ⟨[], 0⟩)
  else if dataField.isPrefixOf line then
    let size := reader.size + (fieldValue line).length + 1
    if maxFrameSize < size then none
    else some (none, ⟨reader.data ++ [fieldValue line], size⟩)
  else some (none, reader)

def SseReader.takeLines (reader : SseReader) (provider : String) (lines : List JsString)
    (outcome : Except ProviderResponseError Unit) : Generated :=
  match lines with
  | [] => ⟨[], outcome⟩
  | line :: rest =>
      match reader.take line with
      | none => ⟨[], .error ⟨provider⟩⟩
      | some (event, next) =>
          ⟨event.toList ++ (next.takeLines provider rest outcome).yielded,
            (next.takeLines provider rest outcome).outcome⟩

def readSseData (provider : String) (body : Option (List (List UInt8))) : Generated :=
  SseReader.takeLines ⟨[], 0⟩ provider (readLines provider body).yielded
    (readLines provider body).outcome

/-! ### A piece at a time -/

theorem scan_oversized {pending : JsString} (long : maxFrameSize < pending.length)
    (decoded : JsString) : scan pending decoded = ([], none) := by
  induction decoded generalizing pending with
  | nil => rw [scan, if_pos long]
  | cons unit rest ih =>
      by_cases ends : unit = lineFeed
      · rw [scan, if_pos ends, if_pos long]
      · rw [scan, if_neg ends]
        apply ih
        rw [List.length_append]
        omega

/-- Two pieces are scanned like their concatenation. -/
theorem scan_append (pending left right : JsString) :
    scan pending (left ++ right) =
      match scan pending left with
      | (lines, none) => (lines, none)
      | (lines, some later) => (lines ++ (scan later right).1, (scan later right).2) := by
  induction left generalizing pending with
  | nil =>
      by_cases long : maxFrameSize < pending.length
      · rw [List.nil_append, scan_oversized long, scan, if_pos long]
      · rw [List.nil_append, scan, if_neg long]
        rfl
  | cons unit rest ih =>
      by_cases ends : unit = lineFeed
      · by_cases long : maxFrameSize < pending.length
        · rw [scan_oversized long, scan_oversized long]
        · rw [List.cons_append, scan, if_pos ends, if_neg long, scan, if_pos ends, if_neg long, ih]
          rcases scan [] rest with ⟨lines, - | later⟩ <;> rfl
      · rw [List.cons_append, scan, if_neg ends, scan, if_neg ends, ih]

theorem pending_of_scan {pending decoded later : JsString}
    (scanned : (scan pending decoded).2 = some later) : later.length ≤ maxFrameSize := by
  induction decoded generalizing pending with
  | nil =>
      rw [scan] at scanned
      split at scanned
      · simp at scanned
      · rw [← Option.some.inj scanned]
        omega
  | cons unit rest ih =>
      rw [scan] at scanned
      split at scanned
      · split at scanned
        · simp at scanned
        · exact ih scanned
      · exact ih scanned

/-! ### The reference -/

def segments (text : JsString) : List JsString := text.splitOn lineFeed

/-- The segments of a text, without an empty one at its end. -/
def textLines (text : JsString) : List JsString :=
  if (segments text).getLast? = some [] then (segments text).dropLast else segments text

/-- The lines of a text that are terminated. -/
def completeLines (text : JsString) : List JsString :=
  (segments text).dropLast.map withoutCarriage

def fits (segment : JsString) : Bool := segment.length ≤ maxFrameSize

theorem segments_of_plain {text : JsString} (plain : lineFeed ∉ text) : segments text = [text] :=
  List.splitOn_eq_singleton plain

theorem segments_line {text : JsString} (plain : lineFeed ∉ text) (rest : JsString) :
    segments (text ++ lineFeed :: rest) = text :: segments rest :=
  List.splitOn_append_cons_self_of_not_mem plain rest

theorem segments_ne_nil (text : JsString) : segments text ≠ [] :=
  List.splitOn_ne_nil _ _

theorem scan_eq {pending : JsString} (plain : lineFeed ∉ pending) (decoded : JsString) :
    scan pending decoded =
      (((segments (pending ++ decoded)).dropLast.takeWhile fits).map withoutCarriage,
        if (segments (pending ++ decoded)).all fits then
          (segments (pending ++ decoded)).getLast? else none) := by
  induction decoded generalizing pending with
  | nil =>
      rw [List.append_nil, segments_of_plain plain, scan]
      by_cases long : maxFrameSize < pending.length
      · simp [fits, long]
      · simp [fits, long, Nat.not_lt.mp long]
  | cons unit rest ih =>
      by_cases ends : unit = lineFeed
      · have kept := List.dropLast_cons_of_ne_nil (x := pending) (segments_ne_nil rest)
        rw [ends, segments_line plain, scan, if_pos rfl, kept, List.takeWhile_cons]
        by_cases long : maxFrameSize < pending.length
        · simp [fits, long]
        · rw [if_neg long, ih List.not_mem_nil, List.nil_append,
            List.getLast?_cons_of_ne_nil (segments_ne_nil rest)]
          simp [fits, Nat.not_lt.mp long]
      · have still : lineFeed ∉ pending ++ [unit] := by
          simpa [plain] using fun same => ends same.symm
        rw [scan, if_neg ends, ih still, List.append_assoc, List.singleton_append]

theorem scan_line {line : JsString} (plain : lineFeed ∉ line) (short : line.length ≤ maxFrameSize)
    (rest : JsString) :
    scan [] (line ++ lineFeed :: rest) =
      (withoutCarriage line :: (scan [] rest).1, (scan [] rest).2) := by
  have pending : scan [] line = ([], some line) := by
    rw [scan_eq List.not_mem_nil, List.nil_append, segments_of_plain plain]
    simp [fits, short]
  rw [scan_append, pending]
  dsimp only
  rw [scan, if_pos rfl, if_neg (Nat.not_lt.mpr short), List.nil_append]

theorem scan_text (text : JsString) :
    scan [] text =
      (((segments text).dropLast.takeWhile fits).map withoutCarriage,
        if (segments text).all fits then (segments text).getLast? else none) :=
  scan_eq List.not_mem_nil text

theorem dropLast_modifyHead (change : JsString → JsString) (parts : List JsString) :
    (parts.modifyHead change).dropLast = parts.dropLast.modifyHead change := by
  match parts with
  | [] => rfl
  | [part] => rfl
  | part :: next :: rest => rfl

theorem modifyHead_mono (change : JsString → JsString) {left right : List JsString}
    (shorter : left <+: right) : left.modifyHead change <+: right.modifyHead change := by
  obtain ⟨rest, rfl⟩ := shorter
  cases left with
  | nil => exact List.nil_prefix
  | cons part left => exact ⟨rest, rfl⟩

/-- More text completes more lines and changes none. -/
theorem dropLast_segments_mono (text rest : JsString) :
    (segments text).dropLast <+: (segments (text ++ rest)).dropLast := by
  induction text with
  | nil => exact List.nil_prefix
  | cons unit text ih =>
      rw [List.cons_append, segments, segments, List.splitOn_cons_eq_if_modifyHead,
        List.splitOn_cons_eq_if_modifyHead]
      split_ifs with ends
      · rw [List.dropLast_cons_of_ne_nil (List.splitOn_ne_nil _ _),
          List.dropLast_cons_of_ne_nil (List.splitOn_ne_nil _ _), List.prefix_cons_inj]
        exact ih
      · rw [dropLast_modifyHead, dropLast_modifyHead]
        exact modifyHead_mono _ ih

theorem completeLines_mono {left right : JsString} (shorter : left <+: right) :
    completeLines left <+: completeLines right := by
  obtain ⟨rest, rfl⟩ := shorter
  exact (dropLast_segments_mono left rest).map withoutCarriage

theorem scan_within (text : JsString) : (scan [] text).1 <+: completeLines text := by
  rw [scan_text]
  exact (List.takeWhile_prefix fits).map withoutCarriage

/-! ### Chunks -/

namespace LineReader

/-- The reader has read the bytes, decoded the text and yielded the lines. -/
structure Reads (bytes : List UInt8) (text : JsString) (lines : List JsString)
    (reader : LineReader) : Prop where
  written : TextDecoder.Written bytes text reader.decoder
  scanned : scan [] text = (lines, some reader.pending)

theorem reads_start : Reads [] [] [] start := ⟨TextDecoder.written_start, rfl⟩

variable {bytes chunk : List UInt8} {text : JsString} {lines more : List JsString}
  {reader next : LineReader}

theorem Reads.receive (reads : Reads bytes text lines reader)
    (received : reader.receive chunk = (more, some next)) :
    ∃ piece, Reads (bytes ++ chunk) (text ++ piece) (lines ++ more) next := by
  unfold LineReader.receive at received
  cases decoded : reader.decoder.decodeChunk chunk with
  | none => simp [decoded] at received
  | some result =>
      obtain ⟨piece, decoder⟩ := result
      simp only [decoded, Prod.mk.injEq, Option.map_eq_some_iff] at received
      obtain ⟨rfl, pending, scanned, rfl⟩ := received
      refine ⟨piece, reads.written.decodeChunk decoded, ?_⟩
      rw [scan_append, reads.scanned]
      dsimp only
      rw [scanned]

theorem Reads.failed (reads : Reads bytes text lines reader)
    (received : reader.receive chunk = (more, none)) :
    (more = [] ∧ ∀ rest, Utf8.decode (bytes ++ (chunk ++ rest)) = none) ∨
      ∃ piece decoder, TextDecoder.Written (bytes ++ chunk) (text ++ piece) decoder ∧
        scan [] (text ++ piece) = (lines ++ more, none) := by
  unfold LineReader.receive at received
  cases decoded : reader.decoder.decodeChunk chunk with
  | none =>
      simp only [decoded, Prod.mk.injEq] at received
      exact Or.inl ⟨received.1.symm, reads.written.refused decoded⟩
  | some result =>
      obtain ⟨piece, decoder⟩ := result
      simp only [decoded, Prod.mk.injEq, Option.map_eq_none_iff] at received
      refine Or.inr ⟨piece, decoder, reads.written.decodeChunk decoded, ?_⟩
      rw [scan_append, reads.scanned]
      dsimp only
      rw [received.1, received.2]

theorem Reads.close (reads : Reads bytes text lines reader) (provider : String) :
    (Utf8.decode bytes = none ∧ reader.close provider = ⟨[], .error ⟨provider⟩⟩) ∨
      Utf8.decode bytes = some text ∧
        Generated.mk (lines ++ (reader.close provider).yielded) (reader.close provider).outcome =
          finish provider (scan [] text) := by
  unfold LineReader.close
  cases flushed : reader.decoder.flush with
  | none => exact Or.inl ⟨reads.written.unfinished flushed, rfl⟩
  | some tail =>
      obtain ⟨rfl, valid⟩ := reads.written.flush flushed
      have short : ¬maxFrameSize < reader.pending.length :=
        Nat.not_lt.mpr (pending_of_scan (congrArg Prod.snd reads.scanned))
      refine Or.inr ⟨valid, ?_⟩
      rw [reads.scanned]
      dsimp only
      rw [scan, if_neg short]
      rfl

theorem Reads.readChunks_valid {chunks : List (List UInt8)} {whole : JsString}
    (reads : Reads bytes text lines reader)
    (valid : Utf8.decode (bytes ++ chunks.flatten) = some whole) (provider : String) :
    Generated.mk (lines ++ (reader.readChunks provider chunks).yielded)
        (reader.readChunks provider chunks).outcome =
      finish provider (scan [] whole) := by
  induction chunks generalizing bytes text lines reader with
  | nil =>
      rw [List.flatten_nil, List.append_nil] at valid
      rcases reads.close provider with ⟨invalid, -⟩ | ⟨decoded, closed⟩
      · simp [invalid] at valid
      · rw [decoded, Option.some.injEq] at valid
        rw [← valid]
        exact closed
  | cons chunk rest ih =>
      rw [List.flatten_cons] at valid
      rw [LineReader.readChunks]
      cases received : reader.receive chunk with
      | mk more after =>
          cases after with
          | some next =>
              obtain ⟨piece, later⟩ := reads.receive received
              rw [← List.append_assoc] at valid
              rw [← ih later valid, List.append_assoc]
          | none =>
              rcases reads.failed received with ⟨-, invalid⟩ | ⟨piece, decoder, written, long⟩
              · rw [invalid] at valid
                simp at valid
              · obtain ⟨part, within, decoded⟩ := written.whole
                rw [← List.append_assoc] at valid
                obtain ⟨tail, rfl⟩ := Utf8.decode_mono
                  (within.trans (List.prefix_append _ rest.flatten)) decoded valid
                rw [scan_append, long]
                rfl

theorem Reads.readChunks_invalid {chunks : List (List UInt8)}
    (reads : Reads bytes text lines reader)
    (invalid : Utf8.decode (bytes ++ chunks.flatten) = none) (provider : String) :
    (reader.readChunks provider chunks).outcome = .error ⟨provider⟩ ∧
      ∃ part decoded, part <+: bytes ++ chunks.flatten ∧ Utf8.decode part = some decoded ∧
        lines ++ (reader.readChunks provider chunks).yielded = (scan [] decoded).1 := by
  induction chunks generalizing bytes text lines reader with
  | nil =>
      rw [List.flatten_nil, List.append_nil] at invalid
      rcases reads.close provider with ⟨-, closed⟩ | ⟨valid, -⟩
      · obtain ⟨part, within, decoded⟩ := reads.written.whole
        rw [LineReader.readChunks, closed]
        refine ⟨rfl, part, text, by simpa using within, decoded, ?_⟩
        rw [reads.scanned, List.append_nil]
      · simp [valid] at invalid
  | cons chunk rest ih =>
      rw [List.flatten_cons] at invalid ⊢
      rw [LineReader.readChunks]
      cases received : reader.receive chunk with
      | mk more after =>
          cases after with
          | some next =>
              obtain ⟨piece, later⟩ := reads.receive received
              rw [← List.append_assoc] at invalid ⊢
              obtain ⟨failed, part, decoded, within, valid, yielded⟩ := ih later invalid
              refine ⟨failed, part, decoded, within, valid, ?_⟩
              rw [← yielded, List.append_assoc]
          | none =>
              rcases reads.failed received with ⟨rfl, -⟩ | ⟨piece, decoder, written, long⟩
              · obtain ⟨part, within, decoded⟩ := reads.written.whole
                refine ⟨rfl, part, text, within.trans (List.prefix_append _ _), decoded, ?_⟩
                rw [reads.scanned, List.append_nil]
              · obtain ⟨part, within, decoded⟩ := written.whole
                refine ⟨rfl, part, text ++ piece, ?_, decoded, by rw [long]⟩
                rw [← List.append_assoc]
                exact within.trans (List.prefix_append _ _)

theorem Reads.after {chunks : List (List UInt8)} (reads : Reads bytes text lines reader)
    (reached : reader.after chunks = some next) :
    ∃ text lines, Reads (bytes ++ chunks.flatten) text lines next := by
  induction chunks generalizing bytes text lines reader with
  | nil =>
      rw [LineReader.after, Option.some.injEq] at reached
      exact ⟨text, lines, by rw [← reached, List.flatten_nil, List.append_nil]; exact reads⟩
  | cons chunk rest ih =>
      obtain ⟨middle, received, later⟩ := Option.bind_eq_some_iff.mp reached
      obtain ⟨piece, reads⟩ := reads.receive (Prod.ext rfl received)
      obtain ⟨text, lines, reads⟩ := ih reads later
      exact ⟨text, lines, by rw [List.flatten_cons, ← List.append_assoc]; exact reads⟩

end LineReader

/-! ### The whole body -/

theorem exists_oversized_iff (parts : List JsString) :
    (∃ segment ∈ parts, maxFrameSize < segment.length) ↔ parts.all fits = false := by
  rw [List.all_eq_false]
  simp [fits]

theorem takeWhile_all {parts : List JsString} (short : parts.all fits = true)
    (rest : List JsString) : (parts ++ rest).takeWhile fits = parts ++ rest.takeWhile fits :=
  List.takeWhile_append_of_pos (List.all_eq_true.mp short)

theorem takeWhile_not_all {parts : List JsString} (long : parts.all fits = false)
    (rest : List JsString) : (parts ++ rest).takeWhile fits = parts.takeWhile fits := by
  induction parts with
  | nil => simp at long
  | cons part parts ih =>
      rw [List.cons_append, List.takeWhile_cons, List.takeWhile_cons]
      cases short : fits part with
      | true =>
          rw [List.all_cons, short, Bool.true_and] at long
          simp [ih long]
      | false => simp

theorem finish_scan (provider : String) (text : JsString) :
    finish provider (scan [] text) =
      ⟨((textLines text).takeWhile fits).map withoutCarriage,
        if ∃ segment ∈ textLines text, maxFrameSize < segment.length then .error ⟨provider⟩
        else .ok ()⟩ := by
  obtain ⟨parts, last, split⟩ := (List.eq_nil_or_concat (segments text)).resolve_left
    (segments_ne_nil text)
  rw [List.concat_eq_append] at split
  simp only [scan_text, textLines, split, List.dropLast_concat, List.getLast?_concat,
    Option.some.injEq, List.all_append, List.all_cons, List.all_nil, Bool.and_true,
    exists_oversized_iff]
  cases short : parts.all fits with
  | true =>
      have kept : parts.takeWhile fits = parts := by simpa using takeWhile_all short []
      cases shortLast : fits last with
      | true =>
          by_cases empty : last = []
          · simp [empty, short, kept, finish, lastLine]
          · simp [empty, short, shortLast, kept, takeWhile_all, finish, lastLine]
      | false =>
          have written : last ≠ [] := by
            rintro rfl
            simp [fits] at shortLast
          simp [written, short, shortLast, kept, takeWhile_all, finish]
  | false =>
      by_cases empty : last = []
      · simp [empty, short, finish]
      · simp [empty, short, takeWhile_not_all, finish]

theorem readLines_valid {chunks : List (List UInt8)} {text : JsString}
    (valid : Utf8.decode chunks.flatten = some text) (provider : String) :
    readLines provider (some chunks) = finish provider (scan [] text) :=
  LineReader.reads_start.readChunks_valid valid provider

theorem readLines_invalid {chunks : List (List UInt8)}
    (invalid : Utf8.decode chunks.flatten = none) (provider : String) :
    (readLines provider (some chunks)).outcome = .error ⟨provider⟩ ∧
      ∃ text, Utf8.decode (Utf8.longestValid chunks.flatten) = some text ∧
        (readLines provider (some chunks)).yielded <+: completeLines text := by
  obtain ⟨failed, part, decoded, within, valid, yielded⟩ :=
    LineReader.reads_start.readChunks_invalid invalid provider
  have longest := Utf8.isPrefix_longestValid within (by rw [valid]; rfl)
  obtain ⟨text, whole⟩ := Option.isSome_iff_exists.mp (Utf8.decode_longestValid chunks.flatten)
  refine ⟨failed, text, whole, ?_⟩
  rw [List.nil_append] at yielded
  rw [readLines, yielded]
  exact (scan_within decoded).trans (completeLines_mono (Utf8.decode_mono longest valid whole))

/-- Whatever the chunks, valid bytes give the lines of their text up to the first
one that is too long; invalid bytes always fail, after lines of their longest valid
part.  The pending text stays within the limit. -/
theorem readLines_eq_reference (provider : String) (chunks : List (List UInt8)) :
    (∀ text, Utf8.decode chunks.flatten = some text →
      (readLines provider (some chunks)).yielded =
          ((textLines text).takeWhile fits).map withoutCarriage ∧
        ((readLines provider (some chunks)).outcome = .error ⟨provider⟩ ↔
          ∃ segment ∈ textLines text, maxFrameSize < segment.length) ∧
        ((readLines provider (some chunks)).outcome = .ok () ↔
          ∀ segment ∈ textLines text, segment.length ≤ maxFrameSize) ∧
        ∀ others : List (List UInt8), others.flatten = chunks.flatten →
          readLines provider (some others) = readLines provider (some chunks)) ∧
      (Utf8.decode chunks.flatten = none →
        (readLines provider (some chunks)).outcome = .error ⟨provider⟩ ∧
          ∃ text, Utf8.decode (Utf8.longestValid chunks.flatten) = some text ∧
            (readLines provider (some chunks)).yielded <+: completeLines text) ∧
      ∀ reader, LineReader.start.after chunks = some reader →
        reader.pending.length ≤ maxFrameSize := by
  refine ⟨?_, fun invalid => readLines_invalid invalid provider, ?_⟩
  · intro text valid
    have read := readLines_valid valid provider
    rw [finish_scan] at read
    refine ⟨by rw [read], ?_, ?_, ?_⟩
    · rw [read]
      dsimp only
      split_ifs with long
      · simp [long]
      · simp [long]
    · rw [read]
      dsimp only
      split_ifs with long
      · obtain ⟨segment, member, oversized⟩ := long
        simp only [false_iff, not_forall]
        exact ⟨segment, member, Nat.not_le.mpr oversized⟩
      · simpa using long
    · intro others same
      rw [readLines_valid (same ▸ valid) provider, readLines_valid valid provider]
  · intro reader reached
    obtain ⟨text, lines, reads⟩ := LineReader.reads_start.after reached
    exact pending_of_scan (congrArg Prod.snd reads.scanned)

end ModelMux.Providers
