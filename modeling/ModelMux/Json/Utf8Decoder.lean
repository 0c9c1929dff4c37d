/-
The incremental decoder behind a streaming `TextDecoder`.

The decoder takes one byte at a time and carries an unfinished character from
one call to the next, so the text it has written after some calls depends on the
bytes alone and not on how they were cut.
-/

import ModelMux.Json.Utf8
import Mathlib.Data.List.Induction
import Mathlib.Data.Nat.Find

namespace ModelMux

namespace Utf8

/-! ### One byte at a time -/

/-- The decoder between two bytes: the bits of the current character, the number
of bytes that it still lacks and the bounds of the next one. -/
structure Decoder where
  codePoint : Nat
  needed : Nat
  lower : Nat
  upper : Nat
deriving DecidableEq

namespace Decoder

def start : Decoder := ⟨0, 0, 0x80, 0xBF⟩

def secondLower (byte : UInt8) : Nat :=
  if byte = 0xE0 then 0xA0 else if byte = 0xF0 then 0x90 else 0x80

def secondUpper (byte : UInt8) : Nat :=
  if byte = 0xED then 0x9F else if byte = 0xF4 then 0x8F else 0xBF

def lead (byte : UInt8) : Option (Decoder × Option Nat) :=
  if byte.toNat < 0x80 then some (start, some byte.toNat)
  else if isWithin 0xC2 0xDF byte then some (⟨byte.toNat - 0xC0, 1, 0x80, 0xBF⟩, none)
  else if isWithin 0xE0 0xEF byte then
    some (⟨byte.toNat - 0xE0, 2, secondLower byte, secondUpper byte⟩, none)
  else if isWithin 0xF0 0xF4 byte then
    some (⟨byte.toNat - 0xF0, 3, secondLower byte, secondUpper byte⟩, none)
  else none

def continued (decoder : Decoder) (byte : UInt8) : Option (Decoder × Option Nat) :=
  if isWithin decoder.lower decoder.upper byte then
    let codePoint := decoder.codePoint * 0x40 + tailValue byte
    if decoder.needed = 1 then some (start, some codePoint)
    else some (⟨codePoint, decoder.needed - 1, 0x80, 0xBF⟩, none)
  else none

/-- The decoder's handler: the scalar value that the byte completes, if any, and
`none` for an error. -/
def push (decoder : Decoder) (byte : UInt8) : Option (Decoder × Option Nat) :=
  if decoder.needed = 0 then lead byte else decoder.continued byte

def feed (decoder : Decoder) : List UInt8 → Option (Decoder × List Nat)
  | [] => some (decoder, [])
  | byte :: rest =>
      (decoder.push byte).bind (fun pushed =>
        (pushed.1.feed rest).map (fun fed => (fed.1, pushed.2.toList ++ fed.2)))

theorem feed_append (decoder : Decoder) (left right : List UInt8) :
    decoder.feed (left ++ right) =
      (decoder.feed left).bind (fun first =>
        (first.1.feed right).map (fun second => (second.1, first.2 ++ second.2))) := by
  induction left generalizing decoder with
  | nil => simp [feed]
  | cons byte rest ih =>
      rw [List.cons_append, feed, feed]
      cases decoder.push byte with
      | none => rfl
      | some pushed =>
          simp only [Option.bind_some, ih]
          cases pushed.1.feed rest with
          | none => rfl
          | some first =>
              simp only [Option.bind_some, Option.map_some, Option.map_map]
              congr 1
              funext second
              simp

theorem start_of_push {decoder next : Decoder} {byte : UInt8} {scalar : Nat}
    (pushed : decoder.push byte = some (next, some scalar)) : next = start := by
  simp only [push, lead, continued] at pushed
  split_ifs at pushed <;> simp_all

theorem needed_of_push {decoder next : Decoder} {byte : UInt8}
    (pushed : decoder.push byte = some (next, none)) : next.needed ≠ 0 := by
  simp only [push, lead, continued] at pushed
  split_ifs at pushed <;> simp at pushed <;> simp [← pushed]
  omega

/-- Up to the character that is unfinished, the bytes are a text of their own. -/
theorem feed_split {bytes : List UInt8} {decoder : Decoder} {scalars : List Nat}
    (fed : start.feed bytes = some (decoder, scalars)) :
    ∃ whole rest, bytes = whole ++ rest ∧ start.feed whole = some (start, scalars) ∧
      (decoder.needed = 0 → rest = [] ∧ decoder = start) := by
  induction bytes using List.reverseRecOn generalizing decoder scalars with
  | nil =>
      rw [feed, Option.some.injEq, Prod.mk.injEq] at fed
      exact ⟨[], [], rfl, by rw [feed, ← fed.2], fun _ => ⟨rfl, fed.1.symm⟩⟩
  | append_singleton bytes byte ih =>
      have whole := fed
      rw [feed_append] at fed
      obtain ⟨⟨middle, earlier⟩, first, second⟩ := Option.bind_eq_some_iff.mp fed
      simp only [feed, Option.map_some, List.append_nil, Option.map_eq_some_iff,
        Option.bind_eq_some_iff, Prod.exists, Prod.mk.injEq] at second
      obtain ⟨next, last, ⟨next', scalar, pushed, same⟩, ended, appended⟩ := second
      simp only [Option.some.injEq, Prod.mk.injEq] at same
      obtain ⟨rfl, rfl⟩ := same
      cases scalar with
      | none =>
          obtain ⟨left, right, split, kept, -⟩ := ih first
          simp only [Option.toList_none, List.append_nil] at appended
          refine ⟨left, right ++ [byte], by rw [split, List.append_assoc], appended ▸ kept, ?_⟩
          intro none
          exact absurd (ended ▸ none) (needed_of_push pushed)
      | some scalar =>
          have fresh : decoder = start := by
            rw [← ended]
            exact start_of_push pushed
          exact ⟨bytes ++ [byte], [], by simp, fresh ▸ whole, fun _ => ⟨rfl, fresh⟩⟩

/-! ### Whole texts -/

/-- The scalar values of bytes after which the text ends; there an unfinished
character is an error. -/
def read (decoder : Decoder) (bytes : List UInt8) : Option (List Nat) :=
  (decoder.feed bytes).bind (fun fed => if fed.1.needed = 0 then some fed.2 else none)

theorem read_append (decoder : Decoder) (left right : List UInt8) :
    decoder.read (left ++ right) =
      (decoder.feed left).bind (fun fed => (fed.1.read right).map (fed.2 ++ ·)) := by
  rw [read, feed_append, Option.bind_assoc]
  congr 1
  funext first
  rw [read]
  cases first.1.feed right with
  | none => rfl
  | some second =>
      simp only [Option.map_some, Option.bind_some]
      split_ifs <;> rfl

theorem read_nil (decoder : Decoder) :
    decoder.read [] = if decoder.needed = 0 then some [] else none := rfl

theorem read_cons (decoder : Decoder) (byte : UInt8) (rest : List UInt8) :
    decoder.read (byte :: rest) =
      (decoder.push byte).bind (fun pushed =>
        (pushed.1.read rest).map (pushed.2.toList ++ ·)) := by
  rw [← List.singleton_append, read_append, feed]
  cases decoder.push byte with
  | none => rfl
  | some pushed => simp [feed]

theorem read_cons_of_push {decoder next : Decoder} {byte : UInt8}
    (pushed : decoder.push byte = some (next, none)) (rest : List UInt8) :
    decoder.read (byte :: rest) = next.read rest := by
  simp [read_cons, pushed]

theorem read_last_cons (codePoint lower upper : Nat) (byte : UInt8) (rest : List UInt8) :
    (Decoder.mk codePoint 1 lower upper).read (byte :: rest) =
      if isWithin lower upper byte then
        (start.read rest).map (List.cons (codePoint * 0x40 + tailValue byte))
      else none := by
  rw [read_cons]
  by_cases within : isWithin lower upper byte = true
  · simp [push, continued, within]
  · simp [push, continued, within]

theorem read_more_cons (codePoint needed lower upper : Nat) (byte : UInt8) (rest : List UInt8) :
    (Decoder.mk codePoint (needed + 2) lower upper).read (byte :: rest) =
      if isWithin lower upper byte then
        (Decoder.mk (codePoint * 0x40 + tailValue byte) (needed + 1) 0x80 0xBF).read rest
      else none := by
  by_cases within : isWithin lower upper byte = true
  · rw [if_pos within]
    exact read_cons_of_push (by simp [push, continued, within]) rest
  · simp [read_cons, push, continued, within]

theorem read_unfinished (codePoint needed lower upper : Nat) :
    (Decoder.mk codePoint (needed + 1) lower upper).read [] = none := rfl

theorem read_two {first : UInt8} (notOne : ¬first.toNat < 0x80)
    (two : isWithin 0xC2 0xDF first = true) (rest : List UInt8) :
    start.read (first :: rest) = (Decoder.mk (first.toNat - 0xC0) 1 0x80 0xBF).read rest :=
  read_cons_of_push (by simp [push, start, lead, notOne, two]) rest

theorem read_three {first : UInt8} (notOne : ¬first.toNat < 0x80)
    (notTwo : ¬isWithin 0xC2 0xDF first = true) (three : isWithin 0xE0 0xEF first = true)
    (rest : List UInt8) :
    start.read (first :: rest) =
      (Decoder.mk (first.toNat - 0xE0) 2 (secondLower first) (secondUpper first)).read rest :=
  read_cons_of_push (by simp [push, start, lead, notOne, notTwo, three]) rest

theorem read_four {first : UInt8} (notOne : ¬first.toNat < 0x80)
    (notTwo : ¬isWithin 0xC2 0xDF first = true) (notThree : ¬isWithin 0xE0 0xEF first = true)
    (four : isWithin 0xF0 0xF4 first = true) (rest : List UInt8) :
    start.read (first :: rest) =
      (Decoder.mk (first.toNat - 0xF0) 3 (secondLower first) (secondUpper first)).read rest :=
  read_cons_of_push (by simp [push, start, lead, notOne, notTwo, notThree, four]) rest

/-- The decoder reads what the decoder of whole texts reads. -/
theorem decodeScalars_eq_read (bytes : List UInt8) : decodeScalars bytes = start.read bytes := by
  fun_induction decodeScalars bytes with
  | case1 => rfl
  | case2 first rest one ih =>
      rw [ih, read_cons]
      simp [push, start, lead, one]
  | case3 first notOne two second rest tail ih =>
      rw [isTail] at tail
      rw [ih, read_two notOne two, read_last_cons, if_pos tail]
  | case4 first notOne two second rest noTail =>
      rw [isTail] at noTail
      rw [read_two notOne two, read_last_cons, if_neg noTail]
  | case5 first rest notOne two short =>
      rw [read_two notOne two]
      cases rest with
      | nil => rfl
      | cons second rest => exact (short second rest rfl).elim
  | case6 first notOne notTwo three second third rest tails ih =>
      rw [Bool.and_eq_true, isTail] at tails
      have bounded : isWithin (secondLower first) (secondUpper first) second = true := tails.1
      have value : (first.toNat - 0xE0) * 0x1000 + tailValue second * 0x40 + tailValue third =
          ((first.toNat - 0xE0) * 0x40 + tailValue second) * 0x40 + tailValue third := by
        omega
      rw [ih, read_three notOne notTwo three, read_more_cons, if_pos bounded, read_last_cons,
        if_pos tails.2, value]
  | case7 first notOne notTwo three second third rest noTails =>
      rw [Bool.and_eq_true, not_and] at noTails
      rw [read_three notOne notTwo three, read_more_cons, read_last_cons]
      split_ifs with within tail
      · exact (noTails within tail).elim
      · rfl
      · rfl
  | case8 first rest notOne notTwo three short =>
      rw [read_three notOne notTwo three]
      rcases rest with - | ⟨second, - | ⟨third, rest⟩⟩
      · rfl
      · rw [read_more_cons, read_unfinished, ite_self]
      · exact (short second third rest rfl).elim
  | case9 first notOne notTwo notThree four second third fourth rest tails ih =>
      rw [Bool.and_eq_true, Bool.and_eq_true, isTail, isTail] at tails
      have bounded : isWithin (secondLower first) (secondUpper first) second = true := tails.1.1
      have value : (first.toNat - 0xF0) * 0x40000 + tailValue second * 0x1000 +
            tailValue third * 0x40 + tailValue fourth =
          (((first.toNat - 0xF0) * 0x40 + tailValue second) * 0x40 + tailValue third) * 0x40 +
            tailValue fourth := by
        omega
      rw [ih, read_four notOne notTwo notThree four, read_more_cons, if_pos bounded,
        read_more_cons, if_pos tails.1.2, read_last_cons, if_pos tails.2, value]
  | case10 first notOne notTwo notThree four second third fourth rest noTails =>
      rw [Bool.and_eq_true, Bool.and_eq_true, not_and, and_imp] at noTails
      rw [read_four notOne notTwo notThree four, read_more_cons, read_more_cons, read_last_cons]
      split_ifs with within tail last
      · exact (noTails within tail last).elim
      · rfl
      · rfl
      · rfl
  | case11 first rest notOne notTwo notThree four short =>
      rw [read_four notOne notTwo notThree four]
      rcases rest with - | ⟨second, - | ⟨third, - | ⟨fourth, rest⟩⟩⟩
      · rfl
      · rw [read_more_cons, read_unfinished, ite_self]
      · rw [read_more_cons, read_more_cons, read_unfinished, ite_self, ite_self]
      · exact (short second third fourth rest rfl).elim
  | case12 first rest notOne notTwo notThree notFour =>
      rw [read_cons]
      simp [push, start, lead, notOne, notTwo, notThree, notFour]

end Decoder

/-! ### Calls of the decoder -/

/-- `new TextDecoder("utf-8", { fatal: true })` between two calls. -/
structure TextDecoder where
  decoder : Decoder
  markSeen : Bool

namespace TextDecoder

def start : TextDecoder := ⟨.start, false⟩

/-- `decoder.decode(chunk, { stream: true })`, with `none` for a thrown
`TypeError`. -/
def decodeChunk (state : TextDecoder) (chunk : List UInt8) : Option (JsString × TextDecoder) :=
  (state.decoder.feed chunk).map (fun fed =>
    ((if state.markSeen then fed.2 else withoutMark fed.2).flatMap scalarUnits,
      ⟨fed.1, state.markSeen || !fed.2.isEmpty⟩))

def flush (state : TextDecoder) : Option JsString :=
  if state.decoder.needed = 0 then some [] else none

/-- The decoder has read the bytes and written the text. -/
structure Written (bytes : List UInt8) (text : JsString) (state : TextDecoder) : Prop where
  read : ∃ scalars, Decoder.start.feed bytes = some (state.decoder, scalars) ∧
    text = (withoutMark scalars).flatMap scalarUnits ∧ state.markSeen = !scalars.isEmpty

theorem withoutMark_append (left right : List Nat) :
    withoutMark (left ++ right) =
      withoutMark left ++ if left.isEmpty then withoutMark right else right := by
  cases left with
  | nil => rfl
  | cons first rest =>
      by_cases mark : first = 0xFEFF
      · simp [withoutMark, mark]
      · simp [withoutMark, mark]

theorem written_start : Written [] [] start := ⟨[], rfl, rfl, rfl⟩

theorem Written.decodeChunk {bytes chunk : List UInt8} {text piece : JsString}
    {state next : TextDecoder} (written : Written bytes text state)
    (decoded : state.decodeChunk chunk = some (piece, next)) :
    Written (bytes ++ chunk) (text ++ piece) next := by
  obtain ⟨scalars, fed, rfl, marked⟩ := written.read
  obtain ⟨⟨decoder, later⟩, fedChunk, same⟩ := Option.map_eq_some_iff.mp decoded
  simp only [Prod.mk.injEq] at same
  obtain ⟨rfl, rfl⟩ := same
  refine ⟨scalars ++ later, ?_, ?_, ?_⟩
  · rw [Decoder.feed_append, fed, Option.bind_some, fedChunk, Option.map_some]
  · rw [withoutMark_append, List.flatMap_append, marked]
    cases scalars <;> rfl
  · rw [marked]
    cases scalars <;> simp

theorem Written.decode_eq {bytes : List UInt8} {text : JsString} {state : TextDecoder}
    (written : Written bytes text state) (rest : List UInt8) :
    ∃ scalars, text = (withoutMark scalars).flatMap scalarUnits ∧
      decodeScalars (bytes ++ rest) = (state.decoder.read rest).map (scalars ++ ·) := by
  obtain ⟨scalars, fed, shown, -⟩ := written.read
  exact ⟨scalars, shown, by rw [Decoder.decodeScalars_eq_read, Decoder.read_append, fed,
    Option.bind_some]⟩

/-- A chunk that is refused makes every continuation of the bytes invalid. -/
theorem Written.refused {bytes chunk : List UInt8} {text : JsString} {state : TextDecoder}
    (written : Written bytes text state) (refused : state.decodeChunk chunk = none)
    (rest : List UInt8) : decode (bytes ++ (chunk ++ rest)) = none := by
  obtain ⟨scalars, -, whole⟩ := written.decode_eq (chunk ++ rest)
  rw [TextDecoder.decodeChunk, Option.map_eq_none_iff] at refused
  rw [decode, whole, Decoder.read_append, refused]
  rfl

theorem Written.flush {bytes : List UInt8} {text tail : JsString} {state : TextDecoder}
    (written : Written bytes text state) (flushed : state.flush = some tail) :
    tail = [] ∧ decode bytes = some text := by
  obtain ⟨scalars, shown, whole⟩ := written.decode_eq []
  unfold TextDecoder.flush at flushed
  split at flushed
  · rename_i ended
    rw [List.append_nil] at whole
    refine ⟨(Option.some.inj flushed).symm, ?_⟩
    rw [decode, whole, Decoder.read_nil, if_pos ended, Option.map_some, Option.map_some,
      List.append_nil, ← shown]
  · simp at flushed

theorem Written.unfinished {bytes : List UInt8} {text : JsString} {state : TextDecoder}
    (written : Written bytes text state) (flushed : state.flush = none) :
    decode bytes = none := by
  obtain ⟨scalars, -, whole⟩ := written.decode_eq []
  unfold TextDecoder.flush at flushed
  split at flushed
  · simp at flushed
  · rename_i lacking
    rw [List.append_nil] at whole
    rw [decode, whole, Decoder.read_nil, if_neg lacking]
    rfl

theorem Written.whole {bytes : List UInt8} {text : JsString} {state : TextDecoder}
    (written : Written bytes text state) : ∃ whole, whole <+: bytes ∧ decode whole = some text := by
  obtain ⟨scalars, fed, shown, -⟩ := written.read
  obtain ⟨whole, rest, split, fedWhole, -⟩ := Decoder.feed_split fed
  refine ⟨whole, ⟨rest, split.symm⟩, ?_⟩
  rw [decode, Decoder.decodeScalars_eq_read, Decoder.read, fedWhole, shown]
  rfl

end TextDecoder

/-! ### The longest valid part -/

theorem decodeScalars_append {left : List UInt8} {scalars : List Nat}
    (valid : decodeScalars left = some scalars) (right : List UInt8) :
    decodeScalars (left ++ right) = (decodeScalars right).map (scalars ++ ·) := by
  rw [Decoder.decodeScalars_eq_read, Decoder.read, Option.bind_eq_some_iff] at valid
  obtain ⟨⟨decoder, read⟩, fed, ended⟩ := valid
  split at ended
  · rename_i none
    obtain ⟨_, _, _, _, fresh⟩ := Decoder.feed_split fed
    rw [Decoder.decodeScalars_eq_read, Decoder.decodeScalars_eq_read, Decoder.read_append, fed,
      Option.bind_some, (fresh none).2, Option.some.inj ended]
  · simp at ended

theorem decode_mono {left right : List UInt8} {leftText rightText : JsString}
    (shorter : left <+: right) (leftValid : decode left = some leftText)
    (rightValid : decode right = some rightText) : leftText <+: rightText := by
  obtain ⟨rest, rfl⟩ := shorter
  obtain ⟨scalars, read, rfl⟩ := Option.map_eq_some_iff.mp leftValid
  obtain ⟨whole, readWhole, rfl⟩ := Option.map_eq_some_iff.mp rightValid
  rw [decodeScalars_append read, Option.map_eq_some_iff] at readWhole
  obtain ⟨later, -, rfl⟩ := readWhole
  rw [TextDecoder.withoutMark_append, List.flatMap_append]
  exact List.prefix_append _ _

def longestValid (bytes : List UInt8) : List UInt8 :=
  bytes.take (Nat.findGreatest (fun count => (decode (bytes.take count)).isSome) bytes.length)

theorem decode_longestValid (bytes : List UInt8) :
    (decode (longestValid bytes)).isSome = true :=
  @Nat.findGreatest_spec 0 (fun count => (decode (bytes.take count)).isSome) _ bytes.length
    (Nat.zero_le _) rfl

theorem isPrefix_longestValid {part bytes : List UInt8} (shorter : part <+: bytes)
    (valid : (decode part).isSome = true) : part <+: longestValid bytes := by
  have cut : bytes.take part.length = part := (List.prefix_iff_eq_take.mp shorter).symm
  have reached := @Nat.le_findGreatest part.length
    (fun count => (decode (bytes.take count)).isSome) _ bytes.length shorter.length_le
    (by rw [cut]; exact valid)
  rw [longestValid, ← cut]
  exact List.take_prefix_take_left reached

end Utf8

end ModelMux
