import StyleValue.Text

/-! UTF-8. Reading reports the first bytes that do not spell a character, with their place. -/
namespace StyleValue.Utf8

inductive Reason where
  | invalidStart
  | invalidContinuation
  | unexpectedEnd
  deriving DecidableEq, Repr

def Reason.message : Reason → Text
  | .invalidStart => "invalid start byte"
  | .invalidContinuation => "invalid continuation byte"
  | .unexpectedEnd => "unexpected end of data"

/-- `count` bytes from `offset` on that are no character. The first of them is `byte`. -/
structure Fault where
  offset : Nat
  count : Nat
  byte : UInt8
  reason : Reason
  deriving DecidableEq, Repr

abbrev Bounds := UInt8 × UInt8

def continuation : Bounds := (0x80, 0xBF)

/-- What a leading byte says: its own bits and the bounds of the bytes to follow. The narrower bounds
keep out overlong forms, surrogates and numbers past the last code point. -/
def lead? (b : UInt8) : Option (Nat × List Bounds) :=
  if b < 0x80 then some (b.toNat, [])
  else if b < 0xC2 then none
  else if b < 0xE0 then some (b.toNat - 0xC0, [continuation])
  else if b = 0xE0 then some (0, [(0xA0, 0xBF), continuation])
  else if b = 0xED then some (0xD, [(0x80, 0x9F), continuation])
  else if b < 0xF0 then some (b.toNat - 0xE0, [continuation, continuation])
  else if b = 0xF0 then some (0, [(0x90, 0xBF), continuation, continuation])
  else if b < 0xF4 then some (b.toNat - 0xF0, [continuation, continuation, continuation])
  else if b = 0xF4 then some (4, [(0x80, 0x8F), continuation, continuation])
  else none

/-- A character that has begun: where, with which byte, how many of its bytes were read and what bits
they gave, and the bounds of the next byte and of those after it. -/
structure Begun where
  offset : Nat
  byte : UInt8
  count : Nat
  bits : Nat
  next : Bounds
  later : List Bounds

def Begun.fault (b : Begun) (reason : Reason) : Fault := ⟨b.offset, b.count, b.byte, reason⟩

structure Decoder where
  offset : Nat
  -- The last character stands first.
  spelled : Text
  begun : Option Begun

def Decoder.step (d : Decoder) (b : UInt8) : Except Fault Decoder :=
  match d.begun with
  | none =>
    match lead? b with
    | none => .error ⟨d.offset, 1, b, .invalidStart⟩
    | some (bits, []) => .ok ⟨d.offset + 1, Char.ofNat bits :: d.spelled, none⟩
    | some (bits, next :: later) =>
      .ok ⟨d.offset + 1, d.spelled, some ⟨d.offset, b, 1, bits, next, later⟩⟩
  | some begun =>
    if b < begun.next.1 ∨ begun.next.2 < b then .error (begun.fault .invalidContinuation)
    else
      let bits := begun.bits * 64 + (b.toNat - 0x80)
      match begun.later with
      | [] => .ok ⟨d.offset + 1, Char.ofNat bits :: d.spelled, none⟩
      | next :: later =>
        .ok ⟨d.offset + 1, d.spelled,
          some { begun with count := begun.count + 1, bits, next, later }⟩

def Decoder.finish (d : Decoder) : Except Fault Text :=
  match d.begun with
  | none => .ok d.spelled.reverse
  | some begun => .error (begun.fault .unexpectedEnd)

def decode (bytes : List UInt8) : Except Fault Text :=
  (bytes.foldlM Decoder.step ⟨0, [], none⟩).bind Decoder.finish

def encode (t : Text) : List UInt8 := t.flatMap String.utf8EncodeChar

end StyleValue.Utf8
