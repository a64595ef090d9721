/-!
# Decoding UTF-8

Bytes are read as a text when they are well-formed UTF-8. Otherwise the first fault is named: the
bytes that cannot start or continue a character, where they stand, and why.
-/
namespace CommandShell.Text.Utf8

inductive Reason
  | invalidStart
  | invalidContinuation
  | unexpectedEnd
  deriving DecidableEq, Repr

/-- The first fault: `count` bytes from position `start` on, the first of which is `lead`. -/
structure Fault where
  start : Nat
  count : Nat
  lead : UInt8
  reason : Reason
  deriving DecidableEq, Repr

/-- What the reader waits for: a first byte, or `need` more bytes of a character whose next byte
lies between `low` and `high`. -/
inductive Expect
  | lead
  | tail (start : Nat) (first : UInt8) (need : Nat) (low high : UInt8)

/-- What may follow a first byte; `none` where no character starts with it. The bounds on the
second byte rule out overlong forms, surrogates and numbers above the last code point. -/
def follow (pos : Nat) (b : UInt8) : Option Expect :=
  if b < 0x80 then some .lead
  else if b < 0xC2 then none
  else if b < 0xE0 then some (.tail pos b 1 0x80 0xBF)
  else if b = 0xE0 then some (.tail pos b 2 0xA0 0xBF)
  else if b = 0xED then some (.tail pos b 2 0x80 0x9F)
  else if b < 0xF0 then some (.tail pos b 2 0x80 0xBF)
  else if b = 0xF0 then some (.tail pos b 3 0x90 0xBF)
  else if b < 0xF4 then some (.tail pos b 3 0x80 0xBF)
  else if b = 0xF4 then some (.tail pos b 3 0x80 0x8F)
  else none

/-- The first fault at or after position `pos`. -/
def firstFault : Expect → Nat → List UInt8 → Option Fault
  | .lead, _, [] => none
  | .tail start first _ _ _, pos, [] => some ⟨start, pos - start, first, .unexpectedEnd⟩
  | .lead, pos, b :: rest =>
    match follow pos b with
    | none => some ⟨pos, 1, b, .invalidStart⟩
    | some next => firstFault next (pos + 1) rest
  | .tail start first need low high, pos, b :: rest =>
    if low ≤ b ∧ b ≤ high then
      firstFault (if need ≤ 1 then .lead else .tail start first (need - 1) 0x80 0xBF) (pos + 1) rest
    else some ⟨start, pos - start, first, .invalidContinuation⟩

/-- The fault of bytes that are not well-formed UTF-8. -/
def fault (bytes : ByteArray) : Fault :=
  (firstFault .lead 0 bytes.toList).getD ⟨0, bytes.size, bytes.data.getD 0 0, .invalidStart⟩

/-- The text that the bytes encode. -/
def decode (bytes : ByteArray) : Except Fault String :=
  if h : bytes.IsValidUTF8 then .ok (String.fromUTF8 bytes h) else .error (fault bytes)

def Reason.message : Reason → String
  | .invalidStart => "invalid start byte"
  | .invalidContinuation => "invalid continuation byte"
  | .unexpectedEnd => "unexpected end of data"

def hexByte (b : UInt8) : String :=
  String.ofList [Nat.digitChar (b.toNat / 16), Nat.digitChar (b.toNat % 16)]

def Fault.message (f : Fault) : String :=
  let span :=
    if f.count = 1 then s!"byte 0x{hexByte f.lead} in position {f.start}"
    else s!"bytes in position {f.start}-{f.start + f.count - 1}"
  s!"'utf-8' codec can't decode {span}: {f.reason.message}"

/-- Decoding undoes encoding. -/
@[simp] theorem decode_toByteArray (s : String) : decode s.toByteArray = .ok s := by
  simp only [decode, s.isValidUTF8, dif_pos]
  rfl

/-- Only the encoding of a text decodes to it. -/
theorem toByteArray_of_decode {bytes : ByteArray} {s : String} (h : decode bytes = .ok s) :
    s.toByteArray = bytes := by
  unfold decode at h
  split at h
  · cases h; rfl
  · cases h

end CommandShell.Text.Utf8
