import SqlMargin.Text.Quoted

/-! UTF-8, decoded byte by byte. Decoding stops at the first sequence that is not well formed and
says where it lies and what is wrong with it. -/
namespace SqlMargin.Text.Utf8

/-- What is wrong with a byte sequence. -/
inductive Reason where
  | invalidStart
  | invalidContinuation
  | unexpectedEnd
  deriving DecidableEq, Repr

/-- An ill-formed sequence: its first byte, and the offsets where it starts and stops. -/
structure Fault where
  byte : UInt8
  start : Nat
  stop : Nat
  reason : Reason
  deriving DecidableEq, Repr

/-- A character whose first bytes have been read: how many are missing, the bounds on the next one,
and the bits so far. -/
structure Pending where
  byte : UInt8
  start : Nat
  missing : Nat
  low : Nat
  high : Nat
  bits : Nat

/-- The character that a byte from 0x80 on begins. -/
def begin? (pos : Nat) (byte : UInt8) : Option Pending :=
  let b := byte.toNat
  if b < 0xC2 then none
  else if b < 0xE0 then some ⟨byte, pos, 1, 0x80, 0xBF, b - 0xC0⟩
  else if b = 0xE0 then some ⟨byte, pos, 2, 0xA0, 0xBF, 0⟩
  else if b = 0xED then some ⟨byte, pos, 2, 0x80, 0x9F, 0xD⟩
  else if b < 0xF0 then some ⟨byte, pos, 2, 0x80, 0xBF, b - 0xE0⟩
  else if b = 0xF0 then some ⟨byte, pos, 3, 0x90, 0xBF, 0⟩
  else if b < 0xF4 then some ⟨byte, pos, 3, 0x80, 0xBF, b - 0xF0⟩
  else if b = 0xF4 then some ⟨byte, pos, 3, 0x80, 0x8F, 4⟩
  else none

/-- Decodes from offset `pos` on, with a character pending or not. -/
def decodeFrom (pos : Nat) : Option Pending → List UInt8 → Except Fault (List Char)
  | none, [] => .ok []
  | some p, [] => .error ⟨p.byte, p.start, pos, .unexpectedEnd⟩
  | none, b :: rest =>
    if b.toNat < 0x80 then (Char.ofNat b.toNat :: ·) <$> decodeFrom (pos + 1) none rest
    else match begin? pos b with
      | none => .error ⟨b, pos, pos + 1, .invalidStart⟩
      | some p => decodeFrom (pos + 1) (some p) rest
  | some p, b :: rest =>
    if b.toNat < p.low || p.high < b.toNat then
      .error ⟨p.byte, p.start, pos, .invalidContinuation⟩
    else
      let bits := 64 * p.bits + (b.toNat - 0x80)
      if p.missing ≤ 1 then (Char.ofNat bits :: ·) <$> decodeFrom (pos + 1) none rest
      else decodeFrom (pos + 1)
        (some { p with missing := p.missing - 1, low := 0x80, high := 0xBF, bits := bits }) rest

/-- The text that bytes encode. -/
def decode (bytes : List UInt8) : Except Fault (List Char) := decodeFrom 0 none bytes

/-- The bytes of a text. -/
def encode (s : List Char) : List UInt8 := s.flatMap String.utf8EncodeChar

def Reason.message : Reason → String
  | .invalidStart => "invalid start byte"
  | .invalidContinuation => "invalid continuation byte"
  | .unexpectedEnd => "unexpected end of data"

def Fault.message (f : Fault) : String :=
  let place :=
    if f.stop = f.start + 1 then
      s!"byte 0x{String.ofList (hexDigits 2 f.byte.toNat)} in position {f.start}"
    else s!"bytes in position {f.start}-{f.stop - 1}"
  s!"'utf-8' codec can't decode {place}: {f.reason.message}"

example : (decode (encode "é€😀".toList)).toOption = some "é€😀".toList := by decide +kernel

example : decode [0x61, 0xE2, 0x82] = .error ⟨0xE2, 1, 3, .unexpectedEnd⟩ := rfl

end SqlMargin.Text.Utf8
