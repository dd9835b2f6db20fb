import Offload.Bytes

/-! UTF-8 text in byte strings. Decoding never fails: each maximal part that no
well-formed text continues becomes one replacement character. -/
namespace Offload.Text.Utf8

/-- The bytes of one character. -/
def encodeChar (char : Char) : Bytes :=
  let code := char.toNat
  let tail (shift : Nat) : UInt8 := UInt8.ofNat (0x80 + code / shift % 64)
  if code < 0x80 then [UInt8.ofNat code]
  else if code < 0x800 then [UInt8.ofNat (0xC0 + code / 64), tail 1]
  else if code < 0x10000 then [UInt8.ofNat (0xE0 + code / 4096), tail 64, tail 1]
  else [UInt8.ofNat (0xF0 + code / 262144), tail 4096, tail 64, tail 1]

def encode (text : List Char) : Bytes := text.flatMap encodeChar

/-- A character begun but not finished: the bits so far, the number of bytes still
owed and the bounds of the next one. -/
structure Pending where
  bits : Nat
  owed : Nat
  low : Nat
  high : Nat
  deriving DecidableEq, Repr

/-- What one byte can begin. -/
inductive Start where
  | whole (char : Char)
  | lead (begun : Pending)
  | stray

def start (byte : UInt8) : Start :=
  let code := byte.toNat
  if code < 0x80 then .whole (Char.ofNat code)
  else if code < 0xC2 then .stray
  else if code < 0xE0 then .lead ⟨code - 0xC0, 1, 0x80, 0xBF⟩
  else if code < 0xF0 then
    .lead ⟨code - 0xE0, 2, if code = 0xE0 then 0xA0 else 0x80, if code = 0xED then 0x9F else 0xBF⟩
  else if code < 0xF5 then
    .lead ⟨code - 0xF0, 3, if code = 0xF0 then 0x90 else 0x80, if code = 0xF4 then 0x8F else 0xBF⟩
  else .stray

def replacement : Char := Char.ofNat 0xFFFD

/-- A byte read where no character is open. -/
def fresh (byte : UInt8) : List Char × Option Pending :=
  match start byte with
  | .whole char => ([char], none)
  | .lead begun => ([], some begun)
  | .stray => ([replacement], none)

/-- One byte: the characters it completes and the character left open. -/
def step (pending : Option Pending) (byte : UInt8) : List Char × Option Pending :=
  match pending with
  | none => fresh byte
  | some begun =>
    if begun.low ≤ byte.toNat ∧ byte.toNat ≤ begun.high then
      let bits := begun.bits * 64 + (byte.toNat - 0x80)
      if begun.owed = 1 then ([Char.ofNat bits], none)
      else ([], some ⟨bits, begun.owed - 1, 0x80, 0xBF⟩)
    else
      let (chars, next) := fresh byte
      (replacement :: chars, next)

def decodeFrom (pending : Option Pending) : Bytes → List Char
  | [] => if pending.isSome then [replacement] else []
  | byte :: rest =>
    let (chars, next) := step pending byte
    chars ++ decodeFrom next rest

/-- The text of a byte string. -/
def decode (bytes : Bytes) : String := String.ofList (decodeFrom none bytes)

end Offload.Text.Utf8
