import Offload.Host.Action
import Offload.Scalar
import Offload.Text.Utf8

/-! Questions whose answer a driver stores in a buffer of the asker. Nothing behind the
buffer is ever read, whatever the driver reports; a length of which there can be no buffer
is a fault. -/
namespace Offload.Host

/-- A question can be put more than once, each time with another window. -/
abbrev Question (σ : Type) := Window → σ → Except Fault Response × σ

namespace Question
variable {σ : Type}

/-- An information query of a driver. -/
def info (driver : Driver σ) (query : InfoQuery) (parameter : Int) : Question σ :=
  fun window => driver (.info query parameter window)

/-- Asks with a buffer of zeros. Gives the buffer and the reported length. -/
def fetch (question : Question σ) (size : Nat) (wantLength : Bool) : Action σ (Block × Nat) := do
  let response ← Action.invoke (question ⟨size, true, wantLength⟩)
  Action.ofExcept (check response.status)
  pure ((Block.zeros size).patch response.writes, response.reported.getD 0)

/-- Asks for the length of the answer only. -/
def length (question : Question σ) : Action σ Nat := do
  let response ← Action.invoke (question ⟨0, false, true⟩)
  Action.ofExcept (check response.status)
  pure (response.reported.getD 0)

/-- The text that a buffer holds, up to the first zero byte. -/
def textOf (buffer : Block) : String := Text.Utf8.decode buffer.untilZero

/-- The text that answers a question, asked with a buffer of a fixed size. -/
def string (question : Question σ) (size : Nat) : Action σ String := do
  let (buffer, length) ← question.fetch size true
  pure (textOf (buffer.window 0 length))

/-- Asks for the length and then with a buffer that suits it. -/
def exactString (question : Question σ) : Action σ String := do
  let length ← question.length
  Action.ofFaulty (reserve length)
  let (buffer, _) ← question.fetch length false
  pure (textOf buffer)

/-- The text that answers a question, asked with a buffer of a fixed size first and, when
that is refused as too small, with one of the reported length. -/
def longString (question : Question σ) (size : Nat) : Action σ String :=
  tryCatch (question.string size) fun
    | .failed (.native .invalidValue) => question.exactString
    | stop => throw stop

/-- The number that answers a question. -/
def value (question : Question σ) (type : ScalarType) : Action σ Int := do
  let (buffer, _) ← question.fetch type.width false
  pure (type.decode buffer.bytes)

/-- The first `count` numbers of the answer to a question; missing ones are zero. -/
def array (question : Question σ) (type : ScalarType) (count : Nat) : Action σ (List Int) := do
  Action.ofFaulty (reserve (type.width * count))
  let (buffer, _) ← question.fetch (type.width * count) false
  pure (type.decodeList count buffer.bytes)

end Question
end Offload.Host
