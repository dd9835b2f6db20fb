import Offload.CallError
import Offload.Text.Radix

/-! Objects that a runtime hands out by handle, and the faults of a caller: using an object after
its release, reaching outside a memory, and asking for more memory than there can be. -/
namespace Offload

/-- The kinds of objects that are owned and released. -/
inductive ObjectKind where
  | context | queue | memory | program | kernel | event
  deriving DecidableEq, Repr

def ObjectKind.name : ObjectKind → String
  | context => "context"
  | queue => "command queue"
  | memory => "memory object"
  | program => "program"
  | kernel => "kernel"
  | event => "event"

/-- A defect of the caller or of the runtime, as opposed to a reported error. -/
inductive Fault where
  /-- An object was used after its release. -/
  | released (kind : ObjectKind)
  /-- A position outside a memory of this length. -/
  | outside (length index : Nat)
  /-- A range that reaches outside a memory. -/
  | outsideRange
  /-- An error was reported where none was expected. -/
  | unexpected (error : CallError)
  /-- More memory was asked for than one piece of it can have. -/
  | tooLarge
  /-- The runtime had a fault before and serves no further call. -/
  | halted
  deriving DecidableEq, Repr

/-- What is said about a fault, where its text is fixed. -/
def Fault.message? : Fault → Option String
  | released kind => some ("use of a released OpenCL " ++ kind.name)
  | outside length index =>
    some ("index out of bounds: the len is " ++ Text.decimal length ++ " but the index is " ++
      Text.decimal index)
  | unexpected error => some ("called `Result::unwrap()` on an `Err` value: " ++ error.written)
  | tooLarge => some "capacity overflow"
  | outsideRange | halted => none

/-- The most bytes that one piece of memory can have. -/
def memoryLimit : Nat := 0x7FFFFFFFFFFFFFFF

/-- Asks for a piece of memory of so many bytes. -/
def reserve (size : Nat) : Except Fault Unit :=
  if size ≤ memoryLimit then .ok () else .error .tooLarge

theorem reserve_of_le {size : Nat} (fits : size ≤ memoryLimit) : reserve size = .ok () := if_pos fits

theorem reserve_of_lt {size : Nat} (large : memoryLimit < size) : reserve size = .error .tooLarge :=
  if_neg (Nat.not_le_of_lt large)

end Offload
