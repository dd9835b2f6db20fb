import Offload.Simulator.Object

/-! What the simulated runtime holds: its platforms and devices, the objects made so far
and the profiling clock. Looking up an object of one kind refuses all others. -/
namespace Offload.Simulator

/-- Why a call is not carried out: it answers with a status, or runs into a fault. -/
inductive Refusal where
  | status (code : Int)
  | fault (fault : Fault)
  deriving DecidableEq, Repr

/-- Refuses a call with a listed error. -/
def refuse {α : Type} (error : NativeError) : Except Refusal α := .error (.status error.code)

/-- Refuses a call with a listed error unless the condition holds. -/
def require (condition : Bool) (error : NativeError) : Except Refusal Unit :=
  if condition then .ok () else refuse error

/-- Asks for memory for an object. -/
def reserve (size : Nat) : Except Refusal Unit := (Offload.reserve size).mapError .fault

/-- `devices` counts the devices of each platform, `made` the objects ever stored. -/
structure Store where
  platforms : Nat := 1
  devices : Nat := 1
  made : Nat := 0
  objects : Table := []
  clock : Nat := 0
  deriving DecidableEq, Repr

/-- The error of a handle that names no object of the expected kind. -/
def invalid : ObjectKind → NativeError
  | .context => .invalidContext
  | .queue => .invalidCommandQueue
  | .memory => .invalidMemObject
  | .program => .invalidProgram
  | .kernel => .invalidKernel
  | .event => .invalidEvent

/-- The handle of the object that is stored as the given one in order, counted from one. -/
def handleOf (number : Nat) : Nat := 0x10000000 + 16 * number

namespace Store

def context (store : Store) (id : Nat) : Except Refusal (List Nat) :=
  match store.objects.find? id with
  | some (.context devices) => .ok devices
  | _ => refuse (invalid .context)

def queue (store : Store) (id : Nat) : Except Refusal UInt64 :=
  match store.objects.find? id with
  | some (.queue properties) => .ok properties
  | _ => refuse (invalid .queue)

def memory (store : Store) (id : Nat) : Except Refusal Memory :=
  match store.objects.find? id with
  | some (.memory memory) => .ok memory
  | _ => refuse (invalid .memory)

def program (store : Store) (id : Nat) : Except Refusal Program :=
  match store.objects.find? id with
  | some (.program program) => .ok program
  | _ => refuse (invalid .program)

def kernel (store : Store) (id : Nat) : Except Refusal Kernel :=
  match store.objects.find? id with
  | some (.kernel kernel) => .ok kernel
  | _ => refuse (invalid .kernel)

def event (store : Store) (id : Nat) : Except Refusal Event :=
  match store.objects.find? id with
  | some (.event event) => .ok event
  | _ => refuse (invalid .event)

/-- The bytes of a memory object, none where there is no such object. -/
def contents (store : Store) (id : Nat) : Bytes :=
  match store.memory id with
  | .ok memory => memory.data.bytes
  | .error _ => []

/-- Stores a new object under the next handle. -/
def add (store : Store) (object : Object) : Nat × Store :=
  let id := handleOf (store.made + 1)
  (id, { store with made := store.made + 1, objects := store.objects.insert id object })

def replace (store : Store) (id : Nat) (object : Object) : Store :=
  { store with objects := store.objects.replace id object }

/-- Removes the object of a handle, which has to be of the given kind. -/
def remove (store : Store) (kind : ObjectKind) (id : Nat) : Except Refusal Store :=
  match store.objects.find? id with
  | some object =>
    if object.kind = kind then .ok { store with objects := store.objects.erase id }
    else refuse (invalid kind)
  | none => refuse (invalid kind)

end Store
end Offload.Simulator
