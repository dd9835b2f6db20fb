import Offload.Progress
import Offload.Session.Slots

/-! What a step of a session answers, and what it leaves in the slots. -/
namespace Offload.Session

inductive Answer where
  | nothing
  | truth (value : Bool)
  | number (value : Int)
  | numberIfAny (value : Option Nat)
  | numbers (values : List Int)
  | text (text : String)
  | bytes (bytes : Bytes)
  | bytesIfAny (bytes : Option Bytes)
  /-- The event of a queued command. -/
  | event (handle : Nat)
  /-- The numbers in host memory after a reading command, and how the command went. -/
  | valuesRead (outcome : Except CallError Nat) (values : List Int)
  | bytesRead (outcome : Except CallError Nat) (bytes : Bytes)
  | queue (device : String) (properties : UInt64) (text : String)
  | memory (handle : Nat) (size? : Option Nat) (format? : Option String)
  | eventStatus (text : String) (isTerminal : Bool)
  | firstDevice (written : String) (isListedFirst : Bool) (name : String)
  /-- The bare results of native calls. -/
  | status (status : Int)
  | created (status : Int) (handle : Nat)
  | ids (status : Int) (ids : List Nat) (count : Nat)
  | formats (status : Int) (formats : List RawFormat) (count : Nat)
  | information (status : Int) (bytes : Bytes) (length : Nat)

/-- An answer, and the slots to keep, named by what is added to the chosen name. -/
structure Product where
  answer : Answer
  made : List (String × Slot) := []

/-- The work of a step, once all slots it names are found. -/
abbrev Work := Host.Action World Product

namespace Product

/-- A single new object. It is answered by its handle. -/
def single (route : Route) (item : Item) (handle : Nat) : Product :=
  ⟨.number handle, [("", ⟨route, item⟩)]⟩

/-- Listed things. They are numbered, and answered by their ids. -/
def listed {α : Type} (route : Route) (item : α → Item) (id : α → Nat) (objects : List α) : Product :=
  { answer := .numbers (objects.map fun object => Int.ofNat (id object))
    made := (objects.map fun object => (⟨route, item object⟩ : Slot)).zipIdx.map
      fun entry => (Text.decimal entry.2, entry.1) }

end Product

namespace Work

/-- Work that makes nothing. -/
def answering {α : Type} (action : Host.Action World α) (answer : α → Answer) : Work := do
  pure { answer := answer (← action) }

/-- Work without a result. -/
def silent (action : Host.Action World Unit) : Work := answering action fun _ => .nothing

def ofAnswer (answer : Answer) : Work := pure { answer }

/-- Work that makes one object. -/
def making {α : Type} (route : Route) (item : α → Item) (handle : α → Nat)
    (action : Host.Action World α) : Work := do
  let object ← action
  pure (.single route (item object) (handle object))

/-- A look at the simulated runtime. -/
def observing (look : Simulator.Machine → Answer) : Work := do
  pure { answer := look (← get).world.2 }

/-- A change to the simulated runtime or to the layer above it. -/
def arranging (change : World → World) : Work := do
  modify fun scene => { scene with world := change scene.world }
  pure { answer := .nothing }

end Work
end Offload.Session
