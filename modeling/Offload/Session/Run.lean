import Offload.Session.Allocation
import Offload.Session.Compilation
import Offload.Session.Controls
import Offload.Session.Discovery
import Offload.Session.Ownership
import Offload.Session.Queueing

/-! Running sessions. Each step finds its slots, does its work and files what it made; at
the end all slots are dropped in ascending order of their names. -/
namespace Offload.Session

inductive Job where
  | discovery (job : Discovery)
  | allocation (job : Allocation)
  | compilation (job : Compilation)
  | queueing (job : Queueing)
  | ownership (job : Ownership)
  | controls (job : Controls)
  | native (call : NativeCall)
  | release (slot : String)
  | drop (slot : String)

/-- A job and the name under which to keep what it makes. -/
structure Step where
  job : Job
  keep? : Option String := none

/-- How a step ended. A refused step names a slot that is missing or of another kind. -/
inductive Ending where
  | answered (answer : Answer)
  | failed (error : CallError)
  | faulted (fault : Fault)
  | refused

/-- The ending of a step, the objects that exist after it and the notices it left. -/
structure Report where
  ending : Ending
  live : Nat
  notices : List Host.Notice

structure State where
  world : World
  slots : Slots := []

/-- The state of a session before its first step. -/
def State.initial (platforms devices : Nat) : State :=
  { world := ({}, Simulator.Machine.ofTopology platforms devices) }

namespace Report

/-- The lines of the notices that are at least as grave as a level. -/
def lines (level : Host.Severity) (notices : List Host.Notice) : List String :=
  (notices.filter fun notice => notice.severity.rank ≤ level.rank).map Host.Notice.line

/-- Reports an ending, in the scene that the step left. -/
def ofScene (ending : Ending) (scene : Host.Scene World) : Report :=
  ⟨ending, scene.world.2.liveObjects, scene.notices.reverse⟩

end Report

namespace State

/-- Carries out an action that starts without notices. -/
def run {α : Type} (state : State) (action : Host.Action World α) :
    Except Host.Stop α × Host.Scene World :=
  action.perform { world := state.world }

/-- Reports what an action came to. -/
def concluded (result : Except Host.Stop Answer) (scene : Host.Scene World) (slots : Slots) :
    Report × State :=
  let ending : Ending := match result with
    | .ok answer => .answered answer
    | .error (.failed error) => .failed error
    | .error (.faulted fault) => .faulted fault
  (Report.ofScene ending scene, ⟨scene.world, slots⟩)

/-- A step that its slots do not allow has no effect. -/
def refused (state : State) : Report × State :=
  (⟨.refused, state.world.2.liveObjects, []⟩, state)

/-- Files the slots that a step made. Gives the slots afterwards and those to discard:
what was replaced, or everything where no name is given. -/
def file (slots : Slots) (keep? : Option String) (made : List (String × Slot)) : Slots × List Slot :=
  match keep? with
  | none => (slots, made.map Prod.snd)
  | some name => slots.putAll (made.map fun entry => (name ++ entry.1, entry.2))

/-- Does work and files what it made; what is replaced goes after the new object exists. -/
def performWork (state : State) (work : Work) (keep? : Option String) : Report × State :=
  match state.run work with
  | (.error stop, scene) => concluded (.error stop) scene state.slots
  | (.ok product, scene) =>
    let (slots, leaving) := file state.slots keep? product.made
    let (discarded, left) := (Slot.discardAll leaving).perform scene
    concluded (discarded.map fun _ => product.answer) left slots

/-- Does the work that was found for a job, if any. -/
def performFound (state : State) (work : Option Work) (keep? : Option String) : Report × State :=
  match work with
  | some work => state.performWork work keep?
  | none => state.refused

/-- Releases what a slot owns. -/
def release (state : State) (name : String) : Report × State :=
  match state.slots.release? name with
  | none => state.refused
  | some (slots, action) =>
    let (result, scene) := state.run action
    concluded (result.map fun _ => .nothing) scene slots

/-- Empties a slot, and answers whether it held anything. -/
def drop (state : State) (name : String) : Report × State :=
  match state.slots.get? name with
  | none => concluded (.ok (.truth false)) { world := state.world } state.slots
  | some slot =>
    let (result, scene) := state.run slot.discard
    concluded (result.map fun _ => .truth true) scene (state.slots.erase name)

/-- One step of a session. -/
def step (state : State) (step : Step) : Report × State :=
  match step.job with
  | .discovery job => state.performFound (job.work state.slots) step.keep?
  | .allocation job => state.performFound (job.work state.slots) step.keep?
  | .compilation job => state.performFound (job.work state.slots) step.keep?
  | .queueing job => state.performFound (job.work state.slots) step.keep?
  | .ownership job => state.performFound (job.work state.slots) step.keep?
  | .controls job => state.performWork job.work step.keep?
  | .native call => state.performWork call.work step.keep?
  | .release slot => state.release slot
  | .drop slot => state.drop slot

/-- The steps of a session in order; a step that could not be understood is refused. -/
def steps (state : State) : List (Option Step) → List Report × State
  | [] => ([], state)
  | next :: rest =>
    let (report, after) := match next with
      | some step => state.step step
      | none => state.refused
    let (reports, final) := after.steps rest
    (report :: reports, final)

/-- Drops all slots. -/
def finish (state : State) : List Host.Notice × State :=
  let (_, scene) := state.run (Slot.discardAll (state.slots.map Prod.snd))
  (scene.notices.reverse, ⟨scene.world, []⟩)

/-- The entry points that were called, with the number of calls. -/
def callCounts (state : State) : List (EntryPoint × Nat) :=
  (EntryPoint.all.map fun entry => (entry, state.world.2.callCount entry)).filter
    fun counted => counted.2 != 0

end State
end Offload.Session
