import Offload.Driver.Parameter
import Offload.Progress
import Offload.Host.Ownership
import Offload.Host.Query

/-! Events: waiting for them, asking them how far they are, and deciding user events. -/
namespace Offload.Host

structure Event where
  owned : Owned .event
  deriving DecidableEq, Repr

namespace Event
variable {σ : Type}

/-- The handles of a wait-list, in the given order. -/
def handles (events : List Event) : Action σ (List Nat) := useAll (events.map Event.owned)

/-- Waits for all of some events. Without any there is nothing to ask the driver. -/
def waitForAll (driver : Driver σ) (events : List Event) : Action σ Unit := do
  if events.isEmpty then Action.refuse .invalidValue
  else
    let handles ← handles events
    let _ ← Action.demand driver (.waitForEvents (.ofList handles))

def wait (driver : Driver σ) (event : Event) : Action σ Unit := waitForAll driver [event]

def status (driver : Driver σ) (event : Event) : Action σ ExecutionStatus := do
  let handle ← event.owned.use
  let raw ← (Question.info driver (.event handle) EventParameter.executionStatus.code).value .int32
  pure (.ofRaw raw)

/-- Decides a user event: zero completes it, a negative code fails all that wait for it. -/
def settle (driver : Driver σ) (event : Event) (status : Int) : Action σ Unit := do
  let handle ← event.owned.use
  let _ ← Action.demand driver (.setEventStatus handle status)

/-- The moment that profiling recorded. -/
def stamp (driver : Driver σ) (event : Event) (stamp : ProfilingStamp) : Action σ Int := do
  let handle ← event.owned.use
  (Question.info driver (.profiling handle) stamp.code).value .uint64

def written (event : Event) : String := Text.writtenRecord "Event" [("handle", event.owned.written)]

end Event
end Offload.Host
