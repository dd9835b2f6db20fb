import Offload.Progress
import Offload.Simulator.Store

/-! The status of events. A command event is complete once all events it waits for are;
an event that no longer exists holds nobody back. -/
namespace Offload.Simulator

/-- The status of a command that waits for a failed event. -/
def waitFailedCode : Int := NativeError.execStatusErrorForEventsInWaitList.code

/-- The status that an event imposes on a command that waits for it: none once it is
complete. -/
def imposed? (status : Int) : Option Int :=
  if status = ExecutionStatus.completeCode then none
  else if status < 0 then some waitFailedCode
  else some ExecutionStatus.submittedCode

/-- The status of an event; a command has the one that the first unfinished event of its
wait-list imposes. A wait-list names older events only, and handles grow, so the search
descends. -/
def Table.statusOf (objects : Table) (id : Nat) : Int :=
  match objects.find? id with
  | some (.event (.user status)) => status
  | some (.event (.command waits _)) =>
    (waits.findSome? fun wait =>
      if wait < id then imposed? (objects.statusOf wait) else none).getD
        ExecutionStatus.completeCode
  | _ => ExecutionStatus.completeCode
termination_by id

namespace Store

/-- Checks that every handle names an event; `error` is answered otherwise. -/
def checkEvents (store : Store) (error : NativeError) : List Nat → Except Refusal Unit
  | [] => .ok ()
  | id :: rest =>
    match store.event id with
    | .ok _ => store.checkEvents error rest
    | .error _ => refuse error

/-- The outcome of waiting for events: a failed one is reported first, and an unfinished
one would block forever. -/
def waitOutcome (store : Store) (events : List Nat) : Except Refusal Unit :=
  let statuses := events.map store.objects.statusOf
  if statuses.any (· < 0) then refuse .execStatusErrorForEventsInWaitList
  else if statuses.any (· != ExecutionStatus.completeCode) then refuse .invalidOperation
  else .ok ()

/-- Decides a user event, once, with success or a failure. -/
def settle (store : Store) (id : Nat) (status : Int) : Except Refusal Store :=
  match store.event id with
  | .error refusal => .error refusal
  | .ok (.command ..) => refuse .invalidEvent
  | .ok (.user current) =>
    if status > 0 then refuse .invalidValue
    else if current ≠ ExecutionStatus.submittedCode then refuse .invalidOperation
    else .ok (store.replace id (.event (.user status)))

end Store
end Offload.Simulator
