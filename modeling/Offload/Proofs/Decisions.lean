import Offload.Proofs.Finality
import Offload.Proofs.Waiting

/-! Decisions on user events. That an event is undecided is kept as one particular status, which no
decision can set; so each event is decided once at most, and what was decided is what it answers from
then on, whatever else happens. -/
namespace Offload.Simulator

/-- The status that an event keeps after these decisions on it. -/
def keptStatus (decisions : List Int) : Int := decisions.headD ExecutionStatus.submittedCode

/-- Why a user event cannot be decided with a status, after these decisions on it. -/
def objection? (decisions : List Int) (status : Int) : Option NativeError :=
  if 0 < status then some .invalidValue
  else if decisions = [] then none
  else some .invalidOperation

/-- What an event answers after these decisions on it. -/
def decidedStatus : List Int → ExecutionStatus
  | [] => .submitted
  | status :: _ => if status = 0 then .complete else .error status

namespace Store
variable {store : Store} {id : Nat}

private theorem settle_user {current : Int} (found : store.objects.find? id = some (.event (.user current)))
    (status : Int) :
    store.settle id status =
      if status > 0 then refuse .invalidValue
      else if current ≠ ExecutionStatus.submittedCode then refuse .invalidOperation
      else .ok (store.replace id (.event (.user status))) := by
  rw [settle, event_ok_iff.mpr found]

private theorem settle_command {waits : List Nat} {queuedAt : Option Nat}
    (found : store.objects.find? id = some (.event (.command waits queuedAt))) (status : Int) :
    store.settle id status = refuse .invalidEvent := by
  rw [settle, event_ok_iff.mpr found]

end Store

namespace Machine

/-- The status that an event is decided with: the one of a call that comes back with success. -/
def decision? (machine : Machine) (id : Nat) : Happening → Option Int
  | .call (.setEventStatus event status) =>
    match (machine.perform (.setEventStatus event status)).1 with
    | .ok response => if event = id ∧ response.status = 0 then some status else none
    | .error _ => none
  | _ => none

/-- The statuses that an event is decided with in the course of a run, in order. -/
def decisions (machine : Machine) (id : Nat) : List Happening → List Int
  | [] => []
  | first :: rest => (machine.decision? id first).toList ++ (machine.after first).decisions id rest

variable {machine : Machine} {id : Nat}

theorem perform_setEventStatus (serving : machine.halted = false)
    (allowed : machine.injection.failure? .setEventStatus = none) (status : Int) :
    machine.perform (.setEventStatus id status) =
      (machine.counted (.setEventStatus id status)).update (machine.store.settle id status) :=
  @perform_of_serving machine (.setEventStatus id status) serving allowed

/-- A call that decides an event takes effect with success, and otherwise changes nothing. -/
theorem settling_cases (allowed : machine.injection.failure? .setEventStatus = none) (id : Nat)
    (status : Int) :
    (machine.decision? id (.call (.setEventStatus id status)) = some status ∧
      machine.store.settle id status = .ok (machine.perform (.setEventStatus id status)).2.store) ∨
    (machine.decision? id (.call (.setEventStatus id status)) = none ∧
      (machine.perform (.setEventStatus id status)).2.store = machine.store) := by
  cases serving : machine.halted with
  | true =>
    rw [decision?, perform_of_halted serving]
    exact Or.inr ⟨rfl, rfl⟩
  | false =>
    rw [decision?, perform_setEventStatus serving allowed]
    cases settled : machine.store.settle id status with
    | ok store => exact Or.inl ⟨if_pos ⟨rfl, rfl⟩, rfl⟩
    | error refusal =>
      obtain ⟨error, rfl⟩ := Host.settle_refused settled
      exact Or.inr ⟨if_neg fun both => NativeError.code_ne_zero error both.2, rfl⟩

theorem happening_of_decision {happening : Happening} {status : Int}
    (decided : machine.decision? id happening = some status) :
    happening = .call (.setEventStatus id status) := by
  unfold decision? at decided
  split at decided
  · split at decided
    · split at decided
      · rename_i named
        cases decided
        rw [named.1]
      · cases decided
    · cases decided
  · cases decided

/-- What is not a decision leaves a user event as it is, unless it makes one, which is undecided. -/
theorem user_of_undecided {happening : Happening} {current : Int}
    (allowed : machine.injection.failure? .setEventStatus = none)
    (undecided : machine.decision? id happening = none)
    (found : (machine.after happening).store.objects.find? id = some (.event (.user current))) :
    machine.store.objects.find? id = some (.event (.user current)) ∨
      (id = handleOf (machine.store.made + 1) ∧ current = ExecutionStatus.submittedCode) := by
  cases machine.origin_after happening found with
  | same present => exact Or.inl present
  | altered called present alters =>
    subst called
    cases alters with
    | decided =>
      rcases settling_cases allowed id current with ⟨decided, _⟩ | ⟨_, same⟩
      · cases undecided.symm.trans decided
      · exact Or.inl (same ▸ found)
  | entered next enters =>
    refine Or.inr ⟨next, ?_⟩
    cases enters with
    | made fresh =>
      cases fresh with
      | event => rfl

/-- How matters stand with an event after these decisions on it: there is at most one, with a status
that events can be decided with, and a user event keeps it. -/
structure Stands (machine : Machine) (id : Nat) (decisions : List Int) : Prop where
  once : decisions.length ≤ 1
  decided : ∀ status ∈ decisions, status ≤ 0
  kept : ∀ current, machine.store.objects.find? id = some (.event (.user current)) →
    current = keptStatus decisions
  issued : decisions ≠ [] → id ≤ handleOf machine.store.made

namespace Stands
variable {decisions : List Int}

private theorem initial (platforms devices id : Nat) : Stands (ofTopology platforms devices) id [] where
  once := Nat.zero_le 1
  decided := nofun
  kept _ found := nomatch found
  issued made := absurd rfl made

/-- The status of an event that can be decided is that of none of its decisions. -/
theorem undecided (stands : Stands machine id decisions)
    (found : machine.store.objects.find? id = some (.event (.user ExecutionStatus.submittedCode))) :
    decisions = [] := by
  cases decisions with
  | nil => rfl
  | cons status rest =>
    have same : ExecutionStatus.submittedCode = status := stands.kept _ found
    have small := stands.decided status List.mem_cons_self
    rw [← same] at small
    exact absurd small (by decide)

theorem after (stands : Stands machine id decisions) (orderly : Orderly machine.store)
    (allowed : machine.injection.failure? .setEventStatus = none) (happening : Happening) :
    Stands (machine.after happening) id (decisions ++ (machine.decision? id happening).toList) := by
  have step : Change machine.store (machine.after happening).store := change_run machine [happening]
  cases made : machine.decision? id happening with
  | none =>
    rw [Option.toList_none, List.append_nil]
    refine ⟨stands.once, stands.decided, fun current found => ?_, fun some => step.issued (stands.issued some)⟩
    rcases user_of_undecided allowed made found with present | ⟨next, rfl⟩
    · exact stands.kept current present
    · -- The event is new, so nothing can have been decided under its handle.
      cases decisions with
      | nil => rfl
      | cons =>
        have := stands.issued (List.cons_ne_nil _ _)
        have := handleOf_lt machine.store.made
        omega
  | some status =>
    obtain rfl := happening_of_decision made
    rcases settling_cases allowed id status with ⟨_, accepted⟩ | ⟨undecided, _⟩
    · obtain ⟨found, small, replaced⟩ := Store.settle_ok accepted
      obtain rfl := stands.undecided found
      refine ⟨Nat.le_refl 1, fun other member => ?_, fun current present => ?_, fun _ => ?_⟩
      · rw [List.mem_singleton.mp member]
        exact small
      · have kept : (machine.after (.call (.setEventStatus id status))).store.objects.find? id =
            some (.event (.user status)) := by
          show (machine.perform _).2.store.objects.find? id = _
          rw [replaced, Store.replace, Table.find?_replace, if_pos rfl, found]
          rfl
        cases kept.symm.trans present
        rfl
      · exact step.issued (orderly.issued_of_find? found)
    · cases made.symm.trans undecided

theorem run (stands : Stands machine id decisions) (orderly : Orderly machine.store)
    (allowed : machine.injection.failure? .setEventStatus = none) {happenings : List Happening}
    (spares : ∀ happening ∈ happenings, happening.Spares .setEventStatus) :
    Stands (machine.run happenings) id (decisions ++ machine.decisions id happenings) := by
  induction happenings generalizing machine decisions with
  | nil =>
    rw [Machine.decisions, List.append_nil]
    exact stands
  | cons first rest ih =>
    have free := (machine.failure?_after (spares first List.mem_cons_self)).trans allowed
    have later := ih (stands.after orderly allowed first) (orderly.changed (change_run machine [first])) free
      fun happening member => spares happening (List.mem_cons_of_mem _ member)
    rwa [List.append_assoc] at later

theorem executionStatus (stands : Stands machine id decisions) {current : Int}
    (found : machine.store.objects.find? id = some (.event (.user current))) :
    machine.store.executionStatus id = decidedStatus decisions := by
  rw [Store.executionStatus, Table.statusOf_user found, stands.kept current found]
  cases decisions with
  | nil => rfl
  | cons status rest =>
    have small := stands.decided status List.mem_cons_self
    exact ExecutionStatus.ofRaw_of_nonpos small

/-- The runtime objects to a decision for the reasons that its history gives. -/
theorem settle_eq (stands : Stands machine id decisions) {current : Int}
    (found : machine.store.objects.find? id = some (.event (.user current))) (status : Int) :
    machine.store.settle id status =
      match objection? decisions status with
      | some error => refuse error
      | none => .ok (machine.store.replace id (.event (.user status))) := by
  rw [Store.settle_user found, objection?, stands.kept current found]
  split
  · rfl
  · cases decisions with
    | nil => rfl
    | cons first rest =>
      have small := stands.decided first List.mem_cons_self
      have final : first ≠ ExecutionStatus.submittedCode := by
        simp only [ExecutionStatus.submittedCode]
        omega
      exact if_pos final

end Stands
end Machine
end Offload.Simulator

namespace Offload.Host
open Simulator

/-- What an operation comes to that there is an objection to, or none. -/
def ruling : Option NativeError → Except Stop Unit
  | some error => .error (.failed (.native error))
  | none => .ok ()

/-- Deciding an event with a status comes to one call. It succeeds and the event keeps the status, or
there is an objection, which is reported, and nothing changes. -/
structure Settling (machine : Machine) (id : Nat) (status : Int) (objection : Option NativeError) : Prop where
  answered : machine.perform (.setEventStatus id status) =
    match objection with
    | some error => (.ok { status := error.code }, machine.counted (.setEventStatus id status))
    | none => (.ok {}, { machine.counted (.setEventStatus id status) with
        store := machine.store.replace id (.event (.user status)) })
  reported : ∀ notices, (Event.settle Machine.driver ⟨⟨id⟩⟩ status).perform ⟨machine, notices⟩ =
    (ruling objection, ⟨(machine.perform (.setEventStatus id status)).2, notices⟩)

private theorem settling_of_settle {machine : Machine} {id : Nat} {status : Int} {objection : Option NativeError}
    (serving : machine.halted = false) (allowed : machine.injection.failure? .setEventStatus = none)
    (held : id ≠ 0)
    (settled : machine.store.settle id status =
      match objection with
      | some error => refuse error
      | none => .ok (machine.store.replace id (.event (.user status)))) :
    Settling machine id status objection := by
  have answered := @Machine.perform_setEventStatus machine id serving allowed status
  rw [settled] at answered
  have used : Settles (Owned.use (⟨id⟩ : Owned .event)) (.ok id) := settles_use held
  cases objection with
  | some error =>
    refine ⟨answered, fun notices => ?_⟩
    have refused : Machine.perform _ (Scene.world ⟨machine, notices⟩) = (.ok { status := error.code }, _) :=
      answered
    rw [Event.settle, used.perform_bind, Action.perform_bind, perform_demand_refused refused, answered]
    rfl
  | none =>
    refine ⟨answered, fun notices => ?_⟩
    have accepted : Machine.perform _ (Scene.world ⟨machine, notices⟩) = (.ok {}, _) := answered
    rw [Event.settle, used.perform_bind, Action.perform_bind, perform_demand accepted, answered]
    rfl

/-- In every run in which no failure is injected into deciding events, each user event is decided once
at most. Until then it is submitted, and from then on, for as long as it lives, it is what it was
decided to be, whatever else happens. It can be decided exactly if it has not been, and with a status
that is not above zero; what is refused changes nothing, and commands can never be decided. -/
theorem user_events_decided_once {platforms devices : Nat} {happenings : List Happening}
    (native : ∀ happening ∈ happenings, happening.Native)
    (spares : ∀ happening ∈ happenings, happening.Spares .setEventStatus) :
    let start := Machine.ofTopology platforms devices
    let machine := start.run happenings
    (∀ id, (start.decisions id happenings).length ≤ 1) ∧
    (∀ id current, machine.store.objects.find? id = some (.event (.user current)) →
      machine.store.executionStatus id = decidedStatus (start.decisions id happenings) ∧
      (machine.halted = false →
        (machine.injection.failure? (.info .event) = none → ∀ notices,
          Event.asked ⟨machine, notices⟩ ⟨⟨id⟩⟩ = .ok (decidedStatus (start.decisions id happenings))) ∧
        ∀ status, Settling machine id status (objection? (start.decisions id happenings) status))) ∧
    ∀ id waits queuedAt, machine.store.objects.find? id = some (.event (.command waits queuedAt)) →
      machine.halted = false → ∀ status, Settling machine id status (some .invalidEvent) := by
  intro start machine
  have reachable : machine.Reachable := ⟨platforms, devices, happenings, rfl⟩
  have tellable : machine.store.Tellable := Machine.tellable_run native nofun
  have allowed : machine.injection.failure? .setEventStatus = none := start.failure?_run spares
  have stands (id : Nat) : machine.Stands id (start.decisions id happenings) :=
    (Machine.Stands.initial platforms devices id).run (Orderly.initial platforms devices) rfl spares
  refine ⟨fun id => (stands id).once, fun id current found => ?_, fun id waits queuedAt found serving status => ?_⟩
  · have told := (stands id).executionStatus found
    refine ⟨told, fun serving => ⟨fun asking notices => ?_, fun status => ?_⟩⟩
    · rw [← told]
      exact @Event.perform_status ⟨machine, notices⟩ ⟨⟨id⟩⟩ _ (reachable.ne_zero found) serving asking found
        (reachable.orderly.holds_statusOf tellable id)
    · exact settling_of_settle serving allowed (reachable.ne_zero found) ((stands id).settle_eq found status)
  · exact settling_of_settle serving allowed (reachable.ne_zero found) (Store.settle_command found status)

/-- Two user events and a marker that waits for the first. That one is decided three times: with a
status that is too large, with a failure, and, once its context is gone, as complete. -/
def contestedEvents : List Happening := [
  .call (.createContext ⟨1, some [deviceId 0 0]⟩),
  .call (.createQueue (handleOf 1) (deviceId 0 0) 0),
  .call (.createUserEvent (handleOf 1)),
  .call (.createUserEvent (handleOf 1)),
  .call (.setEventStatus (handleOf 3) 1),
  .call (.setEventStatus (handleOf 3) (-7)),
  .call (.enqueue (handleOf 2) .marker ⟨1, some [handleOf 3]⟩ true),
  .fail .waitForEvents (-5),
  .call (.release .context (handleOf 1)),
  .call (.setEventStatus (handleOf 3) 0)]

/-- The first event stays as it failed, the second one can still be decided, and the marker cannot. -/
theorem contestedEvents_decided :
    let machine := (Machine.ofTopology 1 1).run contestedEvents
    machine.store.executionStatus (handleOf 3) = .error (-7) ∧
      Event.asked ⟨machine, []⟩ ⟨⟨handleOf 3⟩⟩ = .ok (.error (-7)) ∧
      Settling machine (handleOf 3) 0 (some .invalidOperation) ∧
      Settling machine (handleOf 3) 1 (some .invalidValue) ∧
      Settling machine (handleOf 4) 0 none ∧
      Settling machine (handleOf 5) 0 (some .invalidEvent) := by
  intro machine
  have native : ∀ happening ∈ contestedEvents, happening.Native := by
    simp only [contestedEvents, List.forall_mem_cons, Happening.Native]
    exact ⟨trivial, trivial, trivial, trivial, by decide, by decide, trivial, trivial, trivial, by decide,
      List.forall_mem_nil _⟩
  have spares : ∀ happening ∈ contestedEvents, happening.Spares .setEventStatus := by
    simp only [contestedEvents, List.forall_mem_cons, Happening.Spares]
    exact ⟨trivial, trivial, trivial, trivial, trivial, trivial, trivial, by decide, trivial, trivial,
      List.forall_mem_nil _⟩
  obtain ⟨_, users, commands⟩ := @user_events_decided_once 1 1 contestedEvents native spares
  have serving : machine.halted = false := by decide +kernel
  have asking : machine.injection.failure? (.info .event) = none := by decide +kernel
  have failed : (Machine.ofTopology 1 1).decisions (handleOf 3) contestedEvents = [-7] := by decide +kernel
  have pending : (Machine.ofTopology 1 1).decisions (handleOf 4) contestedEvents = [] := by decide +kernel
  obtain ⟨kept, first⟩ := users (handleOf 3) (-7) (by decide +kernel)
  obtain ⟨_, second⟩ := users (handleOf 4) 2 (by decide +kernel)
  obtain ⟨told, refused⟩ := first serving
  rw [failed] at kept told refused
  have undecided := (second serving).2 0
  rw [pending] at undecided
  exact ⟨kept, told asking [], refused 0, refused 1, undecided,
    commands (handleOf 5) [handleOf 3] none (by decide +kernel) serving 0⟩

end Offload.Host
