import Offload.Proofs.EventStatus

/-! Whether a decided status lasts. A complete event stays complete and a user event keeps
what it was given, but a failed command owes its failure to the events it waits for: it keeps
its status as long as these exist, and forgets it with them. -/
namespace Offload.Simulator

/-- How far the command behind an event has come. -/
def Store.executionStatus (store : Store) (id : Nat) : ExecutionStatus :=
  .ofRaw (store.objects.statusOf id)

/-- Whether a handle names an event. -/
def Store.HasEvent (store : Store) (id : Nat) : Prop :=
  ∃ event, store.objects.find? id = some (.event event)

/-- The events that a failed command owes its failure to: the first unfinished event of its
wait-list, and what that one owes its own failure to. -/
inductive Cause (objects : Table) : Nat → Nat → Prop where
  | direct {id cause : Nat} {earlier rest : List Nat} {queuedAt : Option Nat}
      (found : objects.find? id = some (.event (.command (earlier ++ cause :: rest) queuedAt)))
      (passed : ∀ wait ∈ earlier, objects.statusOf wait = ExecutionStatus.completeCode)
      (failed : objects.statusOf cause < 0) : Cause objects id cause
  | further {id middle cause : Nat} (near : Cause objects id middle)
      (far : Cause objects middle cause) : Cause objects id cause

private theorem Cause.command {objects : Table} {id cause : Nat} (owed : Cause objects id cause) :
    ∃ waits queuedAt, objects.find? id = some (.event (.command waits queuedAt)) := by
  induction owed with
  | direct found => exact ⟨_, _, found⟩
  | further _ _ near => exact near

private theorem Cause.hasEvent {store : Store} {id cause : Nat} (owed : Cause store.objects id cause) :
    store.HasEvent cause := by
  induction owed with
  | direct _ _ failed =>
    refine Table.exists_event_of_statusOf_ne fun complete => ?_
    rw [complete] at failed
    exact absurd failed (by decide)
  | further _ _ _ far => exact far

private theorem Cause.failed {store : Store} (orderly : Orderly store) {id cause : Nat}
    (owed : Cause store.objects id cause) : store.objects.statusOf id = waitFailedCode := by
  induction owed with
  | direct found passed failed => exact orderly.command_failed found passed failed
  | further _ _ near => exact near

section
variable {before after : Store} {id : Nat}

/-- An event that is found later was there before, with the same wait-list or status unless
it was an undecided user event. -/
private theorem exists_event_before (change : Change before after) (orderly : Orderly before)
    (issued : id ≤ handleOf before.made) {later : Event}
    (found : after.objects.find? id = some (.event later)) :
    ∃ earlier, before.objects.find? id = some (.event earlier) ∧
      (later = earlier ∨ earlier = .user ExecutionStatus.submittedCode) := by
  obtain ⟨origin, present, descends⟩ := change.descends orderly issued found
  obtain ⟨earlier, rfl, kept⟩ := descends.event
  exact ⟨earlier, present, kept⟩

/-- An event that is complete, or gone, holds nobody back later either. -/
theorem complete_final (change : Change before after) (orderly : Orderly before)
    (issued : id ≤ handleOf before.made)
    (complete : before.objects.statusOf id = ExecutionStatus.completeCode) :
    after.objects.statusOf id = ExecutionStatus.completeCode := by
  induction id using Nat.strongRecOn with
  | ind id ih =>
    by_cases present : after.HasEvent id
    · obtain ⟨later, found⟩ := present
      obtain ⟨earlier, original, rfl | rfl⟩ := exists_event_before change orderly issued found
      · cases later with
        | user status =>
          rw [Table.statusOf_user original] at complete
          rw [Table.statusOf_user found, complete]
        | command waits queuedAt =>
          refine ((orderly.changed change).command_complete_iff found).mpr fun wait member => ?_
          have older := orderly.older id waits queuedAt original wait member
          exact ih wait older (by omega)
            ((orderly.command_complete_iff original).mp complete wait member)
      · rw [Table.statusOf_user original] at complete
        cases complete
    · exact Table.statusOf_of_absent fun event found => present ⟨event, found⟩

/-- A failed event keeps its status while it and all it owes its failure to exist. -/
theorem failed_final (change : Change before after) (orderly : Orderly before)
    (live : after.HasEvent id) (failed : before.objects.statusOf id < 0)
    (kept : ∀ cause, Cause before.objects id cause → after.HasEvent cause) :
    after.objects.statusOf id = before.objects.statusOf id := by
  induction id using Nat.strongRecOn with
  | ind id ih =>
    obtain ⟨later, found⟩ := live
    have unfinished : before.objects.statusOf id ≠ ExecutionStatus.completeCode := by
      simp only [ExecutionStatus.completeCode]
      omega
    obtain ⟨earlier, original⟩ := Table.exists_event_of_statusOf_ne unfinished
    have issued := orderly.issued_of_find? original
    obtain ⟨_, same, rfl | rfl⟩ := exists_event_before change orderly issued found
    · cases later with
      | user status => rw [Table.statusOf_user found, Table.statusOf_user same]
      | command waits queuedAt =>
        obtain ⟨passed, cause, rest, rfl, complete, failing⟩ := orderly.exists_cause same failed
        have owed : Cause before.objects id cause := .direct same complete failing
        have older := orderly.older id _ queuedAt same cause (by simp)
        have causeKept := ih cause older (kept cause owed) failing
          fun origin far => kept origin (.further owed far)
        have passedKept : ∀ wait ∈ passed, after.objects.statusOf wait = ExecutionStatus.completeCode := by
          intro wait member
          have := orderly.older id _ queuedAt same wait (by simp [member])
          exact complete_final change orderly (by omega) (complete wait member)
        rw [orderly.command_failed same complete failing]
        exact (orderly.changed change).command_failed found passedKept (causeKept ▸ failing)
    · rw [Table.statusOf_user same] at failed
      exact absurd failed (by decide)

/-- A decided status lasts while all that it is owed to exists. -/
theorem terminal_kept (change : Change before after) (orderly : Orderly before)
    (present : before.HasEvent id) (live : after.HasEvent id)
    (terminal : (before.executionStatus id).isTerminal = true)
    (kept : ∀ cause, Cause before.objects id cause → after.HasEvent cause) :
    after.objects.statusOf id = before.objects.statusOf id := by
  obtain ⟨event, original⟩ := present
  have issued := orderly.issued_of_find? original
  cases event with
  | user status =>
    obtain ⟨later, found⟩ := live
    obtain ⟨earlier, same, kept⟩ := exists_event_before change orderly issued found
    cases original.symm.trans same
    rcases kept with rfl | opened
    · rw [Table.statusOf_user found, Table.statusOf_user original]
    · cases opened
      rw [Store.executionStatus, Table.statusOf_user original] at terminal
      cases terminal
  | command waits queuedAt =>
    rcases orderly.command_status_cases original with complete | submitted | failed
    · rw [complete, complete_final change orderly issued complete]
    · rw [Store.executionStatus, submitted] at terminal
      cases terminal
    · exact failed_final change orderly live (failed ▸ by decide) kept

end

namespace Machine
variable {machine : Machine}

/-- No event can be given back any more. -/
def Sealed (machine : Machine) : Prop :=
  machine.halted = true ∨ (machine.injection.failure? (.release .event)).isSome = true

end Machine

theorem Store.hasEvent_iff {store : Store} {id : Nat} : store.HasEvent id ↔ store.HasKind .event id := by
  constructor
  · rintro ⟨event, found⟩
    exact ⟨_, found, rfl⟩
  · rintro ⟨object, found, sort⟩
    cases object with
    | event event => exact ⟨event, found⟩
    | _ => cases sort

namespace Machine
variable {machine : Machine}

/-- Only a release takes an event away. -/
theorem hasEvent_after (closed : machine.Sealed) (happening : Happening) {id : Nat}
    (live : machine.store.HasEvent id) : (machine.after happening).store.HasEvent id := by
  rw [Store.hasEvent_iff] at live ⊢
  rcases machine.hasKind_after live with kept | ⟨_, serving, allowed⟩
  · exact kept
  · rcases closed with halted | injected
    · cases serving.symm.trans halted
    · rw [allowed] at injected
      cases injected

private theorem Sealed.after (closed : machine.Sealed) (happening : Happening) :
    (machine.after happening).Sealed := by
  cases happening with
  | call request =>
    rcases closed with halted | injected
    · left
      rw [Machine.after, perform_of_halted halted]
      exact halted
    · right
      rw [Machine.after, (outcome_perform machine request).injection_eq]
      exact injected
  | fail entry status =>
    refine closed.imp id fun injected => ?_
    simp only [Machine.after, fail, Injection.failure?, List.lookup_cons]
    split
    · rfl
    · exact injected
  | returnNull | allocateContext => exact closed

private theorem Sealed.hasEvent_run (closed : machine.Sealed) (happenings : List Happening) {id : Nat}
    (live : machine.store.HasEvent id) : (machine.run happenings).store.HasEvent id := by
  induction happenings generalizing machine with
  | nil => exact live
  | cons first rest ih => exact ih (closed.after first) (hasEvent_after closed first live)

/-- Giving back an event leaves no event under its handle, and all other objects. -/
private theorem release_event (serving : machine.halted = false)
    (allowed : machine.injection.failure? (.release .event) = none) (wait : Nat) :
    let after := (machine.perform (.release .event wait)).2
    after.halted = false ∧ after.injection = machine.injection ∧ ¬ after.store.HasEvent wait ∧
      ∀ other, other ≠ wait → after.store.objects.find? other = machine.store.objects.find? other := by
  obtain ⟨status, store, reached, removed⟩ := perform_release serving .event wait
  rw [reached]
  rcases removed with ⟨_, _, rfl⟩ | ⟨rfl, kept⟩
  · refine ⟨serving, rfl, fun ⟨_, present⟩ => ?_, fun other differs => ?_⟩
    · simp only [Table.find?_erase, if_true] at present
      cases present
    · simp only [Table.find?_erase, differs, if_false]
  · exact ⟨serving, rfl, fun ⟨event, present⟩ => kept allowed _ present rfl, fun _ _ => rfl⟩

/-- Gives back events one after the other. -/
def releases (waits : List Nat) : List Happening :=
  waits.map fun wait => .call (.release .event wait)

private theorem run_releases (serving : machine.halted = false)
    (allowed : machine.injection.failure? (.release .event) = none) (waits : List Nat) :
    (∀ wait ∈ waits, ¬ (machine.run (releases waits)).store.HasEvent wait) ∧
      ∀ other, other ∉ waits →
        (machine.run (releases waits)).store.objects.find? other = machine.store.objects.find? other := by
  induction waits generalizing machine with
  | nil => exact ⟨fun _ member => (nomatch member), fun _ _ => rfl⟩
  | cons first rest ih =>
    obtain ⟨running, same, gone, others⟩ := release_event serving allowed first
    obtain ⟨absent, framed⟩ := ih running (same ▸ allowed)
    refine ⟨?_, ?_⟩
    · intro wait member
      rcases List.mem_cons.mp member with rfl | later
      · by_cases again : wait ∈ rest
        · exact absent wait again
        · rintro ⟨event, present⟩
          exact gone ⟨event, (framed wait again).symm.trans present⟩
      · exact absent wait later
    · intro other outside
      rw [List.mem_cons, not_or] at outside
      exact (framed other outside.2).trans (others other outside.1)

/-- A failed command is complete once all it waits for has been given back. -/
theorem complete_of_releases (orderly : Orderly machine.store) (serving : machine.halted = false)
    (allowed : machine.injection.failure? (.release .event) = none) {id : Nat} {waits : List Nat}
    {queuedAt : Option Nat}
    (found : machine.store.objects.find? id = some (.event (.command waits queuedAt))) :
    (machine.run (releases waits)).store.HasEvent id ∧
      (machine.run (releases waits)).store.objects.statusOf id = ExecutionStatus.completeCode := by
  obtain ⟨absent, framed⟩ := run_releases serving allowed waits
  have outside : id ∉ waits := fun member =>
    Nat.lt_irrefl id (orderly.older id waits queuedAt found id member)
  have kept := (framed id outside).trans found
  have ordered := orderly.changed (change_run machine (releases waits))
  refine ⟨⟨_, kept⟩, (ordered.command_complete_iff kept).mpr fun wait member => ?_⟩
  exact Table.statusOf_of_absent fun event present => absent wait member ⟨event, present⟩

/-- A decided status lasts while all that it is owed to exists. It lasts whatever happens
exactly when it is owed to nothing else, or when no event can be given back. -/
theorem terminal_status_final (reachable : machine.Reachable) {id : Nat}
    (live : machine.store.HasEvent id)
    (terminal : (machine.store.executionStatus id).isTerminal = true) :
    (∀ happenings, (machine.run happenings).store.HasEvent id →
      (∀ cause, Cause machine.store.objects id cause → (machine.run happenings).store.HasEvent cause) →
      (machine.run happenings).store.executionStatus id = machine.store.executionStatus id) ∧
    ((∀ happenings, (machine.run happenings).store.HasEvent id →
      (machine.run happenings).store.executionStatus id = machine.store.executionStatus id) ↔
        (∀ cause, ¬ Cause machine.store.objects id cause) ∨ machine.Sealed) := by
  have lasting : ∀ happenings, (machine.run happenings).store.HasEvent id →
      (∀ cause, Cause machine.store.objects id cause → (machine.run happenings).store.HasEvent cause) →
      (machine.run happenings).store.executionStatus id = machine.store.executionStatus id :=
    fun happenings later kept => congrArg ExecutionStatus.ofRaw
      (terminal_kept (change_run machine happenings) reachable.orderly live later terminal kept)
  refine ⟨lasting, ?_, ?_⟩
  · intro final
    by_cases closed : machine.Sealed
    · exact Or.inr closed
    · left
      intro cause owed
      have serving : machine.halted = false := Bool.eq_false_iff.mpr fun halted => closed (Or.inl halted)
      have allowed : machine.injection.failure? (.release .event) = none :=
        Option.not_isSome_iff_eq_none.mp fun injected => closed (Or.inr injected)
      obtain ⟨waits, queuedAt, found⟩ := owed.command
      obtain ⟨later, complete⟩ := complete_of_releases reachable.orderly serving allowed found
      have same := final (releases waits) later
      rw [Store.executionStatus, Store.executionStatus, complete, owed.failed reachable.orderly] at same
      cases same
  · rintro (unowed | closed) happenings later
    · exact lasting happenings later fun cause owed => (unowed cause owed).elim
    · exact lasting happenings later fun cause owed =>
        closed.hasEvent_run happenings owed.hasEvent

/-- A marker that waits for a user event, which then fails. -/
def failedMarker : Machine :=
  (ofTopology 1 1).run [
    .call (.createContext ⟨1, some [deviceId 0 0]⟩),
    .call (.createQueue (handleOf 1) (deviceId 0 0) 0),
    .call (.createUserEvent (handleOf 1)),
    .call (.enqueue (handleOf 2) .marker ⟨1, some [handleOf 3]⟩ true),
    .call (.setEventStatus (handleOf 3) (-5))]

private theorem failedMarker_objects :
    failedMarker.store.objects = [(handleOf 1, .context [deviceId 0 0]), (handleOf 2, .queue 0),
      (handleOf 3, .event (.user (-5))), (handleOf 4, .event (.command [handleOf 3] none))] := by
  decide +kernel

/-- The failure of the marker is forgotten with the event that it waited for. -/
theorem failedMarker_completes :
    let after := failedMarker.run [.call (.release .event (handleOf 3))]
    failedMarker.Reachable ∧ failedMarker.store.HasEvent (handleOf 4) ∧
      after.store.HasEvent (handleOf 4) ∧
      failedMarker.store.executionStatus (handleOf 4) = .error (-14) ∧
      (failedMarker.store.executionStatus (handleOf 4)).isTerminal = true ∧
      after.store.executionStatus (handleOf 4) = .complete := by
  refine ⟨⟨1, 1, _, rfl⟩, ⟨.command [handleOf 3] none, by decide +kernel⟩,
    ⟨.command [handleOf 3] none, by decide +kernel⟩, ?_, ?_, ?_⟩ <;> decide +kernel

private theorem failedMarker_cause {id cause : Nat}
    (owed : Cause failedMarker.store.objects id cause) : id = handleOf 4 ∧ cause = handleOf 3 := by
  induction owed with
  | direct found =>
    have member := Table.mem_of_find? found
    simp only [failedMarker_objects, List.mem_cons, Prod.mk.injEq, List.not_mem_nil, reduceCtorEq,
      and_false, or_false, false_or, Object.event.injEq, Event.command.injEq] at member
    obtain ⟨same, listed, _⟩ := member
    refine ⟨same, ?_⟩
    rcases List.append_eq_singleton_iff.mp listed with ⟨_, last⟩ | ⟨_, none⟩
    · exact (List.cons.inj last).1
    · cases none
  | further _ _ near far =>
    have : handleOf 4 = handleOf 3 := far.1.symm.trans near.2
    exact absurd this (by decide)

/-- The failure of the marker lasts when its queue and its context go. -/
theorem failedMarker_lasts :
    let after := failedMarker.run [.call (.release .queue (handleOf 2)),
      .call (.release .context (handleOf 1))]
    failedMarker.Reachable ∧ failedMarker.store.HasEvent (handleOf 4) ∧
      (failedMarker.store.executionStatus (handleOf 4)).isTerminal = true ∧
      after.store.executionStatus (handleOf 4) = failedMarker.store.executionStatus (handleOf 4) := by
  intro after
  have reachable : failedMarker.Reachable := ⟨1, 1, _, rfl⟩
  have live : failedMarker.store.HasEvent (handleOf 4) :=
    ⟨.command [handleOf 3] none, by decide +kernel⟩
  have terminal : (failedMarker.store.executionStatus (handleOf 4)).isTerminal = true := by
    decide +kernel
  refine ⟨reachable, live, terminal, (terminal_status_final reachable live terminal).1 _ ?_ ?_⟩
  · exact ⟨.command [handleOf 3] none, by decide +kernel⟩
  · intro cause owed
    rw [(failedMarker_cause owed).2]
    exact ⟨.user (-5), by decide +kernel⟩

end Machine
end Offload.Simulator
