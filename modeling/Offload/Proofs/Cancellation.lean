import Offload.Proofs.EventAnswers
import Offload.Proofs.EventGraph
import Offload.Proofs.Handles

/-! Failing a user event. A command stalls on the first unfinished event of its wait-list and
asks no event behind it, so a failure reaches those commands whose stalls lead to the failed
event; a command that stalls elsewhere stays submitted, although it waits for it. -/
namespace Offload.Simulator
open Relation (TransGen ReflTransGen)

/-- A command stalls on the first event of its wait-list that is not complete. -/
def Table.StallsOn (objects : Table) (id wait : Nat) : Prop :=
  ∃ waits queuedAt, objects.find? id = some (.event (.command waits queuedAt)) ∧
    waits.find? (fun wait => objects.statusOf wait != ExecutionStatus.completeCode) = some wait

namespace Table.StallsOn
variable {objects : Table} {id wait : Nat}

private theorem waitsFor (stalls : objects.StallsOn id wait) : objects.WaitsFor id wait := by
  obtain ⟨waits, queuedAt, found, first⟩ := stalls
  exact ⟨waits, queuedAt, found, List.mem_of_find?_eq_some first⟩

private theorem unfinished (stalls : objects.StallsOn id wait) :
    objects.statusOf wait ≠ ExecutionStatus.completeCode := by
  obtain ⟨_, _, _, first⟩ := stalls
  simpa using List.find?_some first

theorem unique {other : Nat} (stalls : objects.StallsOn id wait) (again : objects.StallsOn id other) :
    wait = other := by
  obtain ⟨_, _, found, first⟩ := stalls
  obtain ⟨_, _, same, second⟩ := again
  cases found.symm.trans same
  exact Option.some.inj (first.symm.trans second)

end Table.StallsOn

namespace Orderly
variable {store : Store} {id wait : Nat}

/-- A command that stalls has failed with the event that it stalls on, or is submitted. -/
theorem statusOf_stalled (orderly : Orderly store) (stalls : store.objects.StallsOn id wait) :
    store.objects.statusOf id =
      if store.objects.statusOf wait < 0 then waitFailedCode else ExecutionStatus.submittedCode := by
  have unfinished := stalls.unfinished
  obtain ⟨waits, queuedAt, found, first⟩ := stalls
  obtain ⟨_, earlier, later, rfl, passed⟩ := List.find?_eq_some_iff_append.mp first
  have silent : earlier.findSome? (fun wait => imposed? (store.objects.statusOf wait)) = none := by
    refine List.findSome?_eq_none_iff.mpr fun other member => imposed?_eq_none_iff.mpr ?_
    simpa using passed other member
  rw [orderly.statusOf_command found, List.findSome?_append, silent, List.findSome?_cons, imposed?,
    if_neg unfinished]
  by_cases failed : store.objects.statusOf wait < 0
  · rw [if_pos failed, if_pos failed]
    rfl
  · rw [if_neg failed, if_neg failed]
    rfl

private theorem failed_iff_of_stalls (orderly : Orderly store) (stalls : store.objects.StallsOn id wait) :
    store.objects.statusOf id < 0 ↔ store.objects.statusOf wait < 0 := by
  rw [orderly.statusOf_stalled stalls]
  split
  · rename_i failed
    exact iff_of_true (by decide) failed
  · rename_i unfailed
    exact iff_of_false (by decide) unfailed

/-- A command that is not complete stalls on some event. -/
theorem exists_stallsOn (orderly : Orderly store) {waits : List Nat} {queuedAt : Option Nat}
    (found : store.objects.find? id = some (.event (.command waits queuedAt)))
    (unfinished : store.objects.statusOf id ≠ ExecutionStatus.completeCode) :
    ∃ wait, store.objects.StallsOn id wait := by
  cases first : waits.find? fun wait => store.objects.statusOf wait != ExecutionStatus.completeCode with
  | some wait => exact ⟨wait, waits, queuedAt, found, first⟩
  | none =>
    refine (unfinished ((orderly.command_complete_iff found).mpr fun wait member => ?_)).elim
    simpa using List.find?_eq_none.mp first wait member

end Orderly

/-- The store before and after an undecided user event has been failed. -/
structure Cancels (before after : Store) (user : Nat) (status : Int) : Prop where
  undecided : before.objects.find? user = some (.event (.user ExecutionStatus.submittedCode))
  failing : status < 0
  settled : after = before.replace user (.event (.user status))

namespace Cancels
variable {before after : Store} {user : Nat} {status : Int}

theorem orderly (cancels : Cancels before after user status) (orderly : Orderly before) :
    Orderly after := by
  rw [cancels.settled]
  exact orderly.revised (.revised cancels.undecided (.event (Int.le_of_lt cancels.failing)))

theorem find?_user (cancels : Cancels before after user status) :
    after.objects.find? user = some (.event (.user status)) := by
  rw [cancels.settled, Store.replace, Table.find?_replace, if_pos rfl, cancels.undecided]
  rfl

theorem find?_other (cancels : Cancels before after user status) {id : Nat} (other : id ≠ user) :
    after.objects.find? id = before.objects.find? id := by
  rw [cancels.settled, Store.replace, Table.find?_replace, if_neg other]

/-- No wait-list changes. -/
theorem find?_command (cancels : Cancels before after user status) (id : Nat) (waits : List Nat)
    (queuedAt : Option Nat) :
    after.objects.find? id = some (.event (.command waits queuedAt)) ↔
      before.objects.find? id = some (.event (.command waits queuedAt)) := by
  by_cases same : id = user
  · rw [same, cancels.find?_user, cancels.undecided]
    exact iff_of_false (fun impossible => nomatch impossible) (fun impossible => nomatch impossible)
  · rw [cancels.find?_other same]

theorem waitsFor_eq (cancels : Cancels before after user status) :
    after.objects.WaitsFor = before.objects.WaitsFor := by
  funext id wait
  simp only [Table.WaitsFor, cancels.find?_command]

private theorem isUnfinishedUser_iff (cancels : Cancels before after user status) (id : Nat) :
    after.objects.IsUnfinishedUser id ↔ before.objects.IsUnfinishedUser id := by
  by_cases same : id = user
  · subst same
    refine iff_of_true ⟨status, cancels.find?_user, ?_⟩ ⟨_, cancels.undecided, by decide⟩
    have := cancels.failing
    simp only [ExecutionStatus.completeCode]
    omega
  · simp only [Table.IsUnfinishedUser, cancels.find?_other same]

theorem complete_iff (cancels : Cancels before after user status) (orderly : Orderly before)
    (id : Nat) :
    after.objects.statusOf id = ExecutionStatus.completeCode ↔
      before.objects.statusOf id = ExecutionStatus.completeCode := by
  rw [(cancels.orderly orderly).complete_iff, orderly.complete_iff, cancels.waitsFor_eq]
  simp only [cancels.isUnfinishedUser_iff]

theorem stallsOn_iff (cancels : Cancels before after user status) (orderly : Orderly before)
    (id wait : Nat) : after.objects.StallsOn id wait ↔ before.objects.StallsOn id wait := by
  have same : (fun wait => after.objects.statusOf wait != ExecutionStatus.completeCode) =
      fun wait => before.objects.statusOf wait != ExecutionStatus.completeCode := by
    funext wait
    rw [Bool.eq_iff_iff, bne_iff_ne, bne_iff_ne, ne_eq, ne_eq, cancels.complete_iff orderly]
  simp only [Table.StallsOn, cancels.find?_command, same]

theorem statusOf_unstalled (cancels : Cancels before after user status) (orderly : Orderly before)
    {id : Nat} (other : id ≠ user) (unstalled : ∀ wait, ¬ before.objects.StallsOn id wait) :
    after.objects.statusOf id = before.objects.statusOf id := by
  by_cases complete : before.objects.statusOf id = ExecutionStatus.completeCode
  · rw [complete, (cancels.complete_iff orderly id).mpr complete]
  · obtain ⟨own | ⟨waits, queuedAt⟩, found⟩ := Table.exists_event_of_statusOf_ne complete
    · rw [Table.statusOf_user found, Table.statusOf_user ((cancels.find?_other other).trans found)]
    · obtain ⟨wait, stalls⟩ := orderly.exists_stallsOn found complete
      exact (unstalled wait stalls).elim

/-- An event has failed afterwards exactly if it had before or its stalls lead to the failed
event. -/
theorem failed_iff (cancels : Cancels before after user status) (orderly : Orderly before)
    (id : Nat) :
    after.objects.statusOf id < 0 ↔
      before.objects.statusOf id < 0 ∨ ReflTransGen before.objects.StallsOn id user := by
  induction id using Nat.strongRecOn with
  | ind id ih =>
    by_cases stalled : ∃ wait, before.objects.StallsOn id wait
    · -- A command that stalls fails with what it stalls on, before and afterwards.
      obtain ⟨wait, stalls⟩ := stalled
      have still := (cancels.stallsOn_iff orderly id wait).mpr stalls
      have led : ReflTransGen before.objects.StallsOn id user ↔
          ReflTransGen before.objects.StallsOn wait user := by
        constructor
        · intro path
          rcases path.cases_head with rfl | ⟨next, edge, rest⟩
          · obtain ⟨_, _, found, _⟩ := stalls
            cases cancels.undecided.symm.trans found
          · exact stalls.unique edge ▸ rest
        · exact .head stalls
      rw [(cancels.orderly orderly).failed_iff_of_stalls still, orderly.failed_iff_of_stalls stalls, led]
      exact ih wait (orderly.lt_of_waitsFor stalls.waitsFor)
    · by_cases same : id = user
      · subst same
        rw [Table.statusOf_user cancels.find?_user]
        exact iff_of_true cancels.failing (Or.inr .refl)
      · rw [cancels.statusOf_unstalled orderly same fun wait stalls => stalled ⟨wait, stalls⟩]
        refine ⟨Or.inl, fun either => either.resolve_right fun path => ?_⟩
        rcases path.cases_head with here | ⟨next, edge, _⟩
        · exact same here
        · exact stalled ⟨next, edge⟩

/-- A command that waits for the failed event has failed exactly if it had before or its stalls
lead to that event. Otherwise it is still submitted. -/
theorem statusOf_waiting (cancels : Cancels before after user status) (orderly : Orderly before)
    {id : Nat} (path : TransGen before.objects.WaitsFor id user) :
    (before.objects.statusOf id < 0 ∨ TransGen before.objects.StallsOn id user →
      after.objects.statusOf id = waitFailedCode) ∧
    (¬ (before.objects.statusOf id < 0 ∨ TransGen before.objects.StallsOn id user) →
      after.objects.statusOf id = ExecutionStatus.submittedCode) := by
  have ordered := cancels.orderly orderly
  have older := orderly.lt_of_transGen path
  obtain ⟨_, ⟨waits, queuedAt, found, _⟩, _⟩ := TransGen.head'_iff.mp path
  have command := (cancels.find?_command id waits queuedAt).mpr found
  have failed : after.objects.statusOf id < 0 ↔
      before.objects.statusOf id < 0 ∨ TransGen before.objects.StallsOn id user := by
    have apart : user ≠ id := by omega
    rw [cancels.failed_iff orderly, Relation.reflTransGen_iff_eq_or_transGen, or_iff_right apart]
  have unfinished : after.objects.statusOf id ≠ ExecutionStatus.completeCode := by
    refine ordered.unfinished_of_reaches (cancels.waitsFor_eq ▸ path.to_reflTransGen) ?_
    rw [Table.statusOf_user cancels.find?_user]
    have := cancels.failing
    simp only [ExecutionStatus.completeCode]
    omega
  rw [← failed]
  rcases ordered.command_status_cases command with complete | submitted | imposed
  · exact (unfinished complete).elim
  · rw [submitted]
    exact ⟨fun impossible => absurd impossible (by decide), fun _ => rfl⟩
  · rw [imposed]
    exact ⟨fun _ => rfl, fun impossible => absurd (by decide) impossible⟩

end Cancels
end Offload.Simulator

namespace Offload.Host
open Simulator
open Relation (TransGen)

/-- Nothing is injected into the calls that decide an event, ask for its status and wait for it. -/
structure Unhindered (injection : Injection) : Prop where
  deciding : injection.failure? .setEventStatus = none
  asking : injection.failure? (.info .event) = none
  waiting : injection.failure? .waitForEvents = none

/-- After an undecided user event has been failed, each command that waits for it, directly or
through other commands, reports the failure if it had failed before or its stalls lead to the
event. If it stalls elsewhere it is still submitted, and it cannot be waited for. -/
theorem cancellation_follows_stalls {scene after : Scene Machine} {user waiting : Event} {status : Int}
    (reachable : scene.world.Reachable)
    (undecided : scene.world.store.objects.find? user.owned.handle =
      some (.event (.user ExecutionStatus.submittedCode)))
    (failing : status < 0)
    (waits : TransGen scene.world.store.objects.WaitsFor waiting.owned.handle user.owned.handle)
    (unhindered : Unhindered scene.world.injection)
    (settled : (user.settle Machine.driver status).perform scene = (.ok (), after)) :
    let before := scene.world.store.objects
    let reached := before.statusOf waiting.owned.handle < 0 ∨
      TransGen before.StallsOn waiting.owned.handle user.owned.handle
    (reached →
      ((waiting.status Machine.driver).perform after).1 = .ok (.error (-14)) ∧
      ((waiting.wait Machine.driver).perform after).1 =
        .error (.failed (.native .execStatusErrorForEventsInWaitList))) ∧
    (¬ reached →
      ((waiting.status Machine.driver).perform after).1 = .ok .submitted ∧
      ((waiting.wait Machine.driver).perform after).1 =
        .error (.failed (.native .invalidOperation))) := by
  obtain ⟨decided, serving, injection⟩ := Event.settle_ok settled unhindered.deciding
  obtain ⟨_, _, replaced⟩ := Store.settle_ok decided
  have cancels : Cancels scene.world.store after.world.store user.owned.handle status :=
    ⟨undecided, failing, replaced⟩
  obtain ⟨_, ⟨events, queuedAt, found, _⟩, _⟩ := TransGen.head'_iff.mp waits
  have held := reachable.ne_zero found
  have present := (cancels.find?_command _ events queuedAt).mpr found
  have asked := Event.perform_status held serving (injection ▸ unhindered.asking) present
  have awaited := Event.perform_wait held serving (injection ▸ unhindered.waiting) present
  obtain ⟨failed, submitted⟩ := cancels.statusOf_waiting reachable.orderly waits
  constructor
  · intro reached
    rw [failed reached] at asked awaited
    exact ⟨asked (by decide), awaited⟩
  · intro unreached
    rw [submitted unreached] at asked awaited
    exact ⟨asked (by decide), awaited⟩

/-- A marker that waits for two undecided user events. -/
def pairedMarker : Scene Machine where
  world := (Machine.ofTopology 1 1).run [
    .call (.createContext ⟨1, some [deviceId 0 0]⟩),
    .call (.createQueue (handleOf 1) (deviceId 0 0) 0),
    .call (.createUserEvent (handleOf 1)),
    .call (.createUserEvent (handleOf 1)),
    .call (.enqueue (handleOf 2) .marker ⟨2, some [handleOf 3, handleOf 4]⟩ true)]

/-- The scene in which one of the two events has failed. -/
def pairedMarkerAfter (number : Nat) : Scene Machine :=
  ((Event.settle Machine.driver ⟨⟨handleOf number⟩⟩ (-5)).perform pairedMarker).2

private theorem pairedMarker_waits (number : Nat) (either : number = 3 ∨ number = 4) :
    pairedMarker.world.Reachable ∧
      pairedMarker.world.store.objects.find? (handleOf number) =
        some (.event (.user ExecutionStatus.submittedCode)) ∧
      TransGen pairedMarker.world.store.objects.WaitsFor (handleOf 5) (handleOf number) ∧
      (Event.settle Machine.driver ⟨⟨handleOf number⟩⟩ (-5)).perform pairedMarker =
        (.ok (), pairedMarkerAfter number) := by
  have listed : pairedMarker.world.store.objects.find? (handleOf 5) =
      some (.event (.command [handleOf 3, handleOf 4] none)) := by decide +kernel
  refine ⟨⟨1, 1, _, rfl⟩, ?_⟩
  rcases either with rfl | rfl
  · refine ⟨by decide +kernel, .single ⟨_, _, listed, by decide⟩, ?_⟩
    exact Prod.ext (by rfl) rfl
  · refine ⟨by decide +kernel, .single ⟨_, _, listed, by decide⟩, ?_⟩
    exact Prod.ext (by rfl) rfl

/-- The failure of the first event reaches the marker. -/
theorem cancellation_of_first :
    let after := pairedMarkerAfter 3
    ((Event.status Machine.driver ⟨⟨handleOf 5⟩⟩).perform after).1 = .ok (.error (-14)) ∧
      ((Event.wait Machine.driver ⟨⟨handleOf 5⟩⟩).perform after).1 =
        .error (.failed (.native .execStatusErrorForEventsInWaitList)) := by
  obtain ⟨reachable, undecided, waits, settled⟩ := pairedMarker_waits 3 (Or.inl rfl)
  have stalls : pairedMarker.world.store.objects.StallsOn (handleOf 5) (handleOf 3) :=
    ⟨[handleOf 3, handleOf 4], none, by decide +kernel, by decide +kernel⟩
  obtain ⟨reached, _⟩ := @cancellation_follows_stalls pairedMarker _ ⟨⟨handleOf 3⟩⟩ ⟨⟨handleOf 5⟩⟩
    (-5) reachable undecided (by decide) waits ⟨rfl, rfl, rfl⟩ settled
  exact reached (Or.inr (.single stalls))

/-- The failure of the second event does not reach the marker, which stalls on the first. -/
theorem failure_of_second_unnoticed :
    let after := pairedMarkerAfter 4
    pairedMarker.world.Reachable ∧
      pairedMarker.world.store.objects.find? (handleOf 4) =
        some (.event (.user ExecutionStatus.submittedCode)) ∧
      TransGen pairedMarker.world.store.objects.WaitsFor (handleOf 5) (handleOf 4) ∧
      (Event.settle Machine.driver ⟨⟨handleOf 4⟩⟩ (-5)).perform pairedMarker = (.ok (), after) ∧
      ((Event.status Machine.driver ⟨⟨handleOf 5⟩⟩).perform after).1 = .ok .submitted ∧
      ((Event.wait Machine.driver ⟨⟨handleOf 5⟩⟩).perform after).1 =
        .error (.failed (.native .invalidOperation)) := by
  intro after
  obtain ⟨reachable, undecided, waits, settled⟩ := pairedMarker_waits 4 (Or.inr rfl)
  refine ⟨reachable, undecided, waits, settled, ?_⟩
  have present : after.world.store.objects.find? (handleOf 5) =
      some (.event (.command [handleOf 3, handleOf 4] none)) := by decide +kernel
  have submitted : after.world.store.objects.statusOf (handleOf 5) = ExecutionStatus.submittedCode := by
    decide +kernel
  have asked := @Event.perform_status after ⟨⟨handleOf 5⟩⟩ _ (handleOf_ne_zero 5) rfl rfl present
  have awaited := @Event.perform_wait after ⟨⟨handleOf 5⟩⟩ _ (handleOf_ne_zero 5) rfl rfl present
  dsimp only at asked awaited
  rw [submitted] at asked awaited
  exact ⟨asked (by decide), awaited⟩

end Offload.Host
