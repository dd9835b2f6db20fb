import Mathlib.Logic.Relation
import Offload.Proofs.EventStatus
import Offload.Proofs.WellFormed

/-! The graph of events, with an edge from a command to each event that it waits for. It has
no cycles, so that the search for a status ends, and a command is complete exactly if no
unfinished user event can be reached from it. -/
namespace Offload.Simulator
open Relation (TransGen ReflTransGen)

namespace Table
variable (objects : Table)

/-- A command waits for the events on its wait-list. -/
def WaitsFor (id wait : Nat) : Prop :=
  ∃ waits queuedAt, objects.find? id = some (.event (.command waits queuedAt)) ∧ wait ∈ waits

/-- A user event that has failed or has not been decided. -/
def IsUnfinishedUser (id : Nat) : Prop :=
  ∃ status, objects.find? id = some (.event (.user status)) ∧ status ≠ ExecutionStatus.completeCode

/-- The status that the first unfinished event of a wait-list imposes; nothing if the status
of an event before it is not known. -/
def firstImposed? (status? : Nat → Option Int) : List Nat → Option Int
  | [] => some ExecutionStatus.completeCode
  | wait :: rest =>
    match status? wait with
    | none => none
    | some status =>
      match imposed? status with
      | none => firstImposed? status? rest
      | some imposed => some imposed

/-- The status of an event, if it is found without following more than `depth` wait-lists in
a row. The ages of events play no part in this search. -/
def statusWithin : (depth : Nat) → (id : Nat) → Option Int
  | 0, _ => none
  | depth + 1, id =>
    match objects.find? id with
    | some (.event (.user status)) => some status
    | some (.event (.command waits _)) => firstImposed? (statusWithin depth) waits
    | _ => some ExecutionStatus.completeCode

/-- How many objects are no younger than a handle. -/
def elders (id : Nat) : Nat := objects.keys.countP (· ≤ id)

variable {objects}

private theorem firstImposed?_eq {status? : Nat → Option Int} {status : Nat → Int} {waits : List Nat}
    (known : ∀ wait ∈ waits, status? wait = some (status wait)) :
    firstImposed? status? waits =
      some ((waits.findSome? fun wait => imposed? (status wait)).getD ExecutionStatus.completeCode) := by
  induction waits with
  | nil => rfl
  | cons first rest ih =>
    rw [firstImposed?, known first List.mem_cons_self, List.findSome?_cons]
    cases imposing : imposed? (status first) with
    | some imposed => simp only [imposing, Option.getD_some]
    | none =>
      simp only [imposing]
      exact ih fun wait member => known wait (List.mem_cons_of_mem first member)

private theorem countP_le_lt {keys : List Nat} {younger older : Nat} (member : younger ∈ keys)
    (older_lt : older < younger) : keys.countP (· ≤ older) < keys.countP (· ≤ younger) := by
  have fewer : ∀ keys : List Nat, keys.countP (· ≤ older) ≤ keys.countP (· ≤ younger) := by
    intro keys
    refine List.countP_mono_left fun key _ small => ?_
    simp only [decide_eq_true_eq] at small ⊢
    omega
  obtain ⟨front, back, rfl⟩ := List.append_of_mem member
  have := fewer front
  have := fewer back
  simp only [List.countP_append, List.countP_cons, Nat.le_refl, decide_true, if_true]
  rw [if_neg (by simpa using older_lt)]
  omega

private theorem elders_lt {id wait : Nat} (waiting : objects.WaitsFor id wait) (older : wait < id) :
    objects.elders wait < objects.elders id := by
  obtain ⟨_, _, found, _⟩ := waiting
  exact countP_le_lt (mem_keys_of_find? found) older

private theorem elders_le (id : Nat) : objects.elders id ≤ objects.length := by
  have bounded : objects.elders id ≤ objects.keys.length := List.countP_le_length
  rwa [keys, List.length_map] at bounded

end Table

namespace Orderly
variable {store : Store} {id wait : Nat}

theorem lt_of_waitsFor (orderly : Orderly store) (waiting : store.objects.WaitsFor id wait) :
    wait < id := by
  obtain ⟨waits, queuedAt, found, member⟩ := waiting
  exact orderly.older id waits queuedAt found wait member

/-- Every path leads to older events. -/
theorem lt_of_transGen (orderly : Orderly store) (path : TransGen store.objects.WaitsFor id wait) :
    wait < id := by
  induction path with
  | single edge => exact orderly.lt_of_waitsFor edge
  | tail _ edge ih => exact Nat.lt_trans (orderly.lt_of_waitsFor edge) ih

/-- The search for a status ends once it has been through all elders of an event. -/
theorem statusWithin_eq (orderly : Orderly store) {depth : Nat}
    (deep : store.objects.elders id < depth) :
    store.objects.statusWithin depth id = some (store.objects.statusOf id) := by
  induction depth generalizing id with
  | zero => cases deep
  | succ depth ih =>
    rw [Table.statusWithin]
    split
    · rename_i status found
      rw [Table.statusOf_user found]
    · rename_i waits queuedAt found
      rw [orderly.statusOf_command found]
      refine Table.firstImposed?_eq fun wait member => ih ?_
      have waiting : store.objects.WaitsFor id wait := ⟨waits, queuedAt, found, member⟩
      have := Table.elders_lt waiting (orderly.lt_of_waitsFor waiting)
      omega
    · rename_i user command
      rw [Table.statusOf_of_absent]
      rintro (status | ⟨waits, queuedAt⟩) found
      · exact user status found
      · exact command waits queuedAt found

/-- What is waited for and is not complete keeps the waiting command from being complete. -/
theorem unfinished_of_reaches (orderly : Orderly store) {cause : Nat}
    (path : ReflTransGen store.objects.WaitsFor id cause)
    (unfinished : store.objects.statusOf cause ≠ ExecutionStatus.completeCode) :
    store.objects.statusOf id ≠ ExecutionStatus.completeCode := by
  induction path using ReflTransGen.head_induction_on with
  | refl => exact unfinished
  | head edge _ ih =>
    obtain ⟨waits, queuedAt, found, member⟩ := edge
    exact fun complete => ih ((orderly.command_complete_iff found).mp complete _ member)

/-- What is not complete is kept so by a user event. -/
theorem exists_unfinished (orderly : Orderly store)
    (unfinished : store.objects.statusOf id ≠ ExecutionStatus.completeCode) :
    ∃ cause, ReflTransGen store.objects.WaitsFor id cause ∧ store.objects.IsUnfinishedUser cause := by
  induction id using Nat.strongRecOn with
  | ind id ih =>
    obtain ⟨status | ⟨waits, queuedAt⟩, found⟩ := Table.exists_event_of_statusOf_ne unfinished
    · exact ⟨id, .refl, status, found, Table.statusOf_user found ▸ unfinished⟩
    · obtain ⟨wait, member, pending⟩ : ∃ wait ∈ waits,
          store.objects.statusOf wait ≠ ExecutionStatus.completeCode := by
        simpa using mt (orderly.command_complete_iff found).mpr unfinished
      have waiting : store.objects.WaitsFor id wait := ⟨waits, queuedAt, found, member⟩
      obtain ⟨cause, path, user⟩ := ih wait (orderly.lt_of_waitsFor waiting) pending
      exact ⟨cause, .head waiting path, user⟩

theorem complete_iff (orderly : Orderly store) :
    store.objects.statusOf id = ExecutionStatus.completeCode ↔
      ¬ ∃ cause, ReflTransGen store.objects.WaitsFor id cause ∧
        store.objects.IsUnfinishedUser cause := by
  constructor
  · rintro complete ⟨cause, path, status, found, unfinished⟩
    exact orderly.unfinished_of_reaches path (Table.statusOf_user found ▸ unfinished) complete
  · intro none
    exact Decidable.not_not.mp fun unfinished => none (orderly.exists_unfinished unfinished)

end Orderly

/-- A status is that of a complete or of a submitted event, or a failure. -/
theorem Machine.Reachable.statusOf_cases {machine : Machine} (reachable : machine.Reachable)
    (id : Nat) :
    machine.store.objects.statusOf id = ExecutionStatus.completeCode ∨
      machine.store.objects.statusOf id = ExecutionStatus.submittedCode ∨
      machine.store.objects.statusOf id < 0 := by
  by_cases complete : machine.store.objects.statusOf id = ExecutionStatus.completeCode
  · exact Or.inl complete
  · obtain ⟨status | ⟨waits, queuedAt⟩, found⟩ := Table.exists_event_of_statusOf_ne complete
    · rw [Table.statusOf_user found] at complete ⊢
      have fitting := reachable.wellFormed found
      cases fitting with
      | user staged =>
        simp only [ExecutionStatus.completeCode] at complete ⊢
        omega
    · rcases reachable.orderly.command_status_cases found with done | submitted | failed
      · exact Or.inl done
      · exact Or.inr (Or.inl submitted)
      · exact Or.inr (Or.inr (failed ▸ by decide))

/-- Commands wait for older events only, so that the graph has no cycle and the search for a
status ends before it has followed more wait-lists than there are objects. An event is complete
exactly if no unfinished user event is reached from it, and a command fails in one way only. -/
theorem event_graph_acyclic {machine : Machine} (reachable : machine.Reachable) :
    let objects := machine.store.objects
    (∀ id waits queuedAt, objects.find? id = some (.event (.command waits queuedAt)) →
      ∀ wait ∈ waits, wait < id) ∧
    (∀ id, ¬ TransGen objects.WaitsFor id id) ∧
    (∀ id depth, objects.length < depth → objects.statusWithin depth id = some (objects.statusOf id)) ∧
    (∀ id, objects.statusOf id = ExecutionStatus.completeCode ↔
      ¬ ∃ cause, ReflTransGen objects.WaitsFor id cause ∧ objects.IsUnfinishedUser cause) ∧
    (∀ id, objects.statusOf id = ExecutionStatus.completeCode ∨
      objects.statusOf id = ExecutionStatus.submittedCode ∨ objects.statusOf id < 0) ∧
    (∀ id waits queuedAt, objects.find? id = some (.event (.command waits queuedAt)) →
      objects.statusOf id < 0 → objects.statusOf id = -14) := by
  have orderly := reachable.orderly
  refine ⟨orderly.older, ?_, ?_, fun id => orderly.complete_iff, reachable.statusOf_cases, ?_⟩
  · intro id cycle
    exact Nat.lt_irrefl id (orderly.lt_of_transGen cycle)
  · intro id depth deep
    exact orderly.statusWithin_eq (Nat.lt_of_le_of_lt (Table.elders_le id) deep)
  · intro id waits queuedAt found failed
    rcases orderly.command_status_cases found with complete | submitted | imposed
    · exact absurd failed (complete ▸ by decide)
    · exact absurd failed (submitted ▸ by decide)
    · exact imposed

/-- A marker that waits for an undecided user event, and a second one that waits for both. -/
def chainedMarkers : Machine :=
  (Machine.ofTopology 1 1).run [
    .call (.createContext ⟨1, some [deviceId 0 0]⟩),
    .call (.createQueue (handleOf 1) (deviceId 0 0) 0),
    .call (.createUserEvent (handleOf 1)),
    .call (.enqueue (handleOf 2) .marker ⟨1, some [handleOf 3]⟩ true),
    .call (.enqueue (handleOf 2) .marker ⟨2, some [handleOf 4, handleOf 3]⟩ true)]

/-- The second marker is submitted, as the search for its status finds within six steps. -/
theorem event_graph_of_chainedMarkers :
    chainedMarkers.Reachable ∧
      chainedMarkers.store.objects.statusOf (handleOf 5) = ExecutionStatus.submittedCode ∧
      (∃ cause, ReflTransGen chainedMarkers.store.objects.WaitsFor (handleOf 5) cause ∧
        chainedMarkers.store.objects.IsUnfinishedUser cause) ∧
      ¬ TransGen chainedMarkers.store.objects.WaitsFor (handleOf 5) (handleOf 5) := by
  have reachable : chainedMarkers.Reachable := ⟨1, 1, _, rfl⟩
  obtain ⟨_, acyclic, terminates, complete, _⟩ := event_graph_acyclic reachable
  have found : chainedMarkers.store.objects.statusWithin 6 (handleOf 5) =
      some ExecutionStatus.submittedCode := by decide +kernel
  have status : chainedMarkers.store.objects.statusOf (handleOf 5) = ExecutionStatus.submittedCode :=
    Option.some.inj ((terminates (handleOf 5) 6 (by decide +kernel)).symm.trans found)
  refine ⟨reachable, status, Classical.byContradiction fun unreached => ?_, acyclic (handleOf 5)⟩
  cases status.symm.trans ((complete (handleOf 5)).mpr unreached)

end Offload.Simulator
