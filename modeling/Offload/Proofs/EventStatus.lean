import Offload.Proofs.Runs

/-! The status of events, read off the wait-lists: a command is complete once all that it
waits for is, and the first event that is not decides it otherwise. -/
namespace Offload.Simulator

theorem imposed?_eq_none_iff {status : Int} :
    imposed? status = none ↔ status = ExecutionStatus.completeCode := by
  unfold imposed?
  split
  · simp [*]
  · split <;> simp [*]

private theorem imposed?_of_neg {status : Int} (failed : status < 0) :
    imposed? status = some waitFailedCode := by
  have : status ≠ ExecutionStatus.completeCode := by
    simp only [ExecutionStatus.completeCode]
    omega
  simp only [imposed?, this, failed, if_false, if_true]

/-- An unfinished event imposes a failure exactly when it has failed itself. -/
theorem imposed?_cases {status imposed : Int} (imposes : imposed? status = some imposed) :
    (status < 0 ∧ imposed = waitFailedCode) ∨ imposed = ExecutionStatus.submittedCode := by
  unfold imposed? at imposes
  split at imposes
  · cases imposes
  · split at imposes
    · cases imposes
      exact Or.inl ⟨‹_›, rfl⟩
    · cases imposes
      exact Or.inr rfl

namespace Table
variable {objects : Table} {id : Nat}

/-- What is no event holds nobody back. -/
theorem statusOf_of_absent (absent : ∀ event, objects.find? id ≠ some (.event event)) :
    objects.statusOf id = ExecutionStatus.completeCode := by
  rw [statusOf]
  split
  · exact (absent _ ‹_›).elim
  · exact (absent _ ‹_›).elim
  · rfl

theorem statusOf_user {status : Int} (found : objects.find? id = some (.event (.user status))) :
    objects.statusOf id = status := by
  rw [statusOf, found]

theorem exists_event_of_statusOf_ne (unfinished : objects.statusOf id ≠ ExecutionStatus.completeCode) :
    ∃ event, objects.find? id = some (.event event) := by
  by_cases present : ∃ event, objects.find? id = some (.event event)
  · exact present
  · exact (unfinished (statusOf_of_absent fun event found => present ⟨event, found⟩)).elim

private theorem findSome?_guarded {waits : List Nat} (older : ∀ wait ∈ waits, wait < id)
    (answer : Nat → Option Int) :
    (waits.findSome? fun wait => if wait < id then answer wait else none) =
      waits.findSome? answer := by
  induction waits with
  | nil => rfl
  | cons first rest ih =>
    rw [List.findSome?_cons, List.findSome?_cons, if_pos (older first List.mem_cons_self),
      ih fun wait member => older wait (List.mem_cons_of_mem first member)]

end Table

namespace Orderly
variable {store : Store} {id : Nat} {waits : List Nat} {queuedAt : Option Nat}

theorem statusOf_command (orderly : Orderly store)
    (found : store.objects.find? id = some (.event (.command waits queuedAt))) :
    store.objects.statusOf id =
      (waits.findSome? fun wait => imposed? (store.objects.statusOf wait)).getD
        ExecutionStatus.completeCode := by
  rw [Table.statusOf, found]
  dsimp only
  rw [Table.findSome?_guarded (orderly.older id waits queuedAt found) fun wait =>
    imposed? (store.objects.statusOf wait)]

theorem command_complete_iff (orderly : Orderly store)
    (found : store.objects.find? id = some (.event (.command waits queuedAt))) :
    store.objects.statusOf id = ExecutionStatus.completeCode ↔
      ∀ wait ∈ waits, store.objects.statusOf wait = ExecutionStatus.completeCode := by
  rw [orderly.statusOf_command found]
  constructor
  · intro complete wait member
    cases imposing : waits.findSome? fun wait => imposed? (store.objects.statusOf wait) with
    | none => exact imposed?_eq_none_iff.mp (List.findSome?_eq_none_iff.mp imposing wait member)
    | some imposed =>
      rw [imposing] at complete
      obtain ⟨_, _, imposes⟩ := List.exists_of_findSome?_eq_some imposing
      rcases imposed?_cases imposes with ⟨_, rfl⟩ | rfl <;> cases complete
  · intro complete
    rw [List.findSome?_eq_none_iff.mpr fun wait member =>
      imposed?_eq_none_iff.mpr (complete wait member)]
    rfl

/-- A command fails with its first unfinished event. -/
theorem command_failed (orderly : Orderly store) {earlier rest : List Nat} {cause : Nat}
    (found : store.objects.find? id = some (.event (.command (earlier ++ cause :: rest) queuedAt)))
    (passed : ∀ wait ∈ earlier, store.objects.statusOf wait = ExecutionStatus.completeCode)
    (failed : store.objects.statusOf cause < 0) : store.objects.statusOf id = waitFailedCode := by
  have silent : earlier.findSome? (fun wait => imposed? (store.objects.statusOf wait)) = none :=
    List.findSome?_eq_none_iff.mpr fun wait member => imposed?_eq_none_iff.mpr (passed wait member)
  rw [orderly.statusOf_command found, List.findSome?_append, silent, List.findSome?_cons,
    imposed?_of_neg failed]
  rfl

theorem exists_cause (orderly : Orderly store)
    (found : store.objects.find? id = some (.event (.command waits queuedAt)))
    (failed : store.objects.statusOf id < 0) :
    ∃ earlier cause rest, waits = earlier ++ cause :: rest ∧
      (∀ wait ∈ earlier, store.objects.statusOf wait = ExecutionStatus.completeCode) ∧
      store.objects.statusOf cause < 0 := by
  rw [orderly.statusOf_command found] at failed
  cases imposing : waits.findSome? fun wait => imposed? (store.objects.statusOf wait) with
  | none =>
    rw [imposing] at failed
    exact absurd failed (by decide)
  | some imposed =>
    rw [imposing] at failed
    obtain ⟨earlier, cause, rest, split, imposes, silent⟩ := List.findSome?_eq_some_iff.mp imposing
    rcases imposed?_cases imposes with ⟨negative, _⟩ | rfl
    · exact ⟨earlier, cause, rest, split,
        fun wait member => imposed?_eq_none_iff.mp (silent wait member), negative⟩
    · exact absurd failed (by decide)

theorem command_status_cases (orderly : Orderly store)
    (found : store.objects.find? id = some (.event (.command waits queuedAt))) :
    store.objects.statusOf id = ExecutionStatus.completeCode ∨
      store.objects.statusOf id = ExecutionStatus.submittedCode ∨
      store.objects.statusOf id = waitFailedCode := by
  rw [orderly.statusOf_command found]
  cases imposing : waits.findSome? fun wait => imposed? (store.objects.statusOf wait) with
  | none => exact Or.inl rfl
  | some imposed =>
    obtain ⟨_, _, imposes⟩ := List.exists_of_findSome?_eq_some imposing
    rcases imposed?_cases imposes with ⟨_, rfl⟩ | rfl
    · exact Or.inr (Or.inr rfl)
    · exact Or.inr (Or.inl rfl)

end Orderly
end Offload.Simulator
