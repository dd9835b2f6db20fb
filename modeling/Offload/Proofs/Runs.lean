import Offload.Proofs.Changes

/-! Runs of the simulated runtime: calls, and what the user of the simulation arranges in
between. A handle is never used twice, and commands name events that are older than they. -/
namespace Offload.Simulator

/-- One thing that happens to a machine. -/
inductive Happening where
  | call (request : Request)
  | fail (entry : EntryPoint) (status : Int)
  | returnNull (entry : EntryPoint)
  | allocateContext

/-- Nothing is injected into an entry point. -/
def Happening.Spares (entry : EntryPoint) : Happening → Prop
  | .fail failing _ => failing ≠ entry
  | _ => True

namespace Machine

def after (machine : Machine) : Happening → Machine
  | .call request => (machine.perform request).2
  | .fail entry status => machine.fail entry status
  | .returnNull entry => machine.returnNull entry
  | .allocateContext => machine.allocateContext.2

/-- The machine after all that happens, in order. -/
def run (machine : Machine) (happenings : List Happening) : Machine := happenings.foldl after machine

/-- A machine that some run leads to. -/
def Reachable (machine : Machine) : Prop :=
  ∃ platforms devices happenings, machine = (ofTopology platforms devices).run happenings

theorem run_append (machine : Machine) (early late : List Happening) :
    machine.run (early ++ late) = (machine.run early).run late := List.foldl_append

theorem change_run (machine : Machine) (happenings : List Happening) :
    Change machine.store (machine.run happenings).store := by
  induction happenings generalizing machine with
  | nil => exact .unchanged machine.store
  | cons first rest ih =>
    refine .composed ?_ (ih (machine.after first))
    cases first with
    | call request => exact change_perform machine request
    | fail | returnNull => exact .unchanged machine.store
    | allocateContext => exact .added (.made (.context _))

theorem failure?_after {entry : EntryPoint} (machine : Machine) {happening : Happening}
    (spares : happening.Spares entry) :
    (machine.after happening).injection.failure? entry = machine.injection.failure? entry := by
  cases happening with
  | call request =>
    show (machine.perform request).2.injection.failure? entry = _
    rw [(outcome_perform machine request).injection_eq]
  | fail failing status =>
    show ((failing, status) :: machine.injection.failures).lookup entry = _
    rw [List.lookup_cons, beq_eq_false_iff_ne.mpr (Ne.symm spares)]
    rfl
  | returnNull | allocateContext => rfl

/-- What an entry point is made to answer stays as it is. -/
theorem failure?_run {entry : EntryPoint} (machine : Machine) {happenings : List Happening}
    (spares : ∀ happening ∈ happenings, happening.Spares entry) :
    (machine.run happenings).injection.failure? entry = machine.injection.failure? entry := by
  induction happenings generalizing machine with
  | nil => rfl
  | cons first rest ih =>
    have later := ih (machine.after first) fun happening member =>
      spares happening (List.mem_cons_of_mem _ member)
    exact later.trans (machine.failure?_after (spares first List.mem_cons_self))

end Machine

/-- The handles in a table, oldest first. -/
def Table.keys (table : Table) : List Nat := table.map Prod.fst

namespace Table
variable (table : Table)

theorem keys_insert (id : Nat) (object : Object) : (table.insert id object).keys = table.keys ++ [id] := by
  simp only [keys, insert, List.map_append, List.map_cons, List.map_nil]

theorem keys_replace (id : Nat) (object : Object) : (table.replace id object).keys = table.keys := by
  simp only [keys, replace, List.map_map]
  refine List.map_congr_left fun entry _ => ?_
  simp only [Function.comp_apply]
  split
  · rename_i same
    exact same.symm
  · rfl

theorem keys_erase (id : Nat) : (table.erase id).keys = table.keys.filter (· != id) := by
  simp only [keys, erase, List.filter_map]
  rfl

theorem mem_of_find? {table : Table} {id : Nat} {object : Object}
    (found : table.find? id = some object) : (id, object) ∈ table := by
  induction table with
  | nil => cases found
  | cons entry rest ih =>
    obtain ⟨key, value⟩ := entry
    rw [find?] at found
    split at found
    · rename_i same
      cases found
      subst same
      exact List.mem_cons_self
    · exact List.mem_cons_of_mem _ (ih found)

theorem mem_keys_of_find? {table : Table} {id : Nat} {object : Object}
    (found : table.find? id = some object) : id ∈ table.keys :=
  List.mem_map_of_mem (mem_of_find? found)

end Table

/-- Handles are given out in ascending order, and a command waits for older events only. -/
structure Orderly (store : Store) : Prop where
  issued : ∀ key ∈ store.objects.keys, key ≤ handleOf store.made
  ascending : store.objects.keys.Pairwise (· < ·)
  older : ∀ id waits queuedAt, store.objects.find? id = some (.event (.command waits queuedAt)) →
    ∀ wait ∈ waits, wait < id

theorem handleOf_lt (made : Nat) : handleOf made < handleOf (made + 1) := by
  simp only [handleOf]
  omega

namespace Orderly
variable {store : Store}

theorem initial (platforms devices : Nat) :
    Orderly { platforms := platforms, devices := devices } where
  issued _ member := nomatch member
  ascending := .nil
  older _ _ _ found := nomatch found

theorem issued_of_find? (orderly : Orderly store) {id : Nat} {object : Object}
    (found : store.objects.find? id = some object) : id ≤ handleOf store.made :=
  orderly.issued id (Table.mem_keys_of_find? found)

/-- The next handle is not in use. -/
theorem find?_next (orderly : Orderly store) : store.objects.find? (handleOf (store.made + 1)) = none := by
  cases found : store.objects.find? (handleOf (store.made + 1)) with
  | none => rfl
  | some object =>
    have := orderly.issued_of_find? found
    have := handleOf_lt store.made
    omega

theorem find?_add (orderly : Orderly store) (object : Object) :
    (store.add object).2.objects.find? (store.add object).1 = some object := by
  have next := orderly.find?_next
  simp only [Store.add, Table.find?_insert, next, Option.none_or, if_true]

theorem revised (orderly : Orderly store) {after : Store} (revision : Revision store after) :
    Orderly after := by
  cases revision with
  | unchanged => exact orderly
  | @revised id object revision found revises =>
    have keys : (store.replace id revision).objects.keys = store.objects.keys :=
      Table.keys_replace store.objects id revision
    refine ⟨keys ▸ orderly.issued, keys ▸ orderly.ascending, ?_⟩
    intro other waits queuedAt found
    rcases Table.find?_replace_cases found with old | ⟨_, rfl⟩
    · exact orderly.older other waits queuedAt old
    · cases revises

private theorem added (orderly : Orderly store) {object : Object} (enters : Enters store object) :
    Orderly (store.add object).2 := by
  have next := handleOf_lt store.made
  have keys : (store.add object).2.objects.keys = store.objects.keys ++ [handleOf (store.made + 1)] :=
    Table.keys_insert store.objects (handleOf (store.made + 1)) object
  refine ⟨?_, ?_, ?_⟩
  · intro key member
    rw [keys, List.mem_append, List.mem_singleton] at member
    show key ≤ handleOf (store.made + 1)
    rcases member with old | rfl
    · have := orderly.issued key old
      omega
    · exact Nat.le_refl _
  · rw [keys, List.pairwise_append]
    refine ⟨orderly.ascending, List.pairwise_singleton _ _, ?_⟩
    intro old member new fresh
    rw [List.mem_singleton.mp fresh]
    have := orderly.issued old member
    omega
  · intro id waits queuedAt found wait member
    rcases Table.find?_insert_cases found with old | ⟨same, rfl⟩
    · exact orderly.older id waits queuedAt old wait member
    · obtain ⟨earlier, present⟩ := Option.isSome_iff_exists.mp (enters.anchored wait member)
      have := orderly.issued_of_find? present
      omega

private theorem removed (orderly : Orderly store) (id : Nat) :
    Orderly { store with objects := store.objects.erase id } := by
  have keys := Table.keys_erase store.objects id
  refine ⟨?_, ?_, ?_⟩
  · intro key member
    rw [keys, List.mem_filter] at member
    exact orderly.issued key member.1
  · rw [keys]
    exact orderly.ascending.filter _
  · intro other waits queuedAt found
    exact orderly.older other waits queuedAt (Table.of_find?_erase found)

/-- One step keeps the order, whatever it does. -/
theorem changed (orderly : Orderly store) {after : Store} (change : Change store after) :
    Orderly after := by
  induction change with
  | revised revision => exact orderly.revised revision
  | added enters => exact orderly.added enters
  | removed => exact orderly.removed _
  | ticked => exact ⟨orderly.issued, orderly.ascending, orderly.older⟩
  | composed _ _ early late => exact late (early orderly)

end Orderly

theorem Machine.Reachable.orderly {machine : Machine} (reachable : machine.Reachable) :
    Orderly machine.store := by
  obtain ⟨platforms, devices, happenings, rfl⟩ := reachable
  exact (Orderly.initial platforms devices).changed
    (change_run (ofTopology platforms devices) happenings)

/-- Under a handle there is an object of a kind. -/
def Store.HasKind (store : Store) (kind : ObjectKind) (id : Nat) : Prop :=
  ∃ object, store.objects.find? id = some object ∧ object.kind = kind

private theorem Revision.hasKind {store after : Store} (revision : Revision store after) {kind : ObjectKind}
    {id : Nat} (live : store.HasKind kind id) : after.HasKind kind id := by
  cases revision with
  | unchanged => exact live
  | @revised other object revision present revises =>
    obtain ⟨origin, found, sort⟩ := live
    rw [Store.HasKind, Store.replace, Table.find?_replace, found]
    split
    · rename_i same
      subst same
      cases present.symm.trans found
      exact ⟨revision, rfl, revises.kind_eq.trans sort⟩
    · exact ⟨origin, rfl, sort⟩

theorem Store.HasKind.add {store : Store} {kind : ObjectKind} {id : Nat} (live : store.HasKind kind id)
    (object : Object) : (store.add object).2.HasKind kind id := by
  obtain ⟨origin, found, sort⟩ := live
  exact ⟨origin, Table.find?_insert_of_found found, sort⟩

/-- Only a release that the runtime carries out takes an object away. -/
theorem Outcome.hasKind {machine after : Machine} {request : Request} {answer : Except Fault Response}
    (outcome : Outcome machine request answer after) {kind : ObjectKind} {id : Nat}
    (live : machine.store.HasKind kind id) :
    after.store.HasKind kind id ∨ (request = .release kind id ∧ machine.halted = false ∧
      machine.injection.failure? (.release kind) = none) := by
  cases outcome with
  | halted | injected | refused | faulted | exhausted | answered | waited | suppressed => exact Or.inl live
  | created => exact Or.inl (live.add _)
  | updated serving allowed service =>
    rcases Store.update_ok service with ⟨_, revision⟩ | ⟨other, target, object, rfl, found, same, rfl⟩
    · exact Or.inl (revision.hasKind live)
    · obtain ⟨origin, present, sort⟩ := live
      by_cases hit : id = target
      · subst hit
        cases present.symm.trans found
        obtain rfl := same.symm.trans sort
        exact Or.inr ⟨rfl, serving, allowed⟩
      · refine Or.inl ⟨origin, ?_, sort⟩
        rw [Table.find?_erase, if_neg hit]
        exact present
  | compiled _ _ _ found =>
    exact Or.inl ((Revision.revised (Store.program_ok_iff.mp found) (.compiled _)).hasKind live)
  | rejected _ _ _ found =>
    exact Or.inl ((Revision.revised (Store.program_ok_iff.mp found) (.rejected _)).hasKind live)
  | @queued _ _ _ _ properties events effect _ _ _ _ listed accepted =>
    have carried := (Store.revision_apply accepted).hasKind live
    obtain ⟨clock, queuedAt, finished⟩ := finishCommand_eq (machine.store.apply effect) properties events
    dsimp only
    rw [finished]
    have ticked : Store.HasKind { machine.store.apply effect with clock := clock } kind id := carried
    exact Or.inl (ticked.add _)

theorem Machine.hasKind_after {machine : Machine} {happening : Happening} {kind : ObjectKind} {id : Nat}
    (live : machine.store.HasKind kind id) :
    (machine.after happening).store.HasKind kind id ∨ (happening = .call (.release kind id) ∧
      machine.halted = false ∧ machine.injection.failure? (.release kind) = none) := by
  cases happening with
  | call request =>
    refine ((outcome_perform machine request).hasKind live).imp_right ?_
    rintro ⟨rfl, reasons⟩
    exact ⟨rfl, reasons⟩
  | fail | returnNull => exact Or.inl live
  | allocateContext => exact Or.inl (live.add _)

/-- What an object may have become after any number of revisions. -/
inductive Descends (origin : Object) : Object → Prop where
  | same : Descends origin origin
  | revised {object revision : Object} (descends : Descends origin object)
      (revises : Revises object revision) : Descends origin revision

private theorem Descends.trans {first second third : Object} (early : Descends first second)
    (late : Descends second third) : Descends first third := by
  induction late with
  | same => exact early
  | revised _ revises ih => exact .revised ih revises

/-- A command keeps its wait-list, and only an undecided user event gets another status. -/
theorem Descends.event {origin : Object} {later : Event} (descends : Descends origin (.event later)) :
    ∃ earlier, origin = .event earlier ∧
      (later = earlier ∨ earlier = .user ExecutionStatus.submittedCode) := by
  generalize same : Object.event later = object at descends
  induction descends generalizing later with
  | same => exact ⟨later, same.symm, Or.inl rfl⟩
  | revised _ revises ih =>
    cases revises with
    | memory | compiled | rejected | kernel => cases same
    | event decided =>
      obtain ⟨earlier, origin, kept | opened⟩ := ih rfl
      · exact ⟨earlier, origin, Or.inr kept.symm⟩
      · exact ⟨earlier, origin, Or.inr opened⟩

/-- An image keeps its shape, and a buffer stays one. -/
theorem Descends.memory {origin : Object} {later : Memory} (descends : Descends origin (.memory later)) :
    ∃ earlier, origin = .memory earlier ∧ later.shape? = earlier.shape? := by
  generalize same : Object.memory later = object at descends
  induction descends generalizing later with
  | same => exact ⟨later, same.symm, rfl⟩
  | revised _ revises ih =>
    cases revises with
    | event | compiled | rejected | kernel => cases same
    | memory data =>
      cases same
      obtain ⟨earlier, original, kept⟩ := ih rfl
      exact ⟨earlier, original, kept⟩

theorem Change.made_le {before after : Store} (change : Change before after) :
    before.made ≤ after.made := by
  induction change with
  | revised revision => cases revision <;> exact Nat.le_refl _
  | added => exact Nat.le_succ _
  | removed | ticked => exact Nat.le_refl _
  | composed _ _ early late => exact Nat.le_trans early late

/-- A handle that has been given out stays given out. -/
theorem Change.issued {before after : Store} (change : Change before after) {id : Nat}
    (issued : id ≤ handleOf before.made) : id ≤ handleOf after.made := by
  have := change.made_le
  simp only [handleOf] at issued ⊢
  omega

/-- An object under a handle that had been given out before was there before. -/
theorem Change.descends {before after : Store} (change : Change before after)
    (orderly : Orderly before) {id : Nat} (issued : id ≤ handleOf before.made) {object : Object}
    (found : after.objects.find? id = some object) :
    ∃ origin, before.objects.find? id = some origin ∧ Descends origin object := by
  induction change generalizing object with
  | revised revision =>
    cases revision with
    | unchanged => exact ⟨object, found, .same⟩
    | revised present revises =>
      rcases Table.find?_replace_cases found with old | ⟨rfl, rfl⟩
      · exact ⟨object, old, .same⟩
      · exact ⟨_, present, .revised .same revises⟩
  | @added store fresh =>
    have next := handleOf_lt store.made
    rcases Table.find?_insert_cases found with old | ⟨same, _⟩
    · exact ⟨object, old, .same⟩
    · omega
  | removed =>
    exact ⟨object, Table.of_find?_erase found, .same⟩
  | ticked => exact ⟨object, found, .same⟩
  | composed early late ihEarly ihLate =>
    obtain ⟨middle, present, last⟩ := ihLate (orderly.changed early) (early.issued issued) found
    obtain ⟨origin, original, start⟩ := ihEarly orderly issued present
    exact ⟨origin, original, start.trans last⟩

/-- What is found under one handle before and after is one object. -/
theorem Change.descends_of_find? {before after : Store} (change : Change before after)
    (orderly : Orderly before) {id : Nat} {origin object : Object}
    (present : before.objects.find? id = some origin) (found : after.objects.find? id = some object) :
    Descends origin object := by
  obtain ⟨_, original, descends⟩ := change.descends orderly (orderly.issued_of_find? present) found
  cases present.symm.trans original
  exact descends

end Offload.Simulator
