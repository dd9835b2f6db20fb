import Offload.Proofs.Runs

/-! The objects of the runtime by kind and handle, and the calls that gave objects back. A
call that neither makes nor releases an object leaves both as they are. -/
namespace Offload.Simulator

/-- Kinds and handles of the objects in a table, oldest first. -/
def Table.outline (table : Table) : List (ObjectKind × Nat) :=
  table.map fun entry => (entry.2.kind, entry.1)

/-- The object that a request gives back, whether the runtime lets it or not. -/
def released? : Request → Option (ObjectKind × Nat)
  | .release kind handle => some (kind, handle)
  | _ => none

/-- The objects that were given back, the last one first. -/
def Machine.released (machine : Machine) : List (ObjectKind × Nat) := machine.calls.filterMap released?

/-- The kind of object that a request makes, where it makes one. -/
def made? : Request → Option ObjectKind
  | .createContext _ => some .context
  | .createQueue .. => some .queue
  | .createBuffer .. | .createImage .. => some .memory
  | .createProgram .. => some .program
  | .createKernel .. => some .kernel
  | .createUserEvent _ | .enqueue .. => some .event
  | _ => none

/-- Whether calls of a sort make objects. -/
def Service.makes : Service → Bool
  | .creation _ | .enqueue .. => true
  | _ => false

theorem Store.makes_service (store : Store) (request : Request) :
    (store.service request).makes = (made? request).isSome := by
  cases request <;> rfl

/-- A call came back with a new object, which is born, and did nothing else to the others. -/
structure Grown (born : List (ObjectKind × Nat)) (before after : Machine) : Prop where
  change : Change before.store after.store
  outline : after.store.objects.outline = before.store.objects.outline ++ born
  fresh : ∀ entry ∈ born, handleOf before.store.made < entry.2 ∧ entry.2 ≤ handleOf after.store.made
  released : after.released = before.released
  injection : after.injection = before.injection
  halted : before.halted = true → after.halted = true
  halts : after.halted = true → before.halted = true ∨ after.store.objects.outline ≠ []

namespace Table

theorem outline_insert (table : Table) (id : Nat) (object : Object) :
    (table.insert id object).outline = table.outline ++ [(object.kind, id)] := by
  simp only [outline, insert, List.map_append, List.map_cons, List.map_nil]

theorem outline_erase (table : Table) (id : Nat) :
    (table.erase id).outline = table.outline.filter fun entry => entry.2 != id := by
  simp only [outline, erase, List.filter_map]
  rfl

theorem outline_ne_nil {table : Table} {id : Nat} {object : Object} (found : table.find? id = some object) :
    table.outline ≠ [] :=
  List.ne_nil_of_mem (List.mem_map_of_mem (mem_of_find? found))

/-- Where no handle occurs twice, every entry is found under its handle. -/
theorem find?_of_mem {table : Table} (ascending : table.keys.Pairwise (· < ·)) {id : Nat}
    {object : Object} (member : (id, object) ∈ table) : table.find? id = some object := by
  induction table with
  | nil => cases member
  | cons entry rest ih =>
    obtain ⟨key, value⟩ := entry
    have split : (∀ other ∈ keys rest, key < other) ∧ (keys rest).Pairwise (· < ·) :=
      List.pairwise_cons.mp ascending
    rcases List.mem_cons.mp member with same | later
    · cases same
      rw [find?, if_pos rfl]
    · have : key < id := split.1 id (List.mem_map_of_mem later)
      rw [find?, if_neg (by omega), ih split.2 later]

/-- Where no handle occurs twice, revising an object is seen on no outline. -/
theorem outline_replace {table : Table} (ascending : table.keys.Pairwise (· < ·)) {id : Nat}
    {object revision : Object} (found : table.find? id = some object)
    (same : revision.kind = object.kind) : (table.replace id revision).outline = table.outline := by
  simp only [outline, replace, List.map_map]
  refine List.map_congr_left fun entry member => ?_
  simp only [Function.comp_apply]
  split
  · rename_i hit
    subst hit
    cases (find?_of_mem ascending member).symm.trans found
    rw [same]
  · rfl

end Table

/-- Where handles ascend, what the outline lists is found under its handle. -/
theorem Orderly.find?_of_outline {store : Store} (orderly : Orderly store) {owner : ObjectKind × Nat}
    (listed : owner ∈ store.objects.outline) :
    ∃ object, store.objects.find? owner.2 = some object ∧ object.kind = owner.1 := by
  obtain ⟨⟨id, object⟩, member, rfl⟩ := List.mem_map.mp listed
  exact ⟨object, Table.find?_of_mem orderly.ascending member, rfl⟩

theorem Revision.outline_eq {store after : Store} (revision : Revision store after)
    (orderly : Orderly store) : after.objects.outline = store.objects.outline := by
  cases revision with
  | unchanged => rfl
  | revised found revises => exact Table.outline_replace orderly.ascending found revises.kind_eq

theorem Revision.made_eq {store after : Store} (revision : Revision store after) :
    after.made = store.made := by
  cases revision <;> rfl

namespace Grown
variable {born : List (ObjectKind × Nat)} {first second third : Machine}

theorem unchanged (machine : Machine) : Grown [] machine machine where
  change := .unchanged machine.store
  outline := (List.append_nil _).symm
  fresh _ member := nomatch member
  released := rfl
  injection := rfl
  halted := id
  halts := Or.inl

/-- Objects that are there stay there. -/
theorem outline_ne_nil (grown : Grown born first second) (stored : first.store.objects.outline ≠ []) :
    second.store.objects.outline ≠ [] := by
  rw [grown.outline]
  exact List.append_ne_nil_of_left_ne_nil stored born

/-- Nothing is born first, something perhaps later. -/
theorem late (early : Grown [] first second) (late : Grown born second third) :
    Grown born first third where
  change := .composed early.change late.change
  outline := by rw [late.outline, early.outline, List.append_nil]
  fresh entry member := by
    obtain ⟨above, known⟩ := late.fresh entry member
    exact ⟨Nat.lt_of_le_of_lt (early.change.issued (Nat.le_refl _)) above, known⟩
  released := late.released.trans early.released
  injection := late.injection.trans early.injection
  halted := late.halted ∘ early.halted
  halts halted :=
    (late.halts halted).elim (fun before => (early.halts before).imp_right late.outline_ne_nil) Or.inr

end Grown

/-- Every object of a store is still there, perhaps revised. -/
def Keeps (before after : Store) : Prop :=
  ∀ id object, before.objects.find? id = some object →
    ∃ later, after.objects.find? id = some later ∧ Descends object later

theorem Keeps.refl (store : Store) : Keeps store store := fun _ object found => ⟨object, found, .same⟩

/-- What is born takes no object away. -/
theorem Grown.keeps {born : List (ObjectKind × Nat)} {before after : Machine}
    (grown : Grown born before after) (orderly : Orderly before.store) :
    Keeps before.store after.store := by
  intro id object found
  have listed : (object.kind, id) ∈ after.store.objects.outline := by
    rw [grown.outline]
    exact List.mem_append_left born (List.mem_map_of_mem (Table.mem_of_find? found))
  obtain ⟨later, present, _⟩ := (orderly.changed grown.change).find?_of_outline listed
  exact ⟨later, present, grown.change.descends_of_find? orderly found present⟩

namespace Outcome
variable {machine after : Machine} {request : Request} {answer : Except Fault Response}

theorem halted_mono (outcome : Outcome machine request answer after)
    (halted : machine.halted = true) : after.halted = true := by
  cases outcome with
  | faulted | exhausted => rfl
  | _ => exact halted

/-- A runtime halts with a call on an object that it has. -/
theorem halts (outcome : Outcome machine request answer after) (halted : after.halted = true) :
    machine.halted = true ∨ after.store.objects.outline ≠ [] := by
  cases outcome with
  | faulted _ _ _ found => exact Or.inr (Table.outline_ne_nil (Store.queue_ok_iff.mp found))
  | exhausted _ _ exceeds =>
    cases exceeds with
    | buffer live | image live | source live =>
      exact Or.inr (Table.outline_ne_nil (Store.context_ok_iff.mp live))
  | _ => exact Or.inl halted

theorem calls_eq (outcome : Outcome machine request answer after) :
    after.calls = request :: machine.calls := by
  cases outcome <;> rfl

theorem released_eq (outcome : Outcome machine request answer after)
    (keeps : released? request = none) : after.released = machine.released := by
  simp only [Machine.released, outcome.calls_eq, List.filterMap_cons, keeps]

/-- A call that neither makes nor releases an object leaves the inventory alone. -/
theorem calm (outcome : Outcome machine request answer after) (orderly : Orderly machine.store)
    (makes : made? request = none) (keeps : released? request = none) : Grown [] machine after := by
  have sort := machine.store.makes_service request
  rw [makes] at sort
  have outline : after.store.objects.outline = machine.store.objects.outline := by
    cases outcome with
    | halted | injected | refused | faulted | exhausted | answered | waited | suppressed => rfl
    | created _ _ service =>
    rw [service] at sort
    cases sort
    | updated _ _ service =>
      rcases Store.update_ok service with ⟨_, revision⟩ | ⟨_, _, _, rfl, _⟩
      · exact revision.outline_eq orderly
      · cases keeps
    | compiled _ _ _ found =>
      exact (Revision.revised (Store.program_ok_iff.mp found) (.compiled _)).outline_eq orderly
    | rejected _ _ _ found =>
      exact (Revision.revised (Store.program_ok_iff.mp found) (.rejected _)).outline_eq orderly
    | queued _ _ service =>
    rw [service] at sort
    cases sort
  exact {
    change := outcome.change
    outline := by rw [outline, List.append_nil]
    fresh := fun _ member => nomatch member
    released := outcome.released_eq keeps
    injection := outcome.injection_eq
    halted := outcome.halted_mono
    halts := outcome.halts }

end Outcome

/-- A runtime that serves has served before. -/
theorem Machine.serving_of_after {machine : Machine} {happening : Happening}
    (serving : (machine.after happening).halted = false) : machine.halted = false := by
  cases happening with
  | call request =>
    cases halted : machine.halted with
    | false => rfl
    | true => cases ((outcome_perform machine request).halted_mono halted).symm.trans serving
  | fail | returnNull | allocateContext => exact serving

/-- The object that a making call came back with. -/
def offspring (kind : ObjectKind) : Except Fault Response → List (ObjectKind × Nat)
  | .ok response =>
    match checkHandle response.status response.handle with
    | .ok handle => [(kind, handle)]
    | .error _ => []
  | .error _ => []

private theorem offspring_null (kind : ObjectKind) {response : Response} (null : response.handle = 0) :
    offspring kind (.ok response) = [] := by
  simp only [offspring, checkHandle, null]
  cases CallError.ofStatus? response.status <;> rfl

private theorem offspring_handle (kind : ObjectKind) {response : Response} (success : response.status = 0)
    (handled : response.handle ≠ 0) : offspring kind (.ok response) = [(kind, response.handle)] := by
  simp only [offspring, checkHandle, CallError.ofStatus?, success, handled, if_true, if_false]

theorem handleOf_ne_zero (number : Nat) : handleOf number ≠ 0 := by
  simp only [handleOf]
  omega

private theorem Fresh.kind_eq {request : Request} {kind : ObjectKind} {object : Object}
    (fresh : Fresh request.entry object) (makes : made? request = some kind) : object.kind = kind := by
  cases request <;> cases makes <;> cases fresh <;> rfl

namespace Grown
variable {machine : Machine}

/-- An object that is stored under the next handle is born. -/
theorem of_add {after : Machine} {store : Store} {object : Object}
    (change : Change machine.store store) (outline : store.objects.outline = machine.store.objects.outline)
    (made : store.made = machine.store.made) (added : after.store = (store.add object).2)
    (enters : Enters store object)
    (released : after.released = machine.released) (injection : after.injection = machine.injection)
    (serving : machine.halted = false) :
    Grown [(object.kind, handleOf (machine.store.made + 1))] machine after where
  change := added ▸ .composed change (.added enters)
  outline := by
    rw [added, ← made, ← outline]
    exact Table.outline_insert store.objects _ object
  fresh entry member := by
    rw [List.mem_singleton.mp member, added]
    refine ⟨handleOf_lt machine.store.made, ?_⟩
    simp only [Store.add, made]
    exact Nat.le_refl _
  released := released
  injection := injection
  halted halted := by cases serving.symm.trans halted
  halts _ := by
    have stored : (store.add object).2.objects.outline = _ := Table.outline_insert store.objects _ object
    rw [added, stored]
    exact Or.inr (List.append_ne_nil_of_right_ne_nil _ (List.cons_ne_nil _ _))

end Grown

/-- A call that makes an object leaves all others alone, and the release calls. -/
theorem Outcome.grown {machine after : Machine} {request : Request} {answer : Except Fault Response}
    (outcome : Outcome machine request answer after) (orderly : Orderly machine.store)
    {kind : ObjectKind} (makes : made? request = some kind)
    (wanted : ∀ queue command waits, request ≠ .enqueue queue command waits false) :
    Grown (offspring kind answer) machine after := by
  have keeps : released? request = none := by
    cases request <;> first | rfl | cases makes
  -- Where no object is stored, the answer carries no handle.
  have barren : after.store.objects.outline = machine.store.objects.outline →
      Grown [] machine after := fun outline => {
    change := outcome.change
    outline := by rw [outline, List.append_nil]
    fresh := fun _ member => nomatch member
    released := outcome.released_eq keeps
    injection := outcome.injection_eq
    halted := outcome.halted_mono
    halts := outcome.halts }
  have released := outcome.released_eq keeps
  have injection := outcome.injection_eq
  have sort := machine.store.makes_service request
  rw [makes] at sort
  cases outcome with
  | halted | faulted | exhausted => exact barren rfl
  | injected | refused | waited | suppressed =>
    rw [offspring_null kind rfl]
    exact barren rfl
  | answered _ _ service =>
    rw [service] at sort
    cases sort
  | updated _ _ service =>
    rw [service] at sort
    cases sort
  | compiled _ _ service =>
    rw [service] at sort
    cases sort
  | rejected _ _ service =>
    rw [service] at sort
    cases sort
  | created serving allowed service stored =>
    have fresh := Store.fresh_of_creation service
    rw [offspring_handle kind rfl (handleOf_ne_zero _), ← fresh.kind_eq makes]
    exact .of_add (.unchanged machine.store) rfl rfl rfl (.made fresh) released injection serving
  | @queued queue command waits wantEvent properties events effect serving _ service _ listed accepted =>
    have wants : wantEvent = true := by
      cases wantEvent with
      | true => rfl
      | false =>
        refine (wanted queue command waits ?_).elim
        cases request <;> cases service
        rfl
    have carried := Store.revision_apply accepted
    obtain ⟨clock, queuedAt, finished⟩ := finishCommand_eq (machine.store.apply effect) properties events
    have evented : kind = .event := by
      cases request <;> cases service
      exact (Option.some.inj makes).symm
    clear barren
    subst wants evented
    dsimp only at released ⊢
    rw [finished] at released ⊢
    rw [offspring_handle .event rfl (handleOf_ne_zero _)]
    have born := Grown.of_add (.composed (.revised carried) (.ticked _ clock))
      (carried.outline_eq orderly) carried.made_eq rfl
      (.queued fun wait member =>
        (carried.isSome_find? wait).trans (Machine.waitList_ok listed wait member))
      released injection serving
    exact carried.made_eq ▸ born

end Offload.Simulator
