import Offload.Proofs.Inventory

/-! A ledger over a run: which objects were made, and which of them are still held by an
owner. Every object that is no longer held has been given back exactly once, and where no
release was made to fail, the objects of the runtime are the held ones. -/
namespace Offload.Simulator

/-- No release is made to fail. -/
def Machine.Lenient (machine : Machine) : Prop :=
  ∀ kind, machine.injection.failure? (.release kind) = none

private theorem Machine.lenient_of_fail {machine : Machine} {entry : EntryPoint} {status : Int}
    (lenient : (machine.fail entry status).Lenient) : machine.Lenient := by
  intro kind
  have none := lenient kind
  simp only [Machine.fail, Injection.failure?, List.lookup_cons] at none ⊢
  split at none
  · cases none
  · exact none

private theorem Grown.lenient {born : List (ObjectKind × Nat)} {before after : Machine}
    (grown : Grown born before after) (lenient : after.Lenient) : before.Lenient := by
  intro kind
  rw [← grown.injection]
  exact lenient kind

theorem Grown.serving {born : List (ObjectKind × Nat)} {before after : Machine}
    (grown : Grown born before after) (serving : after.halted = false) : before.halted = false := by
  cases halted : before.halted with
  | false => rfl
  | true => cases (grown.halted halted).symm.trans serving

/-- A runtime that has halted is still called, but takes nothing back any more, so that it is never
empty again. -/
structure Ledger (made held : List (ObjectKind × Nat)) (machine : Machine) : Prop where
  orderly : Orderly machine.store
  issued : ∀ entry ∈ made, entry.2 ≤ handleOf machine.store.made
  distinct : (made.map Prod.snd).Nodup
  balance : (machine.released ++ held).Perm made
  stored : machine.Lenient → ∀ entry ∈ held, entry ∈ machine.store.objects.outline
  complete : machine.halted = false → machine.Lenient → machine.store.objects.outline.Perm held
  lasting : machine.halted = true → machine.store.objects.outline ≠ []

namespace Ledger
variable {made held : List (ObjectKind × Nat)} {machine : Machine}

theorem initial (platforms devices : Nat) : Ledger [] [] (.ofTopology platforms devices) where
  orderly := .initial platforms devices
  issued _ member := by cases member
  distinct := .nil
  balance := .nil
  stored _ _ member := by cases member
  complete _ _ := .nil
  lasting := nofun

theorem perm (ledger : Ledger made held machine) {others kept : List (ObjectKind × Nat)}
    (sameMade : made.Perm others) (sameHeld : held.Perm kept) : Ledger others kept machine where
  orderly := ledger.orderly
  issued entry member := ledger.issued entry (sameMade.mem_iff.mpr member)
  distinct := (sameMade.map Prod.snd).nodup_iff.mp ledger.distinct
  balance := ((List.Perm.append_left machine.released sameHeld).symm.trans ledger.balance).trans sameMade
  stored lenient entry member := ledger.stored lenient entry (sameHeld.mem_iff.mpr member)
  complete serving lenient := (ledger.complete serving lenient).trans sameHeld
  lasting := ledger.lasting

theorem held_distinct (ledger : Ledger made held machine) :
    ((machine.released ++ held).map Prod.snd).Nodup :=
  (ledger.balance.map Prod.snd).nodup_iff.mpr ledger.distinct

theorem alone {kind : ObjectKind} {handle : Nat} (ledger : Ledger made ((kind, handle) :: held) machine) :
    handle ∉ held.map Prod.snd := by
  have distinct := ledger.held_distinct
  rw [List.map_append, List.map_cons, List.nodup_append, List.nodup_cons] at distinct
  exact distinct.2.1.1

/-- An object that is born is held by its maker. -/
theorem grown (ledger : Ledger made held machine) {born : List (ObjectKind × Nat)} {after : Machine}
    (grown : Grown born machine after) (single : born.length ≤ 1) :
    Ledger (born ++ made) (born ++ held) after where
  orderly := ledger.orderly.changed grown.change
  issued entry member := by
    rcases List.mem_append.mp member with fresh | old
    · exact (grown.fresh entry fresh).2
    · exact grown.change.issued (ledger.issued entry old)
  distinct := by
    rw [List.map_append, List.nodup_append]
    refine ⟨?_, ledger.distinct, ?_⟩
    · rcases born with _ | ⟨entry, _ | ⟨other, rest⟩⟩
      · exact .nil
      · exact List.pairwise_singleton _ _
      · cases Nat.not_succ_le_zero _ (Nat.le_of_succ_le_succ single)
    · intro handle fresh other old same
      obtain ⟨entry, member, rfl⟩ := List.mem_map.mp fresh
      obtain ⟨earlier, known, rfl⟩ := List.mem_map.mp old
      have := (grown.fresh entry member).1
      have := ledger.issued earlier known
      omega
  balance := by
    rw [grown.released]
    refine (List.perm_append_comm_assoc machine.released born held).trans ?_
    exact ledger.balance.append_left born
  stored lenient entry member := by
    rw [grown.outline]
    rcases List.mem_append.mp member with fresh | old
    · exact List.mem_append_right _ fresh
    · exact List.mem_append_left born (ledger.stored (grown.lenient lenient) entry old)
  complete serving lenient := by
    rw [grown.outline]
    have complete := ledger.complete (grown.serving serving) (grown.lenient lenient)
    exact (complete.append_right born).trans List.perm_append_comm
  lasting halted :=
    (grown.halts halted).elim (fun before => grown.outline_ne_nil (ledger.lasting before)) id

theorem fail (ledger : Ledger made held machine) (entry : EntryPoint) (status : Int) :
    Ledger made held (machine.fail entry status) where
  orderly := ledger.orderly
  issued := ledger.issued
  distinct := ledger.distinct
  balance := ledger.balance
  stored lenient := ledger.stored (Machine.lenient_of_fail lenient)
  complete serving lenient := ledger.complete serving (Machine.lenient_of_fail lenient)
  lasting := ledger.lasting

theorem returnNull (ledger : Ledger made held machine) (entry : EntryPoint) :
    Ledger made held (machine.returnNull entry) :=
  ⟨ledger.orderly, ledger.issued, ledger.distinct, ledger.balance, ledger.stored, ledger.complete,
    ledger.lasting⟩

private theorem filter_held (held : List (ObjectKind × Nat)) (handle : Nat)
    (absent : handle ∉ held.map Prod.snd) : (held.filter fun entry => entry.2 != handle) = held := by
  refine List.filter_eq_self.mpr fun entry member => ?_
  rw [bne_iff_ne]
  rintro rfl
  exact absent (List.mem_map_of_mem member)

/-- Giving back a held object strikes it off, also when the runtime does not take it back. -/
theorem release {kind : ObjectKind} {handle : Nat} (ledger : Ledger made ((kind, handle) :: held) machine) :
    Ledger made held (machine.perform (.release kind handle)).2 := by
  have change := change_perform machine (.release kind handle)
  have balance : ((kind, handle) :: machine.released ++ held).Perm made :=
    (List.perm_middle.symm).trans ledger.balance
  have kept : machine.Lenient → ∀ entry ∈ held, entry ∈ machine.store.objects.outline :=
    fun lenient entry member => ledger.stored lenient entry (List.mem_cons_of_mem _ member)
  cases halted : machine.halted with
  | true =>
    rw [Machine.perform_of_halted halted]
    refine ⟨ledger.orderly, ledger.issued, ledger.distinct, balance, kept, fun serving => ?_, ledger.lasting⟩
    cases halted.symm.trans serving
  | false =>
    obtain ⟨status, store, reached, removed⟩ := Machine.perform_release halted kind handle
    rw [reached] at change ⊢
    have complete : machine.Lenient → store.objects.outline.Perm held := by
      intro lenient
      have owned := ledger.complete halted lenient
      have listed : (kind, handle) ∈ machine.store.objects.outline :=
        owned.mem_iff.mpr List.mem_cons_self
      obtain ⟨object, found, same⟩ := ledger.orderly.find?_of_outline listed
      rcases removed with ⟨_, _, rfl⟩ | ⟨_, kept⟩
      · have struck := owned.filter fun entry => entry.2 != handle
        rw [List.filter_cons_of_neg (by simp), filter_held held handle ledger.alone] at struck
        rw [Table.outline_erase]
        exact struck
      · exact (kept (lenient _) object found same).elim
    refine ⟨ledger.orderly.changed change, ?_, ledger.distinct, balance, ?_, fun _ => complete, ?_⟩
    · exact fun entry member => change.issued (ledger.issued entry member)
    · exact fun lenient entry member => (complete lenient).mem_iff.mpr member
    · exact fun stopped => nomatch halted.symm.trans stopped

/-- Giving back a held object touches none of the others. -/
theorem find?_release {kind : ObjectKind} {handle : Nat}
    (ledger : Ledger made ((kind, handle) :: held) machine) {owner : ObjectKind × Nat}
    (holding : owner ∈ held) :
    (machine.perform (.release kind handle)).2.store.objects.find? owner.2 =
      machine.store.objects.find? owner.2 := by
  cases halted : machine.halted with
  | true => rw [Machine.perform_of_halted halted, Machine.counted]
  | false =>
    obtain ⟨status, store, reached, ⟨_, _, rfl⟩ | ⟨rfl, _⟩⟩ :=
      Machine.perform_release halted kind handle
    · have other : owner.2 ≠ handle := fun same =>
        ledger.alone (List.mem_map.mpr ⟨owner, holding, same⟩)
      rw [reached, Table.find?_erase, if_neg other]
    · rw [reached]

/-- Every object that was made is held, or else has been given back once. -/
theorem count_released (ledger : Ledger made held machine) (entry : ObjectKind × Nat) :
    machine.released.count entry = if entry ∈ made ∧ entry ∉ held then 1 else 0 := by
  have distinct : (machine.released ++ held).Nodup :=
    List.Pairwise.of_map Prod.snd (fun _ _ differs same => differs (congrArg Prod.snd same))
      ledger.held_distinct
  obtain ⟨once, _, apart⟩ := List.nodup_append.mp distinct
  have given : entry ∈ machine.released ↔ entry ∈ made ∧ entry ∉ held := by
    rw [← ledger.balance.mem_iff, List.mem_append]
    constructor
    · exact fun member => ⟨Or.inl member, fun held => apart entry member entry held rfl⟩
    · exact fun ⟨known, gone⟩ => known.resolve_right gone
  rw [once.count]
  simp only [given]

theorem find?_of_held (ledger : Ledger made held machine) (lenient : machine.Lenient)
    {entry : ObjectKind × Nat} (holding : entry ∈ held) :
    ∃ object, machine.store.objects.find? entry.2 = some object ∧ object.kind = entry.1 :=
  ledger.orderly.find?_of_outline (ledger.stored lenient entry holding)

/-- A release entry point has been called for every object of its kind that is held no more. -/
theorem callCount_release (ledger : Ledger made held machine) (kind : ObjectKind) :
    machine.callCount (.release kind) + held.countP (·.1 = kind) = made.countP (·.1 = kind) := by
  have counted : ∀ calls : List Request, calls.countP (·.entry == .release kind) =
      (calls.filterMap released?).countP (·.1 = kind) := by
    intro calls
    induction calls with
    | nil => rfl
    | cons first rest ih =>
      rw [List.countP_cons, ih]
      cases first with
      | release other handle =>
        simp only [released?, Request.entry, List.filterMap_cons, List.countP_cons, beq_iff_eq,
          EntryPoint.release.injEq, decide_eq_true_eq]
      | _ => rfl
  rw [← ledger.balance.countP_eq, List.countP_append, Machine.callCount, counted]
  rfl

end Ledger
end Offload.Simulator
