import Offload.Proofs.Bearing
import Offload.Session.Ownership

/-! Filing slots loses none: what is filled, replaced or emptied is in the slots afterwards
or has been handed out. The names stay in ascending order. -/
namespace Offload.Session
open Host

/-- What the owner inside a slot holds. -/
def Slot.holding (slot : Slot) : List (ObjectKind × Nat) :=
  match slot.item.owner? with
  | some ⟨_, owned⟩ => Session.holding owned
  | none => []

theorem eq_of_mem_holding {kind : ObjectKind} {owned : Owned kind} {owner : ObjectKind × Nat}
    (held : owner ∈ holding owned) : owner = (kind, owned.handle) := by
  unfold holding at held
  split at held
  · cases held
  · exact List.mem_singleton.mp held

/-- An owner that has not been released holds its object. -/
theorem mem_holding_self {kind : ObjectKind} {owned : Owned kind} (held : owned.handle ≠ 0) :
    (kind, owned.handle) ∈ holding owned := by
  rw [holding, if_neg held]
  exact List.mem_singleton_self _

theorem Slot.mem_holding {slot : Slot} {kind : ObjectKind} {owned : Owned kind}
    (owner : slot.item.owner? = some ⟨kind, owned⟩) (held : owned.handle ≠ 0) :
    (kind, owned.handle) ∈ slot.holding := by
  rw [Slot.holding, owner]
  exact mem_holding_self held

namespace Slots

def contents (slots : Slots) : List Slot := slots.map Prod.snd

/-- What all owners in the slots hold. -/
def holdings (slots : Slots) : List (ObjectKind × Nat) := slots.contents.flatMap Slot.holding

theorem mem_contents_of_get? {slots : Slots} {name : String} {slot : Slot}
    (found : slots.get? name = some slot) : slot ∈ slots.contents := by
  induction slots with
  | nil => cases found
  | cons entry rest ih =>
    obtain ⟨key, first⟩ := entry
    rw [get?] at found
    split at found
    · cases found
      exact List.mem_cons_self
    · exact List.mem_cons_of_mem _ (ih found)

/-- Slots in ascending order of their names. -/
abbrev Ascending (slots : Slots) : Prop := slots.Pairwise fun first second => first.1 < second.1

variable (slots : Slots) (name : String) (slot : Slot)

theorem put_perm :
    ((slots.put name slot).1.contents ++ (slots.put name slot).2.toList).Perm
      (slot :: slots.contents) := by
  induction slots with
  | nil => exact .refl _
  | cons entry rest ih =>
    obtain ⟨key, old⟩ := entry
    unfold put
    split
    · exact (List.perm_append_singleton old (contents rest)).cons slot
    · split
      · rw [Option.toList_none, List.append_nil]
        exact .refl _
      · exact (ih.cons old).trans (.swap slot old (contents rest))

theorem putAll_perm (made : List (String × Slot)) :
    ((slots.putAll made).1.contents ++ (slots.putAll made).2).Perm (contents made ++ slots.contents) := by
  induction made generalizing slots with
  | nil => exact .of_eq (List.append_nil (contents slots))
  | cons entry rest ih =>
    obtain ⟨name, slot⟩ := entry
    have filed := slots.put_perm name slot
    simp only [putAll]
    generalize slots.put name slot = put at filed
    open List in
    calc (putAll put.1 rest).1.contents ++ (put.2.toList ++ (putAll put.1 rest).2)
      _ ~ put.2.toList ++ ((putAll put.1 rest).1.contents ++ (putAll put.1 rest).2) :=
        perm_append_comm_assoc ..
      _ ~ put.2.toList ++ (contents rest ++ put.1.contents) := (ih put.1).append_left _
      _ ~ contents rest ++ (put.2.toList ++ put.1.contents) := perm_append_comm_assoc ..
      _ ~ contents rest ++ (slot :: slots.contents) := (perm_append_comm.trans filed).append_left _
      _ ~ slot :: (contents rest ++ slots.contents) := perm_middle

private theorem mem_put {entry : String × Slot} (member : entry ∈ (slots.put name slot).1) :
    entry = (name, slot) ∨ entry ∈ slots := by
  induction slots with
  | nil => exact Or.inl (List.mem_singleton.mp member)
  | cons first rest ih =>
    obtain ⟨key, old⟩ := first
    unfold put at member
    split at member
    · rcases List.mem_cons.mp member with new | later
      · exact Or.inl new
      · exact Or.inr (List.mem_cons_of_mem _ later)
    · split at member
      · exact List.mem_cons.mp member
      · rcases List.mem_cons.mp member with new | later
        · exact Or.inr (new ▸ List.mem_cons_self)
        · exact (ih later).imp_right (List.mem_cons_of_mem _)

theorem ascending_put (ascending : slots.Ascending) : (slots.put name slot).1.Ascending := by
  induction slots with
  | nil => exact List.pairwise_singleton _ _
  | cons entry rest ih =>
    obtain ⟨key, old⟩ := entry
    obtain ⟨before, ordered⟩ := List.pairwise_cons.mp ascending
    unfold put
    split
    · rename_i same
      exact List.pairwise_cons.mpr ⟨same ▸ before, ordered⟩
    · rename_i differs
      split
      · rename_i earlier
        refine List.pairwise_cons.mpr ⟨fun other member => ?_, ascending⟩
        rcases List.mem_cons.mp member with rfl | later
        · exact earlier
        · exact String.lt_trans earlier (before other later)
      · rename_i later
        refine List.pairwise_cons.mpr ⟨fun other member => ?_, ih ordered⟩
        rcases mem_put rest name slot member with rfl | old
        · exact Decidable.not_not.mp fun behind => differs (String.le_antisymm later behind)
        · exact before other old

theorem ascending_putAll (made : List (String × Slot)) (ascending : slots.Ascending) :
    (slots.putAll made).1.Ascending := by
  induction made generalizing slots with
  | nil => exact ascending
  | cons entry rest ih => exact ih _ (ascending_put slots entry.1 entry.2 ascending)

theorem ascending_erase (ascending : slots.Ascending) : (slots.erase name).Ascending :=
  ascending.filter _

/-- An emptied slot was the only one of its name. -/
theorem erase_perm (ascending : slots.Ascending) {name : String} {slot : Slot}
    (found : slots.get? name = some slot) :
    slots.contents.Perm (slot :: (slots.erase name).contents) := by
  induction slots with
  | nil => cases found
  | cons entry rest ih =>
    obtain ⟨key, old⟩ := entry
    obtain ⟨before, ordered⟩ := List.pairwise_cons.mp ascending
    rw [get?] at found
    split at found
    · rename_i same
      cases found
      subst same
      have others : rest.filter (fun entry => entry.1 != key) = rest :=
        List.filter_eq_self.mpr fun entry member => bne_iff_ne.mpr fun same =>
          String.lt_irrefl key (same ▸ before entry member)
      rw [erase, List.filter_cons_of_neg (by simp), others]
      exact .refl _
    · rename_i differs
      rw [erase, List.filter_cons_of_pos (by simpa using differs)]
      exact ((ih ordered found).cons old).trans (.swap slot old _)

end Slots
end Offload.Session
