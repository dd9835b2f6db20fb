import Offload.Proofs.Answers
import Offload.Proofs.Works

/-! Keeping the books of a session. Its works enter what they make, and a slot that goes away
gives back what it holds, however the runtime answers. -/
namespace Offload.Session
open Host Simulator

variable {made : List (ObjectKind × Nat)}

/-- A work enters what it makes, which is in the slots that it hands over, and takes no object
away. -/
def Accounts (work : Work) : Prop :=
  ∀ made held machine notices, Ledger made held machine → ∃ result after notes,
    work.perform (plain machine notices) = (result, plain after notes) ∧
      announced notes = born Product.children result ++ announced notices ∧
      Keeps machine.store after.store ∧
      Ledger (born Product.children result ++ made) (born Product.children result ++ held) after

theorem Bears.accounts {work : Work} (bears : Bears work Product.children) : Accounts work := by
  intro made held machine notices ledger
  obtain ⟨result, after, notes, performed, grown, single, told⟩ :=
    bears machine notices ledger.orderly
  exact ⟨result, after, notes, performed, told, grown.keeps ledger.orderly, ledger.grown grown single⟩

/-- Arrangements inside the runtime make nothing. -/
theorem Accounts.arranging {change : Machine → Machine}
    (still : ∀ machine, (change machine).store = machine.store)
    (balanced : ∀ made held machine, Ledger made held machine → Ledger made held (change machine)) :
    Accounts (Work.arranging fun (overlay, machine) => (overlay, change machine)) :=
  fun made held machine notices ledger =>
    ⟨.ok { answer := .nothing }, change machine, notices, rfl, rfl,
      still machine ▸ .refl machine.store, balanced made held machine ledger⟩

/-- The objects of some owners are as they were. -/
def Untouched (owners : List (ObjectKind × Nat)) (before after : Store) : Prop :=
  ∀ owner ∈ owners, after.objects.find? owner.2 = before.objects.find? owner.2

/-- An action gives back what was held, makes nothing and touches no object of other owners. -/
def Surrenders {α : Type} (action : Action World α) (leaving : List (ObjectKind × Nat)) : Prop :=
  ∀ made held machine notices, Ledger made (leaving ++ held) machine → ∃ result after notes,
    action.perform (plain machine notices) = (result, plain after notes) ∧
      announced notes = announced notices ∧ Untouched held machine.store after.store ∧
      Ledger made held after

theorem Surrenders.pure {α : Type} (value : α) : Surrenders (pure value : Action World α) [] :=
  fun _ _ machine notices ledger => ⟨.ok value, machine, notices, rfl, rfl, fun _ _ => rfl, ledger⟩

/-- Giving back an object is a single call, of which the result is heard. -/
theorem perform_release_plain {kind : ObjectKind} {owned : Owned kind} (route : Route)
    (handled : owned.handle ≠ 0) (machine : Machine) (notices : List Notice) :
    (owned.release route.driver).perform (plain machine notices) =
      ((heard (machine.perform (.release kind owned.handle)).1).map fun _ => (),
        plain (machine.perform (.release kind owned.handle)).2 (.releasing kind owned.handle :: notices)) := by
  rw [Owned.release, if_neg handled, Action.perform_bind, Action.perform_note]
  dsimp only [plain]
  rw [Action.perform_bind, perform_demand_heard, route.driver_plain]
  rcases heard (machine.perform (.release kind owned.handle)).1 with stop | response <;> rfl

/-- What is still reported of an owner that is discarded, and what is noted of it instead. -/
def discarded (kind : ObjectKind) : Except Stop Unit → Except Stop Unit × List Notice
  | .error (.failed error) => (.ok (), [.releaseFailed kind error])
  | .error (.faulted found) => (.error (.faulted found), [])
  | .ok done => (.ok done, [])

theorem perform_discard_plain {kind : ObjectKind} {owned : Owned kind} {route : Route}
    {machine after : Machine} {result : Except Stop Unit} {notices notes : List Notice}
    (performed : (owned.release route.driver).perform (plain machine notices) = (result, plain after notes)) :
    (owned.discard route.driver).perform (plain machine notices) =
      ((discarded kind result).1, plain after ((discarded kind result).2 ++ notes)) := by
  rw [Owned.discard, Action.perform_bind, Action.perform_outcome, performed]
  rcases result with (error | found) | done <;> rfl

theorem release_surrenders {kind : ObjectKind} (owned : Owned kind) (route : Route) :
    Surrenders (owned.release route.driver) (holding owned) := by
  intro made held machine notices ledger
  unfold holding at ledger
  by_cases null : owned.handle = 0
  · rw [if_pos null] at ledger
    unfold Owned.release
    rw [if_pos null]
    exact ⟨.ok (), machine, notices, rfl, rfl, fun _ _ => rfl, ledger⟩
  · rw [if_neg null] at ledger
    have performed := perform_release_plain route null machine notices
    have kept : Untouched held machine.store (machine.perform (.release kind owned.handle)).2.store :=
      fun owner holding => ledger.find?_release holding
    exact ⟨_, _, _, performed, rfl, kept, ledger.release⟩

theorem Slot.discard_surrenders (slot : Slot) : Surrenders slot.discard slot.holding := by
  unfold Slot.discard Slot.holding
  cases slot.item.owner? with
  | none => exact .pure ()
  | some entry =>
    obtain ⟨kind, owned⟩ := entry
    intro made held machine notices ledger
    obtain ⟨result, after, notes, performed, silent, kept, struck⟩ :=
      release_surrenders owned slot.route made held machine notices ledger
    refine ⟨_, after, _, perform_discard_plain performed, ?_, kept, struck⟩
    rcases result with (error | found) | done <;> exact silent

/-- Discarding one slot after the other leaves nothing in the hands of any. -/
theorem Slot.discardAll_surrenders (slots : List Slot) :
    Surrenders (Slot.discardAll slots) (slots.flatMap Slot.holding) := by
  induction slots with
  | nil => exact .pure ()
  | cons slot rest ih =>
    intro made held machine notices ledger
    rw [List.flatMap_cons, List.append_assoc] at ledger
    obtain ⟨first, middle, between, performed, silent, early, balanced⟩ :=
      slot.discard_surrenders made _ machine notices ledger
    obtain ⟨last, after, notes, finished, quiet, late, final⟩ := ih made held middle between balanced
    have kept : Untouched held machine.store after.store := fun owner holding =>
      (late owner holding).trans (early owner (List.mem_append_right _ holding))
    simp only [discardAll, Action.perform_finally, performed, finished]
    cases last with
    | ok _ => exact ⟨first, after, notes, rfl, quiet.trans silent, kept, final⟩
    | error stop => exact ⟨.error stop, after, notes, rfl, quiet.trans silent, kept, final⟩

/-- The owners that came into being over a run, as its reports announce them. -/
def madeIn (reports : List Report) : List (ObjectKind × Nat) :=
  reports.flatMap fun report => announced report.notices

/-- The books of a session: below no arrangements, what its slots hold is what has been made
and not been given back. -/
structure Sound (made : List (ObjectKind × Nat)) (state : State) : Prop where
  bare : state.world.1 = {}
  ascending : state.slots.Ascending
  balanced : Ledger made state.slots.holdings state.world.2

theorem announced_reverse (notices : List Notice) :
    announced notices.reverse = (announced notices).reverse := List.filterMap_reverse

namespace Sound
variable {state : State}

theorem initial (platforms devices : Nat) : Sound [] (.initial platforms devices) where
  bare := rfl
  ascending := .nil
  balanced := .initial platforms devices

theorem concluded {slots : Slots} {notes : List Notice} {after : Machine} (result : Except Stop Answer)
    (ascending : slots.Ascending) (ledger : Ledger (announced notes ++ made) slots.holdings after) :
    Sound (announced (State.concluded result (plain after notes) slots).1.notices ++ made)
      (State.concluded result (plain after notes) slots).2 where
  bare := rfl
  ascending := ascending
  balanced := by
    refine ledger.perm (.append_right made ?_) (.refl _)
    have told : announced (State.concluded result (plain after notes) slots).1.notices =
        (announced notes).reverse := announced_reverse notes
    rw [told]
    exact (announced notes).reverse_perm.symm

theorem refused (sound : Sound made state) :
    Sound (announced state.refused.1.notices ++ made) state.refused.2 := sound

end Sound

theorem Slots.holdings_perm {slots others : Slots} {first second : List Slot}
    (same : (slots.contents ++ first).Perm (second ++ others.contents)) :
    (first.flatMap Slot.holding ++ slots.holdings).Perm
      (second.flatMap Slot.holding ++ others.holdings) := by
  have held := same.flatMap_right Slot.holding
  rw [List.flatMap_append, List.flatMap_append] at held
  exact List.perm_append_comm.trans held

/-- Filing loses no slot that was made, and none that was there. -/
theorem State.file_perm (slots : Slots) (keep? : Option String) (made : List (String × Slot)) :
    ((State.file slots keep? made).1.contents ++ (State.file slots keep? made).2).Perm
      (Slots.contents made ++ slots.contents) := by
  cases keep? with
  | none => exact List.perm_append_comm
  | some name =>
    have renamed : Slots.contents (made.map fun entry => (name ++ entry.1, entry.2)) =
        Slots.contents made := List.map_map
    exact renamed ▸ slots.putAll_perm _

private theorem State.ascending_file {slots : Slots} (ascending : slots.Ascending) (keep? : Option String)
    (made : List (String × Slot)) : (State.file slots keep? made).1.Ascending := by
  cases keep? with
  | none => exact ascending
  | some name => exact slots.ascending_putAll _ ascending

/-- What has come into being with the value of a work, in the slots that it made. -/
def filed : Except Stop Product → List Slot
  | .ok product => Slots.contents product.made
  | .error _ => []

/-- How a step ends that keeps the books. An owner that is left has been there or is fresh, and
its object is as it was in the middle, before other owners gave theirs back. -/
structure Kept (made : List (ObjectKind × Nat)) (state : State) (fresh : List Slot) (middle : Store)
    (ended : Report × State) : Prop where
  sound : Sound (announced ended.1.notices ++ made) ended.2
  told : ∀ slot ∈ fresh, ∀ owner ∈ slot.holding, owner ∈ announced ended.1.notices
  origin : ∀ slot ∈ ended.2.slots.contents, slot.holding ≠ [] →
    slot ∈ fresh ∨ slot ∈ state.slots.contents
  untouched : Untouched ended.2.slots.holdings middle ended.2.world.2.store

namespace Sound
variable {state : State}

/-- A step that is refused leaves all as it was. -/
theorem keeps_refused (sound : Sound made state) :
    Kept made state [] state.world.2.store state.refused where
  sound := sound.refused
  told _ impossible := nomatch impossible
  origin _ member _ := Or.inr member
  untouched _ _ := rfl

/-- Work keeps the books, with what it makes and with what it drives out. -/
theorem keeps_performWork (sound : Sound made state) {work : Work} (accounts : Accounts work)
    (keep? : Option String) : ∃ result middle notes,
      work.perform (plain state.world.2 []) = (result, plain middle notes) ∧
        Keeps state.world.2.store middle.store ∧
        Kept made state (filed result) middle.store (state.performWork work keep?) := by
  obtain ⟨⟨overlay, machine⟩, slots⟩ := state
  obtain ⟨rfl, ascending, ledger⟩ := sound
  obtain ⟨result, middle, between, performed, told, keeps, balanced⟩ := accounts made _ machine [] ledger
  refine ⟨result, middle, between, performed, keeps, ?_⟩
  have running : State.run ⟨({}, machine), slots⟩ work = (result, plain middle between) := performed
  unfold State.performWork
  rw [running]
  have entered : announced between = born Product.children result := told.trans (List.append_nil _)
  cases result with
  | error stop =>
    exact {
      sound := concluded (.error stop) ascending (entered ▸ balanced)
      told := fun _ impossible => nomatch impossible
      origin := fun _ member _ => Or.inr member
      untouched := fun _ _ => rfl }
  | ok product =>
    -- What is driven out gives its objects back last, when the new slots are already filed.
    have filing := State.file_perm slots keep? product.made
    have ordered := State.ascending_file ascending keep? product.made
    dsimp only
    generalize State.file slots keep? product.made = pair at filing ordered
    obtain ⟨filed, leaving⟩ := pair
    have moved := balanced.perm (.refl _) (Slots.holdings_perm filing).symm
    rw [← entered] at moved
    obtain ⟨discarded, after, notes, finished, silent, untouched, given⟩ :=
      Slot.discardAll_surrenders leaving _ _ middle between moved
    rw [finished]
    rw [← silent] at given
    exact {
      sound := concluded _ ordered given
      told := fun slot member owner holding => by
        show owner ∈ announced notes.reverse
        rw [announced_reverse, silent, entered, List.mem_reverse]
        exact List.mem_flatMap_of_mem member holding
      origin := fun slot member _ =>
        List.mem_append.mp (filing.mem_iff.mp (List.mem_append_left _ member))
      untouched := untouched }

theorem performWork (sound : Sound made state) {work : Work} (accounts : Accounts work)
    (keep? : Option String) :
    Sound (announced (state.performWork work keep?).1.notices ++ made)
      (state.performWork work keep?).2 := by
  obtain ⟨_, _, _, _, _, kept⟩ := sound.keeps_performWork accounts keep?
  exact kept.sound

theorem performFound (sound : Sound made state) {found : Option Work} (bearing : Bearing found)
    (keep? : Option String) :
    Sound (announced (state.performFound found keep?).1.notices ++ made)
      (state.performFound found keep?).2 := by
  cases found with
  | none => exact sound.refused
  | some work => exact sound.performWork (bearing work rfl).accounts keep?

/-- What is released is an owner from the slots, and it is the only one that they lose. -/
theorem release?_cases {slots others : Slots} {name : String} {action : Action World Unit}
    (ascending : slots.Ascending) (found : slots.release? name = some (others, action)) :
    ∃ (route : Route) (kind : ObjectKind) (owned : Owned kind), action = owned.release route.driver ∧
      (holding owned ++ others.holdings).Perm slots.holdings ∧ others.Ascending ∧
      ∀ slot ∈ others.contents, slot.holding ≠ [] → slot ∈ slots.contents := by
  unfold Slots.release? at found
  split at found
  · cases found
  · rename_i route kind owned got
    cases found
    have filed := slots.put_perm name ⟨route, .bare kind (.released kind)⟩
    rw [slots.put_snd name _ ascending, got] at filed
    have same := @Slots.holdings_perm _ slots _ [_] filed
    rw [Option.toList_some, List.flatMap_singleton, List.flatMap_singleton] at same
    refine ⟨route, kind, owned, rfl, same, slots.ascending_put _ _ ascending, ?_⟩
    intro slot member held
    rcases List.mem_cons.mp (filed.mem_iff.mp (List.mem_append_left _ member)) with rfl | old
    · exact (held rfl).elim
    · exact old
  · rename_i route item _ got
    split at found
    · rename_i kind owned owner
      cases found
      have filed := slots.erase_perm ascending got
      have same := filed.symm.flatMap_right Slot.holding
      rw [List.flatMap_cons, Slot.holding, owner] at same
      exact ⟨route, kind, owned, rfl, same, slots.ascending_erase name ascending,
        fun slot member _ => filed.mem_iff.mpr (List.mem_cons_of_mem _ member)⟩
    · cases found

theorem keeps_release (sound : Sound made state) (name : String) :
    Kept made state [] state.world.2.store (state.release name) := by
  obtain ⟨⟨overlay, machine⟩, slots⟩ := state
  obtain ⟨rfl, ascending, ledger⟩ := sound
  unfold State.release
  dsimp only
  cases found : slots.release? name with
  | none => exact keeps_refused ⟨rfl, ascending, ledger⟩
  | some filing =>
    obtain ⟨others, action⟩ := filing
    obtain ⟨route, kind, owned, rfl, same, ordered, origin⟩ := release?_cases ascending found
    obtain ⟨result, after, notes, performed, silent, untouched, given⟩ :=
      release_surrenders owned route made _ machine [] (ledger.perm (.refl made) same.symm)
    have running : State.run ⟨({}, machine), slots⟩ (owned.release route.driver) =
        (result, plain after notes) := performed
    have given : Ledger (announced notes ++ made) others.holdings after := silent ▸ given
    dsimp only
    rw [running]
    exact {
      sound := concluded _ ordered given
      told := fun _ impossible => nomatch impossible
      origin := fun slot member held => Or.inr (origin slot member held)
      untouched := untouched }

theorem keeps_drop (sound : Sound made state) (name : String) :
    Kept made state [] state.world.2.store (state.drop name) := by
  obtain ⟨⟨overlay, machine⟩, slots⟩ := state
  obtain ⟨rfl, ascending, ledger⟩ := sound
  unfold State.drop
  dsimp only
  cases found : slots.get? name with
  | none =>
    exact {
      sound := concluded (.ok (.truth false)) ascending ledger
      told := fun _ impossible => nomatch impossible
      origin := fun _ member _ => Or.inr member
      untouched := fun _ _ => rfl }
  | some slot =>
    have filed := slots.erase_perm ascending found
    have same := filed.flatMap_right Slot.holding
    rw [List.flatMap_cons] at same
    obtain ⟨result, after, notes, performed, silent, untouched, given⟩ :=
      slot.discard_surrenders made _ machine [] (ledger.perm (.refl made) same)
    have running : State.run ⟨({}, machine), slots⟩ slot.discard =
        (result, plain after notes) := performed
    have given : Ledger (announced notes ++ made) (Slots.holdings (slots.erase name)) after :=
      silent ▸ given
    dsimp only
    rw [running]
    exact {
      sound := concluded _ (slots.ascending_erase name ascending) given
      told := fun _ impossible => nomatch impossible
      origin := fun other member _ => Or.inr (filed.mem_iff.mpr (List.mem_cons_of_mem _ member))
      untouched := untouched }

end Sound
end Offload.Session
