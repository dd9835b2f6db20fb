import Offload.Proofs.WorkDialogues

/-! How sessions carry over what holds of single calls. Two runtimes that answer alike whatever a
dialogue may ask are told apart by no work and by no owner that goes away; with one runtime twice,
what every call preserves is preserved by whole runs. -/
namespace Offload.Session
open Host Simulator

variable {α β : Type} {related : Machine → Machine → Prop} {stops : Fault → Prop} {manners : Manners}

/-- An action comes to the same on related runtimes, and leaves them related. The faults at which it
stops are known. -/
def Simulated (related : Machine → Machine → Prop) (stops : Fault → Prop) (action : Action World α) : Prop :=
  ∀ first second notices, related first second → ∃ result notes after other,
    action.perform (plain first notices) = (result, plain after notes) ∧
      action.perform (plain second notices) = (result, plain other notes) ∧ related after other ∧
      ∀ found, result = .error (.faulted found) → stops found

/-- Related runtimes answer alike what may be asked, and show alike what may be looked at. -/
structure Manners.Indistinct (manners : Manners) (related : Machine → Machine → Prop)
    (stops : Fault → Prop) : Prop where
  call : ∀ request, manners.Asks request → ∀ first second, related first second →
    (first.perform request).1 = (second.perform request).1 ∧
      related (first.perform request).2 (second.perform request).2 ∧
      (∀ found, (first.perform request).1 = .error found → stops found) ∧
      ∀ response, (first.perform request).1 = .ok response → manners.answers request response
  look : ∀ view, manners.looks view → ∀ first second, related first second → view first = view second
  faults : manners.faults → ∀ found, stops found

theorem Dialogue.simulated {action : Action World α} (dialogue : Dialogue manners action)
    (indistinct : manners.Indistinct related stops) : Simulated related stops action := by
  intro first second notices alike
  induction dialogue generalizing first second notices with
  | done value => exact ⟨.ok value, notices, first, second, rfl, rfl, alike, nofun⟩
  | failed error => exact ⟨.error (.failed error), notices, first, second, rfl, rfl, alike, nofun⟩
  | @faulted found allowed =>
    exact ⟨.error (.faulted found), notices, first, second, rfl, rfl, alike, fun found _ =>
      indistinct.faults allowed found⟩
  | @noted notice _ _ _ ih => exact ih first second (notice :: notices) alike
  | @called route request asked next _ ih =>
    obtain ⟨same, related, known, answers⟩ := indistinct.call request asked first second alike
    simp only [Action.perform_bind, Action.perform_call, plain, route.driver_plain, ← same]
    cases answer : (first.perform request).1 with
    | error found =>
      refine ⟨.error (.faulted found), notices, _, _, rfl, rfl, related, fun other stopped => ?_⟩
      cases stopped
      exact known found answer
    | ok response => exact ih response (answers response answer) _ _ notices related
  | @looked view allowed next _ ih =>
    obtain ⟨result, notes, after, other, shown, again, kept⟩ := ih (view first) first second notices alike
    refine ⟨result, notes, after, other, shown, ?_, kept⟩
    rw [indistinct.look view allowed first second alike] at again
    exact again

namespace Simulated
variable {action : Action World α}

/-- The slots of a session are not what an action starts from. -/
theorem run (simulated : Simulated related stops action) {machine other : Machine}
    (alike : related machine other) (slots others : Slots) : ∃ result notes after beside,
      State.run ⟨({}, machine), slots⟩ action = (result, plain after notes) ∧
        State.run ⟨({}, other), others⟩ action = (result, plain beside notes) ∧ related after beside ∧
        ∀ found, result = .error (.faulted found) → stops found :=
  simulated machine other [] alike

theorem pure (value : α) : Simulated related stops (Pure.pure value : Action World α) :=
  fun first second notices alike => ⟨.ok value, notices, first, second, rfl, rfl, alike, nofun⟩

private theorem finally_ {last : Action World β} (first : Simulated related stops action)
    (final : Simulated related stops last) : Simulated related stops (tryFinally action last) := by
  intro one two notices alike
  obtain ⟨result, between, middle, other, early, again, kept, known⟩ := first one two notices alike
  obtain ⟨ended, notes, after, beside, late, likewise, related, stopped⟩ :=
    final middle other between kept
  simp only [Action.perform_finally, early, again, late, likewise]
  cases ended with
  | ok value => exact ⟨result, notes, after, beside, rfl, rfl, related, known⟩
  | error stop =>
    refine ⟨.error stop, notes, after, beside, rfl, rfl, related, fun found same => ?_⟩
    cases same
    exact stopped found rfl

end Simulated

/-- Owners that go away give back what they may be used under. -/
theorem Slot.discard_simulated {slot : Slot} (departs : ∀ owner ∈ slot.holding, manners.uses owner.2)
    (releases : manners.releases) (indistinct : manners.Indistinct related stops) :
    Simulated related stops slot.discard := by
  unfold Slot.discard
  split
  · rename_i kind owned owner
    have allowed : owned.handle ≠ 0 → manners.uses owned.handle :=
      fun held => departs _ (Slot.mem_holding owner held)
    exact (Dialogue.discard slot.route releases allowed).simulated indistinct
  · exact .pure ()

theorem Slot.discardAll_simulated {slots : List Slot}
    (departs : ∀ owner ∈ slots.flatMap Slot.holding, manners.uses owner.2)
    (releases : manners.releases) (indistinct : manners.Indistinct related stops) :
    Simulated related stops (Slot.discardAll slots) := by
  induction slots with
  | nil => exact .pure ()
  | cons slot rest ih =>
    rw [List.flatMap_cons] at departs
    obtain ⟨first, others⟩ := List.forall_mem_append.mp departs
    exact .finally_ (discard_simulated first releases indistinct) (ih others)

end Offload.Session
