import Offload.Proofs.Faults
import Offload.Proofs.Scanning

/-! Sessions of owners never make the runtime reach outside what it holds, but for one kind of step.
After every run its objects are in order, so that no guard stops a command; whatever is compiled is
cut up without a fault; and the runtime halts with a dispatch of a short kernel that squares, with a
memory object or a source that is too large, and with nothing else. -/
namespace Offload.Session
open Host Simulator

section
variable (platforms devices : Nat) {earlier : List (Option Step)}
  (direct : ∀ next ∈ earlier, next.all (·.job.isDirect) = true)
include direct

theorem State.reachable_steps : ((State.initial platforms devices).steps earlier).2.world.2.Reachable :=
  reachable_upkeep.steps (.initial platforms devices) (.initial platforms devices) ⟨platforms, devices, [], rfl⟩
    direct

/-- After every session, and whatever is called next, the guards stop nothing. -/
theorem State.bounded_run (calls : List Happening) :
    (((State.initial platforms devices).steps earlier).2.world.2.run calls).store.Bounded :=
  Store.bounded_of_wellFormed fun _ _ present =>
    ((reachable_steps platforms devices direct).run calls).wellFormed present

end

/-- Every operation of owners is answered with a result or an error and leaves a runtime that answers,
unless it dispatches a short kernel that squares, or asks for more memory than there can be. Besides,
a bitmap may fail to be unpacked, which stops only the step that uploads it. -/
theorem answered_unless_overreaching (platforms devices : Nat) {earlier : List (Option Step)}
    (direct : ∀ next ∈ earlier, next.all (·.job.isDirect) = true) :
    let before := ((State.initial platforms devices).steps earlier).2
    (∀ calls, (before.world.2.run calls).store.Bounded) ∧
      (∀ source, Source.guardedKernels source = .ok (Source.kernels source)) ∧
      (before.world.2.halted = true ↔ (State.initial platforms devices).Overreached earlier) ∧
      ∀ next : Step, next.job.isDirect = true → before.world.2.halted = false →
        ((before.step next).2.world.2.halted = true ↔ before.Overreaches next) ∧
        (next.job ≠ .controls .directContext →
          ((∃ found, (before.step next).1.ending = .faulted found) ↔
            before.Overreaches next ∨ before.Unreadable next)) := by
  intro before
  have sound := Sound.initial platforms devices
  have whole : (State.initial platforms devices).slots.Whole := .initial platforms devices
  have fresh : (State.initial platforms devices).world.2.Reachable := ⟨platforms, devices, [], rfl⟩
  refine ⟨State.bounded_run platforms devices direct, Source.guardedKernels_eq, ?_, ?_⟩
  · rw [State.halted_steps sound whole fresh direct]
    exact or_iff_right nofun
  · intro next nextDirect serving
    exact before.faults_step (sound.steps earlier direct) (State.whole_steps whole direct)
      (State.reachable_steps platforms devices direct) serving nextDirect

/-- A buffer of one byte more than a memory can have. -/
def vastBuffer : Step := ⟨.allocation (.newBuffer "context" 0 0x8000000000000000), none⟩

def bareMarker : Step := ⟨.queueing (.enqueue "queue" [] .marker), none⟩

/-- The fault at which a step has stopped, if any. -/
def Ending.fault? : Ending → Option Fault
  | .faulted found => some found
  | _ => none

private theorem Ending.fault?_eq_some {ending : Ending} {found : Fault} :
    ending.fault? = some found ↔ ending = .faulted found := by
  cases ending <;> simp [fault?]

theorem bareSession_direct : ∀ next ∈ bareSession, next.all (·.job.isDirect) = true := by decide

theorem bareSession_serving : ((State.initial 1 1).steps bareSession).2.world.2.halted = false := by
  decide +kernel

/-- Nothing has overreached before the dispatch, which does. -/
theorem bareSession_answered :
    (∀ next ∈ bareSession, next.all (·.job.isDirect) = true) ∧
      (let before := ((State.initial 1 1).steps bareSession).2
      before.world.2.halted = false ∧ ¬ (State.initial 1 1).Overreached bareSession ∧
        (bareMarker.job.isDirect = true ∧ bareMarker.job ≠ .controls .directContext ∧
          ¬ ∃ found, (before.step bareMarker).1.ending = .faulted found) ∧
        (bareSquare.job.isDirect = true ∧ before.Overreaches bareSquare) ∧
        vastBuffer.job.isDirect = true ∧ before.Overreaches vastBuffer) := by
  obtain ⟨_, _, halted, next⟩ := answered_unless_overreaching 1 1 bareSession_direct
  have idle : bareMarker.job.call? ((State.initial 1 1).steps bareSession).2.slots = none := rfl
  have squared : (((State.initial 1 1).steps bareSession).2.step bareSquare).2.world.2.halted = true := by
    decide +kernel
  have filled : (((State.initial 1 1).steps bareSession).2.step vastBuffer).2.world.2.halted = true := by
    decide +kernel
  refine ⟨bareSession_direct, bareSession_serving, ?_, ⟨rfl, nofun, ?_⟩, ⟨rfl, ?_⟩, rfl, ?_⟩
  · rw [← halted, bareSession_serving]
    exact Bool.false_ne_true
  · rw [(next bareMarker rfl bareSession_serving).2 nofun]
    rintro (⟨_, _, called, _⟩ | ⟨_, called⟩)
    · cases idle.symm.trans called
    · cases idle.symm.trans called
  · exact (next bareSquare rfl bareSession_serving).1.mp squared
  · exact (next vastBuffer rfl bareSession_serving).1.mp filled

/-- The dispatch of a kernel that declares no argument to square is not answered. -/
theorem bareSquare_unanswered :
    (∀ next ∈ bareSession, next.all (·.job.isDirect) = true) ∧ bareSquare.job.isDirect = true ∧
      (let before := ((State.initial 1 1).steps bareSession).2
      before.world.2.halted = false ∧ (before.step bareSquare).1.ending = .faulted (.outside 0 0) ∧
        (before.step bareSquare).2.world.2.halted = true) := by
  refine ⟨bareSession_direct, rfl, bareSession_serving, ?_, ?_⟩
  · apply Ending.fault?_eq_some.mp
    decide +kernel
  · decide +kernel

end Offload.Session
