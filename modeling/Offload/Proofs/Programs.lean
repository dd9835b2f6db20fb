import Offload.Proofs.Encoding
import Offload.Proofs.Handles
import Offload.Proofs.Submissions
import Offload.Proofs.Transfers

/-! Kernels of built programs. What a program offers once it has been built are the kernels that its
source declares, and a kernel that was made from one of them keeps its parameters for good. -/
namespace Offload.Simulator

/-- Programs that were built offer the kernels of their sources. -/
def Store.Faithful (store : Store) : Prop :=
  ∀ id program, store.objects.find? id = some (.program program) → program.status = .success →
    program.kernels = Source.kernels program.source.toList

namespace Store.Faithful
variable {store : Store}

theorem add (faithful : store.Faithful) {object : Object}
    (unbuilt : ∀ program, object = .program program → program.status ≠ .success) :
    (store.add object).2.Faithful := by
  intro id program found built
  rcases Table.find?_insert_cases found with old | ⟨_, new⟩
  · exact faithful id program old built
  · exact (unbuilt program new.symm built).elim

theorem replace (faithful : store.Faithful) (id : Nat) {object : Object}
    (offers : ∀ program, object = .program program → program.status = .success →
      program.kernels = Source.kernels program.source.toList) :
    (store.replace id object).Faithful := by
  intro other program found built
  rcases Table.find?_replace_cases found with old | ⟨_, same⟩
  · exact faithful other program old built
  · exact offers program same.symm built

private theorem erase (faithful : store.Faithful) (id : Nat) :
    Faithful { store with objects := store.objects.erase id } := by
  intro other program found built
  exact faithful other program (Table.of_find?_erase found) built

/-- A command changes memory only. -/
theorem apply (faithful : store.Faithful) (effect : Effect) : (store.apply effect).Faithful := by
  unfold Store.apply
  split
  · exact faithful
  · split
    · apply faithful.replace
      intro program impossible
      cases impossible
    · exact faithful

end Store.Faithful

/-- Of all calls only building makes a program offer anything. -/
theorem Outcome.faithful {machine after : Machine} {request : Request} {answer : Except Fault Response}
    (outcome : Outcome machine request answer after) (faithful : machine.store.Faithful) :
    after.store.Faithful := by
  cases outcome with
  | halted | injected | refused | faulted | exhausted | answered | waited | suppressed => exact faithful
  | created _ _ service =>
    apply faithful.add
    rintro program rfl built
    have fresh := Store.fresh_of_creation service
    generalize request.entry = entry at fresh
    generalize same : Object.program program = object at fresh
    cases fresh with
    | program source =>
      cases same
      cases built
    | _ => cases same
  | updated _ _ service =>
    cases request with
    | setKernelArg =>
      obtain ⟨_, _, _, rfl⟩ := Store.setArgument_ok (Service.update.inj service)
      apply faithful.replace
      intro program impossible
      cases impossible
    | setEventStatus =>
      obtain ⟨_, _, rfl⟩ := Store.settle_ok (Service.update.inj service)
      apply faithful.replace
      intro program impossible
      cases impossible
    | release =>
      obtain ⟨_, _, _, rfl⟩ := Store.remove_ok (Service.update.inj service)
      exact faithful.erase _
    | _ => cases service
  | compiled =>
    apply faithful.replace
    rintro program same _
    cases same
    rfl
  | rejected =>
    apply faithful.replace
    rintro program same built
    cases same
    cases built
  | @queued _ _ _ _ properties events effect =>
    obtain ⟨clock, queuedAt, finished⟩ := finishCommand_eq (machine.store.apply effect) properties events
    dsimp only
    rw [finished]
    have carried : Store.Faithful { machine.store.apply effect with clock := clock } :=
      faithful.apply effect
    apply carried.add
    intro program impossible
    cases impossible

theorem Machine.faithful_run {machine : Machine} (faithful : machine.store.Faithful)
    (happenings : List Happening) : (machine.run happenings).store.Faithful := by
  induction happenings generalizing machine with
  | nil => exact faithful
  | cons first rest ih =>
    apply ih
    cases first with
    | call request => exact (outcome_perform machine request).faithful faithful
    | fail | returnNull => exact faithful
    | allocateContext =>
      apply faithful.add
      intro program impossible
      cases impossible

theorem Machine.Reachable.faithful {machine : Machine} (reachable : machine.Reachable) :
    machine.store.Faithful := by
  obtain ⟨platforms, devices, happenings, rfl⟩ := reachable
  apply faithful_run
  intro id program impossible
  cases impossible

/-- A kernel is made exactly of the first signature under its name that a built program offers. -/
theorem Store.newKernel_ok_iff {store : Store} {id : Nat} {name : String} {object : Object} :
    store.newKernel id (some name) = .ok object ↔
      ∃ program signature, store.program id = .ok program ∧ program.status = .success ∧
        program.kernels.find? (fun signature => signature.name == name) = some signature ∧
        object = .kernel ⟨signature, List.replicate signature.parameters.length none⟩ := by
  constructor
  · intro accepted
    obtain ⟨program, found, located⟩ := exists_of_bind_ok accepted
    obtain ⟨_, succeeded, checked⟩ := exists_of_bind_ok located
    dsimp only at checked
    split at checked
    · cases checked
    · rename_i signature offered
      cases checked
      exact ⟨program, signature, found, eq_of_beq (require_ok_iff.mp succeeded), offered, rfl⟩
  · rintro ⟨program, signature, found, succeeded, offered, rfl⟩
    have accepted : require (program.status == .success) .invalidProgramExecutable = .ok () :=
      require_ok_iff.mpr (beq_iff_eq.mpr succeeded)
    simp only [newKernel, found, accepted, bind, Except.bind, offered]

/-- A kernel keeps its signature. -/
theorem Descends.kernel {origin : Object} {later : Kernel} (descends : Descends origin (.kernel later)) :
    ∃ earlier, origin = .kernel earlier ∧ later.signature = earlier.signature := by
  generalize same : Object.kernel later = object at descends
  induction descends generalizing later with
  | same => exact ⟨later, same.symm, rfl⟩
  | revised _ revises ih =>
    cases revises with
    | memory | compiled | rejected | event => cases same
    | kernel index bytes =>
      cases same
      obtain ⟨earlier, original, kept⟩ := ih rfl
      exact ⟨earlier, original, kept⟩

end Offload.Simulator

namespace Offload.Host
open Simulator

/-- A kernel that was made from a program with this source, on a runtime which has gone on since. -/
inductive Compiled (source : String) : Machine → Kernel → Prop where
  | made {program : Program} {built : Simulator.Program} {name : String} {scene after : Scene Machine}
      {kernel : Kernel} (reachable : scene.world.Reachable)
      (found : scene.world.store.program program.owned.handle = .ok built)
      (sourced : built.source = source)
      (performed : (program.newKernel Machine.driver name).perform scene = (.ok kernel, after))
      (happenings : List Happening) : Compiled source (after.world.run happenings) kernel

/-- A text is handed over exactly if it has no NUL, and finding that out calls nothing. -/
theorem perform_withoutNul {σ : Type} (text : String) (scene : Scene σ) :
    (withoutNul text).perform scene =
      (if '\x00' ∈ text.toList then .error (.failed .interiorNul) else .ok (), scene) := by
  rw [withoutNul, nativeText?_eq]
  by_cases nul : '\x00' ∈ text.toList
  · rw [if_pos nul, if_pos nul]
    rfl
  · rw [if_neg nul, if_neg nul]
    rfl

theorem settles_withoutNul {text : String} (free : '\x00' ∉ text.toList) :
    Settles (withoutNul text) (.ok ()) := by
  intro scene
  rw [perform_withoutNul, if_neg free]

theorem newKernel_answered {program : Program} {name : String} {scene after : Scene Machine}
    {kernel : Kernel}
    (performed : (program.newKernel Machine.driver name).perform scene = (.ok kernel, after)) :
    '\x00' ∉ name.toList ∧
      ∃ response, scene.world.perform (.createKernel program.owned.handle (some name)) =
        (.ok response, after.world) ∧ response.handle ≠ 0 ∧ kernel = ⟨⟨response.handle⟩, name⟩ := by
  by_cases free : '\x00' ∈ name.toList
  · rw [Program.newKernel, Action.perform_bind, perform_withoutNul, if_pos free] at performed
    cases performed
  · rw [Program.newKernel, (settles_withoutNul free).perform_bind] at performed
    obtain ⟨used, _⟩ := Accepts.of_use ⟨_, _, performed⟩
    rw [used.perform_bind] at performed
    obtain ⟨response, world, answered, handled, adopted⟩ := answered_of_obtain performed
    cases adopted
    exact ⟨free, response, answered, handled, rfl⟩

theorem Compiled.reachable {source : String} {machine : Machine} {kernel : Kernel}
    (compiled : Compiled source machine kernel) : machine.Reachable := by
  obtain ⟨reachable, _, _, performed, happenings⟩ := compiled
  obtain ⟨_, response, answered, _⟩ := newKernel_answered performed
  exact (reachable.of_answered answered).run happenings

/-- Whatever has happened since, a kernel that is still there is one that the source declares. -/
theorem Compiled.declared {source : String} {machine : Machine} {kernel : Kernel}
    (compiled : Compiled source machine kernel) {stored : Simulator.Kernel}
    (located : machine.store.kernel kernel.owned.handle = .ok stored) :
    stored.signature ∈ Source.kernels source.toList := by
  obtain ⟨reachable, found, rfl, performed, happenings⟩ := compiled
  obtain ⟨_, response, answered, handled, rfl⟩ := newKernel_answered performed
  obtain ⟨_, object, accepted, next, after⟩ := created_of_answered rfl answered handled
  obtain ⟨built, signature, offering, success, offered, rfl⟩ := Store.newKernel_ok_iff.mp accepted
  cases found.symm.trans offering
  have first := reachable.orderly
  have orderly := first.changed (change_of_performed answered)
  have issued := orderly.issued_of_find? (after ▸ first.find?_add _)
  rw [next] at located
  obtain ⟨origin, present, descends⟩ := (Machine.change_run _ happenings).descends orderly issued
    (Store.kernel_ok_iff.mp located)
  obtain ⟨earlier, rfl, kept⟩ := descends.kernel
  rw [after, first.find?_add] at present
  cases present
  rw [kept, ← reachable.faithful _ _ (Store.program_ok_iff.mp offering) success]
  exact List.mem_of_find?_eq_some offered

end Offload.Host
