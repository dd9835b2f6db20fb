import Mathlib.Algebra.Group.Nat.Defs
import Offload.Proofs.Submissions

/-! Which dispatches are accepted. The conditions are tested one after the other, some by the host
and some by the runtime, and the first one that does not hold is reported. -/
namespace Offload.Simulator

/-- A condition, and the error of a call for which it does not hold. -/
structure Rule where
  holds : Prop
  error : NativeError

/-- The error of the first rule in a list that does not hold. -/
inductive Breaks : List Rule → NativeError → Prop where
  | here {rule : Rule} {rest : List Rule} (broken : ¬ rule.holds) : Breaks (rule :: rest) rule.error
  | later {rule : Rule} {rest : List Rule} {error : NativeError} (passed : rule.holds)
      (breaks : Breaks rest error) : Breaks (rule :: rest) error

theorem exists_breaks {rules : List Rule} (broken : ¬ ∀ rule ∈ rules, rule.holds) :
    ∃ error, Breaks rules error := by
  induction rules with
  | nil => exact (broken nofun).elim
  | cons rule rest ih =>
    by_cases passed : rule.holds
    · obtain ⟨error, breaks⟩ := ih fun all => broken (List.forall_mem_cons.mpr ⟨passed, all⟩)
      exact ⟨error, .later passed breaks⟩
    · exact ⟨rule.error, .here passed⟩

private theorem Breaks.of_append {front back : List Rule} {error : NativeError}
    (breaks : Breaks (front ++ back) error) :
    Breaks front error ∨ ((∀ rule ∈ front, rule.holds) ∧ Breaks back error) := by
  induction front with
  | nil => exact Or.inr ⟨nofun, breaks⟩
  | cons rule rest ih =>
    cases breaks with
    | here broken => exact Or.inl (.here broken)
    | later passed breaks =>
      rcases ih breaks with early | ⟨all, late⟩
      · exact Or.inl (.later passed early)
      · exact Or.inr ⟨List.forall_mem_cons.mpr ⟨passed, all⟩, late⟩

/-- A result that is refused by the first rule that does not hold, and goes on as `final` if all do. -/
structure Follows {α : Type} (rules : List Rule) (result final : Except Refusal α) : Prop where
  accepts : (∀ rule ∈ rules, rule.holds) → result = final
  refuses : ∀ error, Breaks rules error → result = refuse error

namespace Follows
variable {α : Type} {rule : Rule} {rules : List Rule} {result final : Except Refusal α}

private theorem done : Follows [] final final := ⟨fun _ => rfl, nofun⟩

theorem skip (passed : rule.holds) (rest : Follows rules result final) :
    Follows (rule :: rules) result final := by
  refine ⟨fun all => rest.accepts (List.forall_mem_cons.mp all).2, fun error breaks => ?_⟩
  cases breaks with
  | here broken => exact (broken passed).elim
  | later _ breaks => exact rest.refuses error breaks

private theorem require {holds : Prop} {error : NativeError} {condition : Bool} {next : Unit → Except Refusal α}
    (decides : condition = true ↔ holds) (rest : Follows rules (next ()) final) :
    Follows (⟨holds, error⟩ :: rules) (Simulator.require condition error >>= next) final := by
  by_cases passed : holds
  · rw [Simulator.require, if_pos (decides.mpr passed)]
    exact rest.skip passed
  · rw [Simulator.require, if_neg (mt decides.mp passed)]
    refine ⟨fun all => (passed (all _ List.mem_cons_self)).elim, fun found breaks => ?_⟩
    cases breaks with
    | here => rfl
    | later holds => exact (passed holds).elim

end Follows

/-- What has to hold of the sizes that a dispatch is given for the host to hand it on. -/
def hostRules (globals : List Nat) (offsets locals : Option (List Nat)) : List Rule := [
  ⟨globals ≠ [], .invalidWorkDimension⟩,
  ⟨∀ sizes ∈ offsets, sizes.length = globals.length, .invalidGlobalOffset⟩,
  ⟨∀ sizes ∈ locals, sizes.length = globals.length, .invalidWorkGroupSize⟩]

theorem hostRules_iff {globals : List Nat} {offsets locals : Option (List Nat)} :
    (∀ rule ∈ hostRules globals offsets locals, rule.holds) ↔ globals ≠ [] ∧
      (∀ sizes ∈ offsets, sizes.length = globals.length) ∧
      ∀ sizes ∈ locals, sizes.length = globals.length := by
  simp only [hostRules, List.forall_mem_cons, List.not_mem_nil, false_imp_iff, implies_true, and_true]

/-- What has to hold for the runtime to run a kernel over some sizes. -/
def runtimeRules (kernel : Kernel) (globals : List Nat) (locals : Option (List Nat)) : List Rule := [
  ⟨globals.length ≤ 3, .invalidWorkDimension⟩,
  ⟨0 ∉ globals, .invalidGlobalWorkSize⟩,
  ⟨∀ sizes ∈ locals, 0 ∉ sizes ∧ sizes.prod ≤ 256 ∧
    ∀ pair ∈ globals.zip sizes, pair.2 ∣ pair.1, .invalidWorkGroupSize⟩,
  ⟨∀ argument ∈ kernel.arguments, argument.isSome, .invalidKernelArgs⟩]

theorem runtimeRules_iff {kernel : Kernel} {globals : List Nat} {locals : Option (List Nat)} :
    (∀ rule ∈ runtimeRules kernel globals locals, rule.holds) ↔ globals.length ≤ 3 ∧ 0 ∉ globals ∧
      (∀ sizes ∈ locals, 0 ∉ sizes ∧ sizes.prod ≤ 256 ∧ ∀ pair ∈ globals.zip sizes, pair.2 ∣ pair.1) ∧
      ∀ argument ∈ kernel.arguments, argument.isSome := by
  simp only [runtimeRules, List.forall_mem_cons, List.not_mem_nil, false_imp_iff, implies_true, and_true]

private theorem groupsFit_iff {globals sizes : List Nat} (bounded : sizes.prod < fullRange) :
    Store.groupsFit globals sizes = true ↔
      0 ∉ sizes ∧ sizes.prod ≤ 256 ∧ ∀ pair ∈ globals.zip sizes, pair.2 ∣ pair.1 := by
  simp only [Store.groupsFit, maxWorkGroupSize, ← List.prod_eq_foldl, Nat.mod_eq_of_lt bounded,
    Bool.and_eq_true, Bool.not_eq_true', List.contains_eq_mem, decide_eq_false_iff_not,
    decide_eq_true_eq, List.all_eq_true, beq_iff_eq, Nat.dvd_iff_mod_eq_zero, and_assoc]

/-- What a dispatch runs once it has been accepted: kernels of one name square, all others do nothing. -/
def Store.launched (store : Store) (kernel : Kernel) (globals : List Nat) : Except Refusal Effect :=
  if kernel.signature.name = "square" then store.runSquare kernel (globals.headD 0) else .ok {}

/-- A kernel is run unless one of these rules refuses it. -/
theorem Store.follows_dispatch {store : Store} {id : Nat} {kernel : Kernel} {globals : List Nat}
    {locals : Option (List Nat)} (found : store.kernel id = .ok kernel) (some_dimension : globals ≠ [])
    (locally : ∀ sizes ∈ locals, sizes.length = globals.length)
    (bounded : ∀ sizes ∈ locals, sizes.prod < fullRange) :
    Follows (runtimeRules kernel globals locals)
      (store.dispatch id globals.length (some globals) locals) (store.launched kernel globals) := by
  have bound : Follows [⟨∀ argument ∈ kernel.arguments, argument.isSome, .invalidKernelArgs⟩]
      (Simulator.require (kernel.arguments.all Option.isSome) .invalidKernelArgs >>= fun _ =>
        store.launched kernel globals) (store.launched kernel globals) :=
    .require List.all_eq_true .done
  have dimensioned : (decide (1 ≤ globals.length) && decide (globals.length ≤ 3)) = true ↔
      globals.length ≤ 3 := by
    have := List.length_pos_iff.mpr some_dimension
    rw [Bool.and_eq_true, decide_eq_true_eq, decide_eq_true_eq]
    omega
  unfold dispatch
  rw [found]
  refine .require dimensioned ?_
  -- The runtime takes as many sizes as there are dimensions, which here is all of them.
  dsimp only
  rw [List.take_length]
  refine .require (by simp) ?_
  cases locals with
  | none => exact .skip nofun bound
  | some sizes =>
    have same : sizes.take globals.length = sizes := by
      rw [← locally sizes rfl, List.take_length]
    dsimp only
    rw [same]
    refine .require ((groupsFit_iff (bounded sizes rfl)).trans ?_) bound
    exact ⟨fun fit _ given => Option.some.inj given ▸ fit, fun fit => fit sizes rfl⟩

end Offload.Simulator

namespace Offload.Host
open Simulator

variable {scene : Scene Machine} {queue : Queue} {waits : List Event} {kernel : Kernel}
  {stored : Simulator.Kernel} {globals : List Nat} {offsets locals : Option (List Nat)}

/-- What a dispatch asks of the runtime. -/
def dispatching (kernel : Kernel) (globals : List Nat) (offsets locals : Option (List Nat)) :
    Action Machine Command := do
  pure (.dispatch (← kernel.owned.use) (globals.length % halfRange) offsets (some globals) locals)

theorem settles_dispatching {stored : Simulator.Kernel} (reachable : scene.world.Reachable)
    (located : scene.world.store.kernel kernel.owned.handle = .ok stored) :
    Settles (dispatching kernel globals offsets locals)
      (.ok (.dispatch kernel.owned.handle (globals.length % halfRange) offsets (some globals) locals)) :=
  settles_command (reachable.ne_zero (Store.kernel_ok_iff.mp located)) _

theorem settles_dispatching_of_lt (reachable : scene.world.Reachable)
    (located : scene.world.store.kernel kernel.owned.handle = .ok stored)
    (few : globals.length < halfRange) :
    Settles (dispatching kernel globals offsets locals)
      (.ok (.dispatch kernel.owned.handle globals.length offsets (some globals) locals)) := by
  have settles : Settles (dispatching kernel globals offsets locals) _ :=
    settles_dispatching reachable located
  rwa [Nat.mod_eq_of_lt few] at settles

/-- The scene in which a dispatch has been noted. -/
def noted (scene : Scene Machine) (kernel : Kernel) (globals : List Nat) (locals : Option (List Nat)) :
    Scene Machine :=
  { scene with notices := .dispatching kernel.name globals locals :: scene.notices }

private theorem any_differs_iff {sizes : Option (List Nat)} {length : Nat} :
    sizes.any (fun given => given.length != length) = true ↔ ¬ ∀ given ∈ sizes, given.length = length := by
  cases sizes <;> simp

/-- Sizes that keep the rules of the host are noted and handed on. -/
theorem perform_dispatch (host : ∀ rule ∈ hostRules globals offsets locals, rule.holds) :
    (queue.dispatch Machine.driver kernel globals offsets locals waits).perform scene =
      (queue.enqueue Machine.driver waits (dispatching kernel globals offsets locals)).perform
        (noted scene kernel globals locals) := by
  obtain ⟨dimensions, offset, locally⟩ := hostRules_iff.mp host
  unfold Queue.dispatch
  dsimp only
  rw [if_neg (mt List.length_eq_zero_iff.mp dimensions),
    if_neg (mt any_differs_iff.mp (not_not_intro offset)),
    if_neg (mt any_differs_iff.mp (not_not_intro locally)), Action.perform_bind, Action.perform_note]
  rfl

/-- Sizes that the host does not hand on: the runtime is not called and nothing is noted. -/
theorem perform_dispatch_of_breaks {error : NativeError}
    (breaks : Breaks (hostRules globals offsets locals) error) :
    (queue.dispatch Machine.driver kernel globals offsets locals waits).perform scene =
      (.error (.failed (.native error)), scene) := by
  unfold Queue.dispatch
  dsimp only
  cases breaks with
  | here broken =>
    rw [if_pos (List.length_eq_zero_iff.mpr (Classical.not_not.mp broken))]
    rfl
  | later dimensions breaks =>
    rw [if_neg (mt List.length_eq_zero_iff.mp dimensions)]
    cases breaks with
    | here broken =>
      rw [if_pos (any_differs_iff.mpr broken)]
      rfl
    | later offset breaks =>
      rw [if_neg (mt any_differs_iff.mp (not_not_intro offset))]
      cases breaks with
      | here broken =>
        rw [if_pos (any_differs_iff.mpr broken)]
        rfl
      | later _ breaks => cases breaks

theorem hostRules_of_accepts
    (accepts : Accepts (queue.dispatch Machine.driver kernel globals offsets locals waits) scene) :
    ∀ rule ∈ hostRules globals offsets locals, rule.holds := by
  refine Classical.byContradiction fun broken => ?_
  obtain ⟨error, breaks⟩ := exists_breaks broken
  obtain ⟨_, _, performed⟩ := accepts
  cases performed.symm.trans (perform_dispatch_of_breaks breaks)

section
variable (reachable : scene.world.Reachable) (ready : Ready scene.world queue waits)
  (located : scene.world.store.kernel kernel.owned.handle = .ok stored)
  (few : globals.length < halfRange) (bounded : ∀ sizes ∈ locals, sizes.prod < fullRange)
include reachable ready located few bounded

private theorem launched_of_rules (plain : stored.signature.name ≠ "square")
    (host : ∀ rule ∈ hostRules globals offsets locals, rule.holds)
    (runtime : ∀ rule ∈ runtimeRules stored globals locals, rule.holds) :
    ∃ event after, (queue.dispatch Machine.driver kernel globals offsets locals waits).perform scene =
        (.ok event, after) ∧ Extends scene.world.store after.world.store := by
  obtain ⟨dimensions, _, locally⟩ := hostRules_iff.mp host
  have accepted := (Store.follows_dispatch located dimensions locally bounded).accepts runtime
  rw [Store.launched, if_neg plain] at accepted
  have readyNow : Ready (noted scene kernel globals locals).world queue waits := ready
  obtain ⟨event, after, performed, carried⟩ :=
    readyNow.carries_out reachable (settles_dispatching_of_lt reachable located few) accepted
  refine ⟨event, after, ?_, carried.extends_store rfl⟩
  rw [perform_dispatch host]
  exact performed

private theorem refused_of_breaks {error : NativeError}
    (breaks : Breaks (hostRules globals offsets locals ++ runtimeRules stored globals locals) error) :
    Refused (queue.dispatch Machine.driver kernel globals offsets locals waits) scene error := by
  rcases breaks.of_append with early | ⟨host, late⟩
  · exact ⟨scene, perform_dispatch_of_breaks early, rfl⟩
  · obtain ⟨dimensions, _, locally⟩ := hostRules_iff.mp host
    have refuses := (Store.follows_dispatch located dimensions locally bounded).refuses error late
    have readyNow : Ready (noted scene kernel globals locals).world queue waits := ready
    obtain ⟨after, performed, same⟩ :=
      readyNow.refused reachable (settles_dispatching_of_lt reachable located few) refuses
    refine ⟨after, ?_, same⟩
    rw [perform_dispatch host]
    exact performed

end

/-- A kernel that does nothing is dispatched exactly if all rules hold, the host's and the runtime's.
The first one that does not hold is reported, without a call if it is the host's, and in no case has
an object changed. -/
theorem dispatch_accepted_iff_rules (reachable : scene.world.Reachable)
    (ready : Ready scene.world queue waits)
    (located : scene.world.store.kernel kernel.owned.handle = .ok stored)
    (plain : stored.signature.name ≠ "square") (few : globals.length < 2 ^ 32)
    (bounded : ∀ sizes ∈ locals, sizes.prod < 2 ^ 64) :
    let launch := queue.dispatch Machine.driver kernel globals offsets locals waits
    let host := hostRules globals offsets locals
    let rules := host ++ runtimeRules stored globals locals
    (Accepts launch scene ↔ ∀ rule ∈ rules, rule.holds) ∧
    (∀ error, Breaks rules error → Refused launch scene error) ∧
    (∀ error, Breaks host error → launch.perform scene = (.error (.failed (.native error)), scene)) ∧
    Extends scene.world.store (launch.perform scene).2.world.store := by
  intro launch host rules
  have refuses : ∀ error, Breaks rules error → Refused launch scene error := fun error breaks =>
    refused_of_breaks reachable ready located few bounded breaks
  by_cases sound : ∀ rule ∈ rules, rule.holds
  · obtain ⟨before, late⟩ := List.forall_mem_append.mp sound
    obtain ⟨event, after, performed, kept⟩ :=
      launched_of_rules reachable ready located few bounded plain before late
    refine ⟨iff_of_true ⟨event, after, performed⟩ sound, refuses, fun _ => perform_dispatch_of_breaks, ?_⟩
    rw [performed]
    exact kept
  · obtain ⟨error, breaks⟩ := exists_breaks sound
    have refused := refuses error breaks
    refine ⟨iff_of_false refused.not_accepts sound, refuses, fun _ => perform_dispatch_of_breaks, ?_⟩
    obtain ⟨after, performed, same⟩ := refused
    rw [performed, same]
    exact fun _ _ found => found

/-- A runtime with a queue and a kernel that does nothing with its argument, which is bound. -/
def idleScene : Scene Machine where
  world := (Machine.ofTopology 1 1).run [.call (.createContext ⟨1, some [deviceId 0 0]⟩),
    .call (.createQueue (handleOf 1) (deviceId 0 0) 0),
    .call (.createProgram (handleOf 1) 1 (some [some "__kernel void idle(int n) \x7b\x7d"]) false),
    .call (.buildProgram (handleOf 3) ⟨0, none⟩ none),
    .call (.createKernel (handleOf 3) (some "idle")),
    .call (.setKernelArg (handleOf 4) 0 4 (some [7, 0, 0, 0]))]

/-- Groups of four by two fill eight by four items, groups of four by three do not. -/
theorem idleKernel_dispatched :
    let queue : Queue := ⟨⟨handleOf 2⟩, ⟨deviceId 0 0⟩, 0⟩
    let kernel : Kernel := ⟨⟨handleOf 4⟩, "idle"⟩
    Accepts (queue.dispatch Machine.driver kernel [8, 4] (some [0, 0]) (some [4, 2]) []) idleScene ∧
      Refused (queue.dispatch Machine.driver kernel [8, 4] none (some [4, 3]) []) idleScene
        .invalidWorkGroupSize := by
  intro queue kernel
  have reachable : idleScene.world.Reachable := ⟨1, 1, _, rfl⟩
  have made : idleScene.world.store.objects.find? (handleOf 4) =
      some (.kernel ⟨⟨"idle", [.scalar 4]⟩, [some [7, 0, 0, 0]]⟩) := by decide +kernel
  have queued : idleScene.world.store.objects.find? (handleOf 2) = some (.queue 0) := by decide +kernel
  have free : idleScene.world.injection = {} := by decide +kernel
  have ready : Ready idleScene.world queue [] :=
    ⟨by decide +kernel, fun _ => free ▸ rfl, ⟨0, Store.queue_ok_iff.mpr queued⟩, nofun, by decide⟩
  have located := Store.kernel_ok_iff.mpr made
  obtain ⟨accepts, _⟩ := @dispatch_accepted_iff_rules idleScene queue [] kernel _ [8, 4] (some [0, 0])
    (some [4, 2]) reachable ready located (by decide) (by decide) (by decide)
  obtain ⟨_, refuses, _⟩ := @dispatch_accepted_iff_rules idleScene queue [] kernel _ [8, 4] none
    (some [4, 3]) reachable ready located (by decide) (by decide) (by decide)
  constructor
  · refine accepts.mpr (List.forall_mem_append.mpr ⟨hostRules_iff.mpr ⟨nofun, ?_, ?_⟩, ?_⟩)
    · rintro _ ⟨⟩
      rfl
    · rintro _ ⟨⟩
      rfl
    · refine runtimeRules_iff.mpr ⟨by decide, by decide, ?_, by decide⟩
      rintro _ ⟨⟩
      decide
  · -- The third of the runtime's rules is the first that does not hold.
    refine refuses _ (.later nofun (.later nofun (.later ?_ (.later ?_ (.later ?_ (.here ?_))))))
    · rintro _ ⟨⟩
      rfl
    · decide
    · decide
    · intro fit
      exact absurd (fit _ rfl) (by decide)

end Offload.Host
