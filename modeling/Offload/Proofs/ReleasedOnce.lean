import Offload.Proofs.Stewardship

/-! Sessions whose steps all go through owners. Over such a run every object is given back
exactly once, and the objects of the runtime are those of the owners that are left. -/
namespace Offload.Session
open Host Simulator

/-- A job of owners on the runtime itself. It forges no handle, calls past no owner and
arranges nothing in the layer above the runtime. -/
def Job.isDirect : Job → Bool
  | .native _ | .ownership (.adopt ..) | .ownership (.assume ..) => false
  | .controls .allocateContext | .controls (.prepare ..) | .controls (.recount ..) => false
  | .controls (.hide _) => false
  | _ => true

theorem Ownership.bearing {job : Ownership} (direct : (Job.ownership job).isDirect = true) (slots : Slots) :
    Bearing (job.work slots) := by
  cases job with
  | adopt | assume => cases direct
  | handleOf =>
    refine .bind fun slot => ?_
    unfold handleWork
    split
    · exact .some (.answering (.held trivial) _)
    · exact .none
  | writtenOf => exact .bind fun _ => .some (.ofAnswer _)

theorem Controls.accounts {job : Controls} (direct : (Job.controls job).isDirect = true) :
    Accounts job.work := by
  cases job with
  | fail entry status =>
    exact @Accounts.arranging (·.fail entry status) (fun _ => rfl) fun _ _ _ ledger =>
      ledger.fail entry status
  | returnNull entry =>
    exact @Accounts.arranging (·.returnNull entry) (fun _ => rfl) fun _ _ _ ledger =>
      ledger.returnNull entry
  | callCount entry => exact (Bears.observing fun machine => .number (machine.callCount entry)).accounts
  | lastWaits => exact (Bears.observing fun machine => .numbers (machine.lastWaits.map Int.ofNat)).accounts
  | lastBuildDevices => exact (Bears.observing fun machine => .numberIfAny machine.lastBuildDevices).accounts
  | directContext => exact (Bears.workMaking (.certain (.newContext _ _)) fun _ => rfl).accounts
  | firstDevice =>
    have asked : Dialogue .calm Controls.firstDeviceAnswer :=
      .bind (.devices _ _ _) fun _ => .bind (.deviceString _ _ _ _) fun _ => .done _
    exact (Bears.answering asked _).accounts
  | allocateContext | prepare | recount | hide => cases direct

namespace Sound
variable {made : List (ObjectKind × Nat)} {state : State}

theorem step (sound : Sound made state) {step : Step} (direct : step.job.isDirect = true) :
    Sound (announced (state.step step).1.notices ++ made) (state.step step).2 := by
  obtain ⟨job, keep?⟩ := step
  cases job with
  | discovery job => exact sound.performFound (job.bearing _) keep?
  | allocation job => exact sound.performFound (job.bearing _) keep?
  | compilation job => exact sound.performFound (job.bearing _) keep?
  | queueing job => exact sound.performFound (job.bearing _) keep?
  | ownership job => exact sound.performFound (job.bearing direct _) keep?
  | controls job => exact sound.performWork (job.accounts direct) keep?
  | native => cases direct
  | release slot => exact (sound.keeps_release slot).sound
  | drop slot => exact (sound.keeps_drop slot).sound

private theorem perm (sound : Sound made state) {others : List (ObjectKind × Nat)} (same : made.Perm others) :
    Sound others state := by
  obtain ⟨bare, ascending, ledger⟩ := sound
  exact ⟨bare, ascending, ledger.perm same (.refl _)⟩

theorem steps (sound : Sound made state) (steps : List (Option Step))
    (direct : ∀ next ∈ steps, next.all (·.job.isDirect) = true) :
    Sound (madeIn (state.steps steps).1 ++ made) (state.steps steps).2 := by
  induction steps generalizing made state with
  | nil => exact sound
  | cons next rest ih =>
    obtain ⟨now, later⟩ := List.forall_mem_cons.mp direct
    have onward : ∀ report after, Sound (announced report.notices ++ made) after →
        Sound (madeIn (report :: (after.steps rest).1) ++ made) (after.steps rest).2 := by
      intro report after first
      have pushed : madeIn (report :: (after.steps rest).1) =
          announced report.notices ++ madeIn (after.steps rest).1 := List.flatMap_cons
      rw [pushed, List.append_assoc]
      exact (ih first later).perm (List.perm_append_comm_assoc _ _ made)
    cases next with
    | none => exact onward _ _ sound.refused
    | some step => exact onward _ _ (sound.step now)

private theorem finish (sound : Sound made state) : Sound made state.finish.2 := by
  obtain ⟨⟨overlay, machine⟩, slots⟩ := state
  obtain ⟨rfl, ascending, ledger⟩ := sound
  have all := ledger.perm (.refl made) (.of_eq (List.append_nil _).symm)
  obtain ⟨result, after, notes, performed, _, _, given⟩ :=
    Slot.discardAll_surrenders slots.contents made [] machine [] all
  have running : State.run ⟨({}, machine), slots⟩ (Slot.discardAll slots.contents) =
      (result, plain after notes) := performed
  have finished : (State.finish ⟨({}, machine), slots⟩).2 = ⟨({}, after), []⟩ :=
    congrArg (fun ended => (⟨ended.2.world, []⟩ : State)) running
  rw [finished]
  exact ⟨rfl, .nil, given⟩

end Sound

/-- Whether a lookup for objects of a kind finds one under a handle. -/
def Locates (store : Store) (handle : Nat) : ObjectKind → Prop
  | .context => ∃ devices, store.context handle = .ok devices
  | .queue => ∃ properties, store.queue handle = .ok properties
  | .memory => ∃ memory, store.memory handle = .ok memory
  | .program => ∃ program, store.program handle = .ok program
  | .kernel => ∃ kernel, store.kernel handle = .ok kernel
  | .event => ∃ event, store.event handle = .ok event

private theorem locates_of_find? {store : Store} {handle : Nat} {object : Object}
    (found : store.objects.find? handle = some object) : Locates store handle object.kind := by
  cases object with
  | context => exact ⟨_, Store.context_ok_iff.mpr found⟩
  | queue => exact ⟨_, Store.queue_ok_iff.mpr found⟩
  | memory => exact ⟨_, Store.memory_ok_iff.mpr found⟩
  | program => exact ⟨_, Store.program_ok_iff.mpr found⟩
  | kernel => exact ⟨_, Store.kernel_ok_iff.mpr found⟩
  | event => exact ⟨_, Store.event_ok_iff.mpr found⟩

/-- What holds of the owners that were made so far and of those that are left in the slots.
A machine that has broken off a call is halted and takes nothing back any more. -/
structure Stewarded (made : List (ObjectKind × Nat)) (slots : Slots) (machine : Machine) : Prop where
  /-- Every owner has a handle of its own. -/
  distinct : (made.map Prod.snd).Nodup
  apart : (slots.holdings.map Prod.snd).Nodup
  listed : ∀ owner ∈ slots.holdings, owner ∈ made
  /-- An owner that is left has given nothing back, any other has done so once. -/
  unreleased : ∀ owner ∈ slots.holdings, machine.released.count owner = 0
  released : ∀ owner ∈ made, owner ∉ slots.holdings → machine.released.count owner = 1
  /-- What is left can be looked up, and until the machine halts nothing else exists. -/
  accepted : machine.Lenient → ∀ owner ∈ slots.holdings, Locates machine.store owner.2 owner.1
  complete : machine.halted = false → machine.Lenient →
    machine.store.objects.outline.Perm slots.holdings
  /-- Once no owner is left, each kind was released as often as made, and something exists only if the
  machine has halted. -/
  called : slots.holdings = [] →
    ∀ kind, machine.callCount (.release kind) = made.countP (·.1 = kind)
  emptied : slots.holdings = [] → machine.Lenient → (machine.liveObjects = 0 ↔ machine.halted = false)

theorem Sound.stewarded {made : List (ObjectKind × Nat)} {state : State} (sound : Sound made state) :
    Stewarded made state.slots state.world.2 := by
  obtain ⟨_, _, ledger⟩ := sound
  have known : ∀ owner ∈ state.slots.holdings, owner ∈ made :=
    fun owner member => ledger.balance.mem_iff.mp (List.mem_append_right _ member)
  exact {
    distinct := ledger.distinct
    apart := by
      have spread := ledger.held_distinct
      rw [List.map_append, List.nodup_append] at spread
      exact spread.2.1
    listed := known
    unreleased := fun owner member => by
      rw [ledger.count_released, if_neg fun given => given.2 member]
    released := fun owner member gone => by
      rw [ledger.count_released, if_pos ⟨member, gone⟩]
    accepted := fun lenient owner member => by
      obtain ⟨object, found, same⟩ := ledger.find?_of_held lenient member
      exact same ▸ locates_of_find? found
    complete := ledger.complete
    called := fun gone kind => by
      rw [gone] at ledger
      exact ledger.callCount_release kind
    emptied := fun gone lenient => by
      rw [gone] at ledger
      have measured : state.world.2.liveObjects = state.world.2.store.objects.outline.length :=
        (List.length_map _).symm
      rw [measured]
      constructor
      · intro none
        exact Bool.eq_false_iff.mpr fun halted => ledger.lasting halted (List.eq_nil_of_length_eq_zero none)
      · exact fun serving => (ledger.complete serving lenient).length_eq }

/-- Over every run of owners on the runtime itself, each owner gives its object back exactly
once, whatever is made to fail, and the objects that exist are those of the owners left unless
the runtime has halted. -/
theorem steps_stewarded (platforms devices : Nat) (steps : List (Option Step))
    (direct : ∀ next ∈ steps, next.all (·.job.isDirect) = true) :
    let run := (State.initial platforms devices).steps steps
    Stewarded (madeIn run.1) run.2.slots run.2.world.2 ∧
      Stewarded (madeIn run.1) [] run.2.finish.2.world.2 := by
  have sound := (Sound.initial platforms devices).steps steps direct
  rw [List.append_nil] at sound
  exact ⟨sound.stewarded, sound.finish.stewarded⟩

/-- A context and an event of it, both given back although the context is not taken back. -/
def failedRelease : List (Option Step) :=
  [some ⟨.controls .directContext, some "context"⟩,
    some ⟨.allocation (.newUserEvent "context"), some "event"⟩,
    some ⟨.controls (.fail (.release .context) (-5)), none⟩,
    some ⟨.release "context", none⟩]

theorem failedRelease_stewarded :
    (∀ next ∈ failedRelease, next.all (·.job.isDirect) = true) ∧
      madeIn ((State.initial 1 1).steps failedRelease).1 =
        [(.context, handleOf 1), (.event, handleOf 2)] ∧
      ((State.initial 1 1).steps failedRelease).2.world.2.released.count (.context, handleOf 1) = 1 ∧
      ∀ kind, ((State.initial 1 1).steps failedRelease).2.finish.2.world.2.callCount (.release kind) =
        if kind = .context ∨ kind = .event then 1 else 0 := by
  have direct : ∀ next ∈ failedRelease, next.all (·.job.isDirect) = true := by decide
  have made : madeIn ((State.initial 1 1).steps failedRelease).1 =
      [(.context, handleOf 1), (.event, handleOf 2)] := by decide +kernel
  have stewarded := steps_stewarded 1 1 failedRelease direct
  refine ⟨direct, made, ?_, fun kind => ?_⟩
  · exact stewarded.1.released _ (made ▸ List.mem_cons_self) (by decide +kernel)
  · rw [stewarded.2.called rfl kind, made]
    cases kind <;> rfl

/-- A kernel without parameters that is named as if it squared. -/
def bareSession : List (Option Step) :=
  [some ⟨.discovery (.devices none 0xFFFFFFFF), some "device"⟩,
    some ⟨.allocation (.newContext ["device0"]), some "context"⟩,
    some ⟨.allocation (.newQueue "context" "device0" 0), some "queue"⟩,
    some ⟨.compilation (.newProgram "context" ["__kernel void square() \x7b \x7d"]), some "program"⟩,
    some ⟨.compilation (.build "program" [] ""), none⟩,
    some ⟨.compilation (.newKernel "program" "square"), some "kernel"⟩]

def bareSquare : Step := ⟨.queueing (.enqueue "queue" [] (.dispatch "kernel" [1] none none)), none⟩

/-- A context, a queue, a program and a kernel are given back to a runtime that has halted with the
dispatch of that kernel, and exist all the same. Nothing is made to fail. -/
theorem bareSquare_unstewarded :
    (∀ next ∈ bareSession ++ [some bareSquare], next.all (·.job.isDirect) = true) ∧
      (let run := (State.initial 1 1).steps (bareSession ++ [some bareSquare])
      run.2.finish.2.slots = [] ∧ run.2.finish.2.world.2.injection = {} ∧
        run.2.finish.2.world.2.released.length = 4 ∧ run.2.finish.2.world.2.liveObjects = 4) := by
  refine ⟨by decide, ?_, ?_, ?_, ?_⟩
  · rfl
  · decide +kernel
  · decide +kernel
  · decide +kernel

end Offload.Session
