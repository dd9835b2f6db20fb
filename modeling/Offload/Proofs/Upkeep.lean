import Offload.Proofs.Conduct
import Offload.Proofs.Metadata
import Offload.Proofs.Products

/-! What every call keeps, sessions of owners keep. A step makes calls on objects that have not been
given back and changes what is injected; nothing else happens to the runtime in it. -/
namespace Offload.Session
open Host Simulator

variable {α : Type} {overreaches faults : Prop} {good : Machine → Prop} {stops : Fault → Prop}

/-- An answer that reports no length of a build of which there can be no text. -/
def Measured (request : Request) (response : Response) : Prop :=
  ∀ program device parameter window, request = .info (.build program device) parameter window →
    response.reported.getD 0 ≤ memoryLimit

/-- Dialogues of owners that have not been released. -/
def Manners.upright (overreaches faults : Prop) : Manners where
  uses handle := handle ≠ 0
  makes := True
  releases := True
  overreaches := overreaches
  faults := faults
  looks _ := True
  answers := Measured
  null held := absurd rfl held

private theorem Manners.upright_open : (Manners.upright overreaches faults).Open :=
  ⟨fun _ _ => trivial, fun _ _ => trivial, fun _ _ _ => trivial⟩

private theorem Manners.upright_measures : (Manners.upright overreaches faults).Measures :=
  Or.inr fun _ _ _ _ _ measured => measured _ _ _ _ rfl

/-- Owners in the slots that have not been released may be used. -/
theorem Slots.Whole.admits {slots : Slots} (whole : slots.Whole) (overreaches faults : Prop)
    (names : List String) : slots.Admits (.upright overreaches faults) names :=
  fun _ _ slot found _ _ owner => (whole slot (mem_contents_of_get? found)).owner owner

/-- What is good of a runtime lasts over every call, unless that may overreach and those are left
out, and over every injection. The faults of calls are known, and those of works unless there are none. -/
structure Upkeep (overreaches faults : Prop) (good : Machine → Prop) (stops : Fault → Prop) : Prop where
  call : ∀ request, overreaches ∨ mayOverreach request = false → ∀ machine, good machine →
    good (machine.perform request).2 ∧
      (∀ found, (machine.perform request).1 = .error found → stops found) ∧
      ∀ response, (machine.perform request).1 = .ok response → Measured request response
  fail : ∀ machine entry status, good machine → good (machine.fail entry status)
  returnNull : ∀ machine entry, good machine → good (machine.returnNull entry)
  faults : faults → ∀ found, stops found

/-- A runtime next to itself. -/
def Twice (good : Machine → Prop) (first second : Machine) : Prop := first = second ∧ good first

theorem Upkeep.indistinct (upkeep : Upkeep overreaches faults good stops) :
    (Manners.upright overreaches faults).Indistinct (Twice good) stops where
  call request asks first second twice := by
    obtain ⟨rfl, fine⟩ := twice
    obtain ⟨kept, known⟩ := upkeep.call request asks.overreaches first fine
    exact ⟨rfl, ⟨rfl, kept⟩, known⟩
  look view _ _ _ twice := congrArg view twice.1
  faults := upkeep.faults

/-- At the end of a step the runtime is good, and the fault at which the step has stopped is known. -/
def Maintained (good : Machine → Prop) (stops : Fault → Prop) (ended : Report × State) : Prop :=
  good ended.2.world.2 ∧ ∀ found, ended.1.ending = .faulted found → stops found

theorem Maintained.concluded {result : Except Stop α} {answer : α → Answer} {machine : Machine}
    (fine : good machine) (known : ∀ found, result = .error (.faulted found) → stops found)
    (notices : List Notice) (slots : Slots) :
    Maintained good stops (State.concluded (result.map answer) (plain machine notices) slots) := by
  refine ⟨fine, fun found ended => ?_⟩
  rcases result with (error | other) | value
  · cases ended
  · cases ended
    exact known found rfl
  · cases ended

theorem Simulated.twice {action : Action World α} (simulated : Simulated (Twice good) stops action)
    {machine : Machine} (fine : good machine) (notices : List Notice) : ∃ result notes after,
      action.perform (plain machine notices) = (result, plain after notes) ∧ good after ∧
        ∀ found, result = .error (.faulted found) → stops found := by
  obtain ⟨result, notes, after, other, performed, _, twice, known⟩ :=
    simulated machine machine notices ⟨rfl, fine⟩
  exact ⟨result, notes, after, performed, twice.2, known⟩

/-- The owners that a slot holds have not been released. -/
theorem Slot.ne_zero_of_mem_holding {slot : Slot} {owner : ObjectKind × Nat} (held : owner ∈ slot.holding) :
    owner.2 ≠ 0 := by
  unfold Slot.holding at held
  split at held
  · unfold Session.holding at held
    split at held
    · cases held
    · cases List.mem_singleton.mp held
      assumption
  · cases held

/-- A work hands over its product, and what that drives out of the slots is given back. -/
theorem Maintained.performWork (upkeep : Upkeep overreaches faults good stops) {slots : Slots}
    {machine after : Machine} {work : Work} {result : Except Stop Product} {notices : List Notice}
    (performed : work.perform (plain machine []) = (result, plain after notices)) (fine : good after)
    (known : ∀ found, result = .error (.faulted found) → stops found) (keep? : Option String) :
    Maintained good stops (State.performWork ⟨({}, machine), slots⟩ work keep?) := by
  have running : State.run ⟨({}, machine), slots⟩ work = (result, plain after notices) := performed
  unfold State.performWork
  rw [running]
  cases result with
  | error stop => exact @concluded Product good stops (.error stop) Product.answer after fine known notices slots
  | ok product =>
    dsimp only
    generalize State.file slots keep? product.made = filing
    have given : Simulated (Twice good) stops (Slot.discardAll filing.2) := by
      refine Slot.discardAll_simulated (fun owner member => ?_) trivial upkeep.indistinct
      obtain ⟨slot, _, held⟩ := List.mem_flatMap.mp member
      exact Slot.ne_zero_of_mem_holding held
    obtain ⟨last, notes, final, finished, fine, known⟩ := given.twice fine notices
    rw [finished]
    exact .concluded fine known notes filing.1

/-- A job that does not count on a call, and uploads only pictures that can be read. -/
def Job.Careful : Job → Prop
  | .allocation (.newImageOf _ _ bitmap) =>
    bitmap.layout = .other → ∃ colors, bitmap.toRgba8 = .ok colors
  | .controls .directContext => False
  | _ => True

/-- A job that asks for a memory object, hands over a source or carries out a kernel. -/
def Job.MayOverreach : Job → Prop
  | .allocation job => job.MayOverreach
  | .compilation job => job.MayOverreach
  | .queueing job => job.MayOverreach
  | _ => False

section
variable (upkeep : Upkeep overreaches faults good stops)
include upkeep

section
variable {machine : Machine} {slots : Slots} (fine : good machine)
include fine

private theorem Maintained.performFound {found : Option Work} (talks : Talks (.upright overreaches faults) found)
    (keep? : Option String) :
    Maintained good stops (State.performFound ⟨({}, machine), slots⟩ found keep?) := by
  cases found with
  | none => exact ⟨fine, nofun⟩
  | some work =>
    have simulated := (talks work rfl).simulated upkeep.indistinct
    obtain ⟨result, notes, after, performed, fine, known⟩ := simulated.twice fine []
    exact performWork upkeep performed fine known keep?

private theorem Maintained.release (ascending : slots.Ascending) (name : String) :
    Maintained good stops (State.release ⟨({}, machine), slots⟩ name) := by
  unfold State.release
  dsimp only
  cases found : slots.release? name with
  | none => exact ⟨fine, nofun⟩
  | some filing =>
    obtain ⟨others, action⟩ := filing
    obtain ⟨route, kind, owned, rfl, _⟩ := Sound.release?_cases ascending found
    have released : Simulated (Twice good) stops (owned.release route.driver) :=
      (Dialogue.release route trivial id).simulated upkeep.indistinct
    obtain ⟨result, notes, after, performed, fine, known⟩ := released.twice fine []
    have running : State.run ⟨({}, machine), slots⟩ (owned.release route.driver) = _ := performed
    dsimp only
    rw [running]
    exact .concluded fine known notes others

private theorem Maintained.drop (name : String) :
    Maintained good stops (State.drop ⟨({}, machine), slots⟩ name) := by
  unfold State.drop
  dsimp only
  cases found : slots.get? name with
  | none => exact ⟨fine, nofun⟩
  | some slot =>
    have discarded : Simulated (Twice good) stops slot.discard :=
      Slot.discard_simulated (fun _ => Slot.ne_zero_of_mem_holding) trivial upkeep.indistinct
    obtain ⟨result, notes, after, performed, fine, known⟩ := discarded.twice fine []
    have running : State.run ⟨({}, machine), slots⟩ slot.discard = _ := performed
    dsimp only
    rw [running]
    exact .concluded fine known notes _

end

private theorem Controls.simulated_twice {job : Controls} (direct : (Job.controls job).isDirect = true)
    (careful : (Job.controls job).Careful ∨ faults) : Simulated (Twice good) stops job.work := by
  have viewed (view : Machine → Answer) : Simulated (Twice good) stops (Work.observing view) :=
    (Dialogue.observing trivial).simulated upkeep.indistinct
  cases job with
  | fail entry status =>
    rintro machine _ notices ⟨rfl, fine⟩
    exact ⟨_, _, _, _, rfl, rfl, ⟨rfl, upkeep.fail machine entry status fine⟩, nofun⟩
  | returnNull entry =>
    rintro machine _ notices ⟨rfl, fine⟩
    exact ⟨_, _, _, _, rfl, rfl, ⟨rfl, upkeep.returnNull machine entry fine⟩, nofun⟩
  | callCount entry => exact viewed fun machine => .number (machine.callCount entry)
  | lastWaits => exact viewed fun machine => .numbers (machine.lastWaits.map Int.ofNat)
  | lastBuildDevices => exact viewed fun machine => .numberIfAny machine.lastBuildDevices
  | directContext =>
    have asked : Dialogue (.upright overreaches faults) (Controls.work .directContext) :=
      .making (.certain (.newContext _ trivial _) (careful.resolve_left id))
    exact asked.simulated upkeep.indistinct
  | firstDevice =>
    have asked : Dialogue (.upright overreaches faults) Controls.firstDeviceAnswer :=
      .bind (.devices _ _ _) fun _ => .bind (.deviceString _ _ _ _) fun _ => .done _
    exact (asked.answering _).simulated upkeep.indistinct
  | allocateContext | prepare | recount | hide => cases direct

/-- A step of owners keeps what every call keeps. -/
theorem Maintained.step {made : List (ObjectKind × Nat)} {state : State} (sound : Sound made state)
    (whole : state.slots.Whole) (fine : good state.world.2) {step : Step}
    (direct : step.job.isDirect = true) (overreaching : step.job.MayOverreach → overreaches)
    (careful : step.job.Careful ∨ faults) : Maintained good stops (state.step step) := by
  obtain ⟨⟨overlay, machine⟩, slots⟩ := state
  cases sound.bare
  have admits := whole.admits overreaches faults
  obtain ⟨job, keep?⟩ := step
  cases job with
  | discovery job => exact performFound upkeep fine (job.talks _) keep?
  | allocation job =>
    have readable : job.Readable (.upright overreaches faults) := by
      rcases careful with careful | allowed
      · cases job with
        | newImageOf => exact fun other => Or.inl (careful other)
        | _ => trivial
      · exact job.readable_of_faults allowed
    exact performFound upkeep fine (job.talks trivial Manners.upright_open (admits _) overreaching readable)
      keep?
  | compilation job =>
    exact performFound upkeep fine
      (job.talks trivial Manners.upright_open (admits _) overreaching Manners.upright_measures) keep?
  | queueing job =>
    exact performFound upkeep fine (job.talks trivial (admits _) overreaching) keep?
  | ownership job => exact performFound upkeep fine (job.talks direct (admits _)) keep?
  | controls job =>
    obtain ⟨result, notes, after, performed, fine, known⟩ :=
      (Controls.simulated_twice upkeep direct careful).twice fine []
    exact performWork upkeep performed fine known keep?
  | native => cases direct
  | release slot => exact release upkeep fine sound.ascending slot
  | drop slot => exact drop upkeep fine slot

end

/-- What calls of all sorts keep is kept over whole runs. -/
theorem Upkeep.steps (upkeep : Upkeep True True good stops) {made : List (ObjectKind × Nat)} {state : State}
    (sound : Sound made state) (whole : state.slots.Whole) (fine : good state.world.2)
    {steps : List (Option Step)} (direct : ∀ next ∈ steps, next.all (·.job.isDirect) = true) :
    good (state.steps steps).2.world.2 := by
  induction steps generalizing made state with
  | nil => exact fine
  | cons next rest ih =>
    obtain ⟨first, others⟩ := List.forall_mem_cons.mp direct
    cases next with
    | none => exact ih sound whole fine others
    | some step =>
      have maintained := Maintained.step upkeep sound whole fine first (fun _ => trivial) (Or.inr trivial)
      exact ih (sound.step first) (State.whole_step whole first) maintained.1 others

end Offload.Session
