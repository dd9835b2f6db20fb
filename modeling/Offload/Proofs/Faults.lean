import Offload.Proofs.Calls
import Offload.Proofs.WellFormed

/-! When a runtime stops at a fault. Two sorts of call are not answered: one asks for more memory than
there can be, the other puts a kernel into a queue that asks for an argument which is not there. The
runtime has halted from then on. -/
namespace Offload.Simulator.Machine

/-- A call that is not answered, and the fault that it runs into. -/
inductive Overreaches (machine : Machine) : Request → Fault → Prop where
  | exhausting {request : Request} (allowed : machine.injection.failure? request.entry = none)
      (exceeds : machine.store.Exceeds request) : Overreaches machine request .tooLarge
  | carryingOut {queue : Nat} {command : Command} {waits : HandleList} {wantEvent : Bool}
      {properties : UInt64} {events : List Nat} {fault : Fault}
      (allowed : machine.injection.failure? (.enqueue command.kind) = none)
      (queued : machine.store.queue queue = .ok properties)
      (waited : waitList machine.store waits = .ok events)
      (overreaches : machine.store.Overreaches command fault) :
      Overreaches machine (.enqueue queue command waits wantEvent) fault

variable {machine : Machine} {request : Request}

theorem faults_iff (serving : machine.halted = false) {fault : Fault} :
    (machine.perform request).1 = .error fault ↔ machine.Overreaches request fault := by
  constructor
  · intro answer
    have came := outcome_perform machine request
    generalize machine.perform request = answered at answer came
    obtain ⟨_, after⟩ := answered
    cases answer
    dsimp only at came
    cases came with
    | halted halted => cases halted.symm.trans serving
    | exhausted _ allowed exceeds => exact .exhausting allowed exceeds
    | faulted _ allowed service queued waited overreaches =>
      cases request with
      | enqueue =>
        cases service
        exact .carryingOut allowed queued waited overreaches
      | _ => cases service
  · intro overreaches
    cases overreaches with
    | exhausting allowed exceeds =>
      rw [perform_of_serving serving allowed, serve_eq]
      simp only [counted, Store.service_of_exceeds exceeds, create, refused]
    | @carryingOut queue command waits wantEvent _ _ _ allowed queued waited overreaches =>
      have refusal := Store.effect_of_overreaches overreaches
      have served : machine.perform (.enqueue queue command waits wantEvent) = _ :=
        perform_of_serving serving allowed
      rw [served]
      simp only [serve, enqueue, counted, queued, waited, refusal, refused]

theorem halts_iff (serving : machine.halted = false) :
    (machine.perform request).2.halted = true ↔ ∃ fault, machine.Overreaches request fault := by
  simp only [← faults_iff serving]
  have came := outcome_perform machine request
  generalize machine.perform request = answered at came
  obtain ⟨answer, after⟩ := answered
  dsimp only at came
  cases came with
  | halted halted => cases halted.symm.trans serving
  | faulted | exhausted => exact iff_of_true rfl ⟨_, rfl⟩
  | _ => exact iff_of_false (fun halted => nomatch halted.symm.trans serving) fun ⟨_, answer⟩ => nomatch answer

theorem Overreaches.mayOverreach {fault : Fault} (overreaches : machine.Overreaches request fault) :
    Session.mayOverreach request = true := by
  cases overreaches with
  | exhausting _ exceeds => cases exceeds <;> rfl
  | carryingOut _ _ _ squaring =>
    cases squaring
    rfl

theorem Reachable.measured (reachable : machine.Reachable) {response : Response}
    (answered : (machine.perform request).1 = .ok response) : Session.Measured request response := by
  rintro program device parameter window rfl
  have came := outcome_perform machine (.info (.build program device) parameter window)
  generalize machine.perform (.info (.build program device) parameter window) = result at answered came
  obtain ⟨_, after⟩ := result
  cases answered
  dsimp only at came
  cases came with
  | injected | refused => exact Nat.zero_le _
  | answered _ _ service =>
    obtain ⟨bytes, told, responded⟩ := exists_of_bind_ok (Service.query.inj service)
    obtain ⟨_, _, located⟩ := exists_of_bind_ok told
    obtain ⟨stored, found, known⟩ := exists_of_bind_ok located
    have short : bytes.length ≤ 101 := by
      unfold Simulator.known at known
      split at known
      · rename_i member _
        cases known
        cases member with
        | status => exact Nat.le_trans (Nat.le_of_eq (LittleEndian.length_ofInt _ _)) (by decide)
        | log =>
          rw [buildAnswer, length_textBytes]
          exact Nat.succ_le_succ (reachable.log_le found)
        | options => exact show (textBytes "").length ≤ 101 by decide
      · cases known
    unfold respond at responded
    split at responded
    · cases responded
    · cases responded
      cases window.length with
      | false => exact Nat.zero_le _
      | true => exact Nat.le_trans short (by decide)
  | waited _ _ _ service | suppressed _ _ service | created _ _ service | updated _ _ service
  | compiled _ _ service | rejected _ _ service | queued _ _ service => cases service

end Offload.Simulator.Machine

namespace Offload.Session
open Host Simulator

/-- A runtime that serves goes on to do so, as long as no call may overreach. -/
theorem serving_upkeep (faults : Prop) :
    Upkeep False faults (fun machine => machine.Reachable ∧ machine.halted = false) fun _ => faults where
  call request other machine kept := by
    obtain ⟨reachable, serving⟩ := kept
    have modest : ¬ ∃ fault, machine.Overreaches request fault := fun ⟨_, overreaches⟩ =>
      absurd overreaches.mayOverreach (by rw [other.resolve_left id]; exact Bool.false_ne_true)
    refine ⟨⟨reachable.after (.call request), ?_⟩, fun found stopped => ?_, fun _ => reachable.measured⟩
    · exact Bool.eq_false_iff.mpr fun halted => modest ((Machine.halts_iff serving).mp halted)
    · exact (modest ⟨found, (Machine.faults_iff serving).mp stopped⟩).elim
  fail _ entry status kept := ⟨kept.1.after (.fail entry status), kept.2⟩
  returnNull _ entry kept := ⟨kept.1.after (.returnNull entry), kept.2⟩
  faults allowed _ := allowed

private theorem halted_upkeep : Upkeep True True (·.halted = true) fun _ => True where
  call request _ machine halted := by
    rw [Machine.perform_of_halted halted]
    exact ⟨halted, fun _ _ => trivial, nofun⟩
  fail _ _ _ := id
  returnNull _ _ := id
  faults _ _ := trivial

theorem reachable_upkeep : Upkeep True True Machine.Reachable fun _ => True where
  call request _ _ reachable :=
    ⟨reachable.after (.call request), fun _ _ => trivial, fun _ => reachable.measured⟩
  fail _ entry status reachable := reachable.after (.fail entry status)
  returnNull _ entry reachable := reachable.after (.returnNull entry)
  faults _ _ := trivial

/-- A step whose call is not answered by the runtime. -/
def State.Overreaches (state : State) (step : Step) : Prop :=
  ∃ request fault, step.job.call? state.slots = some (.ok request) ∧
    state.world.2.Overreaches request fault

/-- A step that makes no call because the bitmap that it uploads cannot be unpacked. -/
def State.Unreadable (state : State) (step : Step) : Prop :=
  ∃ fault, step.job.call? state.slots = some (.error (.faulted fault))

/-- A step halts the runtime exactly if it overreaches, and stops at a fault only then, or if a bitmap
cannot be unpacked. -/
structure Faults (state : State) (step : Step) (ended : Report × State) : Prop where
  halts : ended.2.world.2.halted = true ↔ state.Overreaches step
  stops : (∃ found, ended.1.ending = .faulted found) ↔ state.Overreaches step ∨ state.Unreadable step

private theorem Faults.of_answered {ended : Report × State} {state : State} {step : Step}
    (maintained : Maintained (fun machine => machine.Reachable ∧ machine.halted = false)
      (fun _ => False) ended)
    (modest : ¬ state.Overreaches step) (readable : ¬ state.Unreadable step) :
    Faults state step ended where
  halts := iff_of_false (fun halted => nomatch halted.symm.trans maintained.1.2) modest
  stops := iff_of_false (fun ⟨found, stopped⟩ => maintained.2 found stopped)
    fun either => either.elim modest readable

section
variable {machine : Machine} {slots : Slots} {step : Step} (reachable : machine.Reachable)
  (serving : machine.halted = false)
include reachable serving

theorem Faults.of_comesTo {work : Work} {call : Except Stop Request} (comes : ComesTo work call)
    (called : step.job.call? slots = some call) (keep? : Option String) :
    Faults ⟨({}, machine), slots⟩ step (State.performWork ⟨({}, machine), slots⟩ work keep?) := by
  have told {other : Except Stop Request} (same : step.job.call? slots = some other) : other = call :=
    Option.some.inj (same.symm.trans called)
  cases call with
  | error stop =>
    obtain ⟨notes, performed⟩ := comes machine []
    have running : State.run ⟨({}, machine), slots⟩ work = _ := performed
    have modest : ¬ State.Overreaches ⟨({}, machine), slots⟩ step := fun ⟨_, _, same, _⟩ =>
      nomatch told same
    unfold State.performWork
    rw [running]
    refine ⟨iff_of_false (fun halted => nomatch halted.symm.trans serving) modest, ?_⟩
    rw [or_iff_right modest]
    constructor
    · rintro ⟨found, ended⟩
      cases stop with
      | failed error => cases ended
      | faulted other => exact ⟨other, called⟩
    · rintro ⟨found, same⟩
      cases told same
      exact ⟨found, rfl⟩
  | ok request =>
    obtain ⟨result, notes, performed, stops⟩ := comes machine []
    have running : State.run ⟨({}, machine), slots⟩ work = _ := performed
    have readable : ¬ State.Unreadable ⟨({}, machine), slots⟩ step := fun ⟨_, same⟩ => nomatch told same
    have overreaches : State.Overreaches ⟨({}, machine), slots⟩ step ↔
        ∃ fault, machine.Overreaches request fault := by
      constructor
      · rintro ⟨other, fault, same, reached⟩
        cases told same
        exact ⟨fault, reached⟩
      · rintro ⟨fault, reached⟩
        exact ⟨request, fault, called, reached⟩
    have halts : (machine.perform request).2.halted = true ↔ _ :=
      (Machine.halts_iff serving).trans overreaches.symm
    cases answer : (machine.perform request).1 with
    | error found =>
      have reached := overreaches.mpr ⟨found, (Machine.faults_iff serving).mp answer⟩
      have faulted := (stops found).mpr answer
      unfold State.performWork
      rw [running, faulted]
      exact ⟨halts, iff_of_true ⟨found, rfl⟩ (Or.inl reached)⟩
    | ok response =>
      have answered : ¬ ∃ found, machine.Overreaches request found := fun ⟨found, reached⟩ =>
        nomatch answer.symm.trans ((Machine.faults_iff serving).mpr reached)
      have serves : (machine.perform request).2.halted = false :=
        Bool.eq_false_iff.mpr fun halted => answered ((Machine.halts_iff serving).mp halted)
      refine .of_answered ?_ (fun reached => answered (overreaches.mp reached)) readable
      exact .performWork (serving_upkeep False) performed ⟨reachable.after (.call request), serves⟩
        (fun found stopped => nomatch answer.symm.trans ((stops found).mp stopped)) keep?

private theorem Faults.of_leads {found : Option Work} (leads : Leads found (step.job.call? slots))
    (keep? : Option String) :
    Faults ⟨({}, machine), slots⟩ step (State.performFound ⟨({}, machine), slots⟩ found keep?) := by
  generalize called : step.job.call? slots = call at leads
  cases leads with
  | missing =>
    have maintained : Maintained (fun machine => machine.Reachable ∧ machine.halted = false)
        (fun _ => False) (State.refused ⟨({}, machine), slots⟩) := ⟨⟨reachable, serving⟩, nofun⟩
    exact .of_answered maintained (fun ⟨_, _, same, _⟩ => nomatch called.symm.trans same)
      fun ⟨_, same⟩ => nomatch called.symm.trans same
  | found comes => exact .of_comesTo reachable serving comes called keep?

end

theorem Job.mayOverreach_of_call? {slots : Slots} {job : Job} {call : Except Stop Request}
    (called : job.call? slots = some call) : job.MayOverreach := by
  cases job with
  | allocation job => cases job <;> trivial
  | compilation job => cases job <;> trivial
  | queueing job =>
    cases job with
    | enqueue _ _ command => cases command <;> trivial
    | _ => cases called
  | _ => cases called

/-- Of the other steps, only one counts on a call. -/
theorem Job.careful_of_modest {job : Job} (modest : ¬ job.MayOverreach)
    (other : job ≠ .controls .directContext) : job.Careful := by
  cases job with
  | allocation job => cases job <;> first | exact trivial | exact absurd trivial modest
  | controls job => cases job <;> first | exact trivial | exact absurd rfl other
  | _ => exact trivial

section
variable {made : List (ObjectKind × Nat)} {state : State} (sound : Sound made state)
  (whole : state.slots.Whole) (reachable : state.world.2.Reachable)
include sound whole reachable

/-- A step halts a serving runtime exactly if it overreaches. One that does not count on a call comes to
an answer or an error otherwise, if no bitmap keeps it from its call. -/
theorem State.faults_step (serving : state.world.2.halted = false) {step : Step}
    (direct : step.job.isDirect = true) :
    ((state.step step).2.world.2.halted = true ↔ state.Overreaches step) ∧
      (step.job ≠ .controls .directContext →
        ((∃ found, (state.step step).1.ending = .faulted found) ↔
          state.Overreaches step ∨ state.Unreadable step)) := by
  by_cases asks : step.job.MayOverreach
  · have faults : Faults state step (state.step step) := by
      obtain ⟨⟨overlay, machine⟩, slots⟩ := state
      cases sound.bare
      obtain ⟨job, keep?⟩ := step
      cases job with
      | allocation job => exact .of_leads reachable serving (job.leads whole asks) keep?
      | compilation job => exact .of_leads reachable serving (job.leads whole asks) keep?
      | queueing job => exact .of_leads reachable serving (job.leads whole asks) keep?
      | _ => exact asks.elim
    exact ⟨faults.halts, fun _ => faults.stops⟩
  · have modest : ¬ state.Overreaches step := fun ⟨_, _, called, _⟩ =>
      asks (Job.mayOverreach_of_call? called)
    have readable : ¬ state.Unreadable step := fun ⟨_, called⟩ => asks (Job.mayOverreach_of_call? called)
    have maintained := Maintained.step (serving_upkeep (¬ step.job.Careful)) sound whole
      ⟨reachable, serving⟩ direct asks (Classical.em _)
    refine ⟨iff_of_false (fun halted => nomatch halted.symm.trans maintained.1.2) modest, fun other => ?_⟩
    have careful := Job.careful_of_modest asks other
    exact iff_of_false (fun ⟨found, stopped⟩ => maintained.2 found stopped careful)
      fun either => either.elim modest readable

theorem State.halted_step {step : Step} (direct : step.job.isDirect = true) :
    (state.step step).2.world.2.halted = true ↔ state.world.2.halted = true ∨ state.Overreaches step := by
  cases halted : state.world.2.halted with
  | true =>
    have maintained := Maintained.step halted_upkeep sound whole halted direct (fun _ => trivial)
      (Or.inr trivial)
    exact iff_of_true maintained.1 (Or.inl rfl)
  | false =>
    have faults := (state.faults_step sound whole reachable halted direct).1
    exact faults.trans ⟨Or.inr, fun reached => reached.resolve_left nofun⟩

end

/-- One of the steps overreaches in the state in which it is made. -/
def State.Overreached (state : State) (steps : List (Option Step)) : Prop :=
  ∃ past step later, steps = past ++ some step :: later ∧ (state.steps past).2.Overreaches step

private theorem State.overreached_cons {state : State} {next : Option Step} {rest : List (Option Step)} :
    state.Overreached (next :: rest) ↔
      (∃ step, next = some step ∧ state.Overreaches step) ∨ (state.steps [next]).2.Overreached rest := by
  constructor
  · rintro ⟨past, step, later, same, overreaches⟩
    cases past with
    | nil =>
      cases same
      exact Or.inl ⟨step, rfl, overreaches⟩
    | cons first others =>
      cases same
      have parted := state.steps_append [next] others
      exact Or.inr ⟨others, step, later, rfl, parted ▸ overreaches⟩
  · rintro (⟨step, rfl, overreaches⟩ | ⟨past, step, later, rfl, overreaches⟩)
    · exact ⟨[], step, rest, rfl, overreaches⟩
    · have parted := state.steps_append [next] past
      exact ⟨next :: past, step, later, rfl, parted ▸ overreaches⟩

/-- A runtime has halted after a run exactly if one of the steps has overreached. -/
theorem State.halted_steps {made : List (ObjectKind × Nat)} {state : State} (sound : Sound made state)
    (whole : state.slots.Whole) (reachable : state.world.2.Reachable) {steps : List (Option Step)}
    (direct : ∀ next ∈ steps, next.all (·.job.isDirect) = true) :
    (state.steps steps).2.world.2.halted = true ↔
      state.world.2.halted = true ∨ state.Overreached steps := by
  induction steps generalizing made state with
  | nil =>
    refine ⟨Or.inl, fun halted => halted.resolve_right ?_⟩
    rintro ⟨past, step, later, none, _⟩
    cases past <;> cases none
  | cons next rest ih =>
    obtain ⟨first, others⟩ := List.forall_mem_cons.mp direct
    rw [State.overreached_cons]
    cases next with
    | none =>
      have idle : ¬ ∃ step, none = some step ∧ state.Overreaches step := fun ⟨_, same, _⟩ => nomatch same
      rw [or_iff_right idle]
      exact ih sound whole reachable others
    | some step =>
      have now := state.halted_step sound whole reachable first
      have kept := Maintained.step reachable_upkeep sound whole reachable first (fun _ => trivial)
        (Or.inr trivial)
      have later := ih (sound.step first) (State.whole_step whole first) kept.1 others
      have single : (∃ other, some step = some other ∧ state.Overreaches other) ↔ state.Overreaches step := by
        constructor
        · rintro ⟨_, same, overreaches⟩
          cases same
          exact overreaches
        · exact fun overreaches => ⟨step, rfl, overreaches⟩
      rw [single, ← or_assoc, ← now]
      exact later

end Offload.Session
