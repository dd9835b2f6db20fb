import Offload.Proofs.Service

/-! What a call leaves behind when it does not succeed. The store stays as it was, except
for the one program in which the compiler records that its brackets are not balanced. -/
namespace Offload.Simulator
variable {machine : Machine} {request : Request} {response : Response}

/-- A call that did not do what it is for: it answered with an error, an injected failure
answered it, or the object it should have made was suppressed. -/
def Unsuccessful (machine : Machine) (request : Request) (response : Response) : Prop :=
  response.status ≠ 0 ∨ (machine.injection.failure? request.entry).isSome ∨
    (creates request.entry = true ∧ machine.injection.nulls.contains request.entry = true)

/-- A call by which the compiler is handed a program whose brackets are not balanced. -/
structure BracketsRefused (machine : Machine) (request : Request) (id : Nat) (program : Program) :
    Prop where
  allowed : machine.injection.failure? request.entry = none
  building : ∃ devices options, request = .buildProgram id devices options ∧ isConsistent devices = true
  found : machine.store.objects.find? id = some (.program program)
  unbalanced : Source.isBalanced program.source.toList = false

/-- A machine that has taken note of a call and has done nothing else. -/
def Machine.observed (machine : Machine) (request : Request) (waits : List Nat)
    (devices : Option Nat) : Machine :=
  { machine.counted request with lastWaits := waits, lastBuildDevices := devices }

private theorem status_of_respond {bytes : Bytes} {window : Window}
    (accepted : respond bytes window = .ok response) : response.status = 0 := by
  unfold respond at accepted
  split at accepted
  · cases accepted
  · cases accepted
    rfl

private theorem status_of_listPlatforms {store : Store} {entries : Nat} {wantIds wantCount : Bool}
    (accepted : store.listPlatforms entries wantIds wantCount = .ok response) :
    response.status = 0 := by
  obtain ⟨_, _, listed⟩ := exists_of_bind_ok accepted
  split at listed
  · cases listed
  · cases listed
    rfl

private theorem status_of_listDevices {store : Store} {platform entries : Nat} {types : UInt64}
    {wantIds wantCount : Bool}
    (accepted : store.listDevices platform types entries wantIds wantCount = .ok response) :
    response.status = 0 := by
  obtain ⟨_, _, located⟩ := exists_of_bind_ok accepted
  obtain ⟨_, _, asked⟩ := exists_of_bind_ok located
  obtain ⟨_, _, listed⟩ := exists_of_bind_ok asked
  cases listed
  rfl

private theorem status_of_listFormats {store : Store} {context entries : Nat}
    {wantFormats wantCount : Bool}
    (accepted : store.listFormats context entries wantFormats wantCount = .ok response) :
    response.status = 0 := by
  obtain ⟨_, _, located⟩ := exists_of_bind_ok accepted
  obtain ⟨_, _, listed⟩ := exists_of_bind_ok located
  cases listed
  rfl

private theorem status_of_map {α : Type} {outcome : Except Refusal α}
    (accepted : (outcome.map fun _ => ({} : Response)) = .ok response) : response.status = 0 := by
  cases outcome with
  | error refusal => cases accepted
  | ok value =>
    cases accepted
    rfl

/-- An answer that the store gives reports success. -/
theorem status_of_query {store : Store} (service : store.service request = .query (.ok response)) :
    response.status = 0 := by
  cases request with
  | platformIds | deviceIds | imageFormats | info | flush | finish =>
    injection service with accepted
    first
      | exact status_of_listPlatforms accepted
      | exact status_of_listDevices accepted
      | exact status_of_listFormats accepted
      | exact status_of_map accepted
      | obtain ⟨_, _, responded⟩ := exists_of_bind_ok accepted
        exact status_of_respond responded
  | _ => cases service

theorem perform_of_bracketsRefused {id : Nat} {program : Program} (serving : machine.halted = false)
    (refused : BracketsRefused machine request id program) :
    ∃ devices, Machine.perform request machine =
      (.ok { status := NativeError.buildProgramFailure.code },
        { machine.observed request machine.lastWaits devices with
          store := machine.store.replace id (.program program.rejected) }) := by
  obtain ⟨devices, options, rfl, consistent⟩ := refused.building
  have found : machine.store.program id = .ok program := Store.program_ok_iff.mpr refused.found
  refine ⟨some devices.count, ?_⟩
  rw [Machine.perform_of_serving serving refused.allowed]
  refine (@Machine.build_eq (machine.counted (.buildProgram id devices options)) _ _ _ found
    consistent).trans ?_
  rw [Program.built, refused.unbalanced]
  rfl

private theorem BracketsRefused.unique {id other : Nat} {program another : Program}
    (first : BracketsRefused machine request id program)
    (second : BracketsRefused machine request other another) : other = id ∧ another = program := by
  obtain ⟨_, _, building, _⟩ := first.building
  obtain ⟨_, _, again, _⟩ := second.building
  cases building.symm.trans again
  have same := first.found.symm.trans second.found
  cases same
  exact ⟨rfl, rfl⟩

private theorem observed_of_unsuccessful
    (answered : (Machine.perform request machine).1 = .ok response)
    (unsuccessful : Unsuccessful machine request response)
    (balanced : ∀ id program, ¬ BracketsRefused machine request id program) :
    response = { status := response.status } ∧
      ∃ waits devices, (Machine.perform request machine).2 = machine.observed request waits devices := by
  have outcome := outcome_perform machine request
  generalize (Machine.perform request machine).1 = answer at answered outcome
  generalize (Machine.perform request machine).2 = after at outcome
  -- A call that was carried out answers zero, so it would have to be a suppressed creation.
  have contradiction : ∀ {reached : Response}, reached.status = 0 → answer = .ok reached →
      machine.injection.failure? request.entry = none →
      (∀ outcome, machine.store.service request = .creation outcome →
        machine.injection.nulls.contains request.entry = false) → False := by
    intro reached success same allowed stored
    cases same.symm.trans answered
    rcases unsuccessful with failed | injected | ⟨creating, suppressed⟩
    · exact failed success
    · rw [allowed] at injected
      cases injected
    · obtain ⟨outcome, creation⟩ := service_of_creates machine.store creating
      rw [stored outcome creation] at suppressed
      cases suppressed
  cases outcome with
  | halted => cases answered
  | faulted | exhausted => cases answered
  | injected serving failure =>
    cases answered
    exact ⟨rfl, machine.lastWaits, machine.lastBuildDevices, rfl⟩
  | refused code waits devices =>
    cases answered
    exact ⟨rfl, waits, devices, rfl⟩
  | answered serving allowed service =>
    refine (contradiction (status_of_query service) rfl allowed fun _ creation => ?_).elim
    cases service.symm.trans creation
  | waited waits =>
    cases answered
    exact ⟨rfl, waits, machine.lastBuildDevices, rfl⟩
  | suppressed =>
    cases answered
    exact ⟨rfl, machine.lastWaits, machine.lastBuildDevices, rfl⟩
  | created serving allowed service stored =>
    exact (contradiction rfl rfl allowed fun _ _ => stored).elim
  | updated serving allowed service =>
    refine (contradiction rfl rfl allowed fun _ creation => ?_).elim
    cases service.symm.trans creation
  | compiled serving allowed service =>
    refine (contradiction rfl rfl allowed fun _ creation => ?_).elim
    cases service.symm.trans creation
  | rejected serving allowed service found consistent unbalanced =>
    refine (balanced _ _ ⟨allowed, ?_, Store.program_ok_iff.mp found, unbalanced⟩).elim
    cases request with
    | buildProgram id devices options =>
      cases service
      exact ⟨_, options, rfl, consistent⟩
    | _ => cases service
  | queued serving allowed service =>
    refine (contradiction rfl rfl allowed fun _ creation => ?_).elim
    cases service.symm.trans creation

/-- A call that is not successful writes no host memory and keeps the store, the next handle
and the clock in it. Only when the compiler refuses brackets does the program say so. -/
theorem keeps_store_of_unsuccessful
    (answered : (Machine.perform request machine).1 = .ok response)
    (unsuccessful : Unsuccessful machine request response) :
    response = { status := response.status } ∧
      ∃ waits devices,
        ((∀ id program, ¬ BracketsRefused machine request id program) →
          (Machine.perform request machine).2 = machine.observed request waits devices) ∧
        (∀ id program, BracketsRefused machine request id program →
          response.status = NativeError.buildProgramFailure.code ∧
            (Machine.perform request machine).2 =
              { machine.observed request waits devices with
                store := machine.store.replace id (.program program.rejected) }) := by
  by_cases refused : ∃ id program, BracketsRefused machine request id program
  · obtain ⟨id, program, refused⟩ := refused
    have serving : machine.halted = false := by
      cases halted : machine.halted with
      | false => rfl
      | true =>
        rw [Machine.perform_of_halted halted] at answered
        cases answered
    obtain ⟨devices, reached⟩ := perform_of_bracketsRefused serving refused
    rw [reached] at answered ⊢
    cases answered
    refine ⟨rfl, machine.lastWaits, devices, fun balanced => (balanced id program refused).elim, ?_⟩
    intro other another again
    obtain ⟨rfl, rfl⟩ := refused.unique again
    exact ⟨rfl, rfl⟩
  · have balanced : ∀ id program, ¬ BracketsRefused machine request id program :=
      fun id program refusal => refused ⟨id, program, refusal⟩
    obtain ⟨bare, waits, devices, after⟩ := observed_of_unsuccessful answered unsuccessful balanced
    exact ⟨bare, waits, devices, fun _ => after, fun id program refusal =>
      (balanced id program refusal).elim⟩

/-- A program of a single bracket that is about to be compiled, and its refusal. -/
theorem lone_bracket_keeps_store :
    let program : Program := { source := "(" }
    let machine : Machine := { store := { made := 1, objects := [(handleOf 1, .program program)] } }
    let request : Request := .buildProgram (handleOf 1) ⟨0, none⟩ none
    BracketsRefused machine request (handleOf 1) program ∧
      (Machine.perform request machine).1 = .ok { status := NativeError.buildProgramFailure.code } ∧
      ∃ waits devices, (Machine.perform request machine).2 =
        { machine.observed request waits devices with
          store := machine.store.replace (handleOf 1) (.program program.rejected) } := by
  intro program machine request
  have refused : BracketsRefused machine request (handleOf 1) program :=
    ⟨rfl, ⟨⟨0, none⟩, none, rfl, rfl⟩, rfl, by decide⟩
  have answered : (Machine.perform request machine).1 =
      .ok { status := NativeError.buildProgramFailure.code } := by
    obtain ⟨devices, reached⟩ := perform_of_bracketsRefused rfl refused
    rw [reached]
  have unsuccessful : Unsuccessful machine request
      { status := NativeError.buildProgramFailure.code } := Or.inl (by decide)
  obtain ⟨_, waits, devices, _, changed⟩ := keeps_store_of_unsuccessful answered unsuccessful
  exact ⟨refused, answered, waits, devices, (changed (handleOf 1) program refused).2⟩

end Offload.Simulator
