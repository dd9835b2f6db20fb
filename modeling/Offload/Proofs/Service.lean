import Offload.Proofs.Refusals

/-! Everything that one native call can come to. Calls of one sort are served alike, so the
cases of `Outcome` are fewer than the calls; what a run keeps is shown case by case on it. -/
namespace Offload.Simulator

/-- The sorts of calls, with what the store makes of the arguments. -/
inductive Service where
  | query (outcome : Except Refusal Response)
  | creation (outcome : Except Refusal Object)
  | update (outcome : Except Refusal Store)
  | build (program : Nat) (devices : HandleList)
  | wait (events : HandleList)
  | enqueue (queue : Nat) (command : Command) (waits : HandleList) (wantEvent : Bool)

/-- The sort of a call. -/
def Store.service (store : Store) : Request → Service
  | .platformIds entries wantIds wantCount => .query (store.listPlatforms entries wantIds wantCount)
  | .deviceIds platform types entries wantIds wantCount =>
    .query (store.listDevices platform types entries wantIds wantCount)
  | .info query parameter window =>
    .query (store.information query parameter >>= fun bytes => respond bytes window)
  | .imageFormats context _ _ entries wantFormats wantCount =>
    .query (store.listFormats context entries wantFormats wantCount)
  | .createContext devices => .creation (store.newContext devices)
  | .createQueue context device properties => .creation (store.newQueue context device properties)
  | .createBuffer context flags size host => .creation (store.newBuffer context flags size host)
  | .createImage context flags format descriptor host =>
    .creation (store.newImage context flags format descriptor host)
  | .createProgram context count sources lengths =>
    .creation (store.newProgram context count sources lengths)
  | .createKernel program name => .creation (store.newKernel program name)
  | .createUserEvent context => .creation (store.newUserEvent context)
  | .buildProgram program devices _ => .build program devices
  | .setKernelArg kernel index size value => .update (store.setArgument kernel index size value)
  | .setEventStatus event status => .update (store.settle event status)
  | .waitForEvents events => .wait events
  | .flush queue | .finish queue => .query ((store.queue queue).map fun _ => {})
  | .enqueue queue command waits wantEvent => .enqueue queue command waits wantEvent
  | .release kind handle => .update (store.remove kind handle)

namespace Store
variable {store : Store} {request : Request}

private theorem reports_query {outcome : Except Refusal Response}
    (service : store.service request = .query outcome) : Reports outcome := by
  cases request with
  | platformIds => exact Service.query.inj service ▸ reports_listPlatforms _ _ _
  | deviceIds => exact Service.query.inj service ▸ reports_listDevices _ _ _ _ _
  | info =>
    exact Service.query.inj service ▸ .bind (reports_information _ _) fun _ _ => reports_respond _ _
  | imageFormats => exact Service.query.inj service ▸ reports_listFormats _ _ _ _
  | flush | finish => exact Service.query.inj service ▸ (reports_queue _).map _
  | _ => cases service

private theorem denies_creation {outcome : Except Refusal Object}
    (service : store.service request = .creation outcome) : Refuses (store.Denies request) outcome := by
  cases request with
  | createContext => exact Service.creation.inj service ▸ denies_of_reports (reports_newContext _)
  | createQueue => exact Service.creation.inj service ▸ denies_of_reports (reports_newQueue _ _ _)
  | createBuffer => exact Service.creation.inj service ▸ denies_newBuffer _ _ _ _
  | createImage => exact Service.creation.inj service ▸ denies_newImage _ _ _ _ _
  | createProgram => exact Service.creation.inj service ▸ denies_newProgram _ _ _ _
  | createKernel => exact Service.creation.inj service ▸ denies_of_reports (reports_newKernel _ _)
  | createUserEvent => exact Service.creation.inj service ▸ denies_of_reports (reports_newUserEvent _)
  | _ => cases service

/-- A call that asks for too much memory is not answered. -/
theorem service_of_exceeds (exceeds : store.Exceeds request) :
    store.service request = .creation (.error (.fault .tooLarge)) := by
  cases exceeds with
  | buffer live permitted large => rw [service, newBuffer_of_large live permitted large]
  | image live permitted known planar pitched large =>
    rw [service, newImage_of_large live permitted known planar pitched large]
  | source live counted listed large => rw [service, newProgram_of_large live counted listed large]

private theorem reports_update {outcome : Except Refusal Store}
    (service : store.service request = .update outcome) : Reports outcome := by
  cases request with
  | setKernelArg => exact Service.update.inj service ▸ reports_setArgument _ _ _ _
  | setEventStatus => exact Service.update.inj service ▸ reports_settle _ _
  | release => exact Service.update.inj service ▸ reports_remove _ _
  | _ => cases service

end Store

/-- Whether a call makes an object by itself; the events of commands are not meant. -/
def creates : EntryPoint → Bool
  | .createContext | .createQueue | .createBuffer | .createImage | .createProgram
  | .createKernel | .createUserEvent => true
  | _ => false

theorem service_of_creates (store : Store) {request : Request}
    (creating : creates request.entry = true) :
    ∃ outcome, store.service request = .creation outcome := by
  cases request <;> first | exact ⟨_, rfl⟩ | cases creating

namespace Machine

/-- The machine once a call has been counted. -/
def counted (machine : Machine) (request : Request) : Machine :=
  { machine with calls := request :: machine.calls }

theorem serve_eq (machine : Machine) (request : Request) :
    machine.serve request = match machine.store.service request with
      | .query outcome => machine.query outcome
      | .creation outcome => machine.create request.entry outcome
      | .update outcome => machine.update outcome
      | .build program devices => machine.build program devices
      | .wait events => machine.waitForEvents events
      | .enqueue queue command waits wantEvent => machine.enqueue queue command waits wantEvent := by
  cases request <;> rfl

end Machine

/-- A program after the compiler has accepted its source. -/
def Program.compiled (program : Program) : Program :=
  { program with status := .success, log := "", kernels := Source.kernels program.source.toList }

/-- A program after the compiler has found its brackets unbalanced. -/
def Program.rejected (program : Program) : Program :=
  { program with status := .error, log := Source.bracketLog program.source.toList }

/-- Whether a counted list is given exactly when its count is not zero. -/
def isConsistent (list : HandleList) : Bool := !(decide (list.count > 0) == list.handles.isNone)

/-- A program once the compiler has seen its source. -/
def Program.built (program : Program) : Program :=
  if Source.isBalanced program.source.toList then program.compiled else program.rejected

/-- A build comes to what its source says. -/
theorem Machine.build_eq {machine : Machine} {id : Nat} {devices : HandleList} {program : Program}
    (found : machine.store.program id = .ok program) (consistent : isConsistent devices = true) :
    machine.build id devices =
      (.ok { status :=
          if Source.isBalanced program.source.toList then 0 else NativeError.buildProgramFailure.code },
        { machine with
          lastBuildDevices := some devices.count
          store := machine.store.replace id (.program program.built) }) := by
  have agreeing : (decide (devices.count > 0) == devices.handles.isNone) = false := by
    simpa [isConsistent] using consistent
  simp only [build, found, agreeing, Bool.false_eq_true, if_false, Program.built]
  split <;> rfl

/-- What a call comes to: its answer and the machine afterwards. A call that is refused answers
with an error; a fault is that of a command, or of asking for too much memory. Only the constructors
`created`, `updated`, `compiled`, `rejected` and `queued` change the store. -/
inductive Outcome (machine : Machine) (request : Request) : Except Fault Response → Machine → Prop where
  | halted (halted : machine.halted = true) : Outcome machine request (.error .halted)
        (machine.counted request)
  | injected {status : Int} (serving : machine.halted = false)
      (failure : machine.injection.failure? request.entry = some status) :
      Outcome machine request (.ok { status := status }) (machine.counted request)
  | refused (code : Int) (waits : List Nat) (devices : Option Nat) (serving : machine.halted = false)
      (allowed : machine.injection.failure? request.entry = none) (failing : code ≠ 0) :
      Outcome machine request (.ok { status := code })
        { machine.counted request with lastWaits := waits, lastBuildDevices := devices }
  | faulted {queue : Nat} {command : Command} {waits : HandleList} {wantEvent : Bool}
      {properties : UInt64} {events : List Nat} {fault : Fault} (serving : machine.halted = false)
      (allowed : machine.injection.failure? request.entry = none)
      (service : machine.store.service request = .enqueue queue command waits wantEvent)
      (found : machine.store.queue queue = .ok properties)
      (listed : Machine.waitList machine.store waits = .ok events)
      (overreaches : machine.store.Overreaches command fault) :
      Outcome machine request (.error fault)
        { machine.counted request with lastWaits := events, halted := true }
  | exhausted (serving : machine.halted = false)
      (allowed : machine.injection.failure? request.entry = none)
      (exceeds : machine.store.Exceeds request) :
      Outcome machine request (.error .tooLarge) { machine.counted request with halted := true }
  | answered {response : Response} (serving : machine.halted = false)
      (allowed : machine.injection.failure? request.entry = none)
      (service : machine.store.service request = .query (.ok response)) :
      Outcome machine request (.ok response) (machine.counted request)
  | waited {list : HandleList} (waits : List Nat) (serving : machine.halted = false)
      (allowed : machine.injection.failure? request.entry = none)
      (service : machine.store.service request = .wait list) :
      Outcome machine request (.ok {}) { machine.counted request with lastWaits := waits }
  | suppressed {object : Object} (serving : machine.halted = false)
      (allowed : machine.injection.failure? request.entry = none)
      (service : machine.store.service request = .creation (.ok object))
      (null : machine.injection.nulls.contains request.entry = true) :
      Outcome machine request (.ok {}) (machine.counted request)
  | created {object : Object} (serving : machine.halted = false)
      (allowed : machine.injection.failure? request.entry = none)
      (service : machine.store.service request = .creation (.ok object))
      (stored : machine.injection.nulls.contains request.entry = false) :
      Outcome machine request (.ok { handle := (machine.store.add object).1 })
        { machine.counted request with store := (machine.store.add object).2 }
  | updated {store : Store} (serving : machine.halted = false)
      (allowed : machine.injection.failure? request.entry = none)
      (service : machine.store.service request = .update (.ok store)) :
      Outcome machine request (.ok {}) { machine.counted request with store := store }
  | compiled {id : Nat} {devices : HandleList} {program : Program} (serving : machine.halted = false)
      (allowed : machine.injection.failure? request.entry = none)
      (service : machine.store.service request = .build id devices)
      (found : machine.store.program id = .ok program)
      (consistent : isConsistent devices = true)
      (balanced : Source.isBalanced program.source.toList = true) :
      Outcome machine request (.ok {})
        { machine.counted request with
          lastBuildDevices := some devices.count
          store := machine.store.replace id (.program program.compiled) }
  | rejected {id : Nat} {devices : HandleList} {program : Program} (serving : machine.halted = false)
      (allowed : machine.injection.failure? request.entry = none)
      (service : machine.store.service request = .build id devices)
      (found : machine.store.program id = .ok program)
      (consistent : isConsistent devices = true)
      (unbalanced : Source.isBalanced program.source.toList = false) :
      Outcome machine request (.ok { status := NativeError.buildProgramFailure.code })
        { machine.counted request with
          lastBuildDevices := some devices.count
          store := machine.store.replace id (.program program.rejected) }
  | queued {queue : Nat} {command : Command} {waits : HandleList} {wantEvent : Bool}
      {properties : UInt64} {events : List Nat} {effect : Effect} (serving : machine.halted = false)
      (allowed : machine.injection.failure? request.entry = none)
      (service : machine.store.service request = .enqueue queue command waits wantEvent)
      (found : machine.store.queue queue = .ok properties)
      (listed : Machine.waitList machine.store waits = .ok events)
      (accepted : machine.store.effect command = .ok effect) :
      Outcome machine request
        (.ok {
          handle :=
            if wantEvent then (Machine.finishCommand (machine.store.apply effect) properties events).1
            else 0
          writes := effect.writes })
        { machine.counted request with
          lastWaits := events
          store := (Machine.finishCommand (machine.store.apply effect) properties events).2 }

namespace Outcome
variable {machine : Machine} {request : Request}

/-- An error that is answered while a call is served, whatever has been noted before. -/
theorem of_refusal {refusal : Refusal} (reported : refusal.Reported) (waits : List Nat)
    (serving : machine.halted = false)
    (allowed : machine.injection.failure? request.entry = none) :
    Outcome machine request
      (Machine.refused { machine.counted request with lastWaits := waits } refusal).1
      (Machine.refused { machine.counted request with lastWaits := waits } refusal).2 := by
  cases refusal with
  | status code => exact .refused code waits machine.lastBuildDevices serving allowed reported
  | fault => exact reported.elim

private theorem of_query {outcome : Except Refusal Response} (serving : machine.halted = false)
    (allowed : machine.injection.failure? request.entry = none)
    (service : machine.store.service request = .query outcome) :
    Outcome machine request ((machine.counted request).query outcome).1
      ((machine.counted request).query outcome).2 := by
  cases outcome with
  | error refusal =>
    exact of_refusal (Store.reports_query service refusal rfl) machine.lastWaits serving allowed
  | ok response => exact .answered serving allowed service

private theorem of_creation {outcome : Except Refusal Object} (serving : machine.halted = false)
    (allowed : machine.injection.failure? request.entry = none)
    (service : machine.store.service request = .creation outcome) :
    Outcome machine request ((machine.counted request).create request.entry outcome).1
      ((machine.counted request).create request.entry outcome).2 := by
  cases outcome with
  | error refusal =>
    rcases Store.denies_creation service refusal rfl with reported | ⟨rfl, exceeds⟩
    · exact of_refusal reported machine.lastWaits serving allowed
    · exact .exhausted serving allowed exceeds
  | ok object =>
    cases null : machine.injection.nulls.contains request.entry with
    | true =>
      simp only [Machine.create, Machine.counted, null, if_true]
      exact .suppressed serving allowed service null
    | false =>
      simp only [Machine.create, Machine.counted, null, Bool.false_eq_true, if_false]
      exact .created serving allowed service null

private theorem of_update {outcome : Except Refusal Store} (serving : machine.halted = false)
    (allowed : machine.injection.failure? request.entry = none)
    (service : machine.store.service request = .update outcome) :
    Outcome machine request ((machine.counted request).update outcome).1
      ((machine.counted request).update outcome).2 := by
  cases outcome with
  | error refusal =>
    exact of_refusal (Store.reports_update service refusal rfl) machine.lastWaits serving allowed
  | ok store => exact .updated serving allowed service

private theorem of_build {id : Nat} {devices : HandleList} (serving : machine.halted = false)
    (allowed : machine.injection.failure? request.entry = none)
    (service : machine.store.service request = .build id devices) :
    Outcome machine request ((machine.counted request).build id devices).1
      ((machine.counted request).build id devices).2 := by
  cases found : machine.store.program id with
  | error refusal =>
    simp only [Machine.build, Machine.counted, found]
    exact of_refusal (Store.reports_program id refusal found) machine.lastWaits serving allowed
  | ok program =>
    cases consistent : isConsistent devices with
    | false =>
      have mismatch : (decide (devices.count > 0) == devices.handles.isNone) = true := by
        simpa [isConsistent] using consistent
      simp only [Machine.build, Machine.counted, found, mismatch, if_true]
      exact .refused _ machine.lastWaits machine.lastBuildDevices serving allowed
        (NativeError.code_ne_zero _)
    | true =>
      rw [@Machine.build_eq (machine.counted request) _ _ _ found consistent, Program.built]
      cases balance : Source.isBalanced program.source.toList with
      | true => exact .compiled serving allowed service found consistent balance
      | false => exact .rejected serving allowed service found consistent balance

private theorem of_wait {events : HandleList} (serving : machine.halted = false)
    (allowed : machine.injection.failure? request.entry = none)
    (service : machine.store.service request = .wait events) :
    Outcome machine request ((machine.counted request).waitForEvents events).1
      ((machine.counted request).waitForEvents events).2 := by
  unfold Machine.waitForEvents
  split
  · exact .refused _ machine.lastWaits machine.lastBuildDevices serving allowed
      (NativeError.code_ne_zero _)
  · rename_i handles _
    split
    · exact .refused _ machine.lastWaits machine.lastBuildDevices serving allowed
        (NativeError.code_ne_zero _)
    · dsimp only
      split
      · rename_i refusal refused
        exact of_refusal (Store.reports_checkEvents _ _ refusal refused) machine.lastWaits serving
          allowed
      · split
        · exact .waited _ serving allowed service
        · rename_i refusal refused
          exact of_refusal (Store.reports_waitOutcome _ refusal refused) _ serving allowed

private theorem of_enqueue {queue : Nat} {command : Command} {waits : HandleList} {wantEvent : Bool}
    (serving : machine.halted = false)
    (allowed : machine.injection.failure? request.entry = none)
    (service : machine.store.service request = .enqueue queue command waits wantEvent) :
    Outcome machine request ((machine.counted request).enqueue queue command waits wantEvent).1
      ((machine.counted request).enqueue queue command waits wantEvent).2 := by
  cases found : machine.store.queue queue with
  | error refusal =>
    simp only [Machine.enqueue, Machine.counted, found]
    exact of_refusal (Store.reports_queue queue refusal found) machine.lastWaits serving allowed
  | ok properties =>
    cases listed : Machine.waitList machine.store waits with
    | error refusal =>
      simp only [Machine.enqueue, Machine.counted, found, listed]
      exact of_refusal (reports_waitList _ waits refusal listed) machine.lastWaits serving allowed
    | ok events =>
      cases accepted : machine.store.effect command with
      | error refusal =>
        simp only [Machine.enqueue, Machine.counted, found, listed, accepted]
        rcases Store.refuses_effect command refusal accepted with reported | ⟨fault, rfl, overreaches⟩
        · exact of_refusal reported events serving allowed
        · exact .faulted serving allowed service found listed overreaches
      | ok effect =>
        simp only [Machine.enqueue, Machine.counted, found, listed, accepted]
        exact .queued serving allowed service found listed accepted

end Outcome

namespace Machine

theorem perform_of_halted {machine : Machine} (halted : machine.halted = true) (request : Request) :
    perform request machine = (.error .halted, machine.counted request) := if_pos halted

theorem perform_of_failure {machine : Machine} {request : Request} {status : Int}
    (serving : machine.halted = false)
    (failure : machine.injection.failure? request.entry = some status) :
    perform request machine = (.ok { status := status }, machine.counted request) := by
  simp only [perform, serving, failure, Bool.false_eq_true, if_false, counted]

theorem perform_of_serving {machine : Machine} {request : Request}
    (serving : machine.halted = false)
    (allowed : machine.injection.failure? request.entry = none) :
    perform request machine = (machine.counted request).serve request := by
  simp only [perform, serving, allowed, Bool.false_eq_true, if_false, counted]

end Machine

/-- Every call comes to one of the outcomes. -/
theorem outcome_perform (machine : Machine) (request : Request) :
    Outcome machine request (Machine.perform request machine).1 (Machine.perform request machine).2 := by
  cases serving : machine.halted with
  | true =>
    rw [Machine.perform_of_halted serving]
    exact .halted serving
  | false =>
    cases allowed : machine.injection.failure? request.entry with
    | some status =>
      rw [Machine.perform_of_failure serving allowed]
      exact .injected serving allowed
    | none =>
      rw [Machine.perform_of_serving serving allowed, Machine.serve_eq]
      have same : (machine.counted request).store = machine.store := rfl
      cases service : machine.store.service request with
      | query outcome => simpa only [same, service] using .of_query serving allowed service
      | creation outcome => simpa only [same, service] using .of_creation serving allowed service
      | update outcome => simpa only [same, service] using .of_update serving allowed service
      | build program devices => simpa only [same, service] using .of_build serving allowed service
      | wait events => simpa only [same, service] using .of_wait serving allowed service
      | enqueue queue command waits wantEvent =>
        simpa only [same, service] using .of_enqueue serving allowed service

end Offload.Simulator
