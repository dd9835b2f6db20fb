import Offload.Simulator.Creation
import Offload.Simulator.Information

/-! The simulated runtime as a driver. Each call is counted first, then an injected
failure answers it, and only then is it served. A refused call leaves the store alone;
building is the exception, which records its own failure in the program. -/
namespace Offload.Simulator

/-- What is injected: statuses with which calls answer at once, and creating calls that
report success without an object. -/
structure Injection where
  failures : List (EntryPoint × Int) := []
  nulls : List EntryPoint := []
  deriving DecidableEq, Repr

def Injection.failure? (injection : Injection) (entry : EntryPoint) : Option Int :=
  injection.failures.lookup entry

/-- The store, what is injected, and what can be observed about past calls: the calls
themselves, newest first, and the last lists of events and number of devices. -/
structure Machine where
  store : Store := {}
  injection : Injection := {}
  calls : List Request := []
  lastWaits : List Nat := []
  lastBuildDevices : Option Nat := none
  halted : Bool := false
  deriving DecidableEq, Repr

namespace Machine

/-- A runtime with the given numbers of platforms and of devices on each. -/
def ofTopology (platforms devices : Nat) : Machine :=
  { store := { platforms := platforms, devices := devices } }

def callCount (machine : Machine) (entry : EntryPoint) : Nat :=
  machine.calls.countP fun request => request.entry == entry

/-- The number of objects that exist. -/
def liveObjects (machine : Machine) : Nat := machine.store.objects.length

/-- Makes every later call of an entry point answer with this status. -/
def fail (machine : Machine) (entry : EntryPoint) (status : Int) : Machine :=
  { machine with injection.failures := (entry, status) :: machine.injection.failures }

/-- Makes a creating call report success with a null handle. -/
def returnNull (machine : Machine) (entry : EntryPoint) : Machine :=
  { machine with injection.nulls := entry :: machine.injection.nulls }

/-- Stores a context that no call made. -/
def allocateContext (machine : Machine) : Nat × Machine :=
  let (id, store) := machine.store.add (.context [deviceId 0 0])
  (id, { machine with store := store })

def contents (machine : Machine) (id : Nat) : Bytes := machine.store.contents id

def buildLog (machine : Machine) (id : Nat) : String :=
  match machine.store.program id with
  | .ok program => program.log
  | .error _ => ""

def kernelArgument? (machine : Machine) (id index : Nat) : Option Bytes :=
  match machine.store.kernel id with
  | .ok kernel => kernel.arguments[index]?.join
  | .error _ => none

/-- The answer to a refused call. A fault halts the machine. -/
def refused (machine : Machine) : Refusal → Except Fault Response × Machine
  | .status code => (.ok { status := code }, machine)
  | .fault fault => (.error fault, { machine with halted := true })

/-- Answers a call that changes nothing. -/
def query (machine : Machine) (outcome : Except Refusal Response) : Except Fault Response × Machine :=
  match outcome with
  | .ok response => (.ok response, machine)
  | .error refusal => machine.refused refusal

/-- Answers a call that changes the store. -/
def update (machine : Machine) (outcome : Except Refusal Store) : Except Fault Response × Machine :=
  match outcome with
  | .ok store => (.ok {}, { machine with store := store })
  | .error refusal => machine.refused refusal

/-- Answers a creating call: the new object takes the next handle, unless it is
suppressed. -/
def create (machine : Machine) (entry : EntryPoint) (outcome : Except Refusal Object) :
    Except Fault Response × Machine :=
  match outcome with
  | .error refusal => machine.refused refusal
  | .ok object =>
    if machine.injection.nulls.contains entry then (.ok {}, machine)
    else
      let (id, store) := machine.store.add object
      (.ok { handle := id }, { machine with store := store })

/-- The events of a wait-list: its count is zero exactly when no list is given, and every
handle names an event. -/
def waitList (store : Store) (waits : HandleList) : Except Refusal (List Nat) := do
  match waits.handles with
  | none => if waits.count = 0 then .ok [] else refuse .invalidEventWaitList
  | some handles =>
    if waits.count = 0 then refuse .invalidEventWaitList
    else
      let events := handles.take waits.count
      store.checkEvents .invalidEventWaitList events
      .ok events

/-- The event of a finished command. On a profiling queue it takes four ticks. -/
def finishCommand (store : Store) (properties : UInt64) (waits : List Nat) : Nat × Store :=
  if properties &&& profilingEnabled != 0 then
    { store with clock := store.clock + 4 }.add (.event (.command waits (some store.clock)))
  else store.add (.event (.command waits none))

/-- Checks queue and wait-list, notes the wait-list, carries out the command and stores
its event. -/
def enqueue (machine : Machine) (queue : Nat) (command : Command) (waits : HandleList)
    (wantEvent : Bool) : Except Fault Response × Machine :=
  match machine.store.queue queue with
  | .error refusal => machine.refused refusal
  | .ok properties =>
    match waitList machine.store waits with
    | .error refusal => machine.refused refusal
    | .ok events =>
      let noted := { machine with lastWaits := events }
      match machine.store.effect command with
      | .error refusal => noted.refused refusal
      | .ok effect =>
        let (id, store) := finishCommand (machine.store.apply effect) properties events
        (.ok { handle := if wantEvent then id else 0, writes := effect.writes },
          { noted with store := store })

/-- Compiles a program. What the compiler says is kept in the program, also when it
refuses the source. -/
def build (machine : Machine) (id : Nat) (devices : HandleList) : Except Fault Response × Machine :=
  match machine.store.program id with
  | .error refusal => machine.refused refusal
  | .ok program =>
    if decide (devices.count > 0) == devices.handles.isNone then
      (.ok { status := NativeError.invalidValue.code }, machine)
    else
      let noted := { machine with lastBuildDevices := some devices.count }
      let source := program.source.toList
      if Source.isBalanced source then
        let built := { program with
          status := .success, log := "", kernels := Source.kernels source }
        (.ok {}, { noted with store := machine.store.replace id (.program built) })
      else
        let failed := { program with status := .error, log := Source.bracketLog source }
        (.ok { status := NativeError.buildProgramFailure.code },
          { noted with store := machine.store.replace id (.program failed) })

/-- Waits for events. The list is noted once all its handles name events. -/
def waitForEvents (machine : Machine) (list : HandleList) : Except Fault Response × Machine :=
  match list.handles with
  | none => (.ok { status := NativeError.invalidValue.code }, machine)
  | some handles =>
    if list.count = 0 then (.ok { status := NativeError.invalidValue.code }, machine)
    else
      let events := handles.take list.count
      match machine.store.checkEvents .invalidEvent events with
      | .error refusal => machine.refused refusal
      | .ok _ =>
        let noted := { machine with lastWaits := events }
        match machine.store.waitOutcome events with
        | .ok _ => (.ok {}, noted)
        | .error refusal => noted.refused refusal

/-- Serves a call that no injected failure answers. -/
def serve (machine : Machine) (request : Request) : Except Fault Response × Machine :=
  let store := machine.store
  match request with
  | .platformIds entries wantIds wantCount =>
    machine.query (store.listPlatforms entries wantIds wantCount)
  | .deviceIds platform types entries wantIds wantCount =>
    machine.query (store.listDevices platform types entries wantIds wantCount)
  | .info query parameter window =>
    machine.query (store.information query parameter >>= fun bytes => respond bytes window)
  | .imageFormats context _ _ entries wantFormats wantCount =>
    machine.query (store.listFormats context entries wantFormats wantCount)
  | .createContext devices => machine.create .createContext (store.newContext devices)
  | .createQueue context device properties =>
    machine.create .createQueue (store.newQueue context device properties)
  | .createBuffer context flags size host =>
    machine.create .createBuffer (store.newBuffer context flags size host)
  | .createImage context flags format descriptor host =>
    machine.create .createImage (store.newImage context flags format descriptor host)
  | .createProgram context count sources lengths =>
    machine.create .createProgram (store.newProgram context count sources lengths)
  | .createKernel program name => machine.create .createKernel (store.newKernel program name)
  | .createUserEvent context => machine.create .createUserEvent (store.newUserEvent context)
  | .buildProgram program devices _ => machine.build program devices
  | .setKernelArg kernel index size value => machine.update (store.setArgument kernel index size value)
  | .setEventStatus event status => machine.update (store.settle event status)
  | .waitForEvents events => machine.waitForEvents events
  | .flush queue | .finish queue => machine.query ((store.queue queue).map fun _ => {})
  | .enqueue queue command waits wantEvent => machine.enqueue queue command waits wantEvent
  | .release kind handle => machine.update (store.remove kind handle)

/-- Answers one native call. -/
def perform (request : Request) (machine : Machine) : Except Fault Response × Machine :=
  let counted := { machine with calls := request :: machine.calls }
  if machine.halted then (.error .halted, counted)
  else
    match counted.injection.failure? request.entry with
    | some status => (.ok { status := status }, counted)
    | none => counted.serve request

/-- The simulated runtime as a driver. -/
def driver : Driver Machine := perform

end Machine
end Offload.Simulator
