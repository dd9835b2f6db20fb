import Offload.Session.Answer

/-! Steps that put commands into queues, and steps about the events of commands. -/
namespace Offload.Session

/-- A command that yields an event. -/
inductive QueuedCommand where
  | marker
  | barrier
  | writeValues (memory : String) (offset : Nat) (type : ScalarType) (values : List Int)
  | readValues (memory : String) (offset : Nat) (type : ScalarType) (count : Nat)
  | write (memory : String) (offset size : Nat) (data : Option Block)
  | read (memory : String) (offset size : Nat) (toNull : Bool)
  | copy (source target : String) (sourceOffset targetOffset size : Nat)
  | fill (memory : String) (pattern : Bytes) (offset size : Nat)
  | writeImage (image : String) (data : Block) (region : ImageRegion)
  | readImage (image : String) (size : Nat) (region : ImageRegion)
  | writeImageFrom (image : String) (data : Option Block) (region : ImageRegion)
  | readImageInto (image : String) (toNull : Bool) (size : Nat) (region : ImageRegion)
  | dispatch (kernel : String) (globals : List Nat) (offsets locals : Option (List Nat))

/-- Every step about a queue may name events. Only commands wait for them, but the slots
have to hold events all the same. -/
inductive Queueing where
  | finish (queue : String) (waits : List String)
  | flush (queue : String) (waits : List String)
  | enqueue (queue : String) (waits : List String) (command : QueuedCommand)
  | eventStatus (event : String)
  | wait (event : String)
  | waitForAll (events : List String)
  | settle (event : String) (status : Int)
  | profiledAt (event : String) (stamp : ProfilingStamp)

namespace Queueing

/-- The most bytes that are shown of memory that was read into. -/
def shownBytes : Nat := 256

/-- Host memory that is offered for a rectangle of any size. -/
def roomyBytes : Nat := 65536

def eventSlot (route : Route) (event : Host.Event) : List (String × Slot) :=
  [("", ⟨route, .event event⟩)]

/-- Work whose only result is an event. -/
def yielding (route : Route) (action : Host.Action World Host.Event) : Work := do
  let event ← action
  pure ⟨.event event.owned.handle, eventSlot route event⟩

/-- Work that reads into host memory: also a command that failed shows that memory. -/
def reading (route : Route) (action : Host.Action World Host.Reading)
    (present : Except CallError Nat → Block → Answer) : Work := do
  let reading ← action
  match reading.outcome with
  | .ok event =>
    pure ⟨present (.ok event.owned.handle) reading.memory, eventSlot route event⟩
  | .error error => pure { answer := present (.error error) reading.memory }

/-- How memory is shown that may have stayed out of a command. -/
def showBytes (toNull : Bool) (size : Nat) (outcome : Except CallError Nat) (memory : Block) : Answer :=
  .bytesRead outcome ((if toNull then Block.zeros size else memory).window 0 size).bytes

/-- The memory that a reading command is given. -/
def offered (toNull : Bool) (size : Nat) : Option Block :=
  if toNull then none else some (.zeros size)

def commandWork (slots : Slots) (queue : Routed Host.Queue) (waits : List Host.Event) :
    QueuedCommand → Option Work
  | .marker => some (yielding queue.route (queue.object.marker queue.driver waits))
  | .barrier => some (yielding queue.route (queue.object.barrier queue.driver waits))
  | .writeValues memory offset type values => do
    let memory ← slots.memory? memory
    some (yielding queue.route
      (queue.object.writeValues queue.driver memory.object offset type values waits))
  | .readValues memory offset type count => do
    let memory ← slots.memory? memory
    some (reading queue.route
      (queue.object.readValues queue.driver memory.object offset type count waits)
      fun outcome memory => .valuesRead outcome (type.decodeList count memory.bytes))
  | .write memory offset size data => do
    let memory ← slots.memory? memory
    some (yielding queue.route
      (queue.object.write queue.driver memory.object offset size data waits))
  | .read memory offset size toNull => do
    let memory ← slots.memory? memory
    let shown := min size shownBytes
    some (reading queue.route
      (queue.object.read queue.driver memory.object offset size (offered toNull shown) waits)
      (showBytes toNull shown))
  | .copy source target sourceOffset targetOffset size => do
    let source ← slots.memory? source
    let target ← slots.memory? target
    some (yielding queue.route
      (queue.object.copy queue.driver source.object target.object sourceOffset targetOffset size
        waits))
  | .fill memory pattern offset size => do
    let memory ← slots.memory? memory
    some (yielding queue.route
      (queue.object.fill queue.driver memory.object pattern offset size waits))
  | .writeImage image data region => do
    let image ← slots.memory? image
    some (yielding queue.route
      (queue.object.writeImage queue.driver image.object region data waits))
  | .readImage image size region => do
    let image ← slots.memory? image
    some (reading queue.route
      (queue.object.readImage queue.driver image.object region (.zeros size) waits)
      (showBytes false size))
  | .writeImageFrom image data region => do
    let image ← slots.memory? image
    some (yielding queue.route
      (queue.object.writeImageFrom queue.driver image.object region data waits))
  | .readImageInto image toNull size region => do
    let image ← slots.memory? image
    some (reading queue.route
      (queue.object.readImageInto queue.driver image.object region (offered toNull roomyBytes) waits)
      (showBytes toNull (min size roomyBytes)))
  | .dispatch kernel globals offsets locals => do
    let kernel ← slots.kernel? kernel
    some (yielding queue.route
      (queue.object.dispatch queue.driver kernel.object globals offsets locals waits))

def work (slots : Slots) : Queueing → Option Work
  | finish queue waits => do
    let ⟨route, queue⟩ ← slots.queue? queue
    let _ ← slots.events? waits
    some (Work.silent (queue.finish route.driver))
  | flush queue waits => do
    let ⟨route, queue⟩ ← slots.queue? queue
    let _ ← slots.events? waits
    some (Work.silent (queue.flush route.driver))
  | enqueue queue waits command => do
    let queue ← slots.queue? queue
    let waits ← slots.events? waits
    commandWork slots queue (waits.map Routed.object) command
  | eventStatus event => do
    let ⟨route, event⟩ ← slots.event? event
    some (Work.answering (event.status route.driver) fun status =>
      .eventStatus status.text status.isTerminal)
  | wait event => do
    let ⟨route, event⟩ ← slots.event? event
    some (Work.silent (event.wait route.driver))
  | waitForAll events => do
    let events ← slots.events? events
    let route := (events.head?.map Routed.route).getD .layered
    some (Work.silent (Host.Event.waitForAll route.driver (events.map Routed.object)))
  | settle event status => do
    let ⟨route, event⟩ ← slots.event? event
    some (Work.silent (event.settle route.driver status))
  | profiledAt event stamp => do
    let ⟨route, event⟩ ← slots.event? event
    some (Work.answering (event.stamp route.driver stamp) Answer.number)

end Queueing
end Offload.Session
