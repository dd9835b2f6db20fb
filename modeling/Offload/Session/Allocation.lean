import Offload.Session.Answer

/-! Steps that make contexts and what lives in them, and that look at memory objects. -/
namespace Offload.Session

inductive Allocation where
  | newContext (devices : List String)
  | contextDevices (context : String)
  | newQueue (context device : String) (properties : UInt64)
  | queueInfo (queue : String)
  | newBuffer (context : String) (flags : UInt64) (size : Nat)
  | newBufferOf (context : String) (flags : UInt64) (type : ScalarType) (values : List Int)
  | newBufferFrom (context : String) (flags : UInt64) (size : Nat) (host : Option Block)
  | newImage (context : String) (flags : UInt64) (format : ImageFormat) (descriptor : ImageDescriptor)
      (backing : Option String) (data : Option Block)
  | newImageFrom (context : String) (flags : UInt64) (format : ImageFormat)
      (descriptor : ImageDescriptor) (backing : Option String) (host : Option Block)
  | newImageOf (context : String) (flags : UInt64) (bitmap : Bitmap)
  | formats (context : String) (flags : UInt64) (kind : Coded MemoryKind)
  | newUserEvent (context : String)
  | memoryInfo (memory : String)
  | contents (memory : String)

namespace Allocation

/-- Work that makes a memory object. -/
def makingMemory (route : Route) (action : Host.Action World Host.Memory) : Work :=
  Work.making route .memory (fun memory => memory.owned.handle) action

def ids (devices : List Host.Device) : Answer := .numbers ((Host.idsOf devices).map Int.ofNat)

/-- What the host knows about a memory object. -/
def infoOf (memory : Host.Memory) : Host.Action World Answer := do
  let handle ← memory.owned.use
  pure (.memory handle memory.size? (memory.format?.map ImageFormat.text))

def work (slots : Slots) : Allocation → Option Work
  | newContext names => do
    let devices ← slots.devices? names
    let route := (devices.head?.map Routed.route).getD .layered
    some (Work.making route .context (fun context => context.owned.handle)
      (Host.Context.create route.driver (devices.map Routed.object)))
  | contextDevices context => do
    let ⟨_, context⟩ ← slots.context? context
    some (Work.ofAnswer (ids context.devices))
  | newQueue context device properties => do
    let ⟨route, context⟩ ← slots.context? context
    let ⟨_, device⟩ ← slots.device? device
    some (Work.making route .queue (fun queue => queue.owned.handle)
      (context.newQueue route.driver device properties))
  | queueInfo queue => do
    let ⟨_, queue⟩ ← slots.queue? queue
    let shown := queueProperties.text queue.properties
    some (Work.ofAnswer (.queue queue.device.written queue.properties shown))
  | newBuffer context flags size => do
    let ⟨route, context⟩ ← slots.context? context
    some (makingMemory route (context.newBuffer route.driver flags size))
  | newBufferOf context flags type values => do
    let ⟨route, context⟩ ← slots.context? context
    some (makingMemory route (context.newBufferOf route.driver flags type values))
  | newBufferFrom context flags size host => do
    let ⟨route, context⟩ ← slots.context? context
    some (makingMemory route (context.newBufferFrom route.driver flags size host))
  | newImage context flags format descriptor backing data => do
    let ⟨route, context⟩ ← slots.context? context
    let backing ← Slots.optional? slots.memory? backing
    some (makingMemory route
      (context.newImage route.driver flags format descriptor (backing.map Routed.object) data))
  | newImageFrom context flags format descriptor backing host => do
    let ⟨route, context⟩ ← slots.context? context
    let backing ← Slots.optional? slots.memory? backing
    some (makingMemory route
      (context.newImageFrom route.driver flags format descriptor (backing.map Routed.object) host))
  | newImageOf context flags bitmap => do
    let ⟨route, context⟩ ← slots.context? context
    some (makingMemory route (context.newImageOf route.driver flags bitmap))
  | formats context flags kind => do
    let ⟨route, context⟩ ← slots.context? context
    some (Work.answering (context.imageFormats route.driver flags kind) fun formats =>
      .text (" ".intercalate (formats.map ImageFormat.text)))
  | newUserEvent context => do
    let ⟨route, context⟩ ← slots.context? context
    some (Work.making route .event (fun event => event.owned.handle)
      (context.newUserEvent route.driver))
  | memoryInfo memory => do
    let ⟨_, memory⟩ ← slots.memory? memory
    some (Work.answering (infoOf memory) id)
  | contents memory => do
    let ⟨_, memory⟩ ← slots.memory? memory
    some do
      let handle ← memory.owned.use
      Work.observing fun machine => .bytes (machine.contents handle)

end Allocation
end Offload.Session
