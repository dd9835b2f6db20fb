import Offload.Session.Answer

/-! Steps that compile programs, make kernels and bind their arguments. -/
namespace Offload.Session

/-- What can be asked about a kernel. -/
inductive KernelQuestion where
  | name
  | functionName
  | argumentCount
  | workGroup (parameter : WorkGroupParameter)

/-- What can be bound to a parameter of a kernel. -/
inductive Binding where
  | scalar (type : ScalarType) (value : Int)
  | memory (memory : String)
  | localMemory (size : Nat)
  | bytes (size : Nat) (data : Option Bytes)

inductive Compilation where
  | newProgram (context : String) (sources : List String)
  | programDevices (program : String)
  | build (program : String) (devices : List String) (options : String)
  | buildLog (program device : String)
  | buildStatus (program device : String)
  | storedLog (program : String)
  | newKernel (program name : String)
  | ask (kernel : String) (device : Option String) (question : KernelQuestion)
  | bind (kernel : String) (index : Nat) (binding : Binding)
  | argument (kernel : String) (index : Nat)

namespace Compilation

/-- Only questions about work groups concern a device. -/
def askWork (kernel : Routed Host.Kernel) (device : Option (Routed Host.Device)) :
    KernelQuestion → Work
  | .name => Work.ofAnswer (.text kernel.object.name)
  | .functionName => Work.answering (kernel.object.functionName kernel.driver) Answer.text
  | .argumentCount => Work.answering (kernel.object.argumentCount kernel.driver) Answer.number
  | .workGroup parameter =>
    Work.answering (kernel.object.workGroup kernel.driver (device.map Routed.object) parameter)
      Answer.number

def bindWork (slots : Slots) (kernel : Routed Host.Kernel) (index : Nat) : Binding → Option Work
  | .scalar type value => some (Work.silent (kernel.object.bindScalar kernel.driver index type value))
  | .memory memory => do
    let memory ← slots.memory? memory
    some (Work.silent (kernel.object.bindMemory kernel.driver index memory.object))
  | .localMemory size => some (Work.silent (kernel.object.bindLocal kernel.driver index size))
  | .bytes size data => some (Work.silent (kernel.object.bind kernel.driver index size data))

def work (slots : Slots) : Compilation → Option Work
  | newProgram context sources => do
    let ⟨route, context⟩ ← slots.context? context
    some (Work.making route .program (fun program => program.owned.handle)
      (context.newProgram route.driver sources))
  | programDevices program => do
    let ⟨_, program⟩ ← slots.program? program
    some (Work.ofAnswer (.numbers ((Host.idsOf program.devices).map Int.ofNat)))
  | build program devices options => do
    let ⟨route, program⟩ ← slots.program? program
    let devices ← slots.devices? devices
    some (Work.silent (program.build route.driver (devices.map Routed.object) options))
  | buildLog program device => do
    let ⟨route, program⟩ ← slots.program? program
    let device ← slots.device? device
    some (Work.answering (program.buildLog route.driver device.object) Answer.text)
  | buildStatus program device => do
    let ⟨route, program⟩ ← slots.program? program
    let device ← slots.device? device
    some (Work.answering (program.buildStatus route.driver device.object) fun status =>
      .text status.text)
  | storedLog program => do
    let ⟨_, program⟩ ← slots.program? program
    some do
      let handle ← program.owned.use
      Work.observing fun machine => .text (machine.buildLog handle)
  | newKernel program name => do
    let ⟨route, program⟩ ← slots.program? program
    some (Work.making route .kernel (fun kernel => kernel.owned.handle)
      (program.newKernel route.driver name))
  | ask kernel device question => do
    let kernel ← slots.kernel? kernel
    let device ← Slots.optional? slots.device? device
    some (askWork kernel device question)
  | bind kernel index binding => do
    let kernel ← slots.kernel? kernel
    bindWork slots kernel index binding
  | argument kernel index => do
    let ⟨_, kernel⟩ ← slots.kernel? kernel
    some do
      let handle ← kernel.owned.use
      Work.observing fun machine => .bytesIfAny (machine.kernelArgument? handle index)

end Compilation
end Offload.Session
