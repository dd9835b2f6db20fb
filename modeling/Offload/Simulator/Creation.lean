import Offload.Progress
import Offload.Flags
import Offload.Simulator.Topology

/-! The objects that creating calls make, or why they refuse. Memory, images and sources are copied
into memory of the runtime, which has to be there. -/
namespace Offload.Simulator

/-- How many of some flags are set. -/
def countSet (flags : UInt64) (choices : List UInt64) : Nat :=
  choices.countP fun choice => flags &&& choice != 0

/-- Memory flags name at most one access mode on either side and one use of host memory,
and host memory is given exactly when a use is named. -/
def checkMemoryFlags (flags : UInt64) (hostGiven : Bool) : Except Refusal Unit :=
  let use := flags &&& (useHostPointer ||| copyHostPointer)
  if countSet flags [0x1, 0x2, 0x4] > 1 ∨ countSet flags [0x80, 0x100, 0x200] > 1 ∨
      use = useHostPointer ||| copyHostPointer then
    refuse .invalidValue
  else if (use != 0) = hostGiven then .ok ()
  else refuse .invalidHostPtr

/-- The properties that a queue can have. -/
def knownQueueProperties : UInt64 := 0x3

namespace Store

def newContext (store : Store) (devices : HandleList) : Except Refusal Object :=
  match devices.handles with
  | none => refuse .invalidValue
  | some handles =>
    if devices.count = 0 then refuse .invalidValue
    else
      let members := handles.take devices.count
      match store.checkDevices members with
      | .ok _ => .ok (.context members)
      | .error refusal => .error refusal

def newQueue (store : Store) (context device : Nat) (properties : UInt64) : Except Refusal Object := do
  let devices ← store.context context
  require (devices.contains device) .invalidDevice
  require (properties &&& ~~~knownQueueProperties == 0) .invalidValue
  .ok (.queue properties)

def newBuffer (store : Store) (context : Nat) (flags : UInt64) (size : Nat) (host : Option Block) :
    Except Refusal Object := do
  let _ ← store.context context
  checkMemoryFlags flags host.isSome
  require (size != 0) .invalidBufferSize
  reserve size
  .ok (.memory { data := match host with | none => .zeros size | some host => host.read 0 size })

/-- A new image holds its rows without padding, whatever the pitch of the host rows is. -/
def newImage (store : Store) (context : Nat) (flags : UInt64) (format : Option RawFormat)
    (descriptor : Option ImageDescriptor) (host : Option Block) : Except Refusal Object := do
  let _ ← store.context context
  checkMemoryFlags flags host.isSome
  match format, descriptor with
  | none, _ => refuse .invalidImageFormatDescriptor
  | some _, none => refuse .invalidImageDescriptor
  | some format, some descriptor =>
    match (ImageFormat.ofRaw format).pixelSize? with
    | none => refuse .imageFormatNotSupported
    | some pixel =>
      require (descriptor.kind.raw == Listed.code MemoryKind.image2D) .invalidImageDescriptor
      require (descriptor.width != 0 && descriptor.height != 0) .invalidImageSize
      let tight := descriptor.width * pixel
      require (descriptor.rowPitch == 0 || (host.isSome && tight ≤ descriptor.rowPitch))
        .invalidImageDescriptor
      let plan : RowPlan := {
        count := descriptor.height
        length := tight
        hostPitch := if descriptor.rowPitch = 0 then tight else descriptor.rowPitch
        deviceStart := 0
        devicePitch := tight }
      reserve (tight * descriptor.height)
      let blank := Block.zeros (tight * descriptor.height)
      .ok (.memory {
        data := match host with | none => blank | some host => blank.patch (plan.upload host)
        shape? := some ⟨descriptor.width, descriptor.height, pixel⟩ })

/-- Joins the parts of a source, behind what has been joined of it; a missing part refuses all. -/
def joinParts (joined : String) : List (Option String) → Except Refusal String
  | [] => .ok joined
  | none :: _ => refuse .invalidValue
  | some part :: rest => do
    reserve (joined ++ part).utf8ByteSize
    joinParts (joined ++ part) rest

def newProgram (store : Store) (context count : Nat) (sources : Option (List (Option String)))
    (lengths : Bool) : Except Refusal Object := do
  let _ ← store.context context
  match sources with
  | none => refuse .invalidValue
  | some parts =>
    require (count != 0 && !lengths) .invalidValue
    let source ← joinParts "" (parts.take count)
    .ok (.program { source := source })

/-- A kernel is made from the first declaration of its name in a built program. -/
def newKernel (store : Store) (program : Nat) (name : Option String) : Except Refusal Object := do
  let program ← store.program program
  require (program.status == .success) .invalidProgramExecutable
  match name with
  | none => refuse .invalidValue
  | some name =>
    match program.kernels.find? (fun signature => signature.name == name) with
    | none => refuse .invalidKernelName
    | some signature =>
      .ok (.kernel ⟨signature, List.replicate signature.parameters.length none⟩)

def newUserEvent (store : Store) (context : Nat) : Except Refusal Object := do
  let _ ← store.context context
  .ok (.event (.user ExecutionStatus.submittedCode))

end Store
end Offload.Simulator
