import Offload.Session.Answer

/-! Steps that arrange failures and answers, look into the simulated runtime, or go past
the layer of arrangements; and native calls as steps of their own. -/
namespace Offload.Session

inductive Controls where
  | fail (entry : EntryPoint) (status : Int)
  | returnNull (entry : EntryPoint)
  | callCount (entry : EntryPoint)
  | lastWaits
  | lastBuildDevices
  | allocateContext
  | directContext
  | firstDevice
  | prepare (topic : InfoTopic) (parameter : Int) (reply : PreparedReply)
  | recount (entry : EntryPoint) (count : Nat)
  | hide (kind : CommandKind)

namespace Controls

/-- The first device of the first platform. -/
def leadingDevice : Host.Device := ⟨Simulator.deviceId 0 0⟩

/-- Compares the first device with the first one that is listed, and asks for its name. -/
def firstDeviceAnswer : Host.Action World Answer := do
  let driver := Route.direct.driver
  let listed ← Host.Device.list driver none allDeviceTypes
  let name ← (leadingDevice.question driver .name).string 1024
  pure (.firstDevice leadingDevice.written (listed.head? == some leadingDevice) name)

def work : Controls → Work
  | fail entry status => Work.arranging fun (overlay, machine) => (overlay, machine.fail entry status)
  | returnNull entry => Work.arranging fun (overlay, machine) => (overlay, machine.returnNull entry)
  | callCount entry => Work.observing fun machine => .number (machine.callCount entry)
  | lastWaits => Work.observing fun machine => .numbers (machine.lastWaits.map Int.ofNat)
  | lastBuildDevices => Work.observing fun machine => .numberIfAny machine.lastBuildDevices
  | allocateContext => do
    let scene ← get
    let (id, machine) := scene.world.2.allocateContext
    set { scene with world := (scene.world.1, machine) }
    pure { answer := .number id }
  | directContext =>
    Work.making .direct .context (fun context => context.owned.handle)
      (Host.Context.create Route.direct.driver [leadingDevice]).certain
  | firstDevice => Work.answering firstDeviceAnswer id
  | prepare topic parameter reply =>
    Work.arranging fun (overlay, machine) => (overlay.prepare topic parameter reply, machine)
  | recount entry count => Work.arranging fun (overlay, machine) => (overlay.recount entry count, machine)
  | hide kind => Work.arranging fun (overlay, machine) => (overlay.hide kind, machine)

end Controls

/-- A native call. Without a place for the status of a creating call, none is reported. -/
structure NativeCall where
  request : Request
  wantStatus : Bool := true

namespace NativeCall

/-- An array of `entries` places, blank before the call, after it has been filled. -/
def filled {α : Type} (entries : Nat) (blank : α) (stored : List α) : List α :=
  stored ++ List.replicate (entries - stored.length) blank

/-- What a response shows, by the kind of call. -/
def answerOf (call : NativeCall) (response : Response) : Answer :=
  let count := response.reported.getD 0
  match call.request with
  | .platformIds entries .. | .deviceIds _ _ entries .. =>
    .ids response.status (filled entries 0 response.ids) count
  | .imageFormats _ _ _ entries .. =>
    .formats response.status (filled entries {} response.formats) count
  | .info _ _ window =>
    .information response.status ((Block.zeros window.size).patch response.writes).bytes count
  | .buildProgram .. | .setKernelArg .. | .setEventStatus .. | .waitForEvents _ | .flush _
  | .finish _ | .release .. => .status response.status
  | _ => .created (if call.wantStatus then response.status else 0) response.handle

def work (call : NativeCall) : Work := do
  let response ← Host.Action.call Route.layered.driver call.request
  pure { answer := call.answerOf response }

end NativeCall

end Offload.Session
