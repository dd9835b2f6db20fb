import Offload.Session.Answer

/-! Steps that list platforms and devices and ask about them. -/
namespace Offload.Session

inductive Discovery where
  | platforms
  | devices (platform : Option String) (types : UInt64)
  | platformWithId (id : Nat)
  | deviceWithId (id : Nat)
  | platformText (platform : String) (parameter : PlatformParameter)
  | deviceProperty (device : String) (parameter : DeviceParameter)
  | same (first second : String)

namespace Discovery

/-- The answer that shows a property. -/
def answerOf : Host.DeviceValue → Answer
  | .text text => .text text
  | .number value => .number value
  | .truth value => .truth value
  | .sizes values => .numbers values
  | .flags family bits => .text (family.text bits)
  | .localMemory kind => .text kind.text
  | .cache kind => .text kind.text
  | .platform platform => .text platform.written

/-- Whether two slots hold the same platform or the same device. -/
def same? (slots : Slots) (first second : String) : Option Bool :=
  match slots.get? first, slots.get? second with
  | some ⟨_, .platform one⟩, some ⟨_, .platform other⟩ => some (one == other)
  | some ⟨_, .device one⟩, some ⟨_, .device other⟩ => some (one == other)
  | _, _ => none

def work (slots : Slots) : Discovery → Option Work
  | platforms => some do
    let found ← Host.Platform.list Route.layered.driver
    pure (.listed .layered .platform Host.Platform.id found)
  | devices platform types => do
    let platform ← Slots.optional? slots.platform? platform
    some do
      let found ← Host.Device.list Route.layered.driver (platform.map Routed.object) types
      pure (.listed .layered .device Host.Device.id found)
  | platformWithId id => some (pure (.single .layered (.platform ⟨id⟩) id))
  | deviceWithId id => some (pure (.single .layered (.device ⟨id⟩) id))
  | platformText platform parameter => do
    let ⟨route, platform⟩ ← slots.platform? platform
    some (Work.answering (platform.text route.driver parameter) Answer.text)
  | deviceProperty device parameter => do
    let ⟨route, device⟩ ← slots.device? device
    some (Work.answering (device.property route.driver parameter) answerOf)
  | same first second => do
    let equal ← same? slots first second
    some (Work.ofAnswer (.truth equal))

end Discovery
end Offload.Session
