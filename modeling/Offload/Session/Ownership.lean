import Offload.Session.Answer

/-! Steps that adopt handles, show what slots hold, release objects and drop slots. -/
namespace Offload.Session

/-- An object that is assumed to exist under a handle. -/
inductive Assumed where
  | queue (device : String) (properties : UInt64)
  | buffer (size : Nat)
  | image (format : ImageFormat)
  | program (devices : List String)
  | kernel (name : String)
  | event

inductive Ownership where
  | adopt (kind : ObjectKind) (handle : Nat)
  | assume (object : Assumed) (handle : Nat)
  | handleOf (slot : String)
  | writtenOf (slot : String)

namespace Ownership

/-- Work that takes ownership of a handle and makes an item of it. -/
def adopting {kind : ObjectKind} (handle : Nat) (item : Host.Owned kind → Item) : Work :=
  Work.making .layered item Host.Owned.handle (Host.Owned.adopt kind handle)

def assumeWork (slots : Slots) (handle : Nat) : Assumed → Option Work
  | .queue device properties => do
    let ⟨_, device⟩ ← slots.device? device
    some (adopting handle fun owned => .queue ⟨owned, device, properties⟩)
  | .buffer size => some (adopting handle fun owned => .memory ⟨owned, .buffer size⟩)
  | .image format => some (adopting handle fun owned => .memory ⟨owned, .image format⟩)
  | .program devices => do
    let devices ← slots.devices? devices
    some (adopting handle fun owned => .program ⟨owned, devices.map Routed.object⟩)
  | .kernel name => some (adopting handle fun owned => .kernel ⟨owned, name⟩)
  | .event => some (adopting handle fun owned => .event ⟨owned⟩)

/-- Work that shows the handle of a bare owner. -/
def handleWork : Item → Option Work
  | .bare _ owned => some (Work.answering owned.use fun handle => .number handle)
  | _ => none

def work (slots : Slots) : Ownership → Option Work
  | adopt kind handle => some (adopting handle (Item.bare kind))
  | assume object handle => assumeWork slots handle object
  | handleOf slot => do
    let slot ← slots.get? slot
    handleWork slot.item
  | writtenOf slot => do
    let slot ← slots.get? slot
    some (Work.ofAnswer (.text slot.item.written))

end Ownership

namespace Slots

/-- What releasing a slot does: the slots afterwards and the release itself. A bare owner
stays in its slot, released; anything else leaves its slot, whatever the driver answers. -/
def release? (slots : Slots) (name : String) : Option (Slots × Host.Action World Unit) :=
  match slots.get? name with
  | none => none
  | some ⟨route, .bare kind owned⟩ =>
    some ((slots.put name ⟨route, .bare kind (.released kind)⟩).1, owned.release route.driver)
  | some ⟨route, item⟩ =>
    match item.owner? with
    | some ⟨_, owned⟩ => some (slots.erase name, owned.release route.driver)
    | none => none

end Slots
end Offload.Session
