import Offload.Block

/-! Rectangles of an image that are transferred, and the rows of memory that such a
transfer touches on either side. -/
namespace Offload

/-- Three extents or coordinates. -/
structure Triple where
  x : Nat := 0
  y : Nat := 0
  z : Nat := 0
  deriving DecidableEq, Repr

/-- Origin and extent of a transfer in pixels; a pitch of zero means tightly packed. -/
structure ImageRegion where
  origin : Triple := {}
  extent : Triple := ⟨0, 0, 1⟩
  rowPitch : Nat := 0
  slicePitch : Nat := 0
  deriving DecidableEq, Repr

namespace ImageRegion

/-- The whole of a two-dimensional image, tightly packed. -/
def full (width height : Nat) : ImageRegion := { extent := ⟨width, height, 1⟩ }

/-- The least number of host bytes that cover the region. -/
def hostLength (region : ImageRegion) (pixelSize : Nat) : Nat :=
  let row := if region.rowPitch = 0 then region.extent.x * pixelSize else region.rowPitch
  let slice := if region.slicePitch = 0 then row * region.extent.y else region.slicePitch
  slice * region.extent.z

end ImageRegion

/-- One row of a transfer: where it lies in host and in device memory, and its length. -/
structure RowSpan where
  host : Nat
  device : Nat
  length : Nat
  deriving DecidableEq, Repr

/-- Rows at regular distances on both sides. -/
structure RowPlan where
  count : Nat
  length : Nat
  hostPitch : Nat
  deviceStart : Nat
  devicePitch : Nat
  deriving DecidableEq, Repr

namespace RowPlan

def span (plan : RowPlan) (row : Nat) : RowSpan :=
  ⟨row * plan.hostPitch, plan.deviceStart + row * plan.devicePitch, plan.length⟩

/-- The rows of a transfer from the first to the last. -/
def spans (plan : RowPlan) : List RowSpan := (List.range plan.count).map plan.span

/-- The pieces of device memory that writing the rows replaces, with their positions; what
lies behind the end of host memory reads as zero. -/
def upload (plan : RowPlan) (host : Block) : List (Nat × Block) :=
  plan.spans.map fun span => (span.device, host.read span.host span.length)

/-- The pieces of host memory that reading the rows replaces, with their positions. -/
def fetch (plan : RowPlan) (device : Block) : List (Nat × Block) :=
  plan.spans.map fun span => (span.host, device.window span.device span.length)

end RowPlan
end Offload
