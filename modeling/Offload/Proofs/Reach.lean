import Offload.Proofs.Changes
import Offload.Proofs.Enumerations

/-! How far the rows of an image transfer reach into host memory, next to the least length
that host data has to have. A slice pitch replaces the rows in that length, so that it may
fall short of them. -/
namespace Offload

namespace RowPlan
variable (plan : RowPlan)

/-- A host byte that a transfer of the rows reads or replaces. -/
def Touches (byte : Nat) : Prop :=
  ∃ span ∈ plan.spans, span.host ≤ byte ∧ byte < span.host + span.length

/-- The length of the host memory from its start to the end of the last row. -/
def reach : Nat :=
  if plan.count = 0 ∨ plan.length = 0 then 0 else (plan.count - 1) * plan.hostPitch + plan.length

theorem touches_iff (byte : Nat) : plan.Touches byte ↔
    ∃ row < plan.count, row * plan.hostPitch ≤ byte ∧ byte < row * plan.hostPitch + plan.length := by
  simp only [Touches, spans, List.mem_map, List.mem_range]
  constructor
  · rintro ⟨_, ⟨row, inside, rfl⟩, reached⟩
    exact ⟨row, inside, reached⟩
  · rintro ⟨row, inside, reached⟩
    exact ⟨_, ⟨row, inside, rfl⟩, reached⟩

theorem reach_le_iff (length : Nat) :
    plan.reach ≤ length ↔ ∀ byte, plan.Touches byte → byte < length := by
  unfold reach
  split
  · rename_i empty
    refine ⟨fun _ byte touched => ?_, fun _ => Nat.zero_le length⟩
    obtain ⟨row, inside, _, _⟩ := (plan.touches_iff byte).mp touched
    omega
  · rename_i filled
    constructor
    · intro covered byte touched
      obtain ⟨row, inside, _, _⟩ := (plan.touches_iff byte).mp touched
      have : row * plan.hostPitch ≤ (plan.count - 1) * plan.hostPitch := Nat.mul_le_mul_right _ (by omega)
      omega
    · intro bounded
      have := bounded ((plan.count - 1) * plan.hostPitch + plan.length - 1) <|
        (plan.touches_iff _).mpr ⟨plan.count - 1, by omega, by omega, by omega⟩
      omega

/-- Only the host side of a transfer counts. -/
theorem reach_congr {plan other : RowPlan} (count : plan.count = other.count)
    (length : plan.length = other.length) (pitch : plan.hostPitch = other.hostPitch) :
    plan.reach = other.reach := by
  rw [reach, reach, count, length, pitch]

theorem reach_le_pitches (fits : plan.length ≤ plan.hostPitch) :
    plan.reach ≤ plan.hostPitch * plan.count := by
  refine (plan.reach_le_iff _).mpr fun byte touched => ?_
  obtain ⟨row, inside, _, before⟩ := (plan.touches_iff byte).mp touched
  calc byte
    _ < row * plan.hostPitch + plan.hostPitch := by omega
    _ = plan.hostPitch * (row + 1) := by rw [Nat.mul_succ, Nat.mul_comm]
    _ ≤ plan.hostPitch * plan.count := Nat.mul_le_mul_left _ inside

end RowPlan

namespace ImageRegion

/-- The rows of a region in host memory. -/
def hostRows (region : ImageRegion) (pixel : Nat) : RowPlan where
  count := region.extent.y
  length := region.extent.x * pixel
  hostPitch := if region.rowPitch = 0 then region.extent.x * pixel else region.rowPitch
  deviceStart := 0
  devicePitch := 0

/-- How far a region reaches into host memory. -/
def reach (region : ImageRegion) (pixel : Nat) : Nat := (region.hostRows pixel).reach

/-- Without a slice pitch the rows decide; with one, it alone does. -/
theorem reach_le_hostLength_iff {region : ImageRegion} {pixel : Nat} (flat : region.extent.z = 1)
    (fits : region.rowPitch = 0 ∨ region.extent.x * pixel ≤ region.rowPitch) :
    region.reach pixel ≤ region.hostLength pixel ↔
      region.slicePitch = 0 ∨ region.reach pixel ≤ region.slicePitch := by
  by_cases free : region.slicePitch = 0
  · refine iff_of_true ?_ (Or.inl free)
    have within : (region.hostRows pixel).length ≤ (region.hostRows pixel).hostPitch := by
      simp only [hostRows]
      split <;> omega
    rw [hostLength, if_pos free, flat, Nat.mul_one]
    exact (region.hostRows pixel).reach_le_pitches within
  · rw [or_iff_right free, hostLength, if_neg free, flat, Nat.mul_one]

end ImageRegion

namespace ImageDescriptor

/-- The host bytes from which a new image is copied: all rows, the last one with its padding. -/
def reach (descriptor : ImageDescriptor) (pixel : Nat) : Nat :=
  (if descriptor.rowPitch = 0 then descriptor.width * pixel else descriptor.rowPitch) * descriptor.height

theorem reach_le_hostLength_iff (descriptor : ImageDescriptor) (pixel : Nat) :
    descriptor.reach pixel ≤ descriptor.hostLength pixel ↔ descriptor.slicePitch = 0 ∨
      descriptor.reach pixel ≤
        descriptor.slicePitch * max descriptor.depth 1 * max descriptor.arraySize 1 := by
  by_cases free : descriptor.slicePitch = 0
  · refine iff_of_true ?_ (Or.inl free)
    rw [reach, hostLength, if_pos free]
    generalize (if descriptor.rowPitch = 0 then descriptor.width * pixel else descriptor.rowPitch) = pitch
    calc pitch * descriptor.height
      _ ≤ pitch * max descriptor.height 1 := Nat.mul_le_mul_left pitch (Nat.le_max_left _ _)
      _ ≤ pitch * max descriptor.height 1 * max descriptor.depth 1 :=
        Nat.le_mul_of_pos_right _ (Nat.le_max_right _ _)
      _ ≤ pitch * max descriptor.height 1 * max descriptor.depth 1 * max descriptor.arraySize 1 :=
        Nat.le_mul_of_pos_right _ (Nat.le_max_right _ _)
  · rw [or_iff_right free, hostLength, if_neg free]

end ImageDescriptor

end Offload
