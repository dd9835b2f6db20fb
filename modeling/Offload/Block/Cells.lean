import Offload.Bytes

/-! Packed memory without an end: what lies behind the stored cells reads as zero, so only
the part that was ever replaced has to be stored. `cell` is what packed memory means, and
each operation has one law that says which cells it shows. -/
namespace Offload

/-- Bytes stored side by side. -/
abbrev Cells := ByteArray

namespace Cells

/-- The byte at a position, zero behind the stored ones. -/
def cell (cells : Cells) (index : Nat) : UInt8 :=
  if inside : index < cells.size then cells[index] else 0

theorem cell_eq (cells : Cells) (index : Nat) : cells.cell index = cells.data[index]?.getD 0 := by
  by_cases inside : index < cells.size
  · rw [cell, dif_pos inside, Array.getElem?_eq_getElem inside]
    rfl
  · rw [cell, dif_neg inside, Array.getElem?_eq_none (Nat.le_of_not_lt inside)]
    rfl

theorem cell_of_size_le (cells : Cells) (index : Nat) (behind : cells.size ≤ index) :
    cells.cell index = 0 := dif_neg (by omega)

/-- The stored bytes. -/
def bytes (cells : Cells) : Bytes := cells.data.toList

theorem length_bytes (cells : Cells) : cells.bytes.length = cells.size := Array.length_toList

theorem getD_bytes (cells : Cells) (index : Nat) : cells.bytes[index]?.getD 0 = cells.cell index := by
  rw [bytes, Array.getElem?_toList, cell_eq]

/-- A chunk `count` times in a row, put together by doubling; `halvings` bounds how often
the count is halved. -/
def repeatedWithin (chunk : Cells) : (halvings count : Nat) → Cells
  | 0, _ => .empty
  | halvings + 1, count =>
    if count = 0 then .empty
    else
      let half := repeatedWithin chunk halvings (count / 2)
      if count % 2 = 0 then half ++ half else half ++ half ++ chunk

/-- A chunk `count` times in a row. -/
def repeated (chunk : Cells) (count : Nat) : Cells := repeatedWithin chunk count count

/-- Stored zeros. -/
def blank (count : Nat) : Cells := repeated [0].toByteArray count

/-- Memory with at least `size` stored cells. -/
def extended (cells : Cells) (size : Nat) : Cells :=
  if cells.size < size then cells ++ blank (size - cells.size) else cells

/-- Replaces the cells from `start` on by the first `length` ones of `data`. -/
def placed (cells : Cells) (start : Nat) (data : Cells) (length : Nat) : Cells :=
  if length = 0 then cells else data.copySlice 0 (cells.extended (start + length)) start length

/-- Memory in which the cells from `start` on that lie before `stop` are zero again. -/
def cleared (cells : Cells) (start stop : Nat) : Cells :=
  let stop := min stop cells.size
  cells.placed start (blank (stop - start)) (stop - start)

/-- The cells from `start` on that lie before `stop`, moved to the front. -/
def between (cells : Cells) (start stop : Nat) : Cells :=
  let stop := min stop cells.size
  if start < stop then cells.extract start stop else .empty

theorem bytes_append (first second : Cells) :
    Cells.bytes (first ++ second) = first.bytes ++ second.bytes := ByteArray.toList_data_append

theorem bytes_toByteArray (bytes : Bytes) : Cells.bytes bytes.toByteArray = bytes :=
  List.toList_data_toByteArray

theorem bytes_repeatedWithin (chunk : Cells) (halvings count : Nat) (enough : count ≤ halvings) :
    (repeatedWithin chunk halvings count).bytes =
      (List.replicate count chunk.bytes).flatten := by
  induction halvings generalizing count with
  | zero => simp [repeatedWithin, bytes, show count = 0 by omega]
  | succ halvings ih =>
    have half := ih (count / 2) (by omega)
    rw [repeatedWithin]
    split
    · next none => simp [none, bytes]
    · split
      · next even =>
        have twice : count = count / 2 + count / 2 := by omega
        rw [bytes_append, half, ← List.flatten_append,
          List.replicate_append_replicate, ← twice]
      · next odd =>
        have twice : count = count / 2 + count / 2 + 1 := by omega
        rw [bytes_append, bytes_append, half, ← List.flatten_append,
          List.replicate_append_replicate]
        conv => rhs; rw [twice, List.replicate_succ', List.flatten_concat]

theorem bytes_repeated (chunk : Cells) (count : Nat) :
    (repeated chunk count).bytes = (List.replicate count chunk.bytes).flatten :=
  bytes_repeatedWithin chunk count count (Nat.le_refl _)

theorem bytes_blank (count : Nat) : (blank count).bytes = Bytes.zeros count := by
  rw [blank, bytes_repeated, bytes_toByteArray]
  simp [Bytes.zeros]

theorem size_blank (count : Nat) : (blank count).size = count := by
  rw [← length_bytes, bytes_blank, Bytes.length_zeros]

theorem cell_blank (count index : Nat) : (blank count).cell index = 0 := by
  rw [← getD_bytes, bytes_blank, Bytes.zeros, List.getElem?_replicate]
  split <;> rfl

theorem le_size_extended (cells : Cells) (size : Nat) : size ≤ (cells.extended size).size := by
  rw [extended]
  split
  · rw [ByteArray.size_append, size_blank]
    omega
  · omega

theorem cell_append (first second : Cells) (index : Nat) :
    Cells.cell (first ++ second) index =
      if index < first.size then first.cell index else second.cell (index - first.size) := by
  rw [cell_eq, cell_eq, cell_eq, ByteArray.data_append, Array.getElem?_append, ByteArray.size_data]
  split <;> rfl

theorem cell_extended (cells : Cells) (size index : Nat) :
    (cells.extended size).cell index = cells.cell index := by
  rw [extended]
  split
  · rw [cell_append, cell_blank]
    split
    · rfl
    · next behind => rw [cell_of_size_le cells index (by omega)]
  · rfl

theorem cell_extract (cells : Cells) (start stop index : Nat) :
    Cells.cell (cells.extract start stop) index =
      if start + index < stop then cells.cell (start + index) else 0 := by
  rw [cell_eq, cell_eq, ByteArray.data_extract, Array.getElem?_extract, ByteArray.size_data]
  by_cases stored : start + index < cells.size
  · by_cases inside : start + index < stop
    · rw [if_pos (by omega), if_pos inside]
    · rw [if_neg (by omega), if_neg inside]
      rfl
  · rw [if_neg (by omega), Array.getElem?_eq_none (Nat.le_of_not_lt stored)]
    simp

/-- What is placed is what the data holds, and all other cells stay. -/
theorem cell_placed (cells : Cells) (start : Nat) (data : Cells) (length index : Nat)
    (stored : length ≤ data.size) :
    (cells.placed start data length).cell index =
      if start ≤ index ∧ index < start + length then data.cell (index - start)
      else cells.cell index := by
  rw [placed]
  split
  · next none => rw [if_neg (by omega)]
  · have room := le_size_extended cells (start + length)
    rw [ByteArray.copySlice_eq_append, cell_append, cell_append]
    simp only [cell_extract, cell_extended, ByteArray.size_append, ByteArray.size_extract,
      ByteArray.size_data, Nat.zero_add, Nat.sub_zero, Nat.min_eq_left stored,
      Nat.min_eq_left (Nat.le_trans (Nat.le_add_right _ _) room)]
    by_cases before : index < start
    · rw [if_pos (by omega), if_pos before, if_pos before, if_neg (by omega)]
    · by_cases inside : index < start + length
      · rw [if_pos inside, if_neg before, if_pos (by omega), if_pos (by omega)]
      · rw [if_neg inside, if_neg (show ¬ (start ≤ index ∧ index < start + length) by omega),
          show start + length + (index - (start + length)) = index by omega]
        split
        · rfl
        · next behind =>
          rw [← cell_extended cells (start + length), cell_of_size_le _ index (by omega)]

/-- Cleared cells read as zero, and all other cells stay. -/
theorem cell_cleared (cells : Cells) (start stop index : Nat) :
    (cells.cleared start stop).cell index =
      if start ≤ index ∧ index < stop then 0 else cells.cell index := by
  rw [cleared, cell_placed _ _ _ _ _ (Nat.le_of_eq (size_blank _).symm), cell_blank]
  by_cases inside : start ≤ index ∧ index < start + (min stop cells.size - start)
  · rw [if_pos inside, if_pos (by omega)]
  · rw [if_neg inside]
    split
    · next asked => exact cell_of_size_le cells index (by omega)
    · rfl

theorem cell_between (cells : Cells) (start stop index : Nat) :
    (cells.between start stop).cell index =
      if start + index < stop then cells.cell (start + index) else 0 := by
  rw [between]
  split
  · rw [cell_extract]
    by_cases stored : start + index < min stop cells.size
    · rw [if_pos stored, if_pos (by omega)]
    · rw [if_neg stored]
      split
      · exact (cell_of_size_le cells _ (by omega)).symm
      · rfl
  · rw [cell_of_size_le _ _ (Nat.zero_le _)]
    split
    · exact (cell_of_size_le cells _ (by omega)).symm
    · rfl

end Cells
end Offload
