import Offload.Block.Cells

/-! Memory of a host or a device. It has a fixed size and starts out as zeros; only the
part that was ever replaced is stored, so a large memory costs no more than what was put
into it. What a block means are its bytes, and each operation has a law that says the same
of them. -/
namespace Offload

/-- Memory of `size` bytes; those behind the kept ones are zero. -/
structure Block where
  size : Nat
  kept : Cells := .empty

namespace Block

/-- Two blocks are the same if they keep the same; the same bytes can be kept in several ways. -/
instance : DecidableEq Block := fun first second =>
  have := ByteArray.decEq first.kept second.kept
  decidable_of_iff (first.size = second.size ∧ first.kept = second.kept) (by
    cases first
    cases second
    simp)

/-- All bytes of the memory. -/
def bytes (block : Block) : Bytes := block.kept.bytes.padded block.size

instance : Repr Block := ⟨fun block => reprPrec block.bytes⟩

def zeros (size : Nat) : Block := { size }

def ofCells (cells : Cells) : Block := ⟨cells.size, cells⟩

def ofBytes (bytes : Bytes) : Block := ofCells bytes.toByteArray

/-- Repeats a pattern until `size` bytes are filled. -/
def tiled (pattern : Bytes) (size : Nat) : Block :=
  ofCells (Cells.repeated pattern.toByteArray (size / pattern.length))

/-- The byte at a position inside the memory. -/
def byte? (block : Block) (index : Nat) : Option UInt8 :=
  if index < block.size then some (block.kept.cell index) else none

/-- Reads `size` bytes from `start` on; what lies behind the end reads as zero. -/
def read (block : Block) (start size : Nat) : Block :=
  ⟨size, block.kept.between start (min (start + size) block.size)⟩

/-- The `size` bytes from `start` on, fewer where the memory ends before. -/
def window (block : Block) (start size : Nat) : Block :=
  block.read start (min size (block.size - start))

/-- Replaces the bytes from `start` on; what would fall behind the end is lost. -/
def overwrite (block : Block) (start : Nat) (data : Block) : Block :=
  let length := min data.size (block.size - start)
  let stored := min data.kept.size length
  { block with
    kept := (block.kept.placed start data.kept stored).cleared (start + stored) (start + length) }

/-- Overwrites pieces, given with their positions, in order. -/
def patch (block : Block) (pieces : List (Nat × Block)) : Block :=
  pieces.foldl (fun block piece => block.overwrite piece.1 piece.2) block

/-- The text of a memory up to its first zero byte, or all of it where there is none. -/
def untilZero (block : Block) : Bytes := (block.kept.between 0 block.size).bytes.untilZero

theorem getElem?_bytes (block : Block) (index : Nat) : block.bytes[index]? = block.byte? index := by
  rw [bytes, Bytes.getElem?_padded, Cells.getD_bytes, byte?]

@[simp] theorem length_bytes (block : Block) : block.bytes.length = block.size := by
  rw [bytes, Bytes.length_padded]

@[simp] theorem bytes_zeros (size : Nat) : (zeros size).bytes = Bytes.zeros size := by
  simp [zeros, bytes, Cells.bytes, Bytes.padded]

theorem bytes_ofCells (cells : Cells) : (ofCells cells).bytes = cells.bytes :=
  Bytes.padded_self cells.bytes cells.size cells.length_bytes

@[simp] theorem bytes_ofBytes (bytes : Bytes) : (ofBytes bytes).bytes = bytes := by
  rw [ofBytes, bytes_ofCells, Cells.bytes_toByteArray]

@[simp] theorem size_ofBytes (bytes : Bytes) : (ofBytes bytes).size = bytes.length := by
  rw [← length_bytes, bytes_ofBytes]

theorem bytes_tiled (pattern : Bytes) (size : Nat) : (tiled pattern size).bytes = pattern.tile size := by
  rw [tiled, bytes_ofCells, Cells.bytes_repeated, Cells.bytes_toByteArray, Bytes.tile]

@[simp] theorem size_read (block : Block) (start size : Nat) : (block.read start size).size = size := rfl

theorem bytes_read (block : Block) (start size : Nat) :
    (block.read start size).bytes = block.bytes.read start size := by
  apply List.ext_getElem?
  intro index
  simp only [getElem?_bytes, Bytes.read, Bytes.getElem?_padded, List.getElem?_drop, byte?, read,
    Cells.cell_between]
  by_cases asked : index < size
  · rw [if_pos asked, if_pos asked]
    by_cases inside : start + index < block.size
    · rw [if_pos (by omega), if_pos inside]
      rfl
    · rw [if_neg (by omega), if_neg inside]
      rfl
  · rw [if_neg asked, if_neg asked]

/-- A block that is read from end to end. -/
theorem bytes_read_self (block : Block) : (block.read 0 block.size).bytes = block.bytes := by
  rw [bytes_read, Bytes.read, List.drop_zero, Bytes.padded_self _ _ (length_bytes block)]

theorem bytes_window (block : Block) (start size : Nat) :
    (block.window start size).bytes = block.bytes.window start size := by
  apply List.ext_getElem?
  intro index
  simp only [window, bytes_read, Bytes.read, Bytes.getElem?_padded, Bytes.getElem?_window,
    List.getElem?_drop, getElem?_bytes, byte?]
  by_cases asked : index < size
  · rw [if_pos asked]
    by_cases inside : start + index < block.size
    · rw [if_pos (by omega), if_pos inside]
      rfl
    · rw [if_neg (by omega), if_neg inside]
  · rw [if_neg asked, if_neg (by omega)]

@[simp] theorem size_overwrite (block : Block) (start : Nat) (data : Block) :
    (block.overwrite start data).size = block.size := rfl

/-- Inside the memory the overwritten range shows the new data, every other cell the old. -/
theorem cell_overwrite (block : Block) (start : Nat) (data : Block) (index : Nat)
    (inside : index < block.size) :
    (block.overwrite start data).kept.cell index =
      if start ≤ index ∧ index < start + data.size then data.kept.cell (index - start)
      else block.kept.cell index := by
  simp only [overwrite, Cells.cell_cleared, Cells.cell_placed _ _ _ _ _ (Nat.min_le_left _ _)]
  by_cases replaced : start ≤ index ∧ index < start + data.size
  · rw [if_pos replaced]
    by_cases stored : index < start + min data.kept.size (min data.size (block.size - start))
    · rw [if_neg (by omega), if_pos (by omega)]
    · rw [if_pos (by omega), Cells.cell_of_size_le _ _ (by omega)]
  · rw [if_neg replaced, if_neg (by omega), if_neg (by omega)]

/-- What is overwritten are the bytes. -/
theorem bytes_overwrite (block : Block) (start : Nat) (data : Block) :
    (block.overwrite start data).bytes = block.bytes.overwrite start data.bytes := by
  apply List.ext_getElem?
  intro index
  rw [Bytes.getElem?_overwrite]
  simp only [getElem?_bytes, length_bytes, byte?]
  by_cases inside : index < block.size
  · rw [if_pos (show index < (block.overwrite start data).size from inside), if_pos inside,
      cell_overwrite block start data index inside]
    by_cases replaced : start ≤ index ∧ index < start + data.size
    · rw [if_pos replaced, if_pos ⟨replaced.1, replaced.2, inside⟩, if_pos (by omega)]
    · rw [if_neg replaced, if_neg (fun all => replaced ⟨all.1, all.2.1⟩)]
  · rw [if_neg (show ¬ index < (block.overwrite start data).size from inside),
      if_neg (fun all => inside all.2.2), if_neg inside]

@[simp] theorem size_patch (block : Block) (pieces : List (Nat × Block)) :
    (block.patch pieces).size = block.size := by
  induction pieces generalizing block with
  | nil => rfl
  | cons piece rest ih => rw [patch, List.foldl_cons, ← patch, ih, size_overwrite]

/-- What is patched are the bytes. -/
theorem bytes_patch (block : Block) (pieces : List (Nat × Block)) :
    (block.patch pieces).bytes =
      pieces.foldl (fun bytes piece => bytes.overwrite piece.1 piece.2.bytes) block.bytes := by
  induction pieces generalizing block with
  | nil => rfl
  | cons piece rest ih =>
    rw [patch, List.foldl_cons, ← patch, ih, bytes_overwrite, List.foldl_cons]

/-- The bytes are the kept ones, and zeros behind them. -/
theorem bytes_eq_append (block : Block) :
    block.bytes = (block.kept.between 0 block.size).bytes ++
      Bytes.zeros (block.size - (block.kept.between 0 block.size).size) := by
  have short : (block.kept.between 0 block.size).size ≤ block.size := by
    rw [Cells.between]
    split
    · rw [ByteArray.size_extract]
      omega
    · exact Nat.zero_le _
  rw [← Cells.length_bytes, ← Bytes.padded_of_length_le _ _ (by rw [Cells.length_bytes]; exact short)]
  apply List.ext_getElem?
  intro index
  rw [getElem?_bytes, byte?, Bytes.getElem?_padded, Cells.getD_bytes, Cells.cell_between, Nat.zero_add]
  by_cases inside : index < block.size
  · rw [if_pos inside, if_pos inside, if_pos inside]
  · rw [if_neg inside, if_neg inside]

theorem untilZero_eq (block : Block) : block.untilZero = block.bytes.untilZero := by
  rw [bytes_eq_append, Bytes.untilZero_append_zeros, untilZero]

end Block
end Offload
