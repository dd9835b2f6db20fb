import Offload.Block

/-! Which bytes a memory shows once parts of it have been replaced. Pieces that lie apart are
seen as they are, and every byte outside of them is the old one. -/
namespace Offload

/-- A position is one of the `size` positions from `start` on. -/
def Covers (start size position : Nat) : Prop := start ≤ position ∧ position < start + size

instance (start size position : Nat) : Decidable (Covers start size position) :=
  inferInstanceAs (Decidable (_ ∧ _))

/-- Rows need no more room without the distance between them. -/
theorem rows_inside {count length pitch size : Nat} (apart : length ≤ pitch)
    (held : pitch * count ≤ size) : length * count ≤ size :=
  Nat.le_trans (Nat.mul_le_mul_right count apart) held

/-- Rows at some distance end inside a memory that has room for all of them. -/
theorem row_inside {count length pitch size row : Nat} (apart : length ≤ pitch)
    (held : pitch * count ≤ size) (below : row < count) : row * pitch + length ≤ size := by
  calc row * pitch + length
    _ ≤ (row + 1) * pitch := by
      rw [Nat.succ_mul]
      exact Nat.add_le_add_left apart _
    _ ≤ count * pitch := Nat.mul_le_mul_right pitch below
    _ ≤ size := by
      rw [Nat.mul_comm]
      exact held

/-- Whole repetitions of a pattern show it again and again. -/
theorem Bytes.getElem?_tile (pattern : Bytes) {size index : Nat}
    (inside : index < size / pattern.length * pattern.length) :
    (pattern.tile size)[index]? = pattern[index % pattern.length]? := by
  rw [tile]
  generalize size / pattern.length = count at inside ⊢
  induction count generalizing index with
  | zero => omega
  | succ count ih =>
    rw [List.replicate_succ, List.flatten_cons, List.getElem?_append]
    split
    · rename_i first
      rw [Nat.mod_eq_of_lt first]
    · rename_i later
      have rest : index - pattern.length < count * pattern.length := by
        rw [Nat.succ_mul] at inside
        omega
      rw [ih rest, ← Nat.mod_eq_sub_mod (Nat.le_of_not_lt later)]

namespace Block
variable {block : Block}

theorem getElem?_bytes_read {start size : Nat} (fits : start + size ≤ block.size) (index : Nat) :
    (block.read start size).bytes[index]? = if index < size then block.bytes[start + index]? else none := by
  rw [bytes_read, Bytes.read_eq_window _ _ _ (by rw [length_bytes]; exact fits), Bytes.getElem?_window]

theorem getElem?_bytes_window (start size index : Nat) :
    (block.window start size).bytes[index]? = if index < size then block.bytes[start + index]? else none := by
  rw [bytes_window, Bytes.getElem?_window]

theorem size_window_of_fits {start size : Nat} (fits : start + size ≤ block.size) :
    (block.window start size).size = size := by
  simp only [window, size_read]
  omega

theorem size_tiled {pattern : Bytes} {size : Nat} (whole : pattern.length ∣ size) :
    (tiled pattern size).size = size := by
  have length : (pattern.tile size).length = size / pattern.length * pattern.length := by
    simp [Bytes.tile]
  rw [← length_bytes, bytes_tiled, length, Nat.div_mul_cancel whole]

/-- What was put into a memory is seen in its place, and nothing else has changed. -/
theorem getElem?_bytes_overwrite {start : Nat} {data : Block} (fits : start + data.size ≤ block.size)
    (index : Nat) :
    (block.overwrite start data).bytes[index]? =
      if Covers start data.size index then data.bytes[index - start]? else block.bytes[index]? := by
  rw [bytes_overwrite, Bytes.getElem?_overwrite, length_bytes, length_bytes]
  by_cases covered : Covers start data.size index
  · obtain ⟨after, before⟩ := covered
    rw [if_pos ⟨after, before, by omega⟩, if_pos ⟨after, before⟩]
  · rw [if_neg covered, if_neg]
    intro all
    exact covered ⟨all.1, all.2.1⟩

/-- The memory `after`, which shows `piece` in the `size` bytes from `start` on and in all others
what was there before. -/
def Patched (before : Block) (start size : Nat) (piece : Nat → Option UInt8) (after : Block) : Prop :=
  ∀ index, after.bytes[index]? =
    if Covers start size index then piece (index - start) else before.bytes[index]?

theorem patched_overwrite {start size : Nat} {data : Block} {piece : Nat → Option UInt8}
    (fits : start + size ≤ block.size) (sized : data.size = size)
    (shown : ∀ index < size, data.bytes[index]? = piece index) :
    Patched block start size piece (block.overwrite start data) := by
  subst sized
  intro index
  rw [getElem?_bytes_overwrite fits]
  by_cases covered : Covers start data.size index
  · have inside : index - start < data.size := by
      obtain ⟨after, before⟩ := covered
      omega
    rw [if_pos covered, if_pos covered]
    exact shown (index - start) inside
  · rw [if_neg covered, if_neg covered]

/-- Pieces at different places of a memory. -/
def Apart (first second : Nat × Block) : Prop :=
  first.1 + first.2.size ≤ second.1 ∨ second.1 + second.2.size ≤ first.1

/-- A byte that no piece covers is the old one. -/
theorem getElem?_patch_of_uncovered {pieces : List (Nat × Block)} {index : Nat}
    (fit : ∀ piece ∈ pieces, piece.1 + piece.2.size ≤ block.size)
    (uncovered : ∀ piece ∈ pieces, ¬ Covers piece.1 piece.2.size index) :
    (block.patch pieces).bytes[index]? = block.bytes[index]? := by
  induction pieces generalizing block with
  | nil => rfl
  | cons first rest ih =>
    have laterFit : ∀ piece ∈ rest,
        piece.1 + piece.2.size ≤ (block.overwrite first.1 first.2).size :=
      fun piece member => fit piece (List.mem_cons_of_mem _ member)
    have later := ih laterFit fun piece member => uncovered piece (List.mem_cons_of_mem _ member)
    rw [patch, List.foldl_cons, ← patch, later,
      getElem?_bytes_overwrite (fit first List.mem_cons_self), if_neg (uncovered first List.mem_cons_self)]

/-- A byte that a piece covers is the one of the piece, if all others lie apart from it. -/
theorem getElem?_patch_of_covered {pieces : List (Nat × Block)} (apart : pieces.Pairwise Apart)
    (fit : ∀ piece ∈ pieces, piece.1 + piece.2.size ≤ block.size) {piece : Nat × Block}
    (member : piece ∈ pieces) {index : Nat} (covered : Covers piece.1 piece.2.size index) :
    (block.patch pieces).bytes[index]? = piece.2.bytes[index - piece.1]? := by
  induction pieces generalizing block with
  | nil => cases member
  | cons first rest ih =>
    obtain ⟨ahead, others⟩ := List.pairwise_cons.mp apart
    have laterFit : ∀ other ∈ rest,
        other.1 + other.2.size ≤ (block.overwrite first.1 first.2).size :=
      fun other member => fit other (List.mem_cons_of_mem _ member)
    rw [patch, List.foldl_cons, ← patch]
    rcases List.mem_cons.mp member with rfl | later
    · have untouched : ∀ other ∈ rest, ¬ Covers other.1 other.2.size index := by
        intro other present both
        obtain ⟨after, before⟩ := covered
        obtain ⟨low, high⟩ := both
        rcases ahead other present with behind | front <;> omega
      rw [getElem?_patch_of_uncovered laterFit untouched,
        getElem?_bytes_overwrite (fit piece List.mem_cons_self), if_pos covered]
    · exact ih others laterFit later

/-- Pieces of one length at equal distances are all seen, and nothing else has changed. -/
theorem getElem?_patch_rows {start pitch length count : Nat} (piece : Nat → Block)
    (apart : length ≤ pitch) (sized : ∀ row < count, (piece row).size = length)
    (fit : ∀ row < count, start + row * pitch + length ≤ block.size) :
    let after := block.patch ((List.range count).map fun row => (start + row * pitch, piece row))
    (∀ row < count, ∀ offset < length,
      after.bytes[start + row * pitch + offset]? = (piece row).bytes[offset]?) ∧
    ∀ index, (∀ row < count, ¬ Covers (start + row * pitch) length index) →
      after.bytes[index]? = block.bytes[index]? := by
  intro after
  have inside : ∀ part ∈ (List.range count).map fun row => (start + row * pitch, piece row),
      part.1 + part.2.size ≤ block.size := by
    intro part member
    obtain ⟨row, counted, rfl⟩ := List.mem_map.mp member
    have below := List.mem_range.mp counted
    rw [sized row below]
    exact fit row below
  constructor
  · intro row below offset short
    have ordered : ((List.range count).map fun row => (start + row * pitch, piece row)).Pairwise Apart := by
      rw [List.pairwise_map]
      apply List.pairwise_lt_range.imp_of_mem
      intro first second firstCounted _ before
      have next : (first + 1) * pitch ≤ second * pitch := Nat.mul_le_mul_right pitch before
      rw [Nat.succ_mul] at next
      rw [Apart, sized first (List.mem_range.mp firstCounted)]
      exact Or.inl (by omega)
    have member : (start + row * pitch, piece row) ∈
        (List.range count).map fun row => (start + row * pitch, piece row) :=
      List.mem_map.mpr ⟨row, List.mem_range.mpr below, rfl⟩
    have covered : Covers (start + row * pitch) (piece row).size (start + row * pitch + offset) := by
      rw [sized row below]
      exact ⟨Nat.le_add_right _ _, Nat.add_lt_add_left short _⟩
    have shown := getElem?_patch_of_covered ordered inside member covered
    rw [Nat.add_sub_cancel_left] at shown
    exact shown
  · intro index uncovered
    apply getElem?_patch_of_uncovered inside
    intro part member
    obtain ⟨row, counted, rfl⟩ := List.mem_map.mp member
    have below := List.mem_range.mp counted
    rw [sized row below]
    exact uncovered row below

/-- A copy between two memories: a byte of `after` that has partners in `source` shows them, and
every other byte is the one of `before`. -/
structure Conveys (pairs : Nat → Nat → Prop) (source before after : Block) : Prop where
  copied : ∀ origin target, pairs origin target → after.bytes[target]? = source.bytes[origin]?
  kept : ∀ target, (∀ origin, ¬ pairs origin target) → after.bytes[target]? = before.bytes[target]?

theorem Conveys.congr {pairs others : Nat → Nat → Prop} {source before after : Block}
    (conveys : Conveys pairs source before after)
    (same : ∀ origin target, others origin target ↔ pairs origin target) :
    Conveys others source before after := by
  constructor
  · intro origin target paired
    exact conveys.copied origin target ((same origin target).mp paired)
  · intro target alone
    exact conveys.kept target fun origin paired => alone origin ((same origin target).mpr paired)

end Block
end Offload
