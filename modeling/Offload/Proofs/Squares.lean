import Offload.Proofs.Patches
import Offload.Simulator.Square

/-! Squaring word by word. A memory is read as 32-bit words, and each word of the result is the
square of the word in the same place. -/
namespace Offload

/-- The 32-bit word at a place, counted in words. -/
def Bytes.word (bytes : Bytes) (place : Nat) : UInt32 :=
  UInt32.ofNat (LittleEndian.toNat (bytes.window (4 * place) 4))

def Block.word (block : Block) (place : Nat) : UInt32 := block.bytes.word place

namespace Bytes

/-- Words are the same where their bytes are. -/
theorem word_congr {bytes other : Bytes} {place position : Nat}
    (same : ∀ offset < 4, bytes[4 * place + offset]? = other[4 * position + offset]?) :
    bytes.word place = other.word position := by
  have window : bytes.window (4 * place) 4 = other.window (4 * position) 4 := by
    apply List.ext_getElem?
    intro offset
    rw [getElem?_window, getElem?_window]
    split
    · rename_i short
      exact same offset short
    · rfl
  rw [word, word, window]

private theorem word_append_zero {front : Bytes} (length : front.length = 4) (rest : Bytes) :
    (front ++ rest).word 0 = UInt32.ofNat (LittleEndian.toNat front) := by
  rw [word, window, Nat.mul_zero, List.drop_zero, List.take_left' length]

private theorem word_append_succ {front : Bytes} (length : front.length = 4) (rest : Bytes) (place : Nat) :
    (front ++ rest).word (place + 1) = rest.word place := by
  apply word_congr
  intro offset _
  rw [List.getElem?_append_right (by omega)]
  congr 1
  omega

/-- A word that was written is read back. -/
theorem ofNat_toNat_word (word : UInt32) :
    UInt32.ofNat (LittleEndian.toNat (LittleEndian.ofNat 4 word.toNat)) = word := by
  have small : word.toNat < LittleEndian.capacity 4 := word.toNat_lt
  rw [LittleEndian.toNat_ofNat, Nat.mod_eq_of_lt small, UInt32.ofNat_toNat]

end Bytes

namespace Simulator

private theorem word_squareWords {bytes : Bytes} {place : Nat} (inside : 4 * (place + 1) ≤ bytes.length) :
    (squareWords bytes).word place = Binary32.square (bytes.word place) := by
  fun_induction squareWords bytes generalizing place with
  | case1 first second third fourth rest word =>
    rename_i ih
    have length : ([first, second, third, fourth] : Bytes).length = 4 := rfl
    have written (value : Nat) : (LittleEndian.ofNat 4 value).length = 4 := LittleEndian.length_ofNat 4 value
    have split : first :: second :: third :: fourth :: rest = [first, second, third, fourth] ++ rest := rfl
    rw [split]
    cases place with
    | zero => rw [Bytes.word_append_zero (written _), Bytes.word_append_zero length, Bytes.ofNat_toNat_word]
    | succ place =>
      rw [Bytes.word_append_succ (written _), Bytes.word_append_succ length]
      apply ih
      simp only [List.length_cons] at inside
      omega
  | case2 bytes short =>
    rcases bytes with _ | ⟨first, _ | ⟨second, _ | ⟨third, _ | ⟨fourth, rest⟩⟩⟩⟩
    · simp only [List.length_nil] at inside
      omega
    · simp only [List.length_cons, List.length_nil] at inside
      omega
    · simp only [List.length_cons, List.length_nil] at inside
      omega
    · simp only [List.length_cons, List.length_nil] at inside
      omega
    · exact (short first second third fourth rest rfl).elim

/-- Each word of a memory of whole words is squared in its place. -/
theorem word_squared {block : Block} (whole : block.size % 4 = 0) {place : Nat}
    (inside : 4 * (place + 1) ≤ block.size) :
    (squared block).word place = Binary32.square (block.word place) := by
  rw [Block.word, bytes_squared block whole]
  apply word_squareWords
  rw [Block.length_bytes]
  exact inside

theorem size_squared_window {source : Block} {count : Nat} (held : 4 * count ≤ source.size) :
    (squared (source.window 0 (count * 4))).size = count * 4 := by
  show (source.window 0 (count * 4)).size / 4 * 4 = count * 4
  rw [Block.size_window_of_fits (by omega), Nat.mul_div_cancel count (by decide)]

/-- The squares of the first words of one memory at the start of another. -/
theorem squares_placed {source target : Block} {count : Nat} (held : 4 * count ≤ source.size)
    (room : 4 * count ≤ target.size) :
    let after := target.overwrite 0 (squared (source.window 0 (count * 4)))
    (∀ place < count, after.word place = Binary32.square (source.word place)) ∧
      ∀ index, 4 * count ≤ index → after.bytes[index]? = target.bytes[index]? := by
  intro after
  have read : (source.window 0 (count * 4)).size = count * 4 := Block.size_window_of_fits (by omega)
  have size := size_squared_window held
  have fits : 0 + (squared (source.window 0 (count * 4))).size ≤ target.size := by omega
  constructor
  · intro place below
    have shown : after.word place = (squared (source.window 0 (count * 4))).word place := by
      apply Bytes.word_congr
      intro offset small
      rw [Block.getElem?_bytes_overwrite fits, if_pos ⟨Nat.zero_le _, by omega⟩, Nat.sub_zero]
    have taken : (source.window 0 (count * 4)).word place = source.word place := by
      apply Bytes.word_congr
      intro offset small
      rw [Block.getElem?_bytes_window, if_pos (by omega), Nat.zero_add]
    rw [shown, word_squared (by omega) (by omega), taken]
  · intro index beyond
    have uncovered : ¬ Covers 0 (squared (source.window 0 (count * 4))).size index := by
      rintro ⟨_, before⟩
      omega
    rw [Block.getElem?_bytes_overwrite fits, if_neg uncovered]

end Simulator
end Offload
