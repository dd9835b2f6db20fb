import Offload.Binary32
import Offload.Block
import Offload.LittleEndian

/-! The kernel named `square`: its source, and what it computes from the memory it reads.
Words that were never written hold zero, and so do their squares, which is why only the
kept part of a memory is looked at; `bytes_squared` says that this shows in nothing. -/
namespace Offload.Simulator

/-- A program with the kernel `square`. -/
def squareSource : String :=
"
__kernel void square(
   __global float* input,
   __global float* output,
   const unsigned int count)
\x7b
   int i = get_global_id(0);
   if(i < count)
       output[i] = input[i] * input[i];
\x7d
"

/-- The squares of the 32-bit words of a memory. -/
def squareWords : Bytes → Bytes
  | first :: second :: third :: fourth :: rest =>
    let word := UInt32.ofNat (LittleEndian.toNat [first, second, third, fourth])
    LittleEndian.ofNat 4 (Binary32.square word).toNat ++ squareWords rest
  | _ => []

/-- Memory with the squares of the words of another. -/
def squared (block : Block) : Block :=
  let words := min (block.size / 4) ((block.kept.size + 3) / 4)
  (Block.zeros (block.size / 4 * 4)).overwrite 0 (.ofBytes (squareWords (block.read 0 (words * 4)).bytes))

theorem squareWords_zeros (words : Nat) :
    squareWords (Bytes.zeros (words * 4)) = Bytes.zeros (words * 4) := by
  induction words with
  | zero => rfl
  | succ words ih =>
    have split : Bytes.zeros ((words + 1) * 4) = 0 :: 0 :: 0 :: 0 :: Bytes.zeros (words * 4) := by
      simp only [Bytes.zeros, Nat.succ_mul, List.replicate_succ]
    have blank : LittleEndian.ofNat 4
        (Binary32.square (UInt32.ofNat (LittleEndian.toNat [0, 0, 0, 0]))).toNat = [0, 0, 0, 0] := by
      decide
    rw [split, squareWords, ih, blank]
    rfl

/-- A memory of whole words is empty or starts with one. -/
theorem eq_nil_or_word (bytes : Bytes) (whole : bytes.length % 4 = 0) :
    bytes = [] ∨ ∃ first second third fourth rest,
      bytes = first :: second :: third :: fourth :: rest ∧ rest.length % 4 = 0 := by
  match bytes, whole with
  | [], _ => exact Or.inl rfl
  | [_], whole | [_, _], whole | [_, _, _], whole => simp at whole
  | first :: second :: third :: fourth :: rest, whole =>
    refine Or.inr ⟨first, second, third, fourth, rest, rfl, ?_⟩
    simp only [List.length_cons] at whole
    omega

/-- Each word is squared by itself. -/
theorem squareWords_append (front rest : Bytes) (whole : front.length % 4 = 0) :
    squareWords (front ++ rest) = squareWords front ++ squareWords rest := by
  fun_induction squareWords front with
  | case1 first second third fourth others word ih =>
    simp only [List.length_cons] at whole
    rw [List.append_assoc, ← ih (by omega)]
    rfl
  | case2 front short =>
    rcases eq_nil_or_word front whole with rfl | ⟨first, second, third, fourth, others, rfl, _⟩
    · rfl
    · exact absurd rfl (short first second third fourth others)

theorem length_squareWords (bytes : Bytes) (whole : bytes.length % 4 = 0) :
    (squareWords bytes).length = bytes.length := by
  fun_induction squareWords bytes with
  | case1 first second third fourth others word ih =>
    simp only [List.length_cons] at whole
    rw [List.length_append, LittleEndian.length_ofNat, ih (by omega)]
    simp only [List.length_cons]
    omega
  | case2 bytes short =>
    rcases eq_nil_or_word bytes whole with rfl | ⟨first, second, third, fourth, others, rfl, _⟩
    · rfl
    · exact absurd rfl (short first second third fourth others)

/-- What is squared are all words, whether they are kept or not. -/
theorem bytes_squared (block : Block) (whole : block.size % 4 = 0) :
    (squared block).bytes = squareWords block.bytes := by
  obtain ⟨words, chosen⟩ : ∃ words, words = min (block.size / 4) ((block.kept.size + 3) / 4) :=
    ⟨_, rfl⟩
  obtain ⟨front, shown⟩ : ∃ front, front = (block.read 0 (words * 4)).bytes := ⟨_, rfl⟩
  have length : front.length = words * 4 := by rw [shown, Block.length_bytes, Block.size_read]
  have split : block.bytes = front ++ Bytes.zeros ((block.size / 4 - words) * 4) := by
    apply List.ext_getElem?
    intro index
    rw [List.getElem?_append, length, shown, Bytes.zeros, List.getElem?_replicate]
    simp only [Block.getElem?_bytes, Block.byte?, Block.read, Cells.cell_between, Nat.zero_add]
    by_cases inside : index < block.size
    · rw [if_pos inside]
      by_cases read : index < words * 4
      · rw [if_pos read, if_pos read, if_pos (by omega)]
      · rw [if_neg read, if_pos (by omega), Cells.cell_of_size_le _ _ (by omega)]
    · rw [if_neg inside, if_neg (by omega), if_neg (by omega)]
  have squares := length_squareWords front (by omega)
  have rest : block.size / 4 * 4 - (squareWords front).length = (block.size / 4 - words) * 4 := by
    omega
  rw [squared, ← chosen, ← shown, Block.bytes_overwrite, Block.bytes_ofBytes, Block.bytes_zeros,
    Bytes.overwrite_zeros _ _ (by omega), rest, split, squareWords_append _ _ (by omega),
    squareWords_zeros]

end Offload.Simulator
