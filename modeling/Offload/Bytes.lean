/-! Byte strings. They are what a memory holds, however it is stored: reading, replacing
and repeating are defined here, and every other form of memory is stated on them.
`overwrite` is the only way bytes change: it keeps the length, and its lemma says which
positions it touches. -/
namespace Offload

/-- A run of memory, lowest address first. -/
abbrev Bytes := List UInt8

namespace Bytes

/-- Memory of `size` zero bytes. -/
def zeros (size : Nat) : Bytes := List.replicate size 0

/-- The `size` bytes from `start` on, fewer where the memory ends before. -/
def window (memory : Bytes) (start size : Nat) : Bytes := (memory.drop start).take size

/-- The first `size` bytes, followed by zeros where the memory ends before. -/
def padded (memory : Bytes) (size : Nat) : Bytes :=
  memory.take size ++ zeros (size - memory.length)

/-- Reads `size` bytes from `start` on; what lies behind the end reads as zero. -/
def read (memory : Bytes) (start size : Nat) : Bytes := padded (memory.drop start) size

/-- Replaces the bytes from `start` on by `data`; what would fall behind the end is lost. -/
def overwrite (memory : Bytes) (start : Nat) (data : Bytes) : Bytes :=
  memory.take start ++ data.take (memory.length - start) ++ memory.drop (start + data.length)

/-- Repeats `pattern` until `size` bytes are filled. -/
def tile (pattern : Bytes) (size : Nat) : Bytes :=
  (List.replicate (size / pattern.length) pattern).flatten

/-- The text of a memory up to its first zero byte, or all of it where there is none. -/
def untilZero (memory : Bytes) : Bytes := memory.takeWhile (· != 0)

@[simp] theorem length_zeros (size : Nat) : (zeros size).length = size := by simp [zeros]

@[simp] theorem length_padded (memory : Bytes) (size : Nat) : (padded memory size).length = size := by
  simp only [padded, List.length_append, List.length_take, length_zeros]
  omega

theorem getElem?_padded (memory : Bytes) (size index : Nat) :
    (padded memory size)[index]? =
      if index < size then some (memory[index]?.getD 0) else none := by
  simp only [padded, zeros, List.getElem?_append, List.getElem?_take, List.getElem?_replicate,
    List.length_take]
  by_cases inside : index < size
  · by_cases held : index < memory.length
    · rw [if_pos (by omega), if_pos inside, if_pos inside, List.getElem?_eq_getElem held]
      rfl
    · have vacant : memory[index]? = none := List.getElem?_eq_none (by omega)
      rw [if_neg (by omega), if_pos (by omega), if_pos inside, vacant]
      rfl
  · rw [if_neg (by omega), if_neg (by omega), if_neg inside]

theorem padded_of_length_le (memory : Bytes) (size : Nat) (short : memory.length ≤ size) :
    padded memory size = memory ++ zeros (size - memory.length) := by
  rw [padded, List.take_of_length_le short]

theorem padded_self (memory : Bytes) (size : Nat) (same : memory.length = size) :
    padded memory size = memory := by
  simp [padded_of_length_le memory size (by omega), same, zeros]

@[simp] theorem length_read (memory : Bytes) (start size : Nat) :
    (read memory start size).length = size := by simp [read]

/-- Inside the memory, reading is the same as looking at a window. -/
theorem read_eq_window (memory : Bytes) (start size : Nat) (fits : start + size ≤ memory.length) :
    read memory start size = window memory start size := by
  have enough : size - (memory.drop start).length = 0 := by
    rw [List.length_drop]
    omega
  rw [read, padded, window, enough]
  simp [zeros]

theorem length_window (memory : Bytes) (start size : Nat) :
    (window memory start size).length = min size (memory.length - start) := by
  simp [window]

@[simp] theorem length_overwrite (memory : Bytes) (start : Nat) (data : Bytes) :
    (overwrite memory start data).length = memory.length := by
  simp only [overwrite, List.length_append, List.length_take, List.length_drop]
  omega

/-- A position inside the overwritten range shows the new data, every other one the old. -/
theorem getElem?_overwrite (memory : Bytes) (start : Nat) (data : Bytes) (index : Nat) :
    (overwrite memory start data)[index]? =
      if start ≤ index ∧ index < start + data.length ∧ index < memory.length
      then data[index - start]? else memory[index]? := by
  rw [overwrite, List.append_assoc, List.getElem?_append, List.getElem?_append]
  simp only [List.length_take, List.getElem?_take, List.getElem?_drop]
  by_cases before : index < min start memory.length
  · simp only [before, if_true, if_pos (show index < start by omega)]
    rw [if_neg (by omega)]
  · simp only [before, if_false]
    by_cases inside : start ≤ index ∧ index < start + data.length ∧ index < memory.length
    · rw [if_pos inside, if_pos (by omega), if_pos (by omega)]
      congr 1
      omega
    · rw [if_neg inside, if_neg (by omega)]
      by_cases after : index < memory.length
      · congr 1
        omega
      · rw [List.getElem?_eq_none (by omega), List.getElem?_eq_none (by omega)]

theorem getElem?_window (memory : Bytes) (start size index : Nat) :
    (window memory start size)[index]? = if index < size then memory[start + index]? else none := by
  simp [window, List.getElem?_take]

/-- A part of a part is a part. -/
theorem window_window (memory : Bytes) (place : Nat) {start size whole : Nat}
    (inside : start + size ≤ whole) :
    (memory.window place whole).window start size = memory.window (place + start) size := by
  apply List.ext_getElem?
  intro index
  rw [getElem?_window, getElem?_window, getElem?_window]
  by_cases below : index < size
  · rw [if_pos below, if_pos below, if_pos (by omega), Nat.add_assoc]
  · rw [if_neg below, if_neg below]

theorem window_overwrite (memory : Bytes) (start : Nat) (data : Bytes)
    (fits : start + data.length ≤ memory.length) :
    window (overwrite memory start data) start data.length = data := by
  apply List.ext_getElem?
  intro index
  rw [getElem?_window, getElem?_overwrite]
  by_cases inside : index < data.length
  · rw [if_pos inside, if_pos (by omega), Nat.add_sub_cancel_left]
  · rw [if_neg inside, List.getElem?_eq_none (by omega)]

/-- Data at the start of a blank memory is followed by what stays blank. -/
theorem overwrite_zeros (size : Nat) (data : Bytes) (fits : data.length ≤ size) :
    overwrite (zeros size) 0 data = data ++ zeros (size - data.length) := by
  rw [overwrite, List.take_zero, List.nil_append, length_zeros, Nat.sub_zero, Nat.zero_add,
    List.take_of_length_le fits, zeros, List.drop_replicate, zeros]

/-- Zeros behind a memory add nothing to its text. -/
theorem untilZero_append_zeros (memory : Bytes) (size : Nat) :
    untilZero (memory ++ zeros size) = untilZero memory := by
  induction memory with
  | nil => cases size <;> simp [untilZero, zeros, List.replicate_succ]
  | cons byte rest ih =>
    simp only [untilZero, List.cons_append, List.takeWhile_cons] at ih ⊢
    rw [ih]

end Bytes
end Offload
