import Offload.Simulator.Information

/-! Encoding a text and decoding it again. Decoding reads exactly the bytes of a character,
whatever follows them, so it takes an encoded text apart where encoding has put it together. -/
namespace Offload.Text.Utf8

/-- A byte behind the first one adds six bits to the character that is open. -/
private theorem step_continuation {begun : Pending} {bits : Nat} (shifted : begun.bits = bits / 64)
    (low : begun.low ≤ 0x80 + bits % 64) (high : 0x80 + bits % 64 ≤ begun.high) :
    step (some begun) (UInt8.ofNat (0x80 + bits % 64)) =
      if begun.owed = 1 then ([Char.ofNat bits], none)
      else ([], some ⟨bits, begun.owed - 1, 0x80, 0xBF⟩) := by
  have small : (UInt8.ofNat (0x80 + bits % 64)).toNat = 0x80 + bits % 64 :=
    UInt8.toNat_ofNat_of_lt' (show 0x80 + bits % 64 < 256 by omega)
  have whole : begun.bits * 64 + (0x80 + bits % 64 - 0x80) = bits := by omega
  simp only [step, small]
  rw [if_pos ⟨low, high⟩, whole]

section
variable {begun : Pending} {bits : Nat}

theorem decodeFrom_last (owed : begun.owed = 1) (shifted : begun.bits = bits / 64)
    (low : begun.low ≤ 0x80 + bits % 64) (high : 0x80 + bits % 64 ≤ begun.high) (rest : Bytes) :
    decodeFrom (some begun) (UInt8.ofNat (0x80 + bits % 64) :: rest) =
      Char.ofNat bits :: decodeFrom none rest := by
  rw [decodeFrom, step_continuation shifted low high, if_pos owed]
  rfl

theorem decodeFrom_next {owed : Nat} (more : begun.owed = owed + 2) (shifted : begun.bits = bits / 64)
    (low : begun.low ≤ 0x80 + bits % 64) (high : 0x80 + bits % 64 ≤ begun.high) (rest : Bytes) :
    decodeFrom (some begun) (UInt8.ofNat (0x80 + bits % 64) :: rest) =
      decodeFrom (some ⟨bits, owed + 1, 0x80, 0xBF⟩) rest := by
  rw [decodeFrom, step_continuation shifted low high, if_neg (by omega), more]
  rfl

end

section
variable {code : Nat}

theorem decodeFrom_one (high : code < 0x80) (rest : Bytes) :
    decodeFrom none (UInt8.ofNat code :: rest) = Char.ofNat code :: decodeFrom none rest := by
  have small : (UInt8.ofNat code).toNat = code :=
    UInt8.toNat_ofNat_of_lt' (show code < 256 by omega)
  simp only [decodeFrom, step, fresh, start, small, high, if_true]
  rfl

/-- A byte that leads two or more opens a character. -/
private theorem decodeFrom_lead {byte : UInt8} {begun : Pending} (leads : start byte = .lead begun)
    (rest : Bytes) : decodeFrom none (byte :: rest) = decodeFrom (some begun) rest := by
  simp only [decodeFrom, step, fresh, leads]
  rfl

private theorem start_two (low : 0x80 ≤ code) (high : code < 0x800) :
    start (UInt8.ofNat (0xC0 + code / 64)) = .lead ⟨code / 64, 1, 0x80, 0xBF⟩ := by
  have small : (UInt8.ofNat (0xC0 + code / 64)).toNat = 0xC0 + code / 64 :=
    UInt8.toNat_ofNat_of_lt' (show 0xC0 + code / 64 < 256 by omega)
  simp only [start, small]
  rw [if_neg (by omega), if_neg (by omega), if_pos (by omega), Nat.add_sub_cancel_left]

private theorem start_three (low : 0x800 ≤ code) (high : code < 0x10000) :
    start (UInt8.ofNat (0xE0 + code / 4096)) = .lead ⟨code / 4096, 2,
      if code / 4096 = 0 then 0xA0 else 0x80, if code / 4096 = 13 then 0x9F else 0xBF⟩ := by
  have small : (UInt8.ofNat (0xE0 + code / 4096)).toNat = 0xE0 + code / 4096 :=
    UInt8.toNat_ofNat_of_lt' (show 0xE0 + code / 4096 < 256 by omega)
  have first : 0xE0 + code / 4096 = 0xE0 ↔ code / 4096 = 0 := by omega
  have last : 0xE0 + code / 4096 = 0xED ↔ code / 4096 = 13 := by omega
  simp only [start, small, first, last]
  rw [if_neg (by omega), if_neg (by omega), if_neg (by omega), if_pos (by omega),
    Nat.add_sub_cancel_left]

private theorem start_four (low : 0x10000 ≤ code) (high : code < 0x110000) :
    start (UInt8.ofNat (0xF0 + code / 262144)) = .lead ⟨code / 262144, 3,
      if code / 262144 = 0 then 0x90 else 0x80, if code / 262144 = 4 then 0x8F else 0xBF⟩ := by
  have small : (UInt8.ofNat (0xF0 + code / 262144)).toNat = 0xF0 + code / 262144 :=
    UInt8.toNat_ofNat_of_lt' (show 0xF0 + code / 262144 < 256 by omega)
  have first : 0xF0 + code / 262144 = 0xF0 ↔ code / 262144 = 0 := by omega
  have last : 0xF0 + code / 262144 = 0xF4 ↔ code / 262144 = 4 := by omega
  simp only [start, small, first, last]
  rw [if_neg (by omega), if_neg (by omega), if_neg (by omega), if_neg (by omega),
    if_pos (by omega), Nat.add_sub_cancel_left]

private theorem decodeFrom_two (low : 0x80 ≤ code) (high : code < 0x800) (rest : Bytes) :
    decodeFrom none (UInt8.ofNat (0xC0 + code / 64) :: UInt8.ofNat (0x80 + code % 64) :: rest) =
      Char.ofNat code :: decodeFrom none rest := by
  rw [decodeFrom_lead (start_two low high),
    decodeFrom_last rfl rfl (Nat.le_add_right _ _) (by dsimp only; omega)]

private theorem decodeFrom_three (low : 0x800 ≤ code) (high : code < 0x10000)
    (whole : code < 0xD800 ∨ 0xDFFF < code) (rest : Bytes) :
    decodeFrom none (UInt8.ofNat (0xE0 + code / 4096) :: UInt8.ofNat (0x80 + code / 64 % 64) ::
        UInt8.ofNat (0x80 + code % 64) :: rest) = Char.ofNat code :: decodeFrom none rest := by
  rw [decodeFrom_lead (start_three low high),
    decodeFrom_next rfl (by dsimp only; omega) (by dsimp only; split <;> omega)
      (by dsimp only; split <;> omega),
    decodeFrom_last rfl rfl (Nat.le_add_right _ _) (by dsimp only; omega)]

private theorem decodeFrom_four (low : 0x10000 ≤ code) (high : code < 0x110000) (rest : Bytes) :
    decodeFrom none (UInt8.ofNat (0xF0 + code / 262144) :: UInt8.ofNat (0x80 + code / 4096 % 64) ::
        UInt8.ofNat (0x80 + code / 64 % 64) :: UInt8.ofNat (0x80 + code % 64) :: rest) =
      Char.ofNat code :: decodeFrom none rest := by
  rw [decodeFrom_lead (start_four low high),
    decodeFrom_next rfl (by dsimp only; omega) (by dsimp only; split <;> omega)
      (by dsimp only; split <;> omega),
    decodeFrom_next rfl (by dsimp only; omega) (Nat.le_add_right _ _) (by dsimp only; omega),
    decodeFrom_last rfl rfl (Nat.le_add_right _ _) (by dsimp only; omega)]

end

/-- Characters are never surrogates, and end with the last code point. -/
theorem toNat_valid (char : Char) :
    char.toNat < 0xD800 ∨ 0xDFFF < char.toNat ∧ char.toNat < 0x110000 := char.valid

private theorem decodeFrom_encodeChar (char : Char) (rest : Bytes) :
    decodeFrom none (encodeChar char ++ rest) = char :: decodeFrom none rest := by
  have valid := toNat_valid char
  simp only [encodeChar, Nat.div_one]
  split
  · rename_i one
    rw [List.singleton_append, decodeFrom_one one, Char.ofNat_toNat]
  · split
    · rename_i one two
      exact (decodeFrom_two (by omega) two rest).trans (by rw [Char.ofNat_toNat])
    · split
      · rename_i two three
        exact (decodeFrom_three (by omega) three (by omega) rest).trans (by rw [Char.ofNat_toNat])
      · rename_i three
        exact (decodeFrom_four (by omega) (by omega) rest).trans (by rw [Char.ofNat_toNat])

theorem decodeFrom_encode (text : List Char) : decodeFrom none (encode text) = text := by
  induction text with
  | nil => rfl
  | cons char rest ih => rw [encode, List.flatMap_cons, decodeFrom_encodeChar, ← encode, ih]

/-- Decoding gives every text back. -/
theorem decode_encode (text : String) : decode (encode text.toList) = text := by
  rw [decode, decodeFrom_encode, String.ofList_toList]

theorem length_encodeChar (char : Char) : (encodeChar char).length = char.utf8Size := by
  have one : char.val ≤ 0x7F ↔ char.toNat < 0x80 := UInt32.le_iff_toNat_le.trans Nat.lt_succ_iff.symm
  have two : char.val ≤ 0x7FF ↔ char.toNat < 0x800 :=
    UInt32.le_iff_toNat_le.trans Nat.lt_succ_iff.symm
  have three : char.val ≤ 0xFFFF ↔ char.toNat < 0x10000 :=
    UInt32.le_iff_toNat_le.trans Nat.lt_succ_iff.symm
  show _ = if char.val ≤ 0x7F then 1 else if char.val ≤ 0x7FF then 2
    else if char.val ≤ 0xFFFF then 3 else 4
  simp only [encodeChar, one, two, three]
  repeat' split
  all_goals rfl

private theorem length_encode_eq_ofList (text : List Char) :
    (encode text).length = (String.ofList text).utf8ByteSize := by
  induction text with
  | nil => rfl
  | cons char rest ih =>
    rw [encode, List.flatMap_cons, List.length_append, ← encode, ih, length_encodeChar,
      String.ofList_cons, String.utf8ByteSize_append, String.utf8ByteSize_singleton]

theorem length_encode (text : String) : (encode text.toList).length = text.utf8ByteSize := by
  rw [length_encode_eq_ofList, String.ofList_toList]

/-- Every character takes a byte at least. -/
theorem length_le_utf8ByteSize (text : String) : text.toList.length ≤ text.utf8ByteSize := by
  rw [← length_encode]
  induction text.toList with
  | nil => exact Nat.le_refl 0
  | cons char rest ih =>
    have some := char.utf8Size_pos
    rw [encode, List.flatMap_cons, List.length_append, ← encode, length_encodeChar, List.length_cons]
    omega

/-- Characters of one byte each. -/
theorem utf8ByteSize_of_narrow {text : List Char} (narrow : ∀ char ∈ text, char.utf8Size = 1) :
    (String.ofList text).utf8ByteSize = text.length := by
  induction text with
  | nil => rfl
  | cons char rest ih =>
    obtain ⟨first, others⟩ := List.forall_mem_cons.mp narrow
    rw [String.ofList_cons, String.utf8ByteSize_append, String.utf8ByteSize_singleton, first, ih others,
      List.length_cons, Nat.add_comm]

private theorem ofNat_ne_zero {code : Nat} (positive : 0 < code) (small : code < 256) :
    UInt8.ofNat code ≠ 0 := by
  intro zero
  have same := UInt8.toNat_ofNat_of_lt' (show code < UInt8.size from small)
  rw [zero] at same
  exact absurd same (by simpa using Nat.ne_of_lt positive)

/-- Of all characters only NUL has a zero byte. -/
theorem ne_zero_of_mem_encodeChar {char : Char} {byte : UInt8} (written : char ≠ '\x00')
    (member : byte ∈ encodeChar char) : byte ≠ 0 := by
  have valid := toNat_valid char
  have positive : char.toNat ≠ 0 := by
    intro zero
    exact written ((Char.ofNat_toNat char).symm.trans (congrArg Char.ofNat zero))
  simp only [encodeChar] at member
  repeat' split at member
  all_goals
    simp only [List.mem_cons, List.not_mem_nil, or_false] at member
    rcases member with rfl | rfl | rfl | rfl <;> apply ofNat_ne_zero <;> omega

/-- A text without NUL ends where a zero byte comes behind it. -/
theorem untilZero_encode {text : List Char} (free : '\x00' ∉ text) (rest : Bytes) :
    Bytes.untilZero (encode text ++ 0 :: rest) = encode text := by
  have kept : ∀ byte ∈ encode text, (byte != 0) = true := by
    intro byte member
    obtain ⟨char, present, inside⟩ := List.mem_flatMap.mp member
    have written : char ≠ '\x00' := fun nul => free (nul ▸ present)
    exact bne_iff_ne.mpr (ne_zero_of_mem_encodeChar written inside)
  rw [Bytes.untilZero, List.takeWhile_append_of_pos kept]
  simp

end Offload.Text.Utf8

namespace Offload

/-- The texts that can be handed over are those without NUL. -/
theorem nativeText?_eq (text : String) :
    nativeText? text = if '\x00' ∈ text.toList then none else some text := by
  have nul : ∀ char : Char, (char.toNat == 0) = true ↔ char = '\x00' := by
    intro char
    refine beq_iff_eq.trans ⟨fun zero => ?_, fun same => same ▸ rfl⟩
    exact (Char.ofNat_toNat char).symm.trans (congrArg Char.ofNat zero)
  simp only [nativeText?, List.any_eq_true, nul, exists_eq_right]

namespace Simulator

theorem length_textBytes (text : String) : (textBytes text).length = text.utf8ByteSize + 1 := by
  rw [textBytes, List.length_append, Text.Utf8.length_encode]
  rfl

/-- A text without NUL is read back as it was stored. -/
theorem decode_textBytes {text : String} (free : '\x00' ∉ text.toList) :
    Text.Utf8.decode (textBytes text).untilZero = text := by
  rw [textBytes, Text.Utf8.untilZero_encode free, Text.Utf8.decode_encode]

end Simulator
end Offload
