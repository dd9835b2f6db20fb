import Offload.Bytes

/-! Numbers as bytes, lowest byte first. Writing keeps the number modulo
the capacity of its bytes, so reading gives back whatever fits. -/
namespace Offload.LittleEndian

/-- How many different values some bytes can hold. -/
def capacity : (width : Nat) → Nat
  | 0 => 1
  | width + 1 => 256 * capacity width

/-- The number whose digits to base 256 are the given bytes, lowest first. -/
def toNat : Bytes → Nat
  | [] => 0
  | byte :: rest => byte.toNat + 256 * toNat rest

/-- The lowest `width` digits of a number to base 256. -/
def ofNat : (width : Nat) → Nat → Bytes
  | 0, _ => []
  | width + 1, value => UInt8.ofNat (value % 256) :: ofNat width (value / 256)

/-- A signed number as its two's complement of `width` bytes. -/
def ofInt (width : Nat) (value : Int) : Bytes :=
  ofNat width (value % (capacity width : Int)).toNat

/-- The signed number whose two's complement the bytes are. -/
def toInt (bytes : Bytes) : Int :=
  if 2 * toNat bytes < capacity bytes.length then toNat bytes
  else (toNat bytes : Int) - (capacity bytes.length : Int)

@[simp] theorem length_ofNat (width value : Nat) : (ofNat width value).length = width := by
  induction width generalizing value with
  | zero => rfl
  | succ width ih => simp [ofNat, ih]

@[simp] theorem length_ofInt (width : Nat) (value : Int) : (ofInt width value).length = width := by
  simp [ofInt]

theorem toNat_lt (bytes : Bytes) : toNat bytes < capacity bytes.length := by
  induction bytes with
  | nil => simp [toNat, capacity]
  | cons byte rest ih =>
    have small := byte.toNat_lt
    simp only [toNat, List.length_cons, capacity]
    omega

theorem toNat_ofNat (width value : Nat) : toNat (ofNat width value) = value % capacity width := by
  induction width generalizing value with
  | zero => simp [ofNat, toNat, capacity, Nat.mod_one]
  | succ width ih =>
    have low : (UInt8.ofNat (value % 256)).toNat = value % 256 := by simp
    rw [ofNat, toNat, ih, low, capacity, Nat.mod_mul]

/-- Eight bits of a number are one of its bytes. -/
theorem testBit_toNat (bytes : Bytes) (place : Nat) {bit : Nat} (inside : bit < 8) :
    (toNat bytes).testBit (8 * place + bit) = (bytes.getD place 0).toNat.testBit bit := by
  induction bytes generalizing place with
  | nil => simp [toNat]
  | cons byte rest ih =>
    have small : byte.toNat < 2 ^ 8 := byte.toNat_lt
    have split : toNat (byte :: rest) = 2 ^ 8 * toNat rest + byte.toNat := Nat.add_comm _ _
    rw [split, Nat.testBit_two_pow_mul_add _ small]
    cases place with
    | zero =>
      rw [Nat.mul_zero, Nat.zero_add, if_pos inside]
      rfl
    | succ place =>
      have higher : ¬ 8 * (place + 1) + bit < 8 := by omega
      have shifted : 8 * (place + 1) + bit - 8 = 8 * place + bit := by omega
      rw [if_neg higher, shifted, ih]
      rfl

end Offload.LittleEndian
