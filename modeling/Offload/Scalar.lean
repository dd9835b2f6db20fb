import Offload.LittleEndian

/-! The plain numeric types that cross the border between host and device byte
for byte. A value is an `Int`; a floating-point value is its bit pattern. -/
namespace Offload

inductive ScalarType where
  | uint8 | int8 | uint16 | int16 | uint32 | int32 | uint64 | int64 | float32 | float64
  deriving DecidableEq, Repr

namespace ScalarType

/-- Bytes of one value. -/
def width : ScalarType → Nat
  | uint8 | int8 => 1
  | uint16 | int16 => 2
  | uint32 | int32 | float32 => 4
  | uint64 | int64 | float64 => 8

def isSigned : ScalarType → Bool
  | int8 | int16 | int32 | int64 => true
  | _ => false

/-- Whether the type has this value. -/
def Holds (type : ScalarType) (value : Int) : Prop :=
  let capacity : Int := LittleEndian.capacity type.width
  if type.isSigned then -capacity ≤ 2 * value ∧ 2 * value < capacity
  else 0 ≤ value ∧ value < capacity

instance (type : ScalarType) (value : Int) : Decidable (type.Holds value) := by
  unfold Holds; infer_instance

def encode (type : ScalarType) (value : Int) : Bytes := LittleEndian.ofInt type.width value

def decode (type : ScalarType) (bytes : Bytes) : Int :=
  if type.isSigned then LittleEndian.toInt bytes else LittleEndian.toNat bytes

/-- The bytes of consecutive values. -/
def encodeList (type : ScalarType) (values : List Int) : Bytes := values.flatMap type.encode

/-- The first `count` values stored in the bytes. -/
def decodeList (type : ScalarType) : (count : Nat) → Bytes → List Int
  | 0, _ => []
  | count + 1, bytes =>
    type.decode (bytes.take type.width) :: type.decodeList count (bytes.drop type.width)

theorem width_pos (type : ScalarType) : 0 < type.width := by
  cases type <;> decide

@[simp] theorem length_encode (type : ScalarType) (value : Int) :
    (type.encode value).length = type.width := by simp [encode]

theorem length_encodeList (type : ScalarType) (values : List Int) :
    (type.encodeList values).length = type.width * values.length := by
  induction values with
  | nil => simp [encodeList]
  | cons value rest ih =>
    simp only [encodeList, List.flatMap_cons, List.length_append, length_encode,
      List.length_cons] at ih ⊢
    rw [ih, Nat.mul_succ, Nat.add_comm]

/-- Reading a value of the type gives back what was written. -/
theorem decode_encode (type : ScalarType) (value : Int) (fits : type.Holds value) :
    type.decode (type.encode value) = value := by
  unfold Holds at fits
  cases type <;>
    simp only [decode, encode, LittleEndian.toInt, LittleEndian.ofInt, LittleEndian.toNat_ofNat,
      LittleEndian.length_ofNat, LittleEndian.capacity, isSigned, width, if_true, Bool.false_eq_true, if_false] at fits ⊢ <;>
    (try split) <;> omega

/-- Whatever the bytes are, they are read as a value of the type. -/
theorem holds_decode {type : ScalarType} {bytes : Bytes} (sized : bytes.length = type.width) :
    type.Holds (type.decode bytes) := by
  have bound := LittleEndian.toNat_lt bytes
  rw [sized] at bound
  unfold Holds decode LittleEndian.toInt
  rw [sized]
  split
  · split <;> omega
  · omega

/-- Values of the type are told apart by what is left of them in its bytes. -/
theorem eq_of_emod_eq {type : ScalarType} {first second : Int} (fits : type.Holds first)
    (fitsToo : type.Holds second)
    (same : first % (LittleEndian.capacity type.width : Int) =
      second % (LittleEndian.capacity type.width : Int)) : first = second := by
  have written : type.encode first = type.encode second := by
    rw [encode, encode, LittleEndian.ofInt, LittleEndian.ofInt, same]
  rw [← type.decode_encode first fits, written, type.decode_encode second fitsToo]

/-- Reading a list of values of the type gives back what was written. -/
theorem decodeList_encodeList (type : ScalarType) (values : List Int)
    (fit : ∀ value ∈ values, type.Holds value) :
    type.decodeList values.length (type.encodeList values) = values := by
  induction values with
  | nil => rfl
  | cons value rest ih =>
    have width : (type.encode value).length = type.width := length_encode type value
    have tail := ih fun other member => fit other (List.mem_cons_of_mem _ member)
    simp only [encodeList] at tail
    rw [encodeList, List.flatMap_cons, List.length_cons, decodeList, List.take_left' width,
      List.drop_left' width, decode_encode type value (fit value List.mem_cons_self), tail]

theorem length_decodeList (type : ScalarType) (count : Nat) (bytes : Bytes) :
    (type.decodeList count bytes).length = count := by
  induction count generalizing bytes with
  | zero => rfl
  | succ count ih => rw [decodeList, List.length_cons, ih]

theorem getElem?_decodeList (type : ScalarType) {count index : Nat} (inside : index < count)
    (bytes : Bytes) :
    (type.decodeList count bytes)[index]? =
      some (type.decode (bytes.window (type.width * index) type.width)) := by
  induction count generalizing bytes index with
  | zero => omega
  | succ count ih =>
    rw [decodeList]
    cases index with
    | zero => rfl
    | succ index =>
      rw [List.getElem?_cons_succ, ih (by omega), Bytes.window, Bytes.window, List.drop_drop,
        Nat.mul_succ, Nat.add_comm]

theorem decodeList_append (type : ScalarType) {count : Nat} {first : Bytes}
    (sized : first.length = type.width * count) (more : Nat) (second : Bytes) :
    type.decodeList (count + more) (first ++ second) =
      type.decodeList count first ++ type.decodeList more second := by
  induction count generalizing first with
  | zero =>
    rw [List.eq_nil_of_length_eq_zero sized, Nat.zero_add]
    rfl
  | succ count ih =>
    rw [Nat.mul_succ] at sized
    have enough : type.width ≤ first.length := by omega
    have rest : (first.drop type.width).length = type.width * count := by
      rw [List.length_drop]
      omega
    rw [Nat.add_right_comm, decodeList, decodeList, List.take_append_of_le_length enough,
      List.drop_append_of_le_length enough, ih rest, List.cons_append]

theorem decodeList_zeros (type : ScalarType) (count : Nat) :
    type.decodeList count (Bytes.zeros (type.width * count)) = List.replicate count 0 := by
  induction count with
  | zero => rfl
  | succ count ih =>
    have blank : type.decode (Bytes.zeros type.width) = 0 := by cases type <;> rfl
    have split : Bytes.zeros (type.width * (count + 1)) =
        Bytes.zeros type.width ++ Bytes.zeros (type.width * count) := by
      rw [Nat.mul_succ, Nat.add_comm]
      exact List.replicate_append_replicate.symm
    rw [decodeList, split, List.take_left' (Bytes.length_zeros _), List.drop_left' (Bytes.length_zeros _),
      blank, ih, List.replicate_succ]

end ScalarType
end Offload
