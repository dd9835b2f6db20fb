import Mathlib.Data.Int.Bitwise
import Offload.Proofs.InitialContents

/-! Numbers on their way through memory. Bytes stand for the number whose bits they hold, lowest byte
first, whatever type they are read as and wherever in a buffer they lie. Numbers that are written,
given to a new buffer or stored as an answer are read back as they were. -/
namespace Offload

theorem LittleEndian.capacity_eq (width : Nat) : capacity width = 2 ^ (8 * width) := by
  induction width with
  | zero => rfl
  | succ width ih => rw [capacity, ih, Nat.mul_succ, Nat.pow_add, Nat.mul_comm]

theorem testBit_emod (value : Int) {position width : Nat} (low : position < width) :
    (value % (2 ^ width : Nat)).toNat.testBit position = value.testBit position := by
  cases value with
  | ofNat value =>
    have residue : (Int.ofNat value % (2 ^ width : Nat)).toNat = value % 2 ^ width := by
      rw [Int.ofNat_eq_natCast, ← Int.natCast_emod, Int.toNat_natCast]
    rw [residue, Nat.testBit_mod_two_pow]
    simp [low, Int.testBit]
  | negSucc value =>
    have bounded := Nat.mod_lt value (Nat.two_pow_pos width)
    have residue : (Int.negSucc value % (2 ^ width : Nat)).toNat = 2 ^ width - (value % 2 ^ width + 1) := by
      have positive : (0 : Int) < (2 ^ width : Nat) := Int.natCast_pos.mpr (Nat.two_pow_pos width)
      rw [Int.negSucc_emod _ positive, ← Int.natCast_emod]
      omega
    rw [residue, Nat.testBit_two_pow_sub_succ bounded, Nat.testBit_mod_two_pow]
    simp [low, Int.testBit]

/-- Numbers with the same low bits have the same residue. -/
theorem eq_of_testBit_emod {first second : Int} {width : Nat}
    (same : ∀ position < width, first.testBit position = second.testBit position) :
    first % (2 ^ width : Nat) = second % (2 ^ width : Nat) := by
  have positive : (0 : Int) < (2 ^ width : Nat) := Int.natCast_pos.mpr (Nat.two_pow_pos width)
  have natural (value : Int) : 0 ≤ value % (2 ^ width : Nat) :=
    Int.emod_nonneg _ (Int.ne_of_gt positive)
  have small (value : Int) : (value % (2 ^ width : Nat)).toNat < 2 ^ width :=
    (Int.toNat_lt (natural value)).mpr (Int.emod_lt_of_pos _ positive)
  rw [← Int.toNat_of_nonneg (natural first), ← Int.toNat_of_nonneg (natural second)]
  apply congrArg
  apply Nat.eq_of_testBit_eq
  intro position
  by_cases low : position < width
  · rw [testBit_emod _ low, testBit_emod _ low, same position low]
  · have power : 2 ^ width ≤ 2 ^ position := Nat.pow_le_pow_right (by decide) (Nat.le_of_not_lt low)
    rw [Nat.testBit_lt_two_pow (Nat.lt_of_lt_of_le (small first) power),
      Nat.testBit_lt_two_pow (Nat.lt_of_lt_of_le (small second) power)]

namespace ScalarType

/-- A value of the type whose bits are those of the bytes, lowest byte first. -/
structure Spells (type : ScalarType) (bytes : Bytes) (value : Int) : Prop where
  held : type.Holds value
  bits : ∀ place < type.width, ∀ bit < 8,
    value.testBit (8 * place + bit) = (bytes.getD place 0).toNat.testBit bit

/-- Values of a type that stand one behind another in memory, from an offset on. -/
structure Reinterprets (type : ScalarType) (bytes : Bytes) (offset count : Nat) (values : List Int) :
    Prop where
  counted : values.length = count
  spelled : ∀ index (inside : index < values.length),
    type.Spells (bytes.window (offset + type.width * index) type.width) values[index]

variable {type : ScalarType} {bytes : Bytes}

/-- What a number leaves behind in its bytes does not depend on its sign. -/
theorem decode_emod (sized : bytes.length = type.width) :
    type.decode bytes % (LittleEndian.capacity type.width : Int) = LittleEndian.toNat bytes := by
  have bound : (LittleEndian.toNat bytes : Int) < (LittleEndian.capacity type.width : Int) := by
    rw [← sized]
    exact Int.ofNat_lt.mpr (LittleEndian.toNat_lt bytes)
  have whole : (LittleEndian.toNat bytes : Int) % (LittleEndian.capacity type.width : Int) =
      LittleEndian.toNat bytes := Int.emod_eq_of_lt (Int.natCast_nonneg _) bound
  unfold decode LittleEndian.toInt
  rw [sized]
  split
  · split
    · exact whole
    · rw [Int.sub_emod_right, whole]
  · exact whole

private theorem spells_decode (sized : bytes.length = type.width) : type.Spells bytes (type.decode bytes) := by
  refine ⟨holds_decode sized, ?_⟩
  intro place below bit inside
  have low : 8 * place + bit < 8 * type.width := by omega
  rw [← testBit_emod _ low, ← LittleEndian.capacity_eq, decode_emod sized, Int.toNat_natCast,
    LittleEndian.testBit_toNat _ _ inside]

theorem Spells.unique {first second : Int} (spells : type.Spells bytes first)
    (other : type.Spells bytes second) : first = second := by
  apply eq_of_emod_eq spells.held other.held
  rw [LittleEndian.capacity_eq]
  apply eq_of_testBit_emod
  intro position low
  have below : position / 8 < type.width := by omega
  have inside : position % 8 < 8 := Nat.mod_lt position (by decide)
  have bits := (spells.bits _ below _ inside).trans (other.bits _ below _ inside).symm
  rwa [Nat.div_add_mod] at bits

private theorem spells_iff (sized : bytes.length = type.width) (value : Int) :
    type.Spells bytes value ↔ type.decode bytes = value := by
  constructor
  · exact (spells_decode sized).unique
  · rintro rfl
    exact spells_decode sized

/-- What is read from a range of bytes are the numbers that stand there, and no others. -/
theorem reinterprets_iff {offset count : Nat} (fits : offset + type.width * count ≤ bytes.length)
    (values : List Int) :
    type.Reinterprets bytes offset count values ↔
      type.decodeList count (bytes.window offset (type.width * count)) = values := by
  have apart : ∀ index < count, offset + type.width * index + type.width ≤ offset + type.width * count := by
    intro index inside
    have step := Nat.mul_le_mul_left type.width (Nat.succ_le_of_lt inside)
    rw [Nat.mul_succ] at step
    omega
  have sized : ∀ index < count,
      (bytes.window (offset + type.width * index) type.width).length = type.width := by
    intro index inside
    have := apart index inside
    rw [Bytes.length_window]
    omega
  have shown : ∀ index < count,
      (type.decodeList count (bytes.window offset (type.width * count)))[index]? =
        some (type.decode (bytes.window (offset + type.width * index) type.width)) := by
    intro index inside
    have := apart index inside
    rw [getElem?_decodeList type inside, Bytes.window_window _ _ (by omega)]
  constructor
  · intro reads
    apply List.ext_getElem?
    intro index
    by_cases inside : index < count
    · have within : index < values.length := reads.counted ▸ inside
      rw [shown index inside, List.getElem?_eq_getElem within,
        (spells_iff (sized index inside) _).mp (reads.spelled index within)]
    · rw [List.getElem?_eq_none, List.getElem?_eq_none]
      · rw [reads.counted]
        exact Nat.le_of_not_lt inside
      · rw [length_decodeList]
        exact Nat.le_of_not_lt inside
  · rintro rfl
    refine ⟨length_decodeList _ _ _, ?_⟩
    intro index within
    have inside : index < count := by rwa [length_decodeList] at within
    apply (spells_iff (sized index inside) _).mpr
    exact Option.some.inj ((shown index inside).symm.trans (List.getElem?_eq_getElem within))

end ScalarType
end Offload

namespace Offload.Host
open Simulator

theorem Fetches.imp {action : Action Machine Reading} {scene : Scene Machine} {first second : Block → Prop}
    (fetches : Fetches action scene first) (implies : ∀ memory, first memory → second memory) :
    Fetches action scene second := by
  obtain ⟨event, after, memory, performed, extended, holds⟩ := fetches
  exact ⟨event, after, memory, performed, extended, implies memory holds⟩

/-- Reading a buffer from an offset on gives these numbers. -/
def Returns (queue : Queue) (waits : List Event) (buffer : Memory) (offset : Nat) (type : ScalarType)
    (values : List Int) (scene : Scene Machine) : Prop :=
  Fetches (queue.readValues Machine.driver buffer offset type values.length waits) scene fun memory =>
    type.decodeList values.length memory.bytes = values

/-- Reading numbers of any type from any part of a buffer gives what the bytes stand for there. -/
def ReadsAs (queue : Queue) (waits : List Event) (buffer : Memory) (bytes : Bytes)
    (scene : Scene Machine) : Prop :=
  ∀ (type : ScalarType) (offset count : Nat), offset + type.width * count ≤ bytes.length →
    Fetches (queue.readValues Machine.driver buffer offset type count waits) scene fun memory =>
      ∀ values, type.decodeList count memory.bytes = values ↔
        type.Reinterprets bytes offset count values

section
variable {scene : Scene Machine} {queue : Queue} {waits : List Event} {buffer : Memory}
  {stored : Simulator.Memory} {offset : Nat} {type : ScalarType}
  (reachable : scene.world.Reachable) (ready : Ready scene.world queue waits)
  (buffered : Buffered scene.world buffer stored)
include reachable ready buffered

theorem readValues_window {count : Nat} (inside : offset + type.width * count ≤ stored.data.size) :
    Fetches (queue.readValues Machine.driver buffer offset type count waits) scene fun memory =>
      memory.bytes = stored.data.bytes.window offset (type.width * count) := by
  have enough : type.width * count ≤ (Block.zeros (type.width * count)).size := Nat.le_refl _
  apply (read_inside reachable ready buffered inside enough).imp
  intro memory patched
  apply List.ext_getElem?
  intro index
  rw [patched index, Bytes.getElem?_window]
  by_cases below : index < type.width * count
  · rw [if_pos below, if_pos ⟨Nat.zero_le _, by omega⟩, Nat.sub_zero]
  · have beyond : ¬ Covers 0 (type.width * count) index := by
      intro covered
      exact below (by have := covered.2; omega)
    rw [if_neg below, if_neg beyond, Block.bytes_zeros, List.getElem?_eq_none]
    rw [Bytes.length_zeros]
    exact Nat.le_of_not_lt below

private theorem readsAs_stored : ReadsAs queue waits buffer stored.data.bytes scene := by
  intro type offset count inside
  have fits := inside
  rw [Block.length_bytes] at fits
  apply (readValues_window reachable ready buffered fits).imp
  intro memory same values
  rw [same]
  exact (ScalarType.reinterprets_iff inside values).symm

private theorem returns_stored {values : List Int} (fit : ∀ value ∈ values, type.Holds value)
    (fits : offset + type.width * values.length ≤ stored.data.size)
    (holds : stored.data.bytes.window offset (type.encodeList values).length = type.encodeList values) :
    Returns queue waits buffer offset type values scene := by
  apply (readValues_window reachable ready buffered fits).imp
  intro memory same
  rw [← type.length_encodeList, holds] at same
  rw [same, type.decodeList_encodeList values fit]

end

namespace Question
variable {σ : Type} {question : Question σ} {among : σ → Prop} {scene : Scene σ} {type : ScalarType}
  {values : List Int}

theorem perform_value_eq (question : Question σ) (type : ScalarType) (scene : Scene σ) :
    (question.value type).perform scene =
      ((fun numbers => numbers.headD 0) <$> question.array type 1).perform scene := by
  have mapped : (fun numbers => numbers.headD 0) <$> question.array type 1 =
      question.array type 1 >>= fun numbers => pure (numbers.headD 0) := rfl
  have small : type.width ≤ memoryLimit := by cases type <;> decide
  rw [mapped, Action.perform_bind, value, array, Nat.mul_one, Action.perform_bind, Action.perform_bind,
    reserve_of_le small, Action.perform_ofFaulty_ok]
  dsimp only
  rw [Action.perform_bind, fetch, perform_heard]
  cases heard (question ⟨type.width, true, false⟩ scene.world).1 with
  | error stop => rfl
  | ok response =>
    have whole : ((Block.zeros type.width).patch response.writes).bytes.take type.width =
        ((Block.zeros type.width).patch response.writes).bytes := by
      apply List.take_of_length_le
      rw [Block.length_bytes, Block.size_patch]
      rfl
    simp only [Action.perform_pure, ScalarType.decodeList, List.headD_cons, whole]

/-- Numbers that answer a question are taken over, with zeros behind them, if there is room for all
of them. -/
theorem perform_array (answers : question.Answers among (type.encodeList values))
    (inside : among scene.world) (fit : ∀ value ∈ values, type.Holds value) {count : Nat}
    (small : type.width * count ≤ memoryLimit) :
    (question.array type count).perform scene =
      (if values.length ≤ count then .ok (values ++ List.replicate (count - values.length) 0)
        else .error (.failed (.native .invalidValue)),
        { scene with world := question.afterAll [⟨type.width * count, true, false⟩] scene.world }) := by
  have length := type.length_encodeList values
  rw [array, Action.perform_bind, reserve_of_le small, Action.perform_ofFaulty_ok]
  dsimp only
  by_cases room : values.length ≤ count
  · have enough : (type.encodeList values).length ≤ type.width * count :=
      length ▸ Nat.mul_le_mul_left type.width room
    obtain ⟨buffer, _, stored, _, fetched⟩ := perform_fetch answers inside enough false
    have read : type.decodeList count buffer.bytes =
        values ++ List.replicate (count - values.length) 0 := by
      have split : count = values.length + (count - values.length) := by omega
      rw [stored, length, ← Nat.mul_sub, split, type.decodeList_append length,
        type.decodeList_encodeList values fit, Nat.add_sub_cancel_left, type.decodeList_zeros]
    rw [Action.perform_bind, fetched, if_pos room]
    dsimp only
    rw [Action.perform_pure, read]
  · have short : type.width * count < (type.encodeList values).length :=
      length ▸ Nat.mul_lt_mul_of_pos_left (Nat.lt_of_not_le room) type.width_pos
    obtain ⟨response, answered, usual, _⟩ := answers scene.world inside ⟨type.width * count, true, false⟩
    have failed := ofStatus?_eq_native_iff.mpr (usual.refused rfl short)
    rw [Action.perform_bind, perform_fetch_failed answered (check_eq_error_iff.mpr failed),
      if_neg room]

end Question

/-- Numbers of every type come through unchanged. What is written to a buffer, wherever it starts, or
given to a new one is read back as it was, and every other way of reading the buffer gives what its
bytes stand for there. Numbers that answer a question are taken over if there is room for all of
them, and are refused otherwise. -/
theorem numbers_carried_exactly (type : ScalarType) {values : List Int}
    (fit : ∀ value ∈ values, type.Holds value) :
    (∀ (scene : Scene Machine) (queue : Queue) (waits : List Event) (buffer : Memory)
        (stored : Simulator.Memory) (offset : Nat),
      scene.world.Reachable → Ready scene.world queue waits → Buffered scene.world buffer stored →
      offset + type.width * values.length ≤ stored.data.size →
        ∃ event after,
          (queue.writeValues Machine.driver buffer offset type values waits).perform scene =
            (.ok event, after) ∧
          ∀ later, later.length < 2 ^ 32 → (∀ wait ∈ later, wait ∈ event :: waits) →
            Returns queue later buffer offset type values after ∧
            ReadsAs queue later buffer (stored.data.bytes.overwrite offset (type.encodeList values))
              after) ∧
    (∀ (scene : Scene Machine) (context : Context) (flags : UInt64) (queue : Queue)
        (waits : List Event),
      scene.world.Reachable → Provides scene.world context → LendableFlags flags →
      Ready scene.world queue waits → values ≠ [] → (type.encodeList values).length ≤ memoryLimit →
        ∃ buffer after,
          (context.newBufferOf Machine.driver flags type values).perform scene = (.ok buffer, after) ∧
          Returns queue waits buffer 0 type values after ∧
          ReadsAs queue waits buffer (type.encodeList values) after) ∧
    Question.Answers (fun window (machine : Machine) =>
      machine.query (respond (type.encodeList values) window)) (fun _ => True) (type.encodeList values) ∧
    ∀ (σ : Type) (question : Question σ) (among : σ → Prop) (scene : Scene σ),
      question.Answers among (type.encodeList values) → among scene.world →
        (∀ count, type.width * count ≤ memoryLimit → (question.array type count).perform scene =
          (if values.length ≤ count then .ok (values ++ List.replicate (count - values.length) 0)
            else .error (.failed (.native .invalidValue)),
            { scene with world :=
              question.afterAll [⟨type.width * count, true, false⟩] scene.world })) ∧
        (question.value type).perform scene =
          ((fun numbers => numbers.headD 0) <$> question.array type 1).perform scene := by
  refine ⟨?_, ?_, ?_, ?_⟩
  · intro scene queue waits buffer stored offset reachable ready buffered fits
    obtain ⟨event, after, data, performed, reached, again, rewritten, bytes⟩ :=
      writeValues_carries reachable ready buffered fits
    refine ⟨event, after, performed, ?_⟩
    intro later few known
    have still : Buffered after.world buffer { stored with data := data } :=
      ⟨rewritten.written, buffered.flat⟩
    have sized : data.size = stored.data.size := by
      rw [← Block.length_bytes, bytes, Bytes.length_overwrite, Block.length_bytes]
    rw [← bytes]
    refine ⟨returns_stored reached (again later few known) still fit (sized ▸ fits) ?_,
      readsAs_stored reached (again later few known) still⟩
    rw [bytes]
    apply Bytes.window_overwrite
    rw [type.length_encodeList, Block.length_bytes]
    exact fits
  · intro scene context flags queue waits reachable provides lendable ready filled small
    obtain ⟨buffer, after, data, performed, made, bytes⟩ :=
      newBufferOf_makes reachable provides lendable type filled small
    refine ⟨buffer, after, performed, ?_⟩
    have still : Buffered after.world buffer { data := data } :=
      ⟨Store.memory_ok_iff.mpr made.stored, rfl⟩
    have sized : data.size = type.width * values.length := by
      rw [← Block.length_bytes, bytes, type.length_encodeList]
    have fits : 0 + type.width * values.length ≤ data.size := by omega
    rw [← bytes]
    refine ⟨returns_stored made.reachable (ready.made made) still fit fits ?_,
      readsAs_stored made.reachable (ready.made made) still⟩
    rw [bytes, Bytes.window, List.drop_zero, List.take_length]
  · exact .of_respond (fun machine _ _ => ⟨machine, rfl⟩) fun _ _ _ => trivial
  · intro σ question among scene answers inside
    exact ⟨fun _ small => Question.perform_array answers inside fit small,
      Question.perform_value_eq question type scene⟩

/-- A negative number of two bytes, written to the middle of a buffer, given to a new one and taken
from an answer with room for two. -/
theorem negative_carried_unaligned :
    (∀ value ∈ [-2], ScalarType.int16.Holds value) ∧
    (furnished.Reachable ∧ Ready furnished furnishedQueue [] ∧
      Buffered furnished fourBytes ⟨Block.zeros 4, none⟩ ∧ 1 + ScalarType.int16.width * 1 ≤ 4) ∧
    (∃ event after,
      (furnishedQueue.writeValues Machine.driver fourBytes 1 .int16 [-2] []).perform ⟨furnished, []⟩ =
        (.ok event, after) ∧
      Returns furnishedQueue [event] fourBytes 1 .int16 [-2] after ∧
      ReadsAs furnishedQueue [event] fourBytes [0, 0xFE, 0xFF, 0] after) ∧
    ∀ machine : Machine,
      (Question.array (fun window machine => machine.query (respond [0xFE, 0xFF] window)) .int16 2).perform
        ⟨machine, []⟩ = (.ok [-2, 0], ⟨machine, []⟩) := by
  have fit : ∀ value ∈ [-2], ScalarType.int16.Holds value := by decide
  obtain ⟨written, _, answers, asked⟩ := numbers_carried_exactly .int16 fit
  have inside : 1 + ScalarType.int16.width * 1 ≤ (Block.zeros 4).size := by decide
  obtain ⟨event, after, performed, again⟩ := written ⟨furnished, []⟩ furnishedQueue [] fourBytes _ 1
    reachable_furnished ready_furnished buffered_fourBytes inside
  obtain ⟨returns, reads⟩ := again [event] (Nat.lt_of_sub_eq_succ rfl) fun wait waiting => by simpa using waiting
  refine ⟨fit, ⟨reachable_furnished, ready_furnished, buffered_fourBytes, inside⟩,
    ⟨event, after, performed, returns, ?_⟩, ?_⟩
  · rw [Block.bytes_zeros] at reads
    exact reads
  · intro machine
    exact (asked _ _ _ ⟨machine, []⟩ answers trivial).1 2 (by decide)

end Offload.Host
