import Offload.Proofs.Patches
import Offload.Proofs.Submissions

/-! Buffers as arrays of bytes. A command on a buffer is accepted exactly if its ranges lie inside
the buffers it names, and what it was asked for is all that it changes. Images have no byte
ranges, so that these commands are refused on them. -/
namespace Offload.Simulator
namespace Store
variable {store : Store} {id offset size : Nat} {memory : Memory}

theorem bufferRange_of_buffer (located : store.memory id = .ok memory) (flat : memory.shape? = none) :
    store.bufferRange id offset size =
      if offset + size ≤ memory.data.size then .ok memory else refuse .invalidValue := by
  have bare : memory.shape?.isNone = true := by rw [flat]; rfl
  by_cases fits : offset + size ≤ memory.data.size
  · rw [if_pos fits, bufferRange, located]
    simp only [bind, Except.bind, require, bare, fits, decide_true, if_true]
  · rw [if_neg fits, bufferRange, located]
    simp only [bind, Except.bind, require, bare, fits, decide_false, if_true, Bool.false_eq_true,
      if_false, refuse]

private theorem bufferRange_of_image (located : store.memory id = .ok memory)
    (shaped : memory.shape?.isSome = true) :
    store.bufferRange id offset size = refuse .invalidMemObject := by
  have bare : memory.shape?.isNone = false := by
    cases given : memory.shape? with
    | none => simp [given] at shaped
    | some shape => rfl
  rw [bufferRange, located]
  simp only [bind, Except.bind, require, bare, Bool.false_eq_true, if_false, refuse]

/-- A refused range is all that a command looks at. -/
theorem refused_of_bufferRange {error : NativeError}
    (refused : store.bufferRange id offset size = refuse error) :
    (∀ data, store.effect (.writeBuffer id offset size data) = refuse error) ∧
      (∀ target, store.effect (.readBuffer id offset size target) = refuse error) ∧
      (∀ pattern length, store.effect (.fillBuffer id pattern length offset size) = refuse error) ∧
      ∀ target targetOffset, store.effect (.copyBuffer id target offset targetOffset size) = refuse error := by
  refine ⟨?_, ?_, ?_, ?_⟩
  · intro data
    rw [effect, writeBuffer, refused]
    rfl
  · intro target
    rw [effect, readBuffer, refused]
    rfl
  · intro pattern length
    rw [effect, fillBuffer, refused]
    rfl
  · intro target targetOffset
    rw [effect, copyBuffer, refused]
    rfl

section
variable (ranged : store.bufferRange id offset size = .ok memory)
include ranged

theorem effect_writeBuffer (data : Block) :
    store.effect (.writeBuffer id offset size (some data)) =
      .ok { change := some (id, memory.data.overwrite offset (data.read 0 size)) } := by
  rw [effect, writeBuffer, ranged]
  rfl

private theorem effect_readBuffer :
    store.effect (.readBuffer id offset size true) =
      .ok { writes := [(0, memory.data.window offset size)] } := by
  rw [effect, readBuffer, ranged]
  rfl

/-- The source of a copy is looked at first. -/
theorem copied_of_refused {target targetOffset : Nat} {error : NativeError}
    (refused : store.bufferRange target targetOffset size = refuse error) :
    store.effect (.copyBuffer id target offset targetOffset size) = refuse error := by
  rw [effect, copyBuffer, ranged]
  dsimp only [bind, Except.bind]
  rw [refused]
  rfl

private theorem effect_copyBuffer {target targetOffset : Nat} {other : Memory}
    (targeted : store.bufferRange target targetOffset size = .ok other) :
    store.effect (.copyBuffer id target offset targetOffset size) =
      if id = target ∧ overlaps offset targetOffset size then refuse .memCopyOverlap
      else .ok {
        change := some (target, other.data.overwrite targetOffset (memory.data.window offset size)) } := by
  rw [effect, copyBuffer, ranged]
  dsimp only [bind, Except.bind]
  rw [targeted]
  by_cases crossing : id = target ∧ overlaps offset targetOffset size
  · simp [crossing, require, refuse]
  · have free : (!(id == target && overlaps offset targetOffset size)) = true := by
      rw [Bool.not_eq_true', Bool.and_eq_false_imp]
      intro same
      exact Bool.eq_false_iff.mpr fun meet => crossing ⟨beq_iff_eq.mp same, meet⟩
    simp only [if_neg crossing, require, free, if_true]

end

/-- Two ranges of one size overlap exactly if they share a position. -/
theorem overlaps_iff (first second size : Nat) :
    overlaps first second size = true ↔
      ∃ position, Covers first size position ∧ Covers second size position := by
  simp only [overlaps, Bool.and_eq_true, decide_eq_true_eq, Covers]
  constructor
  · intro crossing
    exact ⟨max first second, by omega⟩
  · rintro ⟨position, inFirst, inSecond⟩
    omega

private theorem isPowerOfTwo_iff (value : Nat) : isPowerOfTwo value = true ↔ value.isPowerOfTwo := by
  simp only [isPowerOfTwo, Bool.and_eq_true, bne_iff_ne, beq_iff_eq, Nat.isPowerOfTwo]
  constructor
  · rintro ⟨_, power⟩
    refine ⟨value.log2, ?_⟩
    rw [← Nat.one_shiftLeft, power]
  · rintro ⟨exponent, rfl⟩
    have positive := Nat.two_pow_pos exponent
    refine ⟨by omega, ?_⟩
    rw [Nat.log2_two_pow, Nat.one_shiftLeft]

/-- A pattern with which a range can be filled. -/
structure Tiles (length offset size : Nat) : Prop where
  power : length.isPowerOfTwo
  bounded : length ≤ 128
  placed : length ∣ offset
  whole : length ∣ size

theorem tiles_iff {length offset size : Nat} : Tiles length offset size ↔
    (isPowerOfTwo length && length ≤ 128 && offset % length == 0 && size % length == 0) = true := by
  simp only [Bool.and_eq_true, decide_eq_true_eq, beq_iff_eq, isPowerOfTwo_iff,
    ← Nat.dvd_iff_mod_eq_zero]
  constructor
  · rintro ⟨power, bounded, placed, whole⟩
    exact ⟨⟨⟨power, bounded⟩, placed⟩, whole⟩
  · rintro ⟨⟨⟨power, bounded⟩, placed⟩, whole⟩
    exact ⟨power, bounded, placed, whole⟩

theorem effect_fillBuffer (ranged : store.bufferRange id offset size = .ok memory) (pattern : Bytes) :
    (Tiles pattern.length offset size →
      store.effect (.fillBuffer id (some pattern) pattern.length offset size) =
        .ok { change := some (id, memory.data.overwrite offset (.tiled pattern size)) }) ∧
    (¬ Tiles pattern.length offset size →
      store.effect (.fillBuffer id (some pattern) pattern.length offset size) = refuse .invalidValue) := by
  have whole : pattern.read 0 pattern.length = pattern := by
    rw [Bytes.read, List.drop_zero, Bytes.padded_self pattern _ rfl]
  rw [tiles_iff, effect, fillBuffer, ranged]
  constructor
  · intro tiles
    simp only [bind, Except.bind, require, tiles, if_true, whole]
  · intro misfit
    rw [Bool.not_eq_true] at misfit
    simp only [bind, Except.bind, require, misfit, Bool.false_eq_true, if_false, refuse]

end Store
end Offload.Simulator

namespace Offload.Host
open Simulator

/-- A live buffer, and what the runtime keeps of it. -/
structure Buffered (machine : Machine) (buffer : Memory) (stored : Simulator.Memory) : Prop where
  located : machine.store.memory buffer.owned.handle = .ok stored
  flat : stored.shape? = none

/-- A range inside a buffer is found with the buffer. -/
theorem Buffered.range_inside {machine : Machine} {buffer : Memory} {stored : Simulator.Memory}
    {offset size : Nat} (buffered : Buffered machine buffer stored)
    (inside : offset + size ≤ stored.data.size) :
    machine.store.bufferRange buffer.owned.handle offset size = .ok stored :=
  (Store.bufferRange_of_buffer buffered.located buffered.flat).trans (if_pos inside)

private theorem Buffered.range_outside {machine : Machine} {buffer : Memory} {stored : Simulator.Memory}
    {offset size : Nat} (buffered : Buffered machine buffer stored)
    (outside : ¬ offset + size ≤ stored.data.size) :
    machine.store.bufferRange buffer.owned.handle offset size = refuse .invalidValue :=
  (Store.bufferRange_of_buffer buffered.located buffered.flat).trans (if_neg outside)

/-- A live image. -/
structure Pictured (machine : Machine) (image : Memory) (stored : Simulator.Memory) : Prop where
  located : machine.store.memory image.owned.handle = .ok stored
  shaped : stored.shape?.isSome = true

section
variable {scene : Scene Machine} {queue : Queue} {waits : List Event} {buffer image : Memory}
  {stored : Simulator.Memory} {offset size : Nat}
  (reachable : scene.world.Reachable) (ready : Ready scene.world queue waits)
include reachable

theorem held_of_located (located : scene.world.store.memory buffer.owned.handle = .ok stored) :
    buffer.owned.handle ≠ 0 :=
  reachable.ne_zero (Store.memory_ok_iff.mp located)

theorem settles_copying {target : Memory} {targetStored : Simulator.Memory} (offset targetOffset size : Nat)
    (sourced : scene.world.store.memory buffer.owned.handle = .ok stored)
    (targeted : scene.world.store.memory target.owned.handle = .ok targetStored) :
    Settles (do
      let source ← buffer.owned.use
      let target ← target.owned.use
      pure (Command.copyBuffer source target offset targetOffset size))
      (.ok (.copyBuffer buffer.owned.handle target.owned.handle offset targetOffset size)) := by
  have first := settles_use (held_of_located reachable sourced)
  have second := settles_use (held_of_located reachable targeted)
  exact .bind_ok first (.bind_ok second fun _ => rfl)

include ready

/-- Whatever keeps the range of a command from being looked at is what the command reports. -/
theorem refused_of_range (located : scene.world.store.memory buffer.owned.handle = .ok stored)
    {error : NativeError}
    (refused : scene.world.store.bufferRange buffer.owned.handle offset size = refuse error) :
    (∀ data, Refused (queue.write Machine.driver buffer offset size data waits) scene error) ∧
      (∀ memory, Withholds (queue.read Machine.driver buffer offset size (some memory) waits) scene
        memory error) ∧
      (∀ pattern, Refused (queue.fill Machine.driver buffer pattern offset size waits) scene error) ∧
      ∀ target targetStored targetOffset,
        scene.world.store.memory target.owned.handle = .ok targetStored →
          Refused (queue.copy Machine.driver buffer target offset targetOffset size waits) scene error := by
  obtain ⟨write, read, fill, copy⟩ := Store.refused_of_bufferRange refused
  have named := settles_command (held_of_located reachable located)
  refine ⟨?_, ?_, ?_, ?_⟩
  · intro data
    exact ready.refused reachable (named fun handle => .writeBuffer handle offset size data) (write data)
  · intro memory
    exact ready.withholds reachable (named fun handle => .readBuffer handle offset size true)
      (read true) memory
  · intro pattern
    exact ready.refused reachable
      (named fun handle => .fillBuffer handle (some pattern) pattern.length offset size)
      (fill (some pattern) pattern.length)
  · intro target targetStored targetOffset targeted
    exact ready.refused reachable (settles_copying reachable offset targetOffset size located targeted)
      (copy target.owned.handle targetOffset)

section
variable (buffered : Buffered scene.world buffer stored) (inside : offset + size ≤ stored.data.size)
include buffered inside

private theorem write_inside {data : Block} (enough : size ≤ data.size) :
    Stores (queue.write Machine.driver buffer offset size (some data) waits) scene buffer.owned.handle
      stored (Block.Patched stored.data offset size (data.bytes[·]?)) := by
  have ranged := buffered.range_inside inside
  have named := settles_command (held_of_located reachable buffered.located)
    fun handle => .writeBuffer handle offset size (some data)
  apply ready.stores reachable named (Store.effect_writeBuffer ranged data) rfl buffered.located
  apply Block.patched_overwrite inside rfl
  intro index before
  have readable : 0 + size ≤ data.size := by omega
  rw [Block.getElem?_bytes_read readable, if_pos before, Nat.zero_add]

theorem read_inside {memory : Block} (enough : size ≤ memory.size) :
    Fetches (queue.read Machine.driver buffer offset size (some memory) waits) scene
      (Block.Patched memory 0 size fun index => stored.data.bytes[offset + index]?) := by
  have ranged := buffered.range_inside inside
  have named := settles_command (held_of_located reachable buffered.located)
    fun handle => .readBuffer handle offset size true
  apply ready.fetches reachable named (Store.effect_readBuffer ranged) rfl
  have room : 0 + size ≤ memory.size := by omega
  apply Block.patched_overwrite room (Block.size_window_of_fits inside)
  intro index before
  rw [Block.getElem?_bytes_window, if_pos before]

private theorem fill_inside {pattern : Bytes} (tiles : Store.Tiles pattern.length offset size) :
    Stores (queue.fill Machine.driver buffer pattern offset size waits) scene buffer.owned.handle stored
      (Block.Patched stored.data offset size fun index => pattern[index % pattern.length]?) := by
  have ranged := buffered.range_inside inside
  have named := settles_command (held_of_located reachable buffered.located)
    fun handle => .fillBuffer handle (some pattern) pattern.length offset size
  apply ready.stores reachable named ((Store.effect_fillBuffer ranged pattern).1 tiles) rfl
    buffered.located
  apply Block.patched_overwrite inside (Block.size_tiled tiles.whole)
  intro index before
  rw [Block.bytes_tiled]
  apply Bytes.getElem?_tile
  rw [Nat.div_mul_cancel tiles.whole]
  exact before

private theorem fill_misfit {pattern : Bytes} (misfit : ¬ Store.Tiles pattern.length offset size) :
    Refused (queue.fill Machine.driver buffer pattern offset size waits) scene .invalidValue := by
  have ranged := buffered.range_inside inside
  have named := settles_command (held_of_located reachable buffered.located)
    fun handle => .fillBuffer handle (some pattern) pattern.length offset size
  exact ready.refused reachable named ((Store.effect_fillBuffer ranged pattern).2 misfit)

section
variable {target : Memory} {targetStored : Simulator.Memory} {targetOffset : Nat}

private theorem copy_inside (targeted : Buffered scene.world target targetStored)
    (targetInside : targetOffset + size ≤ targetStored.data.size) :
    let crossing := buffer.owned.handle = target.owned.handle ∧
      ∃ position, Covers offset size position ∧ Covers targetOffset size position
    let copied := queue.copy Machine.driver buffer target offset targetOffset size waits
    (crossing → Refused copied scene .memCopyOverlap) ∧
      (¬ crossing → Stores copied scene target.owned.handle targetStored
        (Block.Patched targetStored.data targetOffset size fun index =>
          stored.data.bytes[offset + index]?)) := by
  have ranged := buffered.range_inside inside
  have targetRanged := targeted.range_inside targetInside
  have named := settles_copying reachable offset targetOffset size buffered.located targeted.located
  have effect := Store.effect_copyBuffer ranged targetRanged
  have meets := Store.overlaps_iff offset targetOffset size
  constructor
  · intro crossing
    rw [if_pos ⟨crossing.1, meets.mpr crossing.2⟩] at effect
    exact ready.refused reachable named effect
  · intro apart
    rw [if_neg fun both => apart ⟨both.1, meets.mp both.2⟩] at effect
    apply ready.stores reachable named effect rfl targeted.located
    apply Block.patched_overwrite targetInside (Block.size_window_of_fits inside)
    intro index before
    rw [Block.getElem?_bytes_window, if_pos before]

/-- The target of a copy is looked at once the source is found to be in order. -/
theorem copy_of_refused_target
    (located : scene.world.store.memory target.owned.handle = .ok targetStored) {error : NativeError}
    (refused : scene.world.store.bufferRange target.owned.handle targetOffset size = refuse error) :
    Refused (queue.copy Machine.driver buffer target offset targetOffset size waits) scene error := by
  have ranged := buffered.range_inside inside
  have named := settles_copying reachable offset targetOffset size buffered.located located
  exact ready.refused reachable named (Store.copied_of_refused ranged refused)

end
end

/-- Numbers that are written are stored in their place, and the buffer can be used again. -/
theorem writeValues_carries (buffered : Buffered scene.world buffer stored) {type : ScalarType}
    {values : List Int} (fits : offset + type.width * values.length ≤ stored.data.size) :
    ∃ event after data,
      (queue.writeValues Machine.driver buffer offset type values waits).perform scene =
          (.ok event, after) ∧
        after.world.Reachable ∧
        (∀ later, later.length < halfRange → (∀ wait ∈ later, wait ∈ event :: waits) →
          Ready after.world queue later) ∧
        Rewrites scene.world.store after.world.store buffer.owned.handle stored data ∧
        data.bytes = stored.data.bytes.overwrite offset (type.encodeList values) := by
  obtain ⟨data, encoded⟩ : ∃ data, data = Block.ofBytes (type.encodeList values) := ⟨_, rfl⟩
  have size : data.size = type.width * values.length := by
    rw [encoded, Block.size_ofBytes, type.length_encodeList]
  have ranged := buffered.range_inside (size ▸ fits)
  have named := settles_command (held_of_located reachable buffered.located)
    fun handle => .writeBuffer handle offset data.size (some data)
  obtain ⟨event, after, performed, carried⟩ :=
    ready.carries_out reachable named (Store.effect_writeBuffer ranged data)
  have whole : (data.read 0 data.size).bytes = type.encodeList values := by
    rw [Block.bytes_read_self, encoded, Block.bytes_ofBytes]
  refine ⟨event, after, _, ?_, carried.reachable, fun later few known => ready.carried carried few known,
    carried.rewrites rfl buffered.located, ?_⟩
  · rw [Queue.writeValues, ← encoded]
    exact performed
  · rw [Block.bytes_overwrite, whole]

end

/-- Commands on buffers read and replace the bytes of the ranges that they name. -/
theorem buffer_commands_exact {scene : Scene Machine} {queue : Queue} {waits : List Event}
    (reachable : scene.world.Reachable) (ready : Ready scene.world queue waits) :
    (∀ buffer stored, Buffered scene.world buffer stored → ∀ offset size,
      let inside := offset + size ≤ stored.data.size
      (∀ data, size ≤ data.size →
        let write := queue.write Machine.driver buffer offset size (some data) waits
        (inside → Stores write scene buffer.owned.handle stored
          (Block.Patched stored.data offset size (data.bytes[·]?))) ∧
        (¬ inside → Refused write scene .invalidValue)) ∧
      (∀ memory, size ≤ memory.size →
        let read := queue.read Machine.driver buffer offset size (some memory) waits
        (inside → Fetches read scene
          (Block.Patched memory 0 size fun index => stored.data.bytes[offset + index]?)) ∧
        (¬ inside → Withholds read scene memory .invalidValue)) ∧
      ∀ pattern,
        let fill := queue.fill Machine.driver buffer pattern offset size waits
        let accepted := inside ∧ Store.Tiles pattern.length offset size
        (accepted → Stores fill scene buffer.owned.handle stored
          (Block.Patched stored.data offset size fun index => pattern[index % pattern.length]?)) ∧
        (¬ accepted → Refused fill scene .invalidValue)) ∧
    (∀ source sourceStored target targetStored, Buffered scene.world source sourceStored →
      Buffered scene.world target targetStored → ∀ sourceOffset targetOffset size,
        let copy := queue.copy Machine.driver source target sourceOffset targetOffset size waits
        let inside := sourceOffset + size ≤ sourceStored.data.size ∧
          targetOffset + size ≤ targetStored.data.size
        let crossing := source.owned.handle = target.owned.handle ∧
          ∃ position, Covers sourceOffset size position ∧ Covers targetOffset size position
        (¬ inside → Refused copy scene .invalidValue) ∧
        (inside → crossing → Refused copy scene .memCopyOverlap) ∧
        (inside → ¬ crossing → Stores copy scene target.owned.handle targetStored
          (Block.Patched targetStored.data targetOffset size fun index =>
            sourceStored.data.bytes[sourceOffset + index]?))) ∧
    ∀ image pictured, Pictured scene.world image pictured → ∀ offset size,
      (∀ data, Refused (queue.write Machine.driver image offset size data waits) scene
        .invalidMemObject) ∧
      (∀ memory, Withholds (queue.read Machine.driver image offset size (some memory) waits) scene memory
        .invalidMemObject) ∧
      (∀ pattern, Refused (queue.fill Machine.driver image pattern offset size waits) scene
        .invalidMemObject) ∧
      (∀ target targetStored targetOffset,
        scene.world.store.memory target.owned.handle = .ok targetStored →
          Refused (queue.copy Machine.driver image target offset targetOffset size waits) scene
            .invalidMemObject) ∧
      ∀ source stored sourceOffset, Buffered scene.world source stored →
        let copy := queue.copy Machine.driver source image sourceOffset offset size waits
        (sourceOffset + size ≤ stored.data.size → Refused copy scene .invalidMemObject) ∧
        (¬ sourceOffset + size ≤ stored.data.size → Refused copy scene .invalidValue) := by
  refine ⟨?_, ?_, ?_⟩
  · intro buffer stored buffered offset size
    refine ⟨?_, ?_, ?_⟩
    · intro data enough
      refine ⟨fun inside => write_inside reachable ready buffered inside enough, ?_⟩
      intro beyond
      exact (refused_of_range reachable ready buffered.located (buffered.range_outside beyond)).1 _
    · intro memory enough
      refine ⟨fun inside => read_inside reachable ready buffered inside enough, ?_⟩
      intro beyond
      exact (refused_of_range reachable ready buffered.located (buffered.range_outside beyond)).2.1 _
    · intro pattern
      refine ⟨fun accepted => fill_inside reachable ready buffered accepted.1 accepted.2, ?_⟩
      intro rejected
      by_cases inside : offset + size ≤ stored.data.size
      · exact fill_misfit reachable ready buffered inside fun tiles => rejected ⟨inside, tiles⟩
      · exact (refused_of_range reachable ready buffered.located (buffered.range_outside inside)).2.2.1 _
  · intro source sourceStored target targetStored sourced targeted sourceOffset targetOffset size
    refine ⟨?_, ?_, ?_⟩
    · intro beyond
      by_cases inside : sourceOffset + size ≤ sourceStored.data.size
      · have targetBeyond := targeted.range_outside fun targetInside => beyond ⟨inside, targetInside⟩
        exact copy_of_refused_target reachable ready sourced inside targeted.located targetBeyond
      · have sources := refused_of_range reachable ready sourced.located (sourced.range_outside inside)
        exact sources.2.2.2 target targetStored targetOffset targeted.located
    · intro inside
      exact (copy_inside reachable ready sourced inside.1 targeted inside.2).1
    · intro inside
      exact (copy_inside reachable ready sourced inside.1 targeted inside.2).2
  · intro image pictured shown offset size
    have rangeless : scene.world.store.bufferRange image.owned.handle offset size =
        refuse .invalidMemObject := Store.bufferRange_of_image shown.located shown.shaped
    obtain ⟨write, read, fill, copy⟩ := refused_of_range reachable ready shown.located rangeless
    refine ⟨write, read, fill, copy, ?_⟩
    intro source stored sourceOffset sourced
    constructor
    · intro inside
      exact copy_of_refused_target reachable ready sourced inside shown.located rangeless
    · intro beyond
      have sources := refused_of_range reachable ready sourced.located (sourced.range_outside beyond)
      exact sources.2.2.2 image pictured offset shown.located

/-- A runtime with a context, a queue, a buffer of four bytes and an image of four pixels. -/
def furnished : Machine :=
  (Machine.ofTopology 1 1).run [.call (.createContext ⟨1, some [deviceId 0 0]⟩),
    .call (.createQueue (handleOf 1) (deviceId 0 0) 0),
    .call (.createBuffer (handleOf 1) 0 4 none),
    .call (.createImage (handleOf 1) 0 (some (Context.byteFormat .intensity).toRaw)
      (some (.flat 2 2)) none)]

def furnishedQueue : Queue := ⟨⟨handleOf 2⟩, ⟨deviceId 0 0⟩, 0⟩

def fourBytes : Memory := ⟨⟨handleOf 3⟩, .buffer 4⟩

def fourPixels : Memory := ⟨⟨handleOf 4⟩, .image (Context.byteFormat .intensity)⟩

theorem reachable_furnished : furnished.Reachable := ⟨1, 1, _, rfl⟩

theorem ready_furnished : Ready furnished furnishedQueue [] where
  serving := rfl
  allowed := fun _ => rfl
  queued := ⟨0, rfl⟩
  listed := fun _ waiting => nomatch waiting
  few := by decide

theorem buffered_fourBytes : Buffered furnished fourBytes ⟨Block.zeros 4, none⟩ := ⟨rfl, rfl⟩

private theorem pictured_fourPixels :
    Pictured furnished fourPixels ⟨Block.zeros 4, some ⟨2, 2, 1⟩⟩ := ⟨rfl, rfl⟩

/-- Two bytes fill the second half of four, as often as the range asks for them. -/
theorem fourBytes_filled :
    (furnished.Reachable ∧ Ready furnished furnishedQueue []) ∧
      Stores (furnishedQueue.fill Machine.driver fourBytes [1, 2] 2 2 []) ⟨furnished, []⟩ (handleOf 3)
        ⟨Block.zeros 4, none⟩
        (Block.Patched (Block.zeros 4) 2 2 fun index => ([1, 2] : Bytes)[index % 2]?) := by
  have tiles : Store.Tiles 2 2 2 := Store.tiles_iff.mpr rfl
  refine ⟨⟨reachable_furnished, ready_furnished⟩, ?_⟩
  have exact := @buffer_commands_exact ⟨furnished, []⟩ furnishedQueue [] reachable_furnished
    ready_furnished
  obtain ⟨_, _, fills⟩ := exact.1 fourBytes _ buffered_fourBytes 2 2
  exact (fills [1, 2]).1 ⟨by decide, tiles⟩

/-- A range that is not in the source of a copy is noticed before it shows that the target is an
image. -/
theorem copy_to_fourPixels_outside :
    (furnished.Reachable ∧ Ready furnished furnishedQueue [] ∧
      Buffered furnished fourBytes ⟨Block.zeros 4, none⟩ ∧
      Pictured furnished fourPixels ⟨Block.zeros 4, some ⟨2, 2, 1⟩⟩) ∧
    ¬ Refused (furnishedQueue.copy Machine.driver fourBytes fourPixels 10 0 1 []) ⟨furnished, []⟩
      .invalidMemObject := by
  refine ⟨⟨reachable_furnished, ready_furnished, buffered_fourBytes, pictured_fourPixels⟩, ?_⟩
  rintro ⟨after, performed, _⟩
  have answered : ((furnishedQueue.copy Machine.driver fourBytes fourPixels 10 0 1 []).perform
      ⟨furnished, []⟩).1 = .error (.failed (.native .invalidValue)) := rfl
  rw [performed] at answered
  cases answered

end Offload.Host
