import Offload.Proofs.Allocations
import Offload.Proofs.Buffers
import Offload.Proofs.Rectangles

/-! Memory objects that start out with contents. They are made in one call, which checks and copies
the host data by itself, and yet hold what an empty object would hold after all of it has been
written; for an image, the data is accepted for one exactly if it is for the other. -/
namespace Offload

/-- A whole two-dimensional image, with rows that lie so far apart in host memory. -/
def ImageRegion.pitched (width height pitch : Nat) : ImageRegion :=
  { full width height with rowPitch := pitch }

/-- A two-dimensional image to be copied from rows that lie so far apart. -/
def ImageDescriptor.pitched (width height pitch : Nat) : ImageDescriptor :=
  { flat width height with rowPitch := pitch }

theorem ScalarType.length_encodeList_ne_zero (type : ScalarType) {values : List Int}
    (filled : values ≠ []) : (type.encodeList values).length ≠ 0 := by
  have counted : 0 < values.length := List.length_pos_iff.mpr filled
  rw [type.length_encodeList]
  exact Nat.ne_of_gt (Nat.mul_pos type.width_pos counted)

namespace Simulator
variable {width height : Nat}

theorem pitched_fits_iff (shape : ImageShape) (pitch : Nat) :
    (ImageRegion.pitched shape.width shape.height pitch).Fits shape ↔
      pitch = 0 ∨ shape.width * shape.pixel ≤ pitch := by
  constructor
  · intro fits
    exact fits.pitched
  · intro rows
    exact ⟨⟨rfl, rfl⟩, Nat.le_of_eq (Nat.zero_add _), Nat.le_of_eq (Nat.zero_add _), rows⟩

theorem hostLength_pitched (pitch : Nat) (high : 0 < height) (pixel : Nat) :
    (ImageDescriptor.pitched width height pitch).hostLength pixel =
      (ImageRegion.pitched width height pitch).hostLength pixel := by
  have layers : max height 1 = height := Nat.max_eq_left high
  have single : max 0 1 = 1 := rfl
  simp only [ImageDescriptor.pitched, ImageRegion.pitched, ImageDescriptor.flat, ImageRegion.full,
    ImageDescriptor.hostLength, ImageRegion.hostLength, if_true, layers, single, Nat.mul_one]
  rfl

theorem plan_pitched (pitch pixel : Nat) :
    (ImageRegion.pitched width height pitch).plan ⟨width, height, pixel⟩ = {
      count := height
      length := width * pixel
      hostPitch := if pitch = 0 then width * pixel else pitch
      deviceStart := 0
      devicePitch := width * pixel } := by
  simp only [ImageRegion.plan, ImageRegion.hostRows, ImageRegion.pitched, ImageRegion.full,
    Nat.zero_mul, Nat.add_zero]
  rfl

/-- An image with the pixels that host memory holds for it. -/
def filledImage (width height pixel pitch : Nat) (host : Option Block) : Memory where
  data := match host with
    | none => Block.zeros (width * pixel * height)
    | some host => (Block.zeros (width * pixel * height)).patch
        (((ImageRegion.pitched width height pitch).plan ⟨width, height, pixel⟩).upload host)
  shape? := some ⟨width, height, pixel⟩

/-- A new image is copied from the rows that a write to all of it would take. -/
theorem Store.newImage_pitched {store : Store} {context pixel : Nat} {devices : List Nat}
    {flags : UInt64} {format : ImageFormat} {host : Option Block}
    (found : store.context context = .ok devices)
    (checked : checkMemoryFlags flags host.isSome = .ok ()) (sized : format.pixelSize? = some pixel)
    (wide : 0 < width) (high : 0 < height) (pitch : Nat) :
    store.newImage context flags (some format.toRaw)
        (some { ImageDescriptor.pitched width height pitch with buffer := 0 }) host =
      if pitch = 0 ∨ (host.isSome ∧ width * pixel ≤ pitch) then do
        reserve (width * pixel * height)
        .ok (.memory (filledImage width height pixel pitch host))
      else refuse .invalidImageDescriptor := by
  have kind : ((ImageDescriptor.pitched width height pitch).kind.raw ==
      Listed.code MemoryKind.image2D) = true := rfl
  have extent : ((ImageDescriptor.pitched width height pitch).width != 0 &&
      (ImageDescriptor.pitched width height pitch).height != 0) = true := by
    rw [Bool.and_eq_true, bne_iff_ne, bne_iff_ne]
    exact ⟨Nat.ne_of_gt wide, Nat.ne_of_gt high⟩
  have rows : ((ImageDescriptor.pitched width height pitch).rowPitch == 0 || (host.isSome && decide
      ((ImageDescriptor.pitched width height pitch).width * pixel ≤
        (ImageDescriptor.pitched width height pitch).rowPitch))) =
      decide (pitch = 0 ∨ (host.isSome ∧ width * pixel ≤ pitch)) := by
    rw [Bool.decide_or, Bool.decide_and, Bool.decide_eq_true]
    rfl
  simp only [newImage, found, bind, Except.bind, checked, ImageFormat.pixelSize?_ofRaw sized, kind,
    require, extent, rows, decide_eq_true_eq, if_true]
  by_cases accepted : pitch = 0 ∨ (host.isSome ∧ width * pixel ≤ pitch)
  · simp only [if_pos accepted]
    unfold filledImage
    rw [plan_pitched]
    rfl
  · simp only [if_neg accepted]
    rfl

private theorem Store.newBuffer_eq {store : Store} {context size : Nat} {devices : List Nat} {flags : UInt64}
    {host : Option Block} (found : store.context context = .ok devices)
    (checked : checkMemoryFlags flags host.isSome = .ok ()) (filled : size ≠ 0) :
    store.newBuffer context flags size host = (do
      reserve size
      .ok (.memory { data := host.elim (Block.zeros size) fun host => host.read 0 size })) := by
  have sized : (size != 0) = true := bne_iff_ne.mpr filled
  simp only [newBuffer, found, bind, Except.bind, checked, require, sized, if_true]
  cases host <;> rfl

theorem Store.newBuffer_of_fits {store : Store} {context size : Nat} {devices : List Nat}
    {flags : UInt64} {host : Option Block} (found : store.context context = .ok devices)
    (checked : checkMemoryFlags flags host.isSome = .ok ()) (filled : size ≠ 0)
    (fits : size ≤ memoryLimit) :
    store.newBuffer context flags size host =
      .ok (.memory { data := host.elim (Block.zeros size) fun host => host.read 0 size }) := by
  rw [newBuffer_eq found checked filled, reserve_of_le fits]
  rfl

end Simulator
end Offload

namespace Offload.Host
open Simulator

/-- Two memory objects of two runtimes that hold the same bytes in the same shape. -/
def SameContents (machine : Machine) (memory : Memory) (other : Machine) (partner : Memory) : Prop :=
  ∃ first second, machine.store.memory memory.owned.handle = .ok first ∧
    other.store.memory partner.owned.handle = .ok second ∧
    first.shape? = second.shape? ∧ first.data.bytes = second.data.bytes

section
variable {scene : Scene Machine} {context : Context} {queue : Queue} {waits : List Event}
  {flags : UInt64} {format : ImageFormat} {pixel width height : Nat}
  (reachable : scene.world.Reachable) (provides : Provides scene.world context)

section
variable (lendable : LendableFlags flags)
include reachable provides lendable

theorem newImage_makes (sized : format.pixelSize? = some pixel) (wide : 0 < width) (high : 0 < height)
    (pitch : Nat) (data : Block) :
    let region := ImageRegion.pitched width height pitch
    let filling := context.newImage Machine.driver flags format (.pitched width height pitch) none
      (some data)
    (region.Fits ⟨width, height, pixel⟩ ∧ region.hostLength pixel ≤ data.size →
      width * pixel * height ≤ memoryLimit →
      ∃ image after, filling.perform scene = (.ok image, after) ∧
        Made scene.world after.world (.memory (filledImage width height pixel pitch (some data)))
          image.owned.handle) ∧
    (Accepts filling scene → (region.Fits ⟨width, height, pixel⟩ ∧
      region.hostLength pixel ≤ data.size) ∧ width * pixel * height ≤ memoryLimit) := by
  intro region filling
  obtain ⟨devices, found⟩ := provides.live
  have asked : filling = if data.size < region.hostLength pixel then Action.refuse .invalidHostPtr
      else context.newImageFrom Machine.driver (flags ||| copyHostPointer) format
        (.pitched width height pitch) none (some data) := by
    show context.newImage _ _ _ _ _ _ = _
    simp only [Context.newImage, lendable.not_contains, Bool.false_eq_true, if_false, sized,
      hostLength_pitched pitch high]
    rfl
  have checked : checkMemoryFlags (flags ||| copyHostPointer) (some data).isSome = .ok () :=
    lendable.check_copying
  have made := Store.newImage_pitched found checked sized wide high pitch
  have rows := pitched_fits_iff ⟨width, height, pixel⟩ pitch
  rw [asked]
  constructor
  · rintro ⟨fits, covered⟩ small
    rw [if_neg (Nat.not_lt.mpr covered)]
    rw [if_pos ((rows.mp fits).imp_right fun apart => ⟨rfl, apart⟩), Simulator.reserve_of_le small] at made
    obtain ⟨image, after, performed, _, stored⟩ := provides.newImageFrom_makes reachable made
    exact ⟨image, after, performed, stored⟩
  · intro accepts
    by_cases covered : region.hostLength pixel ≤ data.size
    · rw [if_neg (Nat.not_lt.mpr covered)] at accepts
      obtain ⟨object, accepted⟩ := provides.newImageFrom_accepted reachable accepts
      rw [made] at accepted
      by_cases either : pitch = 0 ∨ ((some data).isSome ∧ width * pixel ≤ pitch)
      · rw [if_pos either] at accepted
        obtain ⟨_, small, _⟩ := exists_of_bind_ok accepted
        exact ⟨⟨rows.mpr (either.imp_right And.right), covered⟩, reserve_ok_iff.mp small⟩
      · rw [if_neg either] at accepted
        cases accepted
    · rw [if_pos (Nat.lt_of_not_le covered)] at accepts
      exact (not_accepts_fail _ scene accepts).elim

theorem newBufferOf_makes (type : ScalarType) {values : List Int} (filled : values ≠ [])
    (fits : (type.encodeList values).length ≤ memoryLimit) :
    ∃ buffer after data, (context.newBufferOf Machine.driver flags type values).perform scene =
        (.ok buffer, after) ∧
      Made scene.world after.world (.memory { data := data }) buffer.owned.handle ∧
      data.bytes = type.encodeList values := by
  obtain ⟨devices, found⟩ := provides.live
  obtain ⟨data, encoded⟩ : ∃ data, data = Block.ofBytes (type.encodeList values) := ⟨_, rfl⟩
  have size : data.size = (type.encodeList values).length := by rw [encoded, Block.size_ofBytes]
  have room : data.size ≠ 0 := size ▸ type.length_encodeList_ne_zero filled
  have checked : checkMemoryFlags (flags ||| copyHostPointer) (some data).isSome = .ok () :=
    lendable.check_copying
  have asked : context.newBufferOf Machine.driver flags type values =
      context.newBufferFrom Machine.driver (flags ||| copyHostPointer) data.size (some data) := by
    simp only [Context.newBufferOf, lendable.not_contains, Bool.false_eq_true, if_false, encoded]
  obtain ⟨buffer, after, performed, made⟩ :=
    provides.newBufferFrom_makes reachable (Store.newBuffer_of_fits found checked room (size ▸ fits))
  refine ⟨buffer, after, _, asked ▸ performed, made, ?_⟩
  show (data.read 0 data.size).bytes = _
  rw [Block.bytes_read_self, encoded, Block.bytes_ofBytes]

end

variable (plain : PlainFlags flags)
include reachable provides plain

theorem newFlatImage_makes (sized : format.pixelSize? = some pixel) (wide : 0 < width)
    (high : 0 < height) (small : width * pixel * height ≤ memoryLimit) :
    ∃ blank after, (context.newFlatImage Machine.driver flags format width height none).perform scene =
        (.ok blank, after) ∧
      Framed after.world blank (filledImage width height pixel 0 none) ⟨width, height, pixel⟩ ∧
      Made scene.world after.world (.memory (filledImage width height pixel 0 none))
        blank.owned.handle := by
  obtain ⟨devices, found⟩ := provides.live
  have accepted : scene.world.store.newImage context.owned.handle flags (some format.toRaw)
      (some { ImageDescriptor.flat width height with buffer := 0 }) none =
        .ok (.memory (filledImage width height pixel 0 none)) := by
    refine (Store.newImage_pitched found plain.check sized wide high 0).trans ?_
    rw [if_pos (Or.inl rfl), Simulator.reserve_of_le small]
    rfl
  obtain ⟨blank, after, performed, formatted, made⟩ := provides.newImageFrom_makes reachable accepted
  refine ⟨blank, after, performed, ?_, made⟩
  constructor
  · exact Store.memory_ok_iff.mpr made.stored
  · rfl
  · rw [formatted]
    exact sized
  · exact Nat.mul_right_comm width pixel height

theorem newFlatImage_fits (sized : format.pixelSize? = some pixel) (wide : 0 < width)
    (high : 0 < height)
    (accepts : Accepts (context.newFlatImage Machine.driver flags format width height none) scene) :
    width * pixel * height ≤ memoryLimit := by
  obtain ⟨devices, found⟩ := provides.live
  obtain ⟨object, accepted⟩ := provides.newImageFrom_accepted reachable accepts
  have checked : checkMemoryFlags flags (none : Option Block).isSome = .ok () := plain.check
  have pitched := Store.newImage_pitched found checked sized wide high 0
  rw [if_pos (Or.inl rfl)] at pitched
  obtain ⟨_, small, _⟩ := exists_of_bind_ok (pitched.symm.trans accepted)
  exact reserve_ok_iff.mp small

variable (ready : Ready scene.world queue waits)
include ready

/-- Making an image with contents comes to the same as writing them to an empty one. -/
theorem newImage_alike_written (sized : format.pixelSize? = some pixel) (wide : 0 < width)
    (high : 0 < height) (small : width * pixel * height ≤ memoryLimit) (pitch : Nat) (data : Block) :
    ∃ blank middle,
      (context.newFlatImage Machine.driver flags format width height none).perform scene =
        (.ok blank, middle) ∧
      let filling := context.newImage Machine.driver flags format (.pitched width height pitch) none
        (some data)
      let writing := queue.writeImage Machine.driver blank (.pitched width height pitch) data waits
      (Accepts filling scene ↔ Accepts writing middle) ∧
        ∀ image filled event written, filling.perform scene = (.ok image, filled) →
          writing.perform middle = (.ok event, written) →
            SameContents filled.world image written.world blank := by
  obtain ⟨blank, middle, emptied, framed, made⟩ :=
    newFlatImage_makes reachable provides plain sized wide high small
  refine ⟨blank, middle, emptied, ?_⟩
  intro filling writing
  obtain ⟨fills, fitting⟩ := newImage_makes reachable provides plain.lendable sized wide high pitch data
  have readyNow := ready.made made
  by_cases enough : (ImageRegion.pitched width height pitch).Fits ⟨width, height, pixel⟩ ∧
      (ImageRegion.pitched width height pitch).hostLength pixel ≤ data.size
  · obtain ⟨image, filled, filledBy, stored⟩ := fills enough small
    obtain ⟨event, written, writtenBy, carried⟩ :=
      writeImage_carries_out made.reachable readyNow framed enough.1 enough.2
    refine ⟨iff_of_true ⟨image, filled, filledBy⟩ ⟨event, written, writtenBy⟩, ?_⟩
    intro other otherFilled last otherWritten sameFilling sameWriting
    cases filledBy.symm.trans sameFilling
    cases writtenBy.symm.trans sameWriting
    have rewritten := carried.rewrites rfl framed.located
    exact ⟨_, _, Store.memory_ok_iff.mpr stored.stored, rewritten.written, rfl, rfl⟩
  · have unwritten : ¬ Accepts writing middle :=
      not_accepts_writeImage made.reachable readyNow framed enough
    have unfilled : ¬ Accepts filling scene := fun accepts => enough (fitting accepts).1
    refine ⟨iff_of_false unfilled unwritten, ?_⟩
    intro image filled event written performed
    exact (unfilled ⟨image, filled, performed⟩).elim

theorem newBufferOf_alike_written (type : ScalarType) {values : List Int} (filled : values ≠ [])
    (small : (type.encodeList values).length ≤ memoryLimit) :
    ∃ buffer after, (context.newBufferOf Machine.driver flags type values).perform scene =
        (.ok buffer, after) ∧
      ∃ blank middle,
        (context.newBuffer Machine.driver flags (type.encodeList values).length).perform scene =
          (.ok blank, middle) ∧
        ∃ event written, (queue.writeValues Machine.driver blank 0 type values waits).perform middle =
            (.ok event, written) ∧ SameContents after.world buffer written.world blank := by
  obtain ⟨devices, found⟩ := provides.live
  obtain ⟨buffer, after, data, performed, made, bytes⟩ :=
    newBufferOf_makes reachable provides plain.lendable type filled small
  have unchecked : checkMemoryFlags flags (none : Option Block).isSome = .ok () := plain.check
  obtain ⟨blank, middle, emptied, cleared⟩ := provides.newBufferFrom_makes reachable
    (Store.newBuffer_of_fits found unchecked (type.length_encodeList_ne_zero filled) small)
  have buffered : Buffered middle.world blank { data := Block.zeros (type.encodeList values).length } :=
    ⟨Store.memory_ok_iff.mpr cleared.stored, rfl⟩
  have fits : 0 + type.width * values.length ≤ (Block.zeros (type.encodeList values).length).size := by
    rw [Nat.zero_add, ← type.length_encodeList]
    exact Nat.le_refl _
  obtain ⟨event, written, result, wrote, _, _, rewritten, shown⟩ :=
    writeValues_carries cleared.reachable (ready.made cleared) buffered fits
  refine ⟨buffer, after, performed, blank, middle, emptied, event, written, wrote,
    { data := data }, { data := result }, Store.memory_ok_iff.mpr made.stored, rewritten.written, rfl,
    ?_⟩
  rw [bytes, shown, Block.bytes_zeros, Bytes.overwrite_zeros _ _ (Nat.le_refl _), Nat.sub_self]
  exact (List.append_nil _).symm

end

/-- Contents given to a new memory object are what a full write to an empty one leaves behind. An image
of more bytes than a memory can have is made in neither way; numbers that the host holds are never as
many. -/
theorem initial_contents_alike_written {scene : Scene Machine} {context : Context} {queue : Queue}
    {waits : List Event} {flags : UInt64} (reachable : scene.world.Reachable)
    (provides : Provides scene.world context) (ready : Ready scene.world queue waits)
    (plain : PlainFlags flags) :
    (∀ (format : ImageFormat) pixel width height, format.pixelSize? = some pixel → 0 < width →
      0 < height → ∀ pitch data,
        let emptying := context.newFlatImage Machine.driver flags format width height none
        let filling := context.newImage Machine.driver flags format (.pitched width height pitch) none
          (some data)
        (width * pixel * height ≤ memoryLimit →
          ∃ blank middle, emptying.perform scene = (.ok blank, middle) ∧
            let writing := queue.writeImage Machine.driver blank (.pitched width height pitch) data waits
            (Accepts filling scene ↔ Accepts writing middle) ∧
              ∀ image filled event written, filling.perform scene = (.ok image, filled) →
                writing.perform middle = (.ok event, written) →
                  SameContents filled.world image written.world blank) ∧
        (memoryLimit < width * pixel * height →
          ¬ Accepts filling scene ∧ ¬ Accepts emptying scene)) ∧
    ∀ (type : ScalarType) values, values ≠ [] → (type.encodeList values).length ≤ memoryLimit →
      ∃ buffer after, (context.newBufferOf Machine.driver flags type values).perform scene =
          (.ok buffer, after) ∧
        ∃ blank middle,
          (context.newBuffer Machine.driver flags (type.encodeList values).length).perform scene =
            (.ok blank, middle) ∧
          ∃ event written,
            (queue.writeValues Machine.driver blank 0 type values waits).perform middle =
              (.ok event, written) ∧ SameContents after.world buffer written.world blank := by
  constructor
  · intro format pixel width height sized wide high pitch data emptying filling
    refine ⟨fun small => ?_, fun large => ⟨fun accepts => ?_, fun accepts => ?_⟩⟩
    · exact newImage_alike_written reachable provides plain ready sized wide high small pitch data
    · obtain ⟨_, fitting⟩ :=
        newImage_makes reachable provides plain.lendable sized wide high pitch data
      exact Nat.not_le_of_lt large (fitting accepts).2
    · exact Nat.not_le_of_lt large (newFlatImage_fits reachable provides plain sized wide high accepts)
  · intro type values filled small
    exact newBufferOf_alike_written reachable provides plain ready type filled small

/-- An image of four pixels copied from rows that are three bytes apart, and two numbers. -/
theorem readied_contents_alike :
    (readied.Reachable ∧ Provides readied readiedContext ∧ Ready readied readiedQueue [] ∧
      PlainFlags 0) ∧
    (∃ blank middle,
      (readiedContext.newFlatImage Machine.driver 0 (Context.byteFormat .intensity) 2 2 none).perform
        ⟨readied, []⟩ = (.ok blank, middle) ∧
      (Accepts (readiedContext.newImage Machine.driver 0 (Context.byteFormat .intensity)
          (.pitched 2 2 3) none (some (.ofBytes [1, 2, 3, 4, 5, 6]))) ⟨readied, []⟩ ↔
        Accepts (readiedQueue.writeImage Machine.driver blank (.pitched 2 2 3)
          (.ofBytes [1, 2, 3, 4, 5, 6]) []) middle)) ∧
    ∃ buffer after, (readiedContext.newBufferOf Machine.driver 0 .uint32 [7, 8]).perform ⟨readied, []⟩ =
      (.ok buffer, after) := by
  have reachable : readied.Reachable := ⟨1, 1, _, rfl⟩
  have provides : Provides readied readiedContext :=
    ⟨rfl, fun _ _ => ⟨rfl, rfl⟩, [deviceId 0 0], rfl⟩
  have ready : Ready readied readiedQueue [] :=
    ⟨rfl, fun _ => rfl, ⟨0, rfl⟩, fun _ waiting => (nomatch waiting), by decide⟩
  have plain : PlainFlags 0 := ⟨rfl, by decide, by decide⟩
  obtain ⟨images, buffers⟩ :=
    @initial_contents_alike_written ⟨readied, []⟩ readiedContext readiedQueue [] 0 reachable provides ready
      plain
  obtain ⟨small, _⟩ := images (Context.byteFormat .intensity) 1 2 2 rfl (by decide) (by decide) 3
    (.ofBytes [1, 2, 3, 4, 5, 6])
  obtain ⟨blank, middle, emptied, same, _⟩ := small (by decide)
  obtain ⟨buffer, after, made, _⟩ := buffers .uint32 [7, 8] (by decide) (by decide)
  exact ⟨⟨reachable, provides, ready, plain⟩, ⟨blank, middle, emptied, same⟩, buffer, after, made⟩

end Offload.Host
