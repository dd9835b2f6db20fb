import Offload.Proofs.Reach
import Offload.Proofs.Transfers

/-! Which host bytes the runtime takes hold of for an image, and whether the data that was
checked beforehand holds them all. -/
namespace Offload.Host
open Simulator

/-- A host byte that the runtime takes hold of when it serves a call for an image. -/
def Accesses (store : Store) : Request → Nat → Prop
  | .createImage _ _ (some format) (some layout) (some _), byte =>
    ∃ pixel, (ImageFormat.ofRaw format).pixelSize? = some pixel ∧ byte < layout.reach pixel
  | .enqueue _ (.readImage image (some origin) (some extent) rowPitch _ true) _ _, byte
  | .enqueue _ (.writeImage image (some origin) (some extent) rowPitch _ (some _)) _ _, byte =>
    ∃ memory plan, store.memory image = .ok memory ∧
      imageRows memory origin extent rowPitch = .ok plan ∧ plan.Touches byte
  | _, _ => False

/-- If an operation succeeds, all host bytes that the runtime took hold of are in the data. -/
def Contained {α : Type} (action : Action Machine α) (scene : Scene Machine) (data : Block) : Prop :=
  ∀ value after request, action.perform scene = (.ok value, after) →
    after.world.calls = request :: scene.world.calls →
      ∀ byte, Accesses scene.world.store request byte → byte < data.size

/-- Where only the length of the data is checked, all data is long enough exactly if the least
that passes the check is. -/
theorem contained_iff {α : Type} {call : Block → Action Machine α} {scene : Scene Machine}
    {least reach : Nat} (request : Block → Request)
    (refuses : ∀ data, data.size < least → ¬ Accepts (call data) scene)
    (asks : ∀ data, least ≤ data.size → Asks (call data) scene (request data))
    (alike : ∀ data other, Serves scene.world (request data) → Serves scene.world (request other))
    (reaches : ∀ data length, reach ≤ length ↔
      ∀ byte, Accesses scene.world.store (request data) byte → byte < length)
    (accepts : ∃ data, Accepts (call data) scene) :
    (∀ data, Contained (call data) scene data) ↔ reach ≤ least := by
  have long : ∀ data, Accepts (call data) scene → least ≤ data.size := fun data accepted =>
    Nat.le_of_not_lt fun short => refuses data short accepted
  constructor
  · intro contained
    obtain ⟨data, accepted⟩ := accepts
    have served := (asks data (long data accepted)).accepts_iff.mp accepted
    have asked := asks (.zeros least) (Nat.le_refl least)
    obtain ⟨value, after, performed⟩ := asked.accepts_iff.mpr (alike data _ served)
    exact (reaches (.zeros least) least).mpr
      (contained (.zeros least) value after _ performed (asked.called value after performed))
  · intro covered data value after made performed called
    have enough := long data ⟨value, after, performed⟩
    cases (List.cons.inj (((asks data enough).called value after performed).symm.trans called)).1
    exact (reaches data data.size).mp (Nat.le_trans covered enough)

section
variable {context : Context} {flags : UInt64} {format : ImageFormat} {layout : ImageDescriptor}
  {backing : Option Memory} {scene : Scene Machine}

theorem not_accepts_fail {α : Type} (error : CallError) (scene : Scene Machine) :
    ¬ Accepts (Action.fail error : Action Machine α) scene := by
  rintro ⟨value, after, performed⟩
  cases performed

theorem newImage_eq {data : Block}
    (accepts : Accepts (context.newImage Machine.driver flags format layout backing (some data)) scene) :
    ∃ pixel, format.pixelSize? = some pixel ∧ ∀ other,
      context.newImage Machine.driver flags format layout backing (some other) =
        if other.size < layout.hostLength pixel then Action.refuse .invalidHostPtr
        else context.newImageFrom Machine.driver (flags ||| copyHostPointer) format layout backing
          (some other) := by
  unfold Context.newImage at accepts ⊢
  dsimp only at accepts
  split at accepts
  · exact (not_accepts_fail _ scene accepts).elim
  · rename_i lent
    cases sized : format.pixelSize? with
    | none =>
      rw [sized] at accepts
      exact (not_accepts_fail _ scene accepts).elim
    | some pixel => exact ⟨pixel, rfl, fun other => if_neg lent⟩

/-- Data for a new image holds what is copied from it exactly if the slice pitch allows for it. -/
theorem newImage_contained_iff
    (accepts : ∃ data,
      Accepts (context.newImage Machine.driver flags format layout backing (some data)) scene) :
    ∃ pixel, format.pixelSize? = some pixel ∧
      ((∀ data, Contained
          (context.newImage Machine.driver flags format layout backing (some data)) scene data) ↔
        layout.slicePitch = 0 ∨
          layout.reach pixel ≤ layout.slicePitch * max layout.depth 1 * max layout.arraySize 1) := by
  obtain ⟨data, accepted⟩ := accepts
  obtain ⟨pixel, sized, called⟩ := newImage_eq accepted
  have long : ¬ data.size < layout.hostLength pixel := by
    intro short
    rw [called, if_pos short] at accepted
    exact not_accepts_fail _ scene accepted
  have direct := accepted
  rw [called, if_neg long] at direct
  obtain ⟨buffer, asks⟩ := newImageFrom_asks direct
  refine ⟨pixel, sized, ?_⟩
  rw [← layout.reach_le_hostLength_iff pixel]
  refine contained_iff (fun other => .createImage context.owned.handle (flags ||| copyHostPointer)
      (some format.toRaw) (some { layout with buffer := buffer }) (some other))
    (fun other short => ?_) (fun other enough => ?_) (fun first second served => ?_)
    (fun other length => ?_) ⟨data, accepted⟩
  · rw [called, if_pos short]
    exact not_accepts_fail _ scene
  · rw [called, if_neg (Nat.not_lt.mpr enough)]
    exact asks (some other)
  · have made := (serves_creation_iff rfl).mp served
    exact (serves_creation_iff rfl).mpr ⟨made.1, (newImage_alike first second).mp made.2⟩
  · constructor
    · rintro covered byte ⟨other, same, inside⟩
      cases (ImageFormat.pixelSize?_ofRaw sized).symm.trans same
      exact Nat.lt_of_lt_of_le inside covered
    · intro covered
      refine Nat.le_of_not_lt fun short => Nat.lt_irrefl length (covered length ⟨pixel, ?_, short⟩)
      exact ImageFormat.pixelSize?_ofRaw sized

end

section
variable {α : Type} {queue : Queue} {image : Memory} {region : ImageRegion} {waits : List Event}
  {scene : Scene Machine}

private theorem moving_asks {next : Submission → Action Machine α} {command : Nat → Command}
    (accepts : Accepts (queue.submit Machine.driver waits (do pure (command (← image.owned.use))) >>= next)
      scene) :
    ∃ handles, ∀ (other : Nat → Command) (next : Submission → Action Machine α), Passes next →
      Asks (queue.submit Machine.driver waits (do pure (other (← image.owned.use))) >>= next) scene
        (.enqueue queue.owned.handle (other image.owned.handle) (.ofList handles) true) := by
  obtain ⟨⟨onward, named⟩, handles, asks⟩ := submit_asks accepts
  rw [bind_assoc] at named
  obtain ⟨used, _⟩ := named.of_use
  exact ⟨handles, fun other next passes => asks _ _ (.bind_ok used fun _ => rfl) next passes⟩

private theorem transfer_contained_iff {call : Block → Action Machine α} (queue : Queue)
    (waits : List Event) (command : Block → Nat → Command) {next : Block → Submission → Action Machine α}
    (refuses : ∀ data error, Queue.imageDataError? image region data.size = some error →
      ¬ Accepts (call data) scene)
    (submits : ∀ data, Queue.imageDataError? image region data.size = none →
      call data =
        queue.submit Machine.driver waits (do pure (command data (← image.owned.use))) >>= next data)
    (passes : ∀ data, Passes (next data))
    (kind : ∀ data other handle, (command data handle).kind = (command other handle).kind)
    (moves : ∀ data handle, (∃ effect, scene.world.store.effect (command data handle) = .ok effect) ↔
      ∃ plan, Moves scene.world.store handle region plan)
    (accesses : ∀ data queue handle waits byte,
      Accesses scene.world.store (.enqueue queue (command data handle) waits true) byte ↔
        ∃ memory plan, scene.world.store.memory handle = .ok memory ∧
          imageRows memory region.origin region.extent region.rowPitch = .ok plan ∧ plan.Touches byte)
    (imaged : Imaged scene.world image) (accepts : ∃ data, Accepts (call data) scene) :
    ∃ pixel, image.format?.bind ImageFormat.pixelSize? = some pixel ∧
      ((∀ data, Contained (call data) scene data) ↔
        region.slicePitch = 0 ∨ region.reach pixel ≤ region.slicePitch) := by
  obtain ⟨data, accepted⟩ := accepts
  have passed : Queue.imageDataError? image region data.size = none := by
    cases checked : Queue.imageDataError? image region data.size with
    | none => rfl
    | some error => exact (refuses data error checked accepted).elim
  have direct := accepted
  rw [submits data passed] at direct
  obtain ⟨handles, moving⟩ := moving_asks direct
  have asks : ∀ other, Queue.imageDataError? image region other.size = none → Asks (call other) scene
      (.enqueue queue.owned.handle (command other image.owned.handle) (.ofList handles) true) := by
    intro other checked
    rw [submits other checked]
    exact moving (command other) (next other) (passes other)
  obtain ⟨format, formatted, shaped⟩ := imaged.pixel_eq
  cases sized : image.format?.bind ImageFormat.pixelSize? with
  | none =>
    rw [Queue.imageDataError?, sized] at passed
    cases passed
  | some pixel =>
  have checks : ∀ length, Queue.imageDataError? image region length =
      if length < region.hostLength pixel then some (.native .invalidValue) else none := by
    intro length
    rw [Queue.imageDataError?, sized]
  refine ⟨pixel, rfl, ?_⟩
  have served := serves_enqueue_iff.mp ((asks data passed).accepts_iff.mp accepted)
  obtain ⟨plan, ⟨_, flat⟩, memory, found, rows⟩ := (moves data _).mp served.2.2.2.2
  obtain ⟨shape, known, fits, count, length, pitch⟩ := imageRows_ok rows
  -- The runtime and the host agree about the size of a pixel.
  have same : shape.pixel = pixel := by
    obtain ⟨other, knownAgain, described⟩ := shaped memory found
    cases known.symm.trans knownAgain
    rw [formatted] at sized
    exact Option.some.inj (described.symm.trans (ImageFormat.pixelSize?_ofRaw sized))
  subst same
  have reaching : plan.reach = region.reach shape.pixel := RowPlan.reach_congr count length pitch
  rw [← ImageRegion.reach_le_hostLength_iff flat fits, ← reaching]
  refine contained_iff
    (fun other => .enqueue queue.owned.handle (command other image.owned.handle) (.ofList handles) true)
    (fun other short => ?_) (fun other enough => ?_) (fun first second served => ?_)
    (fun other length => ?_) ⟨data, accepted⟩
  · exact refuses other _ ((checks _).trans (if_pos short))
  · exact asks other ((checks _).trans (if_neg (Nat.not_lt.mpr enough)))
  · obtain ⟨serving, allowed, queued, listed, moved⟩ := serves_enqueue_iff.mp served
    rw [kind first second] at allowed
    rw [moves first, ← moves second] at moved
    exact serves_enqueue_iff.mpr ⟨serving, allowed, queued, listed, moved⟩
  · rw [plan.reach_le_iff]
    constructor
    · intro covered byte accessed
      obtain ⟨_, _, foundAgain, rowsAgain, touched⟩ := (accesses other _ _ _ byte).mp accessed
      cases found.symm.trans foundAgain
      cases rows.symm.trans rowsAgain
      exact covered byte touched
    · intro covered byte touched
      exact covered byte ((accesses other _ _ _ byte).mpr ⟨memory, plan, found, rows, touched⟩)

theorem passes_outcome : Passes fun submission => Action.ofExcept submission.outcome := by
  intro submission scene
  rcases submission with ⟨writes, error | event⟩
  · exact ⟨_, rfl, iff_of_false not_exists_ok not_exists_ok⟩
  · exact ⟨_, rfl, iff_of_true ⟨event, rfl⟩ ⟨event, rfl⟩⟩

theorem writeImage_contained_iff (imaged : Imaged scene.world image)
    (accepts : ∃ data, Accepts (queue.writeImage Machine.driver image region data waits) scene) :
    ∃ pixel, image.format?.bind ImageFormat.pixelSize? = some pixel ∧
      ((∀ data, Contained (queue.writeImage Machine.driver image region data waits) scene data) ↔
        region.slicePitch = 0 ∨ region.reach pixel ≤ region.slicePitch) := by
  refine transfer_contained_iff queue waits
    (fun data handle => .writeImage handle (some region.origin) (some region.extent) region.rowPitch
      region.slicePitch (some data))
    (fun data error checked => ?_) (fun data checked => ?_) (fun _ => passes_outcome) (fun _ _ _ => rfl)
    (fun _ _ => effect_writeImage_iff) (fun _ _ _ _ _ => .rfl) imaged accepts
  · rw [Queue.writeImage, checked]
    exact not_accepts_fail error scene
  · rw [Queue.writeImage, checked]
    rfl

/-- A reading command that counts as failed when its answer is an error. -/
def Reading.event (reading : Reading) : Action Machine Event := Action.ofExcept reading.outcome

theorem readImage_contained_iff (imaged : Imaged scene.world image)
    (accepts : ∃ memory, Accepts
      (queue.readImage Machine.driver image region memory waits >>= Reading.event) scene) :
    ∃ pixel, image.format?.bind ImageFormat.pixelSize? = some pixel ∧
      ((∀ memory, Contained
          (queue.readImage Machine.driver image region memory waits >>= Reading.event) scene memory) ↔
        region.slicePitch = 0 ∨ region.reach pixel ≤ region.slicePitch) := by
  refine transfer_contained_iff queue waits
    (fun _ handle => .readImage handle (some region.origin) (some region.extent) region.rowPitch
      region.slicePitch true)
    (fun memory error checked => ?_) (fun memory checked => ?_) (fun _ => passes_outcome) (fun _ _ _ => rfl)
    (fun _ _ => effect_readImage_iff) (fun _ _ _ _ _ => .rfl) imaged accepts
  · rw [Queue.readImage, checked]
    exact not_accepts_fail error scene
  · simp only [Queue.readImage, checked, Queue.readImageInto, bind_assoc]
    rfl

end

/-- The data from which a bitmap is uploaded: its own storage, or its colors unpacked. -/
def Uploads (bitmap : Bitmap) (data : Block) : Prop :=
  match bitmap.layout with
  | .gray8 pixels _ | .rgba8 pixels _ => data = pixels
  | .other => ∃ bytes, bitmap.toRgba8 = .ok bytes ∧ data = .ofBytes bytes

section
variable {context : Context} {flags : UInt64} {scene : Scene Machine} {data : Block}

private theorem newImage_contained {format : ImageFormat} {layout : ImageDescriptor} {backing : Option Memory}
    (free : layout.slicePitch = 0) :
    Contained (context.newImage Machine.driver flags format layout backing (some data)) scene data := by
  intro value after request performed
  obtain ⟨pixel, _, covered⟩ := newImage_contained_iff ⟨data, value, after, performed⟩
  exact covered.mpr (Or.inl free) data value after request performed

/-- A bitmap has no slices, so that its data is always long enough. -/
theorem newImageOf_contained {bitmap : Bitmap} (uploads : Uploads bitmap data) :
    Contained (context.newImageOf Machine.driver flags bitmap) scene data := by
  unfold Uploads at uploads
  unfold Context.newImageOf
  cases layout : bitmap.layout with
  | gray8 pixels stride =>
    rw [layout] at uploads
    exact uploads ▸ newImage_contained rfl
  | rgba8 pixels stride =>
    rw [layout] at uploads
    exact uploads ▸ newImage_contained rfl
  | other =>
    rw [layout] at uploads
    obtain ⟨bytes, unpacked, rfl⟩ := uploads
    dsimp only
    rw [unpacked, Action.ofFaulty, pure_bind]
    have free : (ImageDescriptor.flat bitmap.width bitmap.height).slicePitch = 0 := rfl
    exact newImage_contained free

end

/-- Data that is accepted for an image holds all bytes that the runtime takes hold of, unless
a slice pitch is given that is too small for the rows. -/
theorem image_data_contained (scene : Scene Machine) :
    (∀ (context : Context) flags format (layout : ImageDescriptor) backing,
      (∃ data, Accepts (context.newImage Machine.driver flags format layout backing (some data)) scene) →
        ∃ pixel, format.pixelSize? = some pixel ∧
          ((∀ data, Contained
              (context.newImage Machine.driver flags format layout backing (some data)) scene data) ↔
            layout.slicePitch = 0 ∨
              layout.reach pixel ≤ layout.slicePitch * max layout.depth 1 * max layout.arraySize 1)) ∧
    (∀ (context : Context) flags bitmap data, Uploads bitmap data →
      Contained (context.newImageOf Machine.driver flags bitmap) scene data) ∧
    ∀ image, Imaged scene.world image → ∀ (queue : Queue) (region : ImageRegion) waits,
      ((∃ data, Accepts (queue.writeImage Machine.driver image region data waits) scene) →
        ∃ pixel, image.format?.bind ImageFormat.pixelSize? = some pixel ∧
          ((∀ data, Contained (queue.writeImage Machine.driver image region data waits) scene data) ↔
            region.slicePitch = 0 ∨ region.reach pixel ≤ region.slicePitch)) ∧
      ((∃ data, Accepts
          (queue.readImage Machine.driver image region data waits >>= Reading.event) scene) →
        ∃ pixel, image.format?.bind ImageFormat.pixelSize? = some pixel ∧
          ((∀ data, Contained
              (queue.readImage Machine.driver image region data waits >>= Reading.event) scene data) ↔
            region.slicePitch = 0 ∨ region.reach pixel ≤ region.slicePitch)) := by
  refine ⟨fun _ _ _ _ _ => newImage_contained_iff, fun _ _ _ _ => newImageOf_contained, ?_⟩
  exact fun _ imaged _ _ _ => ⟨writeImage_contained_iff imaged, readImage_contained_iff imaged⟩

/-- A runtime with a context and a queue. -/
def readied : Machine :=
  (Machine.ofTopology 1 1).run [.call (.createContext ⟨1, some [deviceId 0 0]⟩),
    .call (.createQueue (handleOf 1) (deviceId 0 0) 0)]

def readiedContext : Context := ⟨⟨handleOf 1⟩, [⟨deviceId 0 0⟩]⟩

def readiedQueue : Queue := ⟨⟨handleOf 2⟩, ⟨deviceId 0 0⟩, 0⟩

/-- The making of an image of four pixels, and that image. -/
def imaging : Except Stop Memory × Scene Machine :=
  (readiedContext.newImageFrom Machine.driver 0 (Context.byteFormat .intensity) (.flat 2 2) none
    none).perform ⟨readied, []⟩

def smallImage : Memory := ⟨⟨handleOf 3⟩, .image (Context.byteFormat .intensity)⟩

theorem imaged_smallImage : Imaged imaging.2.world smallImage := by
  have reachable : readied.Reachable := ⟨1, 1, _, rfl⟩
  have performed : imaging = (.ok smallImage, imaging.2) := rfl
  exact @Imaged.made readiedContext 0 (Context.byteFormat .intensity) (.flat 2 2) none none ⟨readied, []⟩
    imaging.2 smallImage reachable performed []

/-- The whole image, in slices of a single byte. -/
def narrowRegion : ImageRegion := { ImageRegion.full 2 2 with slicePitch := 1 }

/-- One byte is accepted for four pixels, three of which are read from behind it. -/
theorem narrowRegion_escapes :
    Imaged imaging.2.world smallImage ∧
      Accepts (readiedQueue.writeImage Machine.driver smallImage narrowRegion (.zeros 1) []) imaging.2 ∧
      ¬ Contained (readiedQueue.writeImage Machine.driver smallImage narrowRegion (.zeros 1) []) imaging.2
        (.zeros 1) := by
  have performed : (readiedQueue.writeImage Machine.driver smallImage narrowRegion (.zeros 1) []).perform
      imaging.2 = (.ok ⟨⟨handleOf 4⟩⟩, _) := rfl
  refine ⟨imaged_smallImage, ⟨_, _, performed⟩, fun contained => ?_⟩
  have touched : (RowPlan.mk 2 2 2 0 2).Touches 1 :=
    (RowPlan.touches_iff _ 1).mpr ⟨0, by decide, by decide, by decide⟩
  have inside := contained _ _ _ performed rfl 1 ⟨_, _, rfl, rfl, touched⟩
  exact absurd inside (by decide)

theorem fullRegion_contained :
    (Imaged imaging.2.world smallImage ∧
      Accepts (readiedQueue.writeImage Machine.driver smallImage (.full 2 2) (.zeros 4) []) imaging.2) ∧
      Contained (readiedQueue.writeImage Machine.driver smallImage (.full 2 2) (.zeros 4) []) imaging.2
        (.zeros 4) := by
  have accepts : Accepts (readiedQueue.writeImage Machine.driver smallImage (.full 2 2) (.zeros 4) [])
      imaging.2 := ⟨⟨⟨handleOf 4⟩⟩, _, rfl⟩
  have transfers := (image_data_contained imaging.2).2.2 smallImage imaged_smallImage
  obtain ⟨pixel, _, covered⟩ := (transfers readiedQueue (.full 2 2) []).1 ⟨_, accepts⟩
  exact ⟨⟨imaged_smallImage, accepts⟩, covered.mpr (Or.inl rfl) _⟩

end Offload.Host
