import Offload.Proofs.Authored
import Offload.Proofs.BuildLogs
import Offload.Proofs.Submissions
import Offload.Proofs.Upkeep

/-! Steps that come down to one call. For every step at which a runtime may stop, the call is told from
the slots and from what the host makes of the arguments, or else why none is made. -/
namespace Offload.Session
open Host Simulator

variable {α β : Type}

private theorem perform_useAll {kind : ObjectKind} {owners : List (Owned kind)}
    (held : ∀ owned ∈ owners, owned.handle ≠ 0) (scene : Scene World) :
    (Host.useAll owners).perform scene = (.ok (owners.map Owned.handle), scene) := by
  induction owners with
  | nil => rfl
  | cons owned rest ih =>
    obtain ⟨first, others⟩ := List.forall_mem_cons.mp held
    simp only [Host.useAll, Action.perform_bind, perform_use first, ih others]
    rfl

/-- An action comes down to a call if it makes this one and no other, and stops at a fault if the call
does; or it makes none, and stops for this reason. -/
def ComesTo (action : Action World α) : Except Stop Request → Prop
  | .error stop => ∀ machine notices, ∃ notes,
    action.perform (plain machine notices) = (.error stop, plain machine notes)
  | .ok request => ∀ machine notices, ∃ result notes,
    action.perform (plain machine notices) = (result, plain (machine.perform request).2 notes) ∧
      ∀ found, result = .error (.faulted found) ↔ (machine.perform request).1 = .error found

namespace ComesTo
variable {action : Action World α} {next : α → Action World β} {call : Except Stop Request}

theorem stopped {stop : Stop} (stops : ∀ scene, action.perform scene = (.error stop, scene)) :
    ComesTo action (.error stop) := fun _ notices => ⟨notices, stops _⟩

theorem refuse (error : NativeError) :
    ComesTo (Action.refuse error : Action World α) (.error (.failed (.native error))) :=
  stopped fun _ => rfl

/-- What settles a value first makes no call. -/
theorem after {value : α} (settles : ∀ scene, action.perform scene = (.ok value, scene))
    (rest : ComesTo (next value) call) : ComesTo (action >>= next) call := by
  have same (scene : Scene World) : (action >>= next).perform scene = (next value).perform scene := by
    rw [Action.perform_bind, settles]
  cases call with
  | error stop => simpa only [ComesTo, same] using rest
  | ok request => simpa only [ComesTo, same] using rest

private theorem noted (notice : Notice) (rest : ComesTo action call) :
    ComesTo (Action.note notice >>= fun _ => action) call := by
  cases call with
  | error stop => exact fun machine notices => rest machine (notice :: notices)
  | ok request => exact fun machine notices => rest machine (notice :: notices)

/-- What only takes over the result makes no further call. -/
theorem bind (first : ComesTo action call)
    (takes : ∀ value machine notices, ∃ last notes,
      (next value).perform (plain machine notices) = (.ok last, plain machine notes)) :
    ComesTo (action >>= next) call := by
  cases call with
  | error stop =>
    intro machine notices
    obtain ⟨notes, performed⟩ := first machine notices
    exact ⟨notes, by rw [Action.perform_bind, performed]⟩
  | ok request =>
    intro machine notices
    obtain ⟨result, notes, performed, stops⟩ := first machine notices
    cases result with
    | error stop =>
      refine ⟨.error stop, notes, by rw [Action.perform_bind, performed], fun found => ?_⟩
      rw [← stops found]
      simp only [Except.error.injEq]
    | ok value =>
      obtain ⟨last, notes, taken⟩ := takes value (machine.perform request).2 notes
      refine ⟨.ok last, notes, by rw [Action.perform_bind, performed]; exact taken, fun found => ?_⟩
      rw [← stops found]
      exact iff_of_false nofun nofun

/-- A call whose answer is taken over, also where it is an error. -/
theorem called (route : Route) (request : Request) {next : Response → Action World α}
    (takes : ∀ response machine notices, ∃ result notes,
      (next response).perform (plain machine notices) = (result, plain machine notes) ∧
        ∀ found, result ≠ .error (.faulted found)) :
    ComesTo (Action.call route.driver request >>= next) (.ok request) := by
  intro machine notices
  rcases answered : machine.perform request with ⟨found | response, after⟩
  · refine ⟨.error (.faulted found), notices, ?_, fun other => ?_⟩
    · simp only [Action.perform_bind, Action.perform_call, plain, route.driver_plain, answered]
    · simp only [Except.error.injEq, Stop.faulted.injEq]
  · obtain ⟨result, notes, taken, sound⟩ := takes response after notices
    refine ⟨result, notes, ?_, fun found => iff_of_false (sound found) fun same => ?_⟩
    · simp only [Action.perform_bind, Action.perform_call, plain, route.driver_plain, answered]
      exact taken
    · cases same

theorem obtained (route : Route) (request : Request) :
    ComesTo (Action.obtain route.driver request) (.ok request) := by
  refine called route request fun response machine notices => ?_
  cases checkHandle response.status response.handle with
  | error error => exact ⟨_, notices, rfl, nofun⟩
  | ok handle => exact ⟨_, notices, rfl, nofun⟩

end ComesTo

/-- The reason why the host refuses a call. -/
def declined (error : NativeError) : Except Stop Request := .error (.failed (.native error))

section
variable (context : Host.Context) (flags : UInt64)

/-- The call for a buffer that is copied from numbers. -/
def numbersCall (type : ScalarType) (values : List Int) : Except Stop Request :=
  let data := Block.ofBytes (type.encodeList values)
  if containsBits flags useHostPointer then declined .invalidHostPtr
  else .ok (.createBuffer context.owned.handle (flags ||| copyHostPointer) data.size (some data))

/-- The call for an image over host memory that is not checked. -/
def imageRequest (format : ImageFormat) (layout : ImageDescriptor) (backing : Option Host.Memory)
    (host : Option Block) : Request :=
  let buffer := (backing.map (·.owned.handle)).getD 0
  .createImage context.owned.handle flags (some format.toRaw) (some { layout with buffer := buffer }) host

/-- The call for an image, where data for it covers all of it. -/
def imageCall (format : ImageFormat) (layout : ImageDescriptor) (backing : Option Host.Memory) :
    Option Block → Except Stop Request
  | none => .ok (imageRequest context flags format layout backing none)
  | some data =>
    if containsBits flags useHostPointer then declined .invalidHostPtr
    else match format.pixelSize? with
      | none => declined .imageFormatNotSupported
      | some pixel =>
        if data.size < layout.hostLength pixel then declined .invalidHostPtr
        else .ok (imageRequest context (flags ||| copyHostPointer) format layout backing (some data))

/-- The call for an image of a bitmap. A bitmap without storage to offer has to be unpacked for it. -/
def bitmapCall (bitmap : Bitmap) : Except Stop Request :=
  let shape : ImageDescriptor := .flat bitmap.width bitmap.height
  match bitmap.layout with
  | .gray8 pixels stride =>
    imageCall context flags (Host.Context.byteFormat .intensity) { shape with rowPitch := stride } none
      (some pixels)
  | .rgba8 pixels stride =>
    imageCall context flags (Host.Context.byteFormat .rgba) { shape with rowPitch := stride } none
      (some pixels)
  | .other =>
    match bitmap.toRgba8 with
    | .error fault => .error (.faulted fault)
    | .ok data =>
      imageCall context flags (Host.Context.byteFormat .rgba) shape none (some (.ofBytes data))

end

/-- The call for a program of these pieces of source. -/
def sourceCall (context : Host.Context) (sources : List String) : Except Stop Request :=
  if ∀ source ∈ sources, '\x00' ∉ source.toList then
    .ok (.createProgram context.owned.handle (sources.length % halfRange) (some (sources.map some)) false)
  else .error (.failed .interiorNul)

/-- The call for a dispatch, where as many offsets and local sizes are given as global ones. -/
def dispatchCall (queue : Queue) (kernel : Host.Kernel) (globals : List Nat)
    (offsets locals : Option (List Nat)) (waits : List Host.Event) : Except Stop Request :=
  let differs (sizes : List Nat) : Bool := sizes.length != globals.length
  if globals.length = 0 then declined .invalidWorkDimension
  else if offsets.any differs then declined .invalidGlobalOffset
  else if locals.any differs then declined .invalidWorkGroupSize
  else .ok (queue.request waits
    (.dispatch kernel.owned.handle (globals.length % halfRange) offsets (some globals) locals))

namespace ComesTo
variable (route : Route)

section
variable {context : Host.Context} (held : context.owned.handle ≠ 0) (flags : UInt64)
include held

theorem newBufferFrom (size : Nat) (host : Option Block) :
    ComesTo (context.newBufferFrom route.driver flags size host)
      (.ok (.createBuffer context.owned.handle flags size host)) :=
  after (perform_use held) (.bind (obtained route _) fun _ _ _ => ⟨_, _, rfl⟩)

private theorem newBufferOf (type : ScalarType) (values : List Int) :
    ComesTo (context.newBufferOf route.driver flags type values)
      (numbersCall context flags type values) := by
  unfold Host.Context.newBufferOf numbersCall
  split
  · exact .refuse _
  · exact .newBufferFrom route held _ _ _

section
variable (format : ImageFormat) (layout : ImageDescriptor) {backing : Option Host.Memory}
  (backed : ∀ memory ∈ backing, memory.owned.handle ≠ 0)
include backed

theorem newImageFrom (host : Option Block) :
    ComesTo (context.newImageFrom route.driver flags format layout backing host)
      (.ok (imageRequest context flags format layout backing host)) := by
  have named : ∀ scene : Scene World, (Host.Context.backingHandle backing).perform scene =
      (.ok ((backing.map (·.owned.handle)).getD 0), scene) := by
    cases backing with
    | none => exact fun _ => rfl
    | some memory => exact perform_use (backed memory rfl)
  exact after named (after (perform_use held) (.bind (obtained route _) fun _ _ _ => ⟨_, _, rfl⟩))

theorem newImage (data : Option Block) :
    ComesTo (context.newImage route.driver flags format layout backing data)
      (imageCall context flags format layout backing data) := by
  cases data with
  | none => exact .newImageFrom route held flags format layout backed none
  | some data =>
    dsimp only [Host.Context.newImage, imageCall]
    split
    · exact .refuse _
    · cases format.pixelSize? with
      | none => exact .refuse _
      | some pixel =>
        dsimp only
        split
        · exact .refuse _
        · exact .newImageFrom route held _ format layout backed _

end

private theorem newImageOf (bitmap : Bitmap) :
    ComesTo (context.newImageOf route.driver flags bitmap) (bitmapCall context flags bitmap) := by
  unfold Host.Context.newImageOf bitmapCall
  dsimp only
  cases bitmap.layout with
  | gray8 | rgba8 => exact .newImage route held flags _ _ (by simp) _
  | other =>
    cases bitmap.toRgba8 with
    | error fault => exact .stopped fun _ => rfl
    | ok data => exact .after (fun _ => rfl) (.newImage route held flags _ _ (by simp) _)

private theorem newProgram (sources : List String) :
    ComesTo (context.newProgram route.driver sources) (sourceCall context sources) := by
  unfold Host.Context.newProgram sourceCall
  split
  · rename_i free
    have checked : ∀ scene : Scene World, (Host.Context.allWithoutNul sources).perform scene = (.ok (), scene) :=
      fun scene => by rw [perform_allWithoutNul, if_pos free]
    exact after checked (after (perform_use held) (.bind (obtained route _) fun _ _ _ => ⟨_, _, rfl⟩))
  · rename_i nul
    exact .stopped fun scene => by rw [Action.perform_bind, perform_allWithoutNul, if_neg nul]

end

/-- A command in a queue, whose owners are there and whose arguments are settled. -/
theorem enqueue {queue : Queue} {waits : List Host.Event} {command : Action World Command}
    {named : Command} (held : queue.owned.handle ≠ 0)
    (waited : ∀ owned ∈ waits.map Event.owned, owned.handle ≠ 0)
    (naming : ∀ scene, command.perform scene = (.ok named, scene)) :
    ComesTo (queue.enqueue route.driver waits command) (.ok (queue.request waits named)) := by
  have listed : ∀ scene : Scene World, (Event.handles waits).perform scene =
      (.ok (waits.map (·.owned.handle)), scene) := by
    intro scene
    rw [Event.handles, perform_useAll waited, List.map_map]
    rfl
  unfold Queue.enqueue Queue.submit
  simp only [bind_assoc]
  refine after listed (after (perform_use held) (after naming (called route _ ?_)))
  intro response machine notices
  cases checkHandle response.status response.handle with
  | error error => exact ⟨_, _, rfl, nofun⟩
  | ok event => exact ⟨_, _, rfl, nofun⟩

private theorem dispatch {queue : Queue} {kernel : Host.Kernel} {waits : List Host.Event}
    (held : queue.owned.handle ≠ 0) (carried : kernel.owned.handle ≠ 0)
    (waited : ∀ owned ∈ waits.map Event.owned, owned.handle ≠ 0)
    (globals : List Nat) (offsets locals : Option (List Nat)) :
    ComesTo (queue.dispatch route.driver kernel globals offsets locals waits)
      (dispatchCall queue kernel globals offsets locals waits) := by
  unfold Queue.dispatch dispatchCall
  dsimp only
  split
  · exact .refuse _
  · split
    · exact .refuse _
    · split
      · exact .refuse _
      · refine .noted _ (.enqueue route held waited fun scene => ?_)
        rw [Action.perform_bind, perform_use carried]
        rfl

end ComesTo

/-- The call that a step comes down to which asks for a memory object, where its slots are found. -/
def Allocation.call? (slots : Slots) : Allocation → Option (Except Stop Request)
  | newBuffer context flags size => do
    let context ← slots.context? context
    some (.ok (.createBuffer context.object.owned.handle flags size none))
  | newBufferOf context flags type values => do
    let context ← slots.context? context
    some (numbersCall context.object flags type values)
  | newBufferFrom context flags size host => do
    let context ← slots.context? context
    some (.ok (.createBuffer context.object.owned.handle flags size host))
  | newImage context flags format layout backing data => do
    let context ← slots.context? context
    let backing ← Slots.optional? slots.memory? backing
    some (imageCall context.object flags format layout (backing.map Routed.object) data)
  | newImageFrom context flags format layout backing host => do
    let context ← slots.context? context
    let backing ← Slots.optional? slots.memory? backing
    some (.ok (imageRequest context.object flags format layout (backing.map Routed.object) host))
  | newImageOf context flags bitmap => do
    let context ← slots.context? context
    some (bitmapCall context.object flags bitmap)
  | _ => none

/-- The call that a step comes down to which hands over a source. -/
def Compilation.call? (slots : Slots) : Compilation → Option (Except Stop Request)
  | newProgram context sources => do
    let context ← slots.context? context
    some (sourceCall context.object sources)
  | _ => none

/-- The call that a step comes down to which carries out a kernel. -/
def Queueing.call? (slots : Slots) : Queueing → Option (Except Stop Request)
  | enqueue queue waits (.dispatch kernel globals offsets locals) => do
    let queue ← slots.queue? queue
    let waits ← slots.events? waits
    let kernel ← slots.kernel? kernel
    some (dispatchCall queue.object kernel.object globals offsets locals (waits.map Routed.object))
  | _ => none

def Job.call? (slots : Slots) : Job → Option (Except Stop Request)
  | .allocation job => job.call? slots
  | .compilation job => job.call? slots
  | .queueing job => job.call? slots
  | _ => none

/-- A work is found exactly if a call is told, and comes down to it. -/
inductive Leads : Option Work → Option (Except Stop Request) → Prop where
  | missing : Leads none none
  | found {work : Work} {call : Except Stop Request} (comes : ComesTo work call) :
      Leads (some work) (some call)

namespace Leads

theorem bind {found : Option α} {next : α → Option Work} {call : α → Option (Except Stop Request)}
    (rest : ∀ value, found = some value → Leads (next value) (call value)) :
    Leads (found >>= next) (found >>= call) := by
  cases found with
  | none => exact .missing
  | some value => exact rest value rfl

theorem making (route : Route) (item : α → Item) (handle : α → Nat) {action : Action World α}
    {call : Except Stop Request} (comes : ComesTo action call) :
    Leads (some (Work.making route item handle action)) (some call) :=
  .found (comes.bind fun _ _ _ => ⟨_, _, rfl⟩)

end Leads

section
variable {slots : Slots} (whole : slots.Whole)
include whole

theorem Allocation.leads {job : Allocation} (asks : job.MayOverreach) :
    Leads (job.work slots) (job.call? slots) := by
  have admits := whole.admits False False job.mentions
  cases job with
  | newBuffer | newBufferFrom =>
    exact .bind fun context found =>
      .making _ _ _ (.newBufferFrom _ (admits.context List.mem_cons_self found) _ _ _)
  | newBufferOf =>
    exact .bind fun context found =>
      .making _ _ _ (.newBufferOf _ (admits.context List.mem_cons_self found) _ _ _)
  | newImage =>
    exact .bind fun context found => .bind fun backing backed =>
      .making _ _ _ (.newImage _ (admits.context List.mem_cons_self found) _ _ _
        (admits.backing (List.subset_cons_self _ _) backed) _)
  | newImageFrom =>
    exact .bind fun context found => .bind fun backing backed =>
      .making _ _ _ (.newImageFrom _ (admits.context List.mem_cons_self found) _ _ _
        (admits.backing (List.subset_cons_self _ _) backed) _)
  | newImageOf =>
    exact .bind fun context found =>
      .making _ _ _ (.newImageOf _ (admits.context List.mem_cons_self found) _ _)
  | _ => exact asks.elim

theorem Compilation.leads {job : Compilation} (asks : job.MayOverreach) :
    Leads (job.work slots) (job.call? slots) := by
  have admits := whole.admits False False job.mentions
  cases job with
  | newProgram =>
    exact .bind fun context found =>
      .making _ _ _ (.newProgram _ (admits.context List.mem_cons_self found) _)
  | _ => exact asks.elim

theorem Queueing.leads {job : Queueing} (asks : job.MayOverreach) :
    Leads (job.work slots) (job.call? slots) := by
  have admits := whole.admits False False
  cases job with
  | enqueue queue waits command =>
    cases command with
    | dispatch kernel globals offsets locals =>
      refine .bind fun line queued => .bind fun events waited => .bind fun carried found => .found ?_
      refine .bind (.dispatch _ ?_ ?_ ?_ globals offsets locals) fun _ _ _ => ⟨_, _, rfl⟩
      · exact (admits [queue]).queue List.mem_cons_self queued
      · exact (admits [kernel]).kernel List.mem_cons_self found
      · exact (admits waits).events (List.Subset.refl waits) waited
    | _ => exact asks.elim
  | _ => exact asks.elim

end

end Offload.Session
