import Offload.Proofs.Descriptions
import Offload.Proofs.ReleasedOnce
import Offload.Proofs.Transfers

/-! What the works of a session hand over when they succeed. The slots that they make agree
with the store: the host has kept what was asked for, the runtime what it made of that. -/
namespace Offload.Session
open Host Simulator

variable {α β : Type}

/-- What holds of the value and of the store once an action has succeeded on an orderly runtime
that nothing was arranged for. -/
def Ensures (action : Action World α) (post : α → Store → Prop) : Prop :=
  ∀ machine notices, Orderly machine.store → ∀ value after,
    action.perform (plain machine notices) = (.ok value, after) → post value after.world.2.store

namespace Ensures
variable {action : Action World α} {post : α → Store → Prop} {next : α → Action World β}
  {last : β → Store → Prop}

theorem always (holds : ∀ value store, post value store) : Ensures action post :=
  fun _ _ _ value after _ => holds value after.world.2.store

private theorem mono {other : α → Store → Prop} (first : Ensures action post)
    (weaker : ∀ value store, post value store → other value store) : Ensures action other :=
  fun machine notices orderly value after performed =>
    weaker value after.world.2.store (first machine notices orderly value after performed)

theorem fail (error : CallError) : Ensures (Action.fail error) post := by
  intro machine notices orderly value after performed
  cases performed

theorem refuse (error : NativeError) : Ensures (Action.refuse error) post := fail (.native error)

theorem bind (first : Quiet action) (rest : ∀ value, Ensures (next value) last) :
    Ensures (action >>= next) last := by
  intro machine notices orderly value after performed
  obtain ⟨result, middle, notes, begun, calm, _⟩ := first machine notices orderly
  rw [Quiet.born_eq] at calm
  rw [Action.perform_bind, begun] at performed
  cases result with
  | error stop => cases performed
  | ok early => exact rest early middle notes (orderly.changed calm.change) value after performed

/-- What comes last only looks at the value. -/
theorem and_then (first : Ensures action post)
    (onward : ∀ value, ∃ result, (∀ scene, (next value).perform scene = (.ok result, scene)) ∧
      ∀ store, post value store → last result store) : Ensures (action >>= next) last := by
  intro machine notices orderly value after performed
  rw [Action.perform_bind] at performed
  generalize begun : action.perform (plain machine notices) = pair at performed
  obtain ⟨stop | early, middle⟩ := pair
  · cases performed
  · obtain ⟨result, still, holds⟩ := onward early
    cases (still middle).symm.trans performed
    exact holds _ (first machine notices orderly early _ begun)

theorem yield {view : α → β} (first : Ensures action fun value => last (view value)) :
    Ensures (do Pure.pure (view (← action))) last :=
  and_then first fun value => ⟨view value, fun _ => rfl, fun _ holds => holds⟩

private theorem certain (first : Ensures action post) : Ensures action.certain post := by
  intro machine notices orderly value after performed
  rw [Action.perform_certain] at performed
  generalize begun : action.perform (plain machine notices) = pair at performed
  obtain ⟨(error | found) | early, middle⟩ := pair
  · cases performed
  · cases performed
  · cases performed
    exact first machine notices orderly value _ begun

/-- An owner that could be used has not been released, and using it changes nothing. -/
theorem use {kind : ObjectKind} {owned : Owned kind} {next : Nat → Action World β}
    (rest : owned.handle ≠ 0 → Ensures (next owned.handle) last) :
    Ensures (owned.use >>= next) last := by
  intro machine notices orderly value after performed
  rw [Action.perform_bind, Owned.use] at performed
  split at performed
  · rename_i began
    split at began
    · cases began
    · rename_i held
      cases began
      exact rest held machine notices orderly value after performed
  · cases performed

/-- An object that is asked for and obtained is what the runtime has accepted. -/
theorem obtain (route : Route) {request : Request} {view : Nat → β} {next : Nat → Action World β}
    (creating : creates request.entry = true)
    (adopts : ∀ handle scene, ∃ notes, (next handle).perform scene =
      (.ok (view handle), ⟨scene.world, notes⟩))
    (stored : ∀ store object, Orderly store → store.service request = .creation (.ok object) →
      last (view (store.add object).1) (store.add object).2) :
    Ensures (Action.obtain route.driver request >>= next) last := by
  intro machine notices orderly value after performed
  obtain ⟨outcome, service⟩ := service_of_creates machine.store creating
  rw [Action.obtain, bind_assoc, Action.perform_bind, Action.perform_call] at performed
  simp only [plain, route.driver_plain] at performed
  rcases answered : machine.perform request with ⟨found | response, reached⟩
  · rw [answered] at performed
    cases performed
  · rw [answered] at performed
    dsimp only at performed
    rw [Action.perform_bind] at performed
    cases checked : checkHandle response.status response.handle with
    | error error =>
      rw [checked] at performed
      cases performed
    | ok handle =>
      obtain ⟨⟨_, handled⟩, rfl⟩ := checkHandle_ok_iff.mp checked
      obtain ⟨_, object, rfl, named, same⟩ := created_of_answered service answered handled
      obtain ⟨notes, taken⟩ := adopts response.handle ⟨({}, reached), notices⟩
      rw [checked] at performed
      have taken := taken.symm.trans performed
      cases taken
      show last (view response.handle) reached.store
      rw [named, same]
      exact stored machine.store object orderly service

/-- What an action makes is in the store, each object of its kind. -/
theorem of_bears {children : α → List (ObjectKind × Nat)} (bears : Bears action children) :
    Ensures action fun value store => ∀ owner ∈ children value,
      ∃ object, store.objects.find? owner.2 = some object ∧ object.kind = owner.1 := by
  intro machine notices orderly value after performed owner member
  obtain ⟨result, reached, notes, same, grown, _⟩ := bears machine notices orderly
  cases same.symm.trans performed
  have listed : owner ∈ reached.store.objects.outline := by
    rw [grown.outline]
    exact List.mem_append_right _ member
  exact (orderly.changed grown.change).find?_of_outline listed

end Ensures

/-- A slot that was made agrees with the store and stems from a context that was named, provided
that such a context has agreed with its object. -/
def Slot.Fits (home : Context → Prop) (slot : Slot) (store : Store) : Prop :=
  (∀ context, home context → ∀ route, Slot.Agrees store ⟨route, .context context⟩) →
    slot.Agrees store ∧ slot.item.Stems home

def Product.Fits (home : Context → Prop) (product : Product) (store : Store) : Prop :=
  ∀ slot ∈ Slots.contents product.made, slot.Fits home store

namespace Ensures
variable {home : Context → Prop} (route way : Route)

theorem newContext (devices : List Device) :
    Ensures (Context.create route.driver devices)
      fun context => Slot.Fits home ⟨way, .context context⟩ := by
  unfold Context.create
  split
  · exact fail _
  · refine obtain route rfl (fun _ _ => ⟨_, rfl⟩) fun store object orderly service => ?_
    obtain ⟨handles, listed, rfl⟩ := Store.newContext_ok (Service.creation.inj service)
    have same : handles = idsOf devices := by
      rw [HandleList.ofList] at listed
      split at listed
      · cases listed
      · exact (Option.some.inj listed).symm
    have kept : handles.take (HandleList.ofList (idsOf devices)).count = keptDevices devices := by
      rw [same, keptDevices, HandleList.ofList, idsOf, List.length_map]
    rw [kept]
    exact fun _ => ⟨.of_found rfl (orderly.find?_add _) (.context ⟨_, devices⟩), trivial⟩

section contexts
variable {context : Context} (flags : UInt64)

/-- The runtime looks the device up in its own context, the host keeps it beside the queue. -/
theorem newQueue (named : home context) (device : Device) (properties : UInt64) :
    Ensures (context.newQueue route.driver device properties)
      fun queue => Slot.Fits home ⟨way, .queue queue⟩ := by
  refine use fun held => obtain route rfl (fun _ _ => ⟨_, rfl⟩) fun store object orderly service => ?_
  obtain ⟨devices, located, member, known, rfl⟩ := Store.newQueue_ok (Service.creation.inj service)
  intro homes
  have declared := isDeclared_queueProperties known
  refine ⟨.of_found rfl (orderly.find?_add _) (.queue declared), context, named, ?_⟩
  -- The device was found in the context as stored, which the owner of the context describes.
  obtain ⟨_, found, describes⟩ := homes context named way _ (Slot.mem_holding rfl held)
  rw [describes.context_eq, Store.add, Table.find?_insert, Store.context_ok_iff.mp located] at found
  cases found
  obtain ⟨other, listed, same⟩ := List.mem_map.mp (List.mem_of_mem_take member)
  cases other
  cases same
  exact listed

private theorem newProgram (named : home context) (sources : List String) :
    Ensures (context.newProgram route.driver sources)
      fun program => Slot.Fits home ⟨way, .program program⟩ := by
  refine bind (Dialogue.allWithoutNul sources).quiet fun _ => use fun _ =>
    obtain route rfl (fun _ _ => ⟨_, rfl⟩) fun store object orderly service => ?_
  obtain ⟨_, _, rfl⟩ := Store.newProgram_ok (Service.creation.inj service)
  intro _
  exact ⟨.of_found rfl (orderly.find?_add _) (.program _ _), context, named, rfl⟩

theorem newBufferFrom (size : Nat) (host : Option Block) :
    Ensures (context.newBufferFrom route.driver flags size host)
      fun memory => Slot.Fits home ⟨way, .memory memory⟩ := by
  refine use fun _ => obtain route rfl (fun _ _ => ⟨_, rfl⟩) fun store object orderly service => ?_
  obtain ⟨filled, _, data, rfl, rfl⟩ := Store.newBuffer_ok (Service.creation.inj service)
  intro _
  exact ⟨.of_found rfl (orderly.find?_add _) (.memory (.of_buffer _ filled)), trivial⟩

private theorem newBufferOf (type : ScalarType) (values : List Int) :
    Ensures (context.newBufferOf route.driver flags type values)
      fun memory => Slot.Fits home ⟨way, .memory memory⟩ := by
  unfold Context.newBufferOf
  split
  · exact refuse _
  · exact newBufferFrom route way _ _ _

theorem newImageFrom (format : ImageFormat) (descriptor : ImageDescriptor)
    (backing : Option Host.Memory) (host : Option Block) :
    Ensures (context.newImageFrom route.driver flags format descriptor backing host)
      fun memory => Slot.Fits home ⟨way, .memory memory⟩ := by
  refine bind (.backingHandle backing) fun _ => use fun _ =>
    obtain route rfl (fun _ _ => ⟨_, rfl⟩) fun store object orderly service => ?_
  obtain ⟨_, layout, pixel, data, same, _, sized, wide, high, extent, _, rfl⟩ :=
    Store.newImage_ok (Service.creation.inj service)
  cases same
  intro _
  have described := @MemoryDescribed.of_image data ⟨layout.width, layout.height, pixel⟩ format
    ⟨handleOf (store.made + 1)⟩ wide high extent sized
  exact ⟨.of_found rfl (orderly.find?_add _) (.memory described), trivial⟩

theorem newImage (format : ImageFormat) (descriptor : ImageDescriptor) (backing : Option Host.Memory)
    (data : Option Block) :
    Ensures (context.newImage route.driver flags format descriptor backing data)
      fun memory => Slot.Fits home ⟨way, .memory memory⟩ := by
  rcases newImage_cases route.driver context flags format descriptor backing data with
    ⟨error, refused⟩ | ⟨given, host, asked⟩
  · exact refused ▸ refuse error
  · exact asked ▸ newImageFrom route way given format descriptor backing host

private theorem newImageOf (bitmap : Bitmap) :
    Ensures (context.newImageOf route.driver flags bitmap)
      fun memory => Slot.Fits home ⟨way, .memory memory⟩ := by
  unfold Context.newImageOf
  dsimp only
  split
  · exact newImage route way flags _ _ none _
  · exact newImage route way flags _ _ none _
  · exact bind (.ofFaulty _) fun _ => newImage route way flags _ _ none _

end contexts

private theorem newKernel (program : Host.Program) (name : String) :
    Ensures (program.newKernel route.driver name)
      fun kernel => Slot.Fits home ⟨way, .kernel kernel⟩ := by
  refine bind (Dialogue.withoutNul name).quiet fun _ => use fun _ =>
    obtain route rfl (fun _ _ => ⟨_, rfl⟩) fun store object orderly service => ?_
  obtain ⟨signature, named, rfl⟩ := Store.newKernel_ok (Service.creation.inj service)
  cases named
  intro _
  exact ⟨.of_found rfl (orderly.find?_add _) (.kernel rfl List.length_replicate), trivial⟩

end Ensures

/-- About an event nothing is to be described but that it is one. -/
theorem Slot.Fits.of_event {home : Context → Prop} {event : Host.Event} {store : Store} (route : Route)
    (stored : ∀ owner ∈ Session.holding event.owned,
      ∃ object, store.objects.find? owner.2 = some object ∧ object.kind = owner.1) :
    Slot.Fits home ⟨route, .event event⟩ store := by
  refine fun _ => ⟨fun owner held => ?_, trivial⟩
  obtain ⟨object, found, same⟩ := stored owner held
  rw [eq_of_mem_holding held] at same
  refine ⟨object, found, ?_⟩
  cases object with
  | event stored => exact .event event stored
  | _ => cases same

/-- Platforms and devices have no owner that could disagree. -/
theorem Slot.Fits.of_bare {home : Context → Prop} {slot : Slot} {store : Store}
    (bare : slot.item.owner? = none) : slot.Fits home store := by
  refine fun _ => ⟨.of_bare bare, ?_⟩
  generalize slot.item = item at bare
  cases item with
  | platform | device => trivial
  | _ => cases bare

theorem Product.Fits.of_made {home : Context → Prop} {product : Product} {name : String} {slot : Slot}
    {store : Store} (made : product.made = [(name, slot)]) (fits : slot.Fits home store) :
    product.Fits home store := by
  intro other member
  rw [made] at member
  rw [List.mem_singleton.mp member]
  exact fits

namespace Ensures
variable {home : Context → Prop}

theorem pure {value : α} {post : α → Store → Prop} (holds : ∀ store, post value store) :
    Ensures (Pure.pure value) post := by
  intro machine notices orderly other after performed
  cases performed
  exact holds _

theorem answering (action : Action World α) (answer : α → Answer) :
    Ensures (Work.answering action answer) (Product.Fits home) :=
  yield (always fun _ _ _ impossible => nomatch impossible)

private theorem silent (action : Action World Unit) : Ensures (Work.silent action) (Product.Fits home) :=
  answering action _

theorem ofAnswer (answer : Answer) : Ensures (Work.ofAnswer answer) (Product.Fits home) :=
  pure fun _ _ impossible => nomatch impossible

theorem observing (look : Machine → Answer) : Ensures (Work.observing look) (Product.Fits home) :=
  yield (always fun _ _ _ impossible => nomatch impossible)

private theorem arranging (change : World → World) : Ensures (Work.arranging change) (Product.Fits home) :=
  yield (always fun _ _ _ impossible => nomatch impossible)

theorem making {action : Action World α} {route : Route} {item : α → Item} {handle : α → Nat}
    (first : Ensures action fun value => Slot.Fits home ⟨route, item value⟩) :
    Ensures (Work.making route item handle action) (Product.Fits home) :=
  and_then first fun _ => ⟨_, fun _ => rfl, fun _ fits => .of_made rfl fits⟩

private theorem yielding {action : Action World Host.Event} (route : Route)
    (bears : Bears action fun event => holding event.owned) :
    Ensures (Queueing.yielding route action) (Product.Fits home) :=
  and_then (of_bears bears) fun _ =>
    ⟨_, fun _ => rfl, fun _ stored => .of_made rfl (.of_event route stored)⟩

private theorem reading {action : Action World Reading} (route : Route)
    (bears : Bears action fun reading => Bears.yielded reading.outcome)
    (present : Except CallError Nat → Block → Answer) :
    Ensures (Queueing.reading route action present) (Product.Fits home) :=
  and_then (of_bears bears) fun reading => match reading with
    | ⟨_, .ok _⟩ => ⟨_, fun _ => rfl, fun _ stored => .of_made rfl (.of_event route stored)⟩
    | ⟨_, .error _⟩ => ⟨_, fun _ => rfl, fun _ _ _ impossible => nomatch impossible⟩

end Ensures

private theorem Product.Fits.listed {home : Context → Prop} {route : Route} {item : α → Item} {store : Store}
    (bare : ∀ value, (item value).owner? = none) (id : α → Nat) (objects : List α) :
    (Product.listed route item id objects).Fits home store := by
  intro slot member
  obtain ⟨value, rfl⟩ := Bears.mem_listed member
  exact .of_bare (bare value)

/-- The slot of the context in which a job makes a queue or a program. -/
def Job.home? : Job → Option String
  | .allocation (.newQueue context _ _) | .compilation (.newProgram context _) => some context
  | _ => none

/-- A job that makes a queue or a program in a context from the slots. -/
def Job.StemsFrom (job : Job) (slots : Slots) (context : Context) : Prop :=
  ∃ name route, job.home? = some name ∧ slots.context? name = some ⟨route, context⟩

/-- A work, where it is found, hands over slots that fit. -/
abbrev Fitting (home : Context → Prop) : Option Work → Prop := Found (Ensures · (Product.Fits home))

theorem Discovery.fitting {home : Context → Prop} (job : Discovery) (slots : Slots) :
    Fitting home (job.work slots) := by
  cases job with
  | platforms => exact .some (.yield (.always fun _ _ => .listed (fun _ => rfl) _ _))
  | devices =>
    exact .bind fun _ => .some (.yield (.always fun _ _ => .listed (fun _ => rfl) _ _))
  | platformWithId | deviceWithId => exact .some (.pure fun _ => .of_made rfl (.of_bare rfl))
  | platformText | deviceProperty => exact .bind fun _ => .some (.answering _ _)
  | same => exact .bind fun _ => .some (.ofAnswer _)

theorem Allocation.fitting (job : Allocation) (slots : Slots) :
    Fitting ((Job.allocation job).StemsFrom slots) (job.work slots) := by
  cases job with
  | newContext => exact .bind fun _ => .some (.making (.newContext _ _ _))
  | contextDevices | queueInfo => exact .bind fun _ => .some (.ofAnswer _)
  | newQueue =>
    exact .bind_of_eq fun _ found => .bind fun _ =>
      .some (.making (.newQueue _ _ ⟨_, _, rfl, found⟩ _ _))
  | newBuffer => exact .bind fun _ => .some (.making (.newBufferFrom _ _ _ _ _))
  | newBufferOf => exact .bind fun _ => .some (.making (.newBufferOf _ _ _ _ _))
  | newBufferFrom => exact .bind fun _ => .some (.making (.newBufferFrom _ _ _ _ _))
  | newImage => exact .bind fun _ => .bind fun _ => .some (.making (.newImage _ _ _ _ _ _ _))
  | newImageFrom =>
    exact .bind fun _ => .bind fun _ => .some (.making (.newImageFrom _ _ _ _ _ _ _))
  | newImageOf => exact .bind fun _ => .some (.making (.newImageOf _ _ _ _))
  | formats => exact .bind fun _ => .some (.answering _ _)
  | newUserEvent =>
    exact .bind fun _ => .some (.making
      (.mono (.of_bears (.newUserEvent _ _)) fun _ _ stored => .of_event _ stored))
  | memoryInfo => exact .bind fun _ => .some (.answering _ _)
  | contents => exact .bind fun _ => .some (.bind (.use _) fun _ => .observing _)

theorem Compilation.fitting (job : Compilation) (slots : Slots) :
    Fitting ((Job.compilation job).StemsFrom slots) (job.work slots) := by
  cases job with
  | newProgram =>
    exact .bind_of_eq fun _ found => .some (.making (.newProgram _ _ ⟨_, _, rfl, found⟩ _))
  | programDevices => exact .bind fun _ => .some (.ofAnswer _)
  | build => exact .bind fun _ => .bind fun _ => .some (.silent _)
  | buildLog | buildStatus => exact .bind fun _ => .bind fun _ => .some (.answering _ _)
  | storedLog | argument =>
    exact .bind fun _ => .some (.bind (.use _) fun _ => .observing _)
  | newKernel => exact .bind fun _ => .some (.making (.newKernel _ _ _ _))
  | ask kernel device question =>
    refine .bind fun kernel => .bind fun device => .some ?_
    cases question with
    | name => exact .ofAnswer _
    | functionName | argumentCount | workGroup => exact .answering _ _
  | bind kernel index binding =>
    refine .bind fun kernel => ?_
    cases binding with
    | scalar | localMemory | bytes => exact .some (.silent _)
    | memory => exact .bind fun _ => .some (.silent _)

theorem Queueing.fitting {home : Context → Prop} (job : Queueing) (slots : Slots) :
    Fitting home (job.work slots) := by
  intro work found
  cases job.issues slots work found with
  | yielding route bears => exact .yielding route bears
  | reading route bears _ present => exact .reading route bears present
  | answering dialogue answer => exact .answering _ answer

theorem Ownership.fitting {home : Context → Prop} {job : Ownership}
    (direct : (Job.ownership job).isDirect = true) (slots : Slots) : Fitting home (job.work slots) := by
  cases job with
  | adopt | assume => cases direct
  | handleOf =>
    refine .bind fun slot => ?_
    unfold handleWork
    split
    · exact .some (.answering _ _)
    · exact .none
  | writtenOf => exact .bind fun _ => .some (.ofAnswer _)

theorem Controls.ensures {home : Context → Prop} {job : Controls}
    (direct : (Job.controls job).isDirect = true) : Ensures job.work (Product.Fits home) := by
  unfold Controls.work
  cases job with
  | fail | returnNull => exact .arranging _
  | callCount | lastWaits | lastBuildDevices => exact .observing _
  | directContext => exact .making (.certain (.newContext _ _ _))
  | firstDevice => exact .answering _ _
  | allocateContext | prepare | recount | hide => cases direct

end Offload.Session
