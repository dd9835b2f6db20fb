import Offload.Proofs.Filing
import Offload.Proofs.Results
import Offload.Proofs.Wrappers
import Offload.Session.Run

/-! The works of session steps. Whatever a step works on, the slots that it makes hold all
that has come into being. -/
namespace Offload.Session
open Host

/-- What the slots hold that a work makes. -/
def Product.children (product : Product) : List (ObjectKind × Nat) := Slots.holdings product.made

/-- A work, where it is found, is good. -/
def Found (good : Work → Prop) (found : Option Work) : Prop := ∀ work, found = some work → good work

namespace Found
variable {α : Type} {good : Work → Prop}

theorem none : Found good none := nofun

theorem some {work : Work} (holds : good work) : Found good (some work) := by
  intro other same
  cases same
  exact holds

/-- A work that depends on what is found in the slots. -/
theorem bind_of_eq {found : Option α} {next : α → Option Work}
    (rest : ∀ value, found = .some value → Found good (next value)) : Found good (found >>= next) := by
  intro work same
  obtain ⟨value, present, last⟩ := Option.bind_eq_some_iff.mp same
  exact rest value present work last

theorem bind {found : Option α} {next : α → Option Work} (rest : ∀ value, Found good (next value)) :
    Found good (found >>= next) :=
  bind_of_eq fun value _ => rest value

end Found

/-- A work, where it is found, makes at most what is in its slots. -/
abbrev Bearing : Option Work → Prop := Found (Bears · Product.children)

namespace Bears
variable {α : Type}

theorem ofAnswer (answer : Answer) : Bears (Work.ofAnswer answer) Product.children := pure rfl

theorem answering {action : Action World α} (dialogue : Dialogue .calm action) (answer : α → Answer) :
    Bears (Work.answering action answer) Product.children :=
  bind dialogue.quiet fun _ => pure rfl

private theorem silent {action : Action World Unit} (dialogue : Dialogue .calm action) :
    Bears (Work.silent action) Product.children := answering dialogue _

theorem observing (look : Simulator.Machine → Answer) :
    Bears (Work.observing look) Product.children := by
  intro machine notices _
  exact ⟨_, machine, notices, rfl, .unchanged machine, Nat.zero_le 1, rfl⟩

/-- Work that makes one object, in a slot that holds it. -/
theorem workMaking {action : Action World α} {children : α → List (ObjectKind × Nat)}
    (bears : Bears action children) {route : Route} {item : α → Item} {handle : α → Nat}
    (held : ∀ value, (⟨route, item value⟩ : Slot).holding = children value) :
    Bears (Work.making route item handle action) Product.children :=
  and_then bears fun value => ⟨.ok _, fun _ => rfl, (List.append_nil _).trans (held value)⟩

private theorem yielding {action : Action World Event} (route : Route)
    (bears : Bears action fun event => holding event.owned) :
    Bears (Queueing.yielding route action) Product.children :=
  and_then bears fun _ => ⟨.ok _, fun _ => rfl, List.append_nil _⟩

private theorem reading {action : Action World Reading} (route : Route)
    (bears : Bears action fun reading => yielded reading.outcome)
    (present : Except CallError Nat → Block → Answer) :
    Bears (Queueing.reading route action present) Product.children :=
  and_then bears fun reading => match reading with
    | ⟨_, .ok _⟩ => ⟨.ok _, fun _ => rfl, List.append_nil _⟩
    | ⟨_, .error _⟩ => ⟨.ok _, fun _ => rfl, rfl⟩

theorem mem_listed {route : Route} {item : α → Item} {id : α → Nat} {objects : List α} {slot : Slot}
    (member : slot ∈ Slots.contents (Product.listed route item id objects).made) :
    ∃ value, slot = ⟨route, item value⟩ := by
  simp only [Product.listed, Slots.contents, List.map_map, List.mem_map, Function.comp_apply] at member
  obtain ⟨⟨listed, _⟩, indexed, rfl⟩ := member
  obtain ⟨value, _, rfl⟩ := List.mem_map.mp (List.fst_mem_of_mem_zipIdx indexed)
  exact ⟨value, rfl⟩

/-- Listed things without owners. -/
theorem children_listed (route : Route) {item : α → Item} (bare : ∀ value, (item value).owner? = none)
    (id : α → Nat) (objects : List α) : (Product.listed route item id objects).children = [] := by
  refine List.flatMap_eq_nil_iff.mpr fun slot member => ?_
  obtain ⟨value, rfl⟩ := mem_listed member
  simp only [Slot.holding, bare]

end Bears

theorem Discovery.bearing (job : Discovery) (slots : Slots) : Bearing (job.work slots) := by
  cases job with
  | platforms =>
    exact .some
      (.bind (Dialogue.platforms .layered).quiet fun _ => .pure (Bears.children_listed _ (fun _ => rfl) _ _))
  | devices =>
    exact .bind fun _ => .some
      (.bind (Dialogue.devices .layered _ _).quiet fun _ => .pure (Bears.children_listed _ (fun _ => rfl) _ _))
  | platformWithId | deviceWithId => exact .some (.pure rfl)
  | platformText => exact .bind fun _ => .some (.answering (.platformText _ _ _) _)
  | deviceProperty => exact .bind fun _ => .some (.answering (.deviceProperty _ _ _) _)
  | same => exact .bind fun _ => .some (.ofAnswer _)

private theorem Bears.makingMemory {action : Action World Memory} {route : Route}
    (bears : Bears action fun memory => holding memory.owned) :
    Bears (Allocation.makingMemory route action) Product.children :=
  workMaking bears fun _ => rfl

theorem Dialogue.infoOf {manners : Manners} {memory : Memory} (allowed : manners.uses memory.owned.handle) :
    Dialogue manners (Allocation.infoOf memory) := .use allowed (.done _)

theorem Allocation.bearing (job : Allocation) (slots : Slots) : Bearing (job.work slots) := by
  cases job with
  | newContext => exact .bind fun _ => .some (.workMaking (.newContext _ _) fun _ => rfl)
  | contextDevices | queueInfo => exact .bind fun _ => .some (.ofAnswer _)
  | newQueue =>
    exact .bind fun _ => .bind fun _ => .some (.workMaking (.newQueue _ _ _ _) fun _ => rfl)
  | newBuffer => exact .bind fun _ => .some (.makingMemory (.newBufferFrom _ _ _ _ _))
  | newBufferOf => exact .bind fun _ => .some (.makingMemory (.newBufferOf _ _ _ _ _))
  | newBufferFrom => exact .bind fun _ => .some (.makingMemory (.newBufferFrom _ _ _ _ _))
  | newImage => exact .bind fun _ => .bind fun _ => .some (.makingMemory (.newImage _ _ _ _ _ _ _))
  | newImageFrom =>
    exact .bind fun _ => .bind fun _ => .some (.makingMemory (.newImageFrom _ _ _ _ _ _ _))
  | newImageOf => exact .bind fun _ => .some (.makingMemory (.newImageOf _ _ _ _))
  | formats => exact .bind fun _ => .some (.answering (.imageFormats _ _ trivial _) _)
  | newUserEvent => exact .bind fun _ => .some (.workMaking (.newUserEvent _ _) fun _ => rfl)
  | memoryInfo =>
    exact .bind fun _ => .some (.answering (.infoOf trivial) id)
  | contents => exact .bind fun _ => .some (.bind (.use _) fun _ => .observing _)

theorem Compilation.bearing (job : Compilation) (slots : Slots) : Bearing (job.work slots) := by
  cases job with
  | newProgram => exact .bind fun _ => .some (.workMaking (.newProgram _ _ _) fun _ => rfl)
  | programDevices => exact .bind fun _ => .some (.ofAnswer _)
  | build => exact .bind fun _ => .bind fun _ => .some (.silent (.build _ trivial (Or.inl trivial) _ _))
  | buildLog => exact .bind fun _ => .bind fun _ => .some (.answering (.buildLog _ trivial (Or.inl trivial) _) _)
  | buildStatus => exact .bind fun _ => .bind fun _ => .some (.answering (.buildStatus _ trivial _) _)
  | storedLog => exact .bind fun _ => .some (.bind (.use _) fun _ => .observing _)
  | newKernel => exact .bind fun _ => .some (.workMaking (.newKernel _ _ _) fun _ => rfl)
  | ask kernel device question =>
    refine .bind fun kernel => .bind fun device => .some ?_
    cases question with
    | name => exact .ofAnswer _
    | functionName => exact .answering (.functionName _ trivial) _
    | argumentCount => exact .answering (.argumentCount _ trivial) _
    | workGroup => exact .answering (.workGroup _ trivial _ _) _
  | bind kernel index binding =>
    refine .bind fun kernel => ?_
    cases binding with
    | scalar | localMemory | bytes => exact .some (.silent (.bindArgument _ trivial _ _ _))
    | memory => exact .bind fun _ => .some (.silent (.bindMemory _ trivial _ trivial))
  | argument => exact .bind fun _ => .some (.bind (.use _) fun _ => .observing _)

/-- The works that are about queues and events: what they make is the event of one command. -/
inductive Queueing.Issues : Work → Prop where
  | yielding {action : Action World Event} (route : Route)
      (bears : Bears action fun event => holding event.owned)
      (yields : Yields (·.owned.handle ≠ 0) action) : Issues (yielding route action)
  | reading {action : Action World Reading} (route : Route)
      (bears : Bears action fun reading => Bears.yielded reading.outcome)
      (yields : Yields (fun reading => Yields.Accepted reading.outcome) action)
      (present : Except CallError Nat → Block → Answer) : Issues (reading route action present)
  | answering {α : Type} {action : Action World α} (dialogue : Dialogue .calm action)
      (answer : α → Answer) : Issues (Work.answering action answer)

private theorem Queueing.Issues.silent {action : Action World Unit} (dialogue : Dialogue .calm action) :
    Issues (Work.silent action) := answering dialogue _

private theorem Queueing.Issues.bears {work : Work} (issues : Issues work) : Bears work Product.children := by
  cases issues with
  | yielding route bears => exact .yielding route bears
  | reading route bears _ present => exact .reading route bears present
  | answering dialogue answer => exact .answering dialogue answer

private theorem Queueing.issues_command (slots : Slots) (queue : Routed Queue) (waits : List Event)
    (command : QueuedCommand) : Found Issues (commandWork slots queue waits command) := by
  cases command with
  | marker => exact .some (.yielding _ (.marker _ _ _) (.enqueue _ _ _ _))
  | barrier => exact .some (.yielding _ (.barrier _ _ _) (.enqueue _ _ _ _))
  | writeValues =>
    exact .bind fun _ => .some (.yielding _ (.write _ _ _ _ _ _ _) (.enqueue _ _ _ _))
  | readValues => exact .bind fun _ => .some (.reading _ (.read _ _ _ _ _ _ _) (.reading _ _ _) _)
  | write => exact .bind fun _ => .some (.yielding _ (.write _ _ _ _ _ _ _) (.enqueue _ _ _ _))
  | read => exact .bind fun _ => .some (.reading _ (.read _ _ _ _ _ _ _) (.reading _ _ _) _)
  | copy =>
    exact .bind fun _ => .bind fun _ =>
      .some (.yielding _ (.copy _ _ _ _ _ _ _ _) (.enqueue _ _ _ _))
  | fill => exact .bind fun _ => .some (.yielding _ (.fill _ _ _ _ _ _ _) (.enqueue _ _ _ _))
  | writeImage =>
    exact .bind fun _ => .some (.yielding _ (.writeImage _ _ _ _ _ _) (.writeImage _ _ _ _ _ _))
  | readImage =>
    exact .bind fun _ => .some (.reading _ (.readImage _ _ _ _ _ _) (.readImage _ _ _ _ _ _) _)
  | writeImageFrom =>
    exact .bind fun _ => .some (.yielding _ (.writeImageFrom _ _ _ _ _ _) (.enqueue _ _ _ _))
  | readImageInto =>
    exact .bind fun _ => .some (.reading _ (.readImageInto _ _ _ _ _ _) (.reading _ _ _) _)
  | dispatch =>
    exact .bind fun _ => .some (.yielding _ (.dispatch _ _ _ _ _ _ _) (.dispatch _ _ _ _ _ _ _))

theorem Queueing.issues (job : Queueing) (slots : Slots) : Found Issues (job.work slots) := by
  cases job with
  | finish => exact .bind fun _ => .bind fun _ => .some (.silent (.finish _ trivial))
  | flush => exact .bind fun _ => .bind fun _ => .some (.silent (.flush _ trivial))
  | enqueue => exact .bind fun _ => .bind fun _ => issues_command _ _ _ _
  | eventStatus => exact .bind fun _ => .some (.answering (.status _ trivial) _)
  | wait => exact .bind fun _ => .some (.silent (.waitForAll _ fun _ _ => trivial))
  | waitForAll => exact .bind fun _ => .some (.silent (.waitForAll _ fun _ _ => trivial))
  | settle => exact .bind fun _ => .some (.silent (.settle _ trivial _))
  | profiledAt => exact .bind fun _ => .some (.answering (.stamp _ trivial _) _)

theorem Queueing.bearing (job : Queueing) (slots : Slots) : Bearing (job.work slots) :=
  fun work found => (job.issues slots work found).bears

end Offload.Session
