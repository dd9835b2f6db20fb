import Offload.Proofs.Mentions
import Offload.Proofs.ReleasedOnce

/-! The works of jobs as dialogues. A job whose slots hold owners that may be used keeps to the
manners of those owners. -/
namespace Offload.Session
open Host Simulator

variable {α : Type} {manners : Manners} {slots : Slots} {names : List String}

/-- The owner in a slot, where there is one, may be used. -/
def Slot.Admitted (manners : Manners) (slot : Slot) : Prop :=
  ∀ kind (owned : Owned kind), slot.item.owner? = some ⟨kind, owned⟩ → manners.uses owned.handle

/-- The owners under some names may be used. -/
def Slots.Admits (manners : Manners) (names : List String) (slots : Slots) : Prop :=
  ∀ name ∈ names, ∀ slot, slots.get? name = some slot → slot.Admitted manners

/-- What may be looked at of the objects that may be used. -/
structure Manners.Open (manners : Manners) : Prop where
  contents : ∀ handle, manners.uses handle →
    manners.looks fun machine => .bytes (machine.contents handle)
  log : ∀ handle, manners.uses handle → manners.looks fun machine => .text (machine.buildLog handle)
  argument : ∀ handle index, manners.uses handle →
    manners.looks fun machine => .bytesIfAny (machine.kernelArgument? handle index)

namespace Slots

private theorem exists_of_all? {find? : String → Option α} {names : List String} {objects : List α}
    (found : all? find? names = some objects) :
    ∀ object ∈ objects, ∃ name ∈ names, find? name = some object := by
  induction names generalizing objects with
  | nil =>
    cases found
    exact fun _ impossible => nomatch impossible
  | cons name rest ih =>
    rw [all?] at found
    split at found
    · rename_i first others present listed
      cases found
      intro object member
      rcases List.mem_cons.mp member with rfl | later
      · exact ⟨name, List.mem_cons_self, present⟩
      · obtain ⟨other, known, same⟩ := ih listed object later
        exact ⟨other, List.mem_cons_of_mem _ known, same⟩
    · cases found

private theorem of_optional? {find? : String → Option α} {name : Option String} {object : Option α}
    (found : optional? find? name = some object) :
    ∀ value ∈ object, ∃ given ∈ name.toList, find? given = some value := by
  cases name with
  | none =>
    cases found
    exact fun _ impossible => (Option.not_mem_none _ impossible).elim
  | some given =>
    obtain ⟨value, present, rfl⟩ := Option.map_eq_some_iff.mp found
    intro other same
    cases same
    exact ⟨given, List.mem_cons_self, present⟩

namespace Admits

private theorem mono {more : List String} (admits : Admits manners more slots) (fewer : names ⊆ more) :
    Admits manners names slots := fun name member => admits name (fewer member)

section
variable (admits : Admits manners names slots) {name : String} (member : name ∈ names)
include admits member

theorem context {routed : Routed Host.Context} (found : slots.context? name = some routed) :
    manners.uses routed.object.owned.handle := by
  unfold context? at found
  split at found
  · cases found
    exact admits name member _ ‹_› _ _ rfl
  · cases found

theorem queue {routed : Routed Host.Queue} (found : slots.queue? name = some routed) :
    manners.uses routed.object.owned.handle := by
  unfold queue? at found
  split at found
  · cases found
    exact admits name member _ ‹_› _ _ rfl
  · cases found

theorem memory {routed : Routed Host.Memory} (found : slots.memory? name = some routed) :
    manners.uses routed.object.owned.handle := by
  unfold memory? at found
  split at found
  · cases found
    exact admits name member _ ‹_› _ _ rfl
  · cases found

private theorem program {routed : Routed Host.Program} (found : slots.program? name = some routed) :
    manners.uses routed.object.owned.handle := by
  unfold program? at found
  split at found
  · cases found
    exact admits name member _ ‹_› _ _ rfl
  · cases found

theorem kernel {routed : Routed Host.Kernel} (found : slots.kernel? name = some routed) :
    manners.uses routed.object.owned.handle := by
  unfold kernel? at found
  split at found
  · cases found
    exact admits name member _ ‹_› _ _ rfl
  · cases found

theorem event {routed : Routed Host.Event} (found : slots.event? name = some routed) :
    manners.uses routed.object.owned.handle := by
  unfold event? at found
  split at found
  · cases found
    exact admits name member _ ‹_› _ _ rfl
  · cases found

end

theorem events {more : List String} (admits : Admits manners names slots) (within : more ⊆ names)
    {events : List (Routed Host.Event)} (found : slots.events? more = some events) :
    Dialogue.AllHeld manners ((events.map Routed.object).map Host.Event.owned) := by
  intro owned member
  rw [List.map_map] at member
  obtain ⟨routed, listed, rfl⟩ := List.mem_map.mp member
  obtain ⟨name, known, present⟩ := exists_of_all? found routed listed
  exact admits.event (within known) present

theorem backing {given : Option String} (admits : Admits manners names slots)
    (within : given.toList ⊆ names) {backing : Option (Routed Host.Memory)}
    (found : optional? slots.memory? given = some backing) :
    ∀ memory ∈ backing.map Routed.object, manners.uses memory.owned.handle := by
  intro memory member
  obtain ⟨routed, present, rfl⟩ := Option.map_eq_some_iff.mp member
  obtain ⟨name, known, same⟩ := of_optional? found routed present
  exact admits.memory (within known) same

end Admits
end Slots

namespace Dialogue
variable {action : Action World α}

theorem answering (dialogue : Dialogue manners action) (answer : α → Answer) :
    Dialogue manners (Work.answering action answer) := bind dialogue fun _ => done _

theorem silent {action : Action World Unit} (dialogue : Dialogue manners action) :
    Dialogue manners (Work.silent action) := answering dialogue _

theorem ofAnswer (answer : Answer) : Dialogue manners (Work.ofAnswer answer) := done _

theorem observing {view : Machine → Answer} (allowed : manners.looks view) :
    Dialogue manners (Work.observing view) := by
  have viewed : Work.observing view = (look view >>= fun answer => pure { answer := answer }) := rfl
  rw [viewed]
  exact looked allowed fun _ => done _

theorem making {route : Route} {item : α → Item} {handle : α → Nat} (dialogue : Dialogue manners action) :
    Dialogue manners (Work.making route item handle action) := bind dialogue fun _ => done _

private theorem yielding {action : Action World Host.Event} (route : Route) (dialogue : Dialogue manners action) :
    Dialogue manners (Queueing.yielding route action) := bind dialogue fun _ => done _

private theorem reading {action : Action World Reading} (route : Route) (dialogue : Dialogue manners action)
    (present : Except CallError Nat → Block → Answer) :
    Dialogue manners (Queueing.reading route action present) := by
  refine bind dialogue fun reading => ?_
  split
  · exact done _
  · exact done _

end Dialogue

/-- A work, where it is found, is a dialogue. -/
abbrev Talks (manners : Manners) : Option Work → Prop := Found (Dialogue manners ·)

theorem Discovery.talks (job : Discovery) (slots : Slots) : Talks manners (job.work slots) := by
  cases job with
  | platforms => exact .some (.bind (.platforms .layered) fun _ => .done _)
  | devices => exact .bind fun _ => .some (.bind (.devices .layered _ _) fun _ => .done _)
  | platformWithId | deviceWithId => exact .some (.done _)
  | platformText => exact .bind fun _ => .some (.answering (.platformText _ _ _) _)
  | deviceProperty => exact .bind fun _ => .some (.answering (.deviceProperty _ _ _) _)
  | same => exact .bind fun _ => .some (.ofAnswer _)

/-- A picture that is to be uploaded can be read, or there may be faults. -/
def Allocation.Readable (manners : Manners) : Allocation → Prop
  | .newImageOf _ _ bitmap =>
    bitmap.layout = .other → (∃ colors, bitmap.toRgba8 = .ok colors) ∨ manners.faults
  | _ => True

theorem Allocation.readable_of_faults (allowed : manners.faults) (job : Allocation) : job.Readable manners := by
  cases job with
  | newImageOf => exact fun _ => Or.inr allowed
  | _ => trivial

/-- Whether a step asks for a memory object. -/
def Allocation.MayOverreach : Allocation → Prop
  | .newBuffer .. | .newBufferOf .. | .newBufferFrom .. | .newImage .. | .newImageFrom .. | .newImageOf .. =>
    True
  | _ => False

/-- Whether a step hands over a source text. -/
def Compilation.MayOverreach : Compilation → Prop
  | .newProgram .. => True
  | _ => False

/-- Whether a step carries out a kernel. -/
def Queueing.MayOverreach : Queueing → Prop
  | .enqueue _ _ (.dispatch ..) => True
  | _ => False

section
variable (makes : manners.makes) (open_ : manners.Open)
include makes open_

theorem Allocation.talks {job : Allocation} (admits : slots.Admits manners job.mentions)
    (overreaches : job.MayOverreach → manners.overreaches) (readable : job.Readable manners) :
    Talks manners (job.work slots) := by
  cases job with
  | newContext => exact .bind fun _ => .some (.making (.newContext _ makes _))
  | contextDevices | queueInfo => exact .bind fun _ => .some (.ofAnswer _)
  | newQueue =>
    exact .bind_of_eq fun _ found => .bind fun _ =>
      .some (.making (.newQueue _ makes (admits.context List.mem_cons_self found) _ _))
  | newBuffer | newBufferFrom =>
    exact .bind_of_eq fun _ found =>
      .some (.making (.newBufferFrom _ makes (admits.context List.mem_cons_self found) _
        (overreaches trivial) _ _))
  | newBufferOf =>
    exact .bind_of_eq fun _ found =>
      .some (.making (.newBufferOf _ makes (admits.context List.mem_cons_self found) _
        (overreaches trivial) _ _))
  | newImage =>
    exact .bind_of_eq fun _ found => .bind_of_eq fun _ backed =>
      .some (.making (.newImage _ makes (admits.context List.mem_cons_self found) _ (overreaches trivial) _ _
        (admits.backing (List.subset_cons_self _ _) backed) _))
  | newImageFrom =>
    exact .bind_of_eq fun _ found => .bind_of_eq fun _ backed =>
      .some (.making (.newImageFrom _ makes (admits.context List.mem_cons_self found) _
        (overreaches trivial) _ _ (admits.backing (List.subset_cons_self _ _) backed) _))
  | newImageOf =>
    exact .bind_of_eq fun _ found =>
      .some (.making (.newImageOf _ makes (admits.context List.mem_cons_self found) _ (overreaches trivial)
        readable))
  | formats =>
    exact .bind_of_eq fun _ found =>
      .some (.answering (.imageFormats _ _ (admits.context List.mem_cons_self found) _) _)
  | newUserEvent =>
    exact .bind_of_eq fun _ found =>
      .some (.making (.newUserEvent _ makes (admits.context List.mem_cons_self found)))
  | memoryInfo =>
    exact .bind_of_eq fun _ found =>
      .some (.answering (.infoOf (admits.memory List.mem_cons_self found)) id)
  | contents =>
    refine .bind_of_eq fun _ found => ?_
    have used := admits.memory List.mem_cons_self found
    exact .some (.use used (.observing (open_.contents _ used)))

theorem Compilation.talks {job : Compilation} (admits : slots.Admits manners job.mentions)
    (overreaches : job.MayOverreach → manners.overreaches) (measures : manners.Measures) :
    Talks manners (job.work slots) := by
  cases job with
  | newProgram =>
    exact .bind_of_eq fun _ found =>
      .some (.making (.newProgram _ makes (admits.context List.mem_cons_self found) (overreaches trivial) _))
  | programDevices => exact .bind fun _ => .some (.ofAnswer _)
  | build =>
    exact .bind_of_eq fun _ found => .bind fun _ =>
      .some (.silent (.build _ (admits.program List.mem_cons_self found) measures _ _))
  | buildLog =>
    exact .bind_of_eq fun _ found => .bind fun _ =>
      .some (.answering (.buildLog _ (admits.program List.mem_cons_self found) measures _) _)
  | buildStatus =>
    exact .bind_of_eq fun _ found => .bind fun _ =>
      .some (.answering (.buildStatus _ (admits.program List.mem_cons_self found) _) _)
  | storedLog =>
    refine .bind_of_eq fun _ found => ?_
    have used := admits.program List.mem_cons_self found
    exact .some (.use used (.observing (open_.log _ used)))
  | newKernel =>
    exact .bind_of_eq fun _ found =>
      .some (.making (.newKernel _ (admits.program List.mem_cons_self found) makes _))
  | ask kernel device question =>
    refine .bind_of_eq fun _ found => .bind fun _ => .some ?_
    have used := admits.kernel List.mem_cons_self found
    cases question with
    | name => exact .ofAnswer _
    | functionName => exact .answering (.functionName _ used) _
    | argumentCount => exact .answering (.argumentCount _ used) _
    | workGroup => exact .answering (.workGroup _ used _ _) _
  | bind kernel index binding =>
    refine .bind_of_eq fun _ found => ?_
    have used := admits.kernel List.mem_cons_self found
    cases binding with
    | scalar | localMemory | bytes => exact .some (.silent (.bindArgument _ used _ _ _))
    | memory =>
      exact .bind_of_eq fun _ bound => .some (.silent (.bindMemory _ used _
        (admits.memory (List.mem_cons_of_mem _ List.mem_cons_self) bound)))
  | argument =>
    refine .bind_of_eq fun _ found => ?_
    have used := admits.kernel List.mem_cons_self found
    exact .some (.use used (.observing (open_.argument _ _ used)))

omit open_

private theorem Queueing.talks_command {command : QueuedCommand} (admits : slots.Admits manners command.mentions)
    (overreaches : ∀ kernel globals offsets locals,
      command = .dispatch kernel globals offsets locals → manners.overreaches)
    {queue : Routed Host.Queue} (held : manners.uses queue.object.owned.handle) {waits : List Host.Event}
    (waited : Dialogue.AllHeld manners (waits.map Host.Event.owned)) :
    Talks manners (commandWork slots queue waits command) := by
  cases command with
  | marker => exact .some (.yielding _ (.marker _ held waited makes))
  | barrier => exact .some (.yielding _ (.barrier _ held waited makes))
  | writeValues | write =>
    exact .bind_of_eq fun _ found => .some (.yielding _
      (.write _ held waited makes (admits.memory List.mem_cons_self found) _ _ _))
  | readValues | read =>
    exact .bind_of_eq fun _ found => .some (.reading _
      (.read _ held waited makes (admits.memory List.mem_cons_self found) _ _ _) _)
  | copy =>
    exact .bind_of_eq fun _ found => .bind_of_eq fun _ aimed => .some (.yielding _
      (.copy _ held waited makes (admits.memory List.mem_cons_self found)
        (admits.memory (List.mem_cons_of_mem _ List.mem_cons_self) aimed) _ _ _))
  | fill =>
    exact .bind_of_eq fun _ found => .some (.yielding _
      (.fill _ held waited makes (admits.memory List.mem_cons_self found) _ _ _))
  | writeImage =>
    exact .bind_of_eq fun _ found => .some (.yielding _
      (.writeImage _ held waited makes (admits.memory List.mem_cons_self found) _ _))
  | readImage =>
    exact .bind_of_eq fun _ found => .some (.reading _
      (.readImage _ held waited makes (admits.memory List.mem_cons_self found) _ _) _)
  | writeImageFrom =>
    exact .bind_of_eq fun _ found => .some (.yielding _
      (.writeImageFrom _ held waited makes (admits.memory List.mem_cons_self found) _ _))
  | readImageInto =>
    exact .bind_of_eq fun _ found => .some (.reading _
      (.readImageInto _ held waited makes (admits.memory List.mem_cons_self found) _ _) _)
  | dispatch =>
    exact .bind_of_eq fun _ found => .some (.yielding _
      (.dispatch _ held waited makes (overreaches _ _ _ _ rfl)
        (admits.kernel List.mem_cons_self found) _ _ _))

theorem Queueing.talks {job : Queueing} (admits : slots.Admits manners job.mentions)
    (overreaches : job.MayOverreach → manners.overreaches) :
    Talks manners (job.work slots) := by
  cases job with
  | finish =>
    exact .bind_of_eq fun _ found => .bind fun _ =>
      .some (.silent (.finish _ (admits.queue List.mem_cons_self found)))
  | flush =>
    exact .bind_of_eq fun _ found => .bind fun _ =>
      .some (.silent (.flush _ (admits.queue List.mem_cons_self found)))
  | enqueue queue waits command =>
    refine .bind_of_eq fun _ found => .bind_of_eq fun _ listed => ?_
    refine talks_command makes ?_ ?_ (admits.queue List.mem_cons_self found) (admits.events ?_ listed)
    · exact admits.mono (List.Subset.trans (List.subset_append_right waits _) (List.subset_cons_self _ _))
    · rintro kernel globals offsets locals rfl
      exact overreaches trivial
    · exact List.Subset.trans (List.subset_append_left _ _) (List.subset_cons_self _ _)
  | eventStatus =>
    exact .bind_of_eq fun _ found =>
      .some (.answering (.status _ (admits.event List.mem_cons_self found)) _)
  | wait =>
    exact .bind_of_eq fun _ found => .some (.silent (.waitForAll _
      (List.forall_mem_singleton.mpr (admits.event List.mem_cons_self found))))
  | waitForAll events =>
    exact .bind_of_eq fun _ listed =>
      .some (.silent (.waitForAll _ (admits.events (List.Subset.refl events) listed)))
  | settle =>
    exact .bind_of_eq fun _ found =>
      .some (.silent (.settle _ (admits.event List.mem_cons_self found) _))
  | profiledAt =>
    exact .bind_of_eq fun _ found =>
      .some (.answering (.stamp _ (admits.event List.mem_cons_self found) _) _)

end

theorem Ownership.talks {job : Ownership} (direct : (Job.ownership job).isDirect = true)
    (admits : slots.Admits manners job.mentions) : Talks manners (job.work slots) := by
  cases job with
  | adopt | assume => cases direct
  | handleOf name =>
    refine .bind_of_eq fun slot found => ?_
    unfold handleWork
    split
    · rename_i kind owned bare
      have used : manners.uses owned.handle :=
        admits name List.mem_cons_self slot found kind owned (congrArg Item.owner? bare)
      exact .some (.answering (.held used) _)
    · exact .none
  | writtenOf => exact .bind fun _ => .some (.ofAnswer _)

end Offload.Session
