import Offload.Proofs.Filing
import Offload.Session.Run

/-! The slots that a job names. What a job does rests on those alone, so that what is in other
slots, or whether they are filled, makes no difference to it. -/
namespace Offload.Session
open Host

/-! The names of each sort of job. -/

def Discovery.mentions : Discovery → List String
  | .platforms | .platformWithId _ | .deviceWithId _ => []
  | .devices platform _ => platform.toList
  | .platformText platform _ => [platform]
  | .deviceProperty device _ => [device]
  | .same first second => [first, second]

def Allocation.mentions : Allocation → List String
  | .newContext devices => devices
  | .contextDevices context | .newBuffer context _ _ | .newBufferOf context _ _ _
  | .newBufferFrom context _ _ _ | .newImageOf context _ _ | .formats context _ _
  | .newUserEvent context => [context]
  | .newQueue context device _ => [context, device]
  | .queueInfo queue => [queue]
  | .newImage context _ _ _ backing _ | .newImageFrom context _ _ _ backing _ =>
    context :: backing.toList
  | .memoryInfo memory | .contents memory => [memory]

def Binding.mentions : Binding → List String
  | .memory name => [name]
  | .scalar _ _ | .localMemory _ | .bytes _ _ => []

def Compilation.mentions : Compilation → List String
  | .newProgram context _ => [context]
  | .programDevices program | .storedLog program | .newKernel program _ => [program]
  | .build program devices _ => program :: devices
  | .buildLog program device | .buildStatus program device => [program, device]
  | .ask kernel device _ => kernel :: device.toList
  | .bind kernel _ binding => kernel :: binding.mentions
  | .argument kernel _ => [kernel]

def QueuedCommand.mentions : QueuedCommand → List String
  | .marker | .barrier => []
  | .writeValues memory _ _ _ | .readValues memory _ _ _ | .write memory _ _ _ | .read memory _ _ _
  | .fill memory _ _ _ => [memory]
  | .copy source target _ _ _ => [source, target]
  | .writeImage image _ _ | .readImage image _ _ | .writeImageFrom image _ _
  | .readImageInto image _ _ _ => [image]
  | .dispatch kernel _ _ _ => [kernel]

def Queueing.mentions : Queueing → List String
  | .finish queue waits | .flush queue waits => queue :: waits
  | .enqueue queue waits command => queue :: (waits ++ command.mentions)
  | .eventStatus event | .wait event | .settle event _ | .profiledAt event _ => [event]
  | .waitForAll events => events

def Assumed.mentions : Assumed → List String
  | .queue device _ => [device]
  | .program devices => devices
  | .buffer _ | .image _ | .kernel _ | .event => []

def Ownership.mentions : Ownership → List String
  | .adopt .. => []
  | .assume object _ => object.mentions
  | .handleOf slot | .writtenOf slot => [slot]

/-- The slots that a job names. -/
def Job.mentions : Job → List String
  | .discovery job => job.mentions
  | .allocation job => job.mentions
  | .compilation job => job.mentions
  | .queueing job => job.mentions
  | .ownership job => job.mentions
  | .controls _ | .native _ => []
  | .release slot | .drop slot => [slot]

/-- Two collections of slots hold the same under some names. -/
def Slots.Agree (names : List String) (slots others : Slots) : Prop :=
  ∀ name ∈ names, slots.get? name = others.get? name

namespace Slots

theorem get?_erase {slots : Slots} {name other : String} (differs : other ≠ name) :
    (slots.erase name).get? other = slots.get? other := by
  induction slots with
  | nil => rfl
  | cons entry rest ih =>
    obtain ⟨key, slot⟩ := entry
    rw [erase, List.filter_cons]
    split
    · simp only [get?]
      rw [← ih]
      rfl
    · rename_i gone
      have same : key = name := by simpa using gone
      rw [get?, if_neg (same ▸ differs.symm)]
      exact ih

theorem get?_erase_self (slots : Slots) (name : String) : (slots.erase name).get? name = none :=
  get?_eq_none fun _ member => bne_iff_ne.mp (List.mem_filter.mp member).2

/-- An emptied slot is only missed under its name. -/
theorem agree_erase {names : List String} (slots : Slots) {name : String} (unnamed : name ∉ names) :
    Agree names slots (slots.erase name) :=
  fun other member => (get?_erase fun same : other = name => unnamed (same ▸ member)).symm

theorem all?_congr {α : Type} {find other : String → Option α} {names : List String}
    (same : ∀ name ∈ names, find name = other name) : all? find names = all? other names := by
  induction names with
  | nil => rfl
  | cons name rest ih =>
    obtain ⟨first, others⟩ := List.forall_mem_cons.mp same
    rw [all?, all?, first, ih others]

theorem optional?_congr {α : Type} {find other : String → Option α} {name : Option String}
    (same : ∀ given ∈ name.toList, find given = other given) :
    optional? find name = optional? other name := by
  cases name with
  | none => rfl
  | some given => rw [optional?, optional?, same given List.mem_cons_self]

namespace Agree
variable {slots others : Slots} {names more : List String} (agree : Agree names slots others)
include agree

private theorem mono (fewer : more ⊆ names) : Agree more slots others :=
  fun name member => agree name (fewer member)

section single
variable {name : String} (member : name ∈ names)
include member

private theorem platform? : slots.platform? name = others.platform? name := by
  rw [Slots.platform?, Slots.platform?, agree name member]

theorem device? : slots.device? name = others.device? name := by
  rw [Slots.device?, Slots.device?, agree name member]

theorem context? : slots.context? name = others.context? name := by
  rw [Slots.context?, Slots.context?, agree name member]

theorem queue? : slots.queue? name = others.queue? name := by
  rw [Slots.queue?, Slots.queue?, agree name member]

theorem memory? : slots.memory? name = others.memory? name := by
  rw [Slots.memory?, Slots.memory?, agree name member]

private theorem program? : slots.program? name = others.program? name := by
  rw [Slots.program?, Slots.program?, agree name member]

theorem kernel? : slots.kernel? name = others.kernel? name := by
  rw [Slots.kernel?, Slots.kernel?, agree name member]

theorem event? : slots.event? name = others.event? name := by
  rw [Slots.event?, Slots.event?, agree name member]

end single

theorem devices? (within : more ⊆ names) : slots.devices? more = others.devices? more :=
  all?_congr fun _ member => agree.device? (within member)

private theorem events? (within : more ⊆ names) : slots.events? more = others.events? more :=
  all?_congr fun _ member => agree.event? (within member)

end Agree
end Slots

/-! What is in the slots that a job names decides on its work. -/

section
variable {slots others : Slots}

theorem Discovery.work_congr {job : Discovery} (agree : Slots.Agree job.mentions slots others) :
    job.work slots = job.work others := by
  cases job with
  | platforms | platformWithId | deviceWithId => rfl
  | devices platform types =>
    have same := Slots.optional?_congr fun _ member => agree.platform? member
    simp only [work, same]
  | platformText platform parameter =>
    simp only [work, agree.platform? List.mem_cons_self]
  | deviceProperty device parameter =>
    simp only [work, agree.device? List.mem_cons_self]
  | same first second =>
    have equal := agree first List.mem_cons_self
    have alike := agree second (List.mem_cons_of_mem _ List.mem_cons_self)
    simp only [work, same?, equal, alike]

theorem Allocation.work_congr {job : Allocation} (agree : Slots.Agree job.mentions slots others) :
    job.work slots = job.work others := by
  cases job with
  | newContext devices => simp only [work, agree.devices? (List.Subset.refl devices)]
  | contextDevices | newBuffer | newBufferOf | newBufferFrom | newImageOf | formats | newUserEvent =>
    simp only [work, agree.context? List.mem_cons_self]
  | newQueue context device properties =>
    have same := agree.context? List.mem_cons_self
    have alike := agree.device? (List.mem_cons_of_mem _ List.mem_cons_self)
    simp only [work, same, alike]
  | queueInfo => simp only [work, agree.queue? List.mem_cons_self]
  | newImage | newImageFrom =>
    have same := agree.context? List.mem_cons_self
    have backed := Slots.optional?_congr fun _ member => agree.memory? (List.mem_cons_of_mem _ member)
    simp only [work, same, backed]
  | memoryInfo | contents => simp only [work, agree.memory? List.mem_cons_self]

theorem Compilation.work_congr {job : Compilation} (agree : Slots.Agree job.mentions slots others) :
    job.work slots = job.work others := by
  cases job with
  | newProgram => simp only [work, agree.context? List.mem_cons_self]
  | programDevices | storedLog | newKernel => simp only [work, agree.program? List.mem_cons_self]
  | build =>
    have same := agree.program? List.mem_cons_self
    have alike := agree.devices? (List.subset_cons_self _ _)
    simp only [work, same, alike]
  | buildLog program device | buildStatus program device =>
    have same := agree.program? List.mem_cons_self
    have alike := agree.device? (List.mem_cons_of_mem _ List.mem_cons_self)
    simp only [work, same, alike]
  | ask =>
    have same := agree.kernel? List.mem_cons_self
    have alike := Slots.optional?_congr fun _ member => agree.device? (List.mem_cons_of_mem _ member)
    simp only [work, same, alike]
  | bind kernel index binding =>
    have same := agree.kernel? List.mem_cons_self
    cases binding with
    | scalar | localMemory | bytes => simp only [work, same, bindWork]
    | memory memory =>
      have alike := agree.memory? (List.mem_cons_of_mem _ List.mem_cons_self)
      simp only [work, same, bindWork, alike]
  | argument => simp only [work, agree.kernel? List.mem_cons_self]

private theorem Queueing.commandWork_congr {command : QueuedCommand} (queue : Routed Queue) (waits : List Event)
    (agree : Slots.Agree command.mentions slots others) :
    commandWork slots queue waits command = commandWork others queue waits command := by
  cases command with
  | marker | barrier => rfl
  | copy source target =>
    have same := agree.memory? List.mem_cons_self
    have alike := agree.memory? (List.mem_cons_of_mem _ List.mem_cons_self)
    simp only [commandWork, same, alike]
  | dispatch => simp only [commandWork, agree.kernel? List.mem_cons_self]
  | writeValues | readValues | write | read | fill | writeImage | readImage | writeImageFrom
  | readImageInto => simp only [commandWork, agree.memory? List.mem_cons_self]

theorem Queueing.work_congr {job : Queueing} (agree : Slots.Agree job.mentions slots others) :
    job.work slots = job.work others := by
  cases job with
  | finish | flush =>
    have same := agree.queue? List.mem_cons_self
    have alike := agree.events? (List.subset_cons_self _ _)
    simp only [work, same, alike]
  | enqueue queue waits command =>
    have same := agree.queue? List.mem_cons_self
    have alike := agree.events? (List.Subset.trans (List.subset_append_left _ _) (List.subset_cons_self _ _))
    have commanded := agree.mono
      (List.Subset.trans (List.subset_append_right waits _) (List.subset_cons_self queue _))
    simp only [work, same, alike, commandWork_congr _ _ commanded]
  | eventStatus | wait | settle | profiledAt => simp only [work, agree.event? List.mem_cons_self]
  | waitForAll events => simp only [work, agree.events? (List.Subset.refl events)]

theorem Ownership.work_congr {job : Ownership} (agree : Slots.Agree job.mentions slots others) :
    job.work slots = job.work others := by
  cases job with
  | adopt => rfl
  | assume object handle =>
    cases object with
    | buffer | image | kernel | event => rfl
    | queue => simp only [work, assumeWork, agree.device? List.mem_cons_self]
    | program devices => simp only [work, assumeWork, agree.devices? (List.Subset.refl devices)]
  | handleOf | writtenOf => simp only [work, agree _ List.mem_cons_self]

end
end Offload.Session
