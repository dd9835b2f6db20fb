import Offload.Proofs.Mentions
import Offload.Proofs.ReleasedOnce

/-! What the works of steps hand over, and under which names it is filed. A single new object takes
the chosen name as it is, listed things take it with their numbers, and no owner among them has been
released. Steps that fill no slot of some name do the same whether or not that slot has been emptied
before. -/
namespace Offload.Session
open Host

variable {α : Type} {job : Job}

/-- What a job may add to the chosen name. -/
def Job.Adds (job : Job) (suffix : String) : Prop :=
  match job with
  | .discovery .platforms | .discovery (.devices ..) => ∃ number, suffix = Text.decimal number
  | _ => suffix = ""

/-- The owner in an item, where there is one, is that of a typed object and has not been released. -/
def Item.Whole : Item → Prop
  | .platform _ | .device _ => True
  | .context item => item.owned.handle ≠ 0
  | .queue item => item.owned.handle ≠ 0
  | .memory item => item.owned.handle ≠ 0
  | .program item => item.owned.handle ≠ 0
  | .kernel item => item.owned.handle ≠ 0
  | .event item => item.owned.handle ≠ 0
  | .bare _ _ => False

theorem Item.Whole.owner {item : Item} (whole : item.Whole) {kind : ObjectKind} {owned : Owned kind}
    (owner : item.owner? = some ⟨kind, owned⟩) : owned.handle ≠ 0 := by
  cases item with
  | platform | device => cases owner
  | bare => exact whole.elim
  | _ =>
    cases owner
    exact whole

/-- The slots that a product hands over are named as the job does, and whole. -/
def Product.Proper (job : Job) (product : Product) : Prop :=
  ∀ entry ∈ product.made, job.Adds entry.1 ∧ entry.2.item.Whole

namespace Product.Proper

private theorem nothing (answer : Answer) : Proper job { answer := answer } := nofun

theorem single {answer : Answer} {route : Route} {item : Item} (unchanged : job.Adds "")
    (whole : item.Whole) : Proper job ⟨answer, [("", ⟨route, item⟩)]⟩ :=
  List.forall_mem_singleton.mpr ⟨unchanged, whole⟩

private theorem listed {route : Route} {item : α → Item} {id : α → Nat} (objects : List α)
    (numbered : ∀ number, job.Adds (Text.decimal number)) (whole : ∀ object, (item object).Whole) :
    Proper job (Product.listed route item id objects) := by
  intro entry member
  obtain ⟨⟨slot, number⟩, indexed, rfl⟩ := List.mem_map.mp member
  obtain ⟨object, _, rfl⟩ := List.mem_map.mp (List.fst_mem_of_mem_zipIdx indexed)
  exact ⟨numbered number, whole object⟩

end Product.Proper

/-- A work hands over what is proper for the job. -/
abbrev Delivers (job : Job) (work : Work) : Prop := Yields (Product.Proper job) work

namespace Delivers

theorem nothing (answer : Answer) : Delivers job (pure { answer := answer }) := .pure (.nothing answer)

theorem answering (action : Action World α) (answer : α → Answer) :
    Delivers job (Work.answering action answer) := .bind fun _ => nothing _

private theorem silent (action : Action World Unit) : Delivers job (Work.silent action) := answering action _

theorem observing (look : Simulator.Machine → Answer) : Delivers job (Work.observing look) :=
  .bind fun _ => nothing _

private theorem arranging (change : World → World) : Delivers job (Work.arranging change) :=
  .bind fun _ => nothing _

theorem making {route : Route} {item : α → Item} {handle : α → Nat} {action : Action World α}
    (unchanged : job.Adds "") (yields : Yields (fun value => (item value).Whole) action) :
    Delivers job (Work.making route item handle action) :=
  .and_then yields fun _ whole => .pure (.single unchanged whole)

end Delivers

/-- A work, where it is found, hands over what is proper for the job. -/
abbrev Delivering (job : Job) : Option Work → Prop := Found (Delivers job ·)

theorem Discovery.delivering (job : Discovery) (slots : Slots) :
    Delivering (.discovery job) (job.work slots) := by
  cases job with
  | platforms =>
    exact .some (.bind fun _ => .pure (.listed _ (fun number => ⟨number, rfl⟩) fun _ => trivial))
  | devices =>
    exact .bind fun _ =>
      .some (.bind fun _ => .pure (.listed _ (fun number => ⟨number, rfl⟩) fun _ => trivial))
  | platformWithId | deviceWithId => exact .some (.pure (.single rfl trivial))
  | platformText | deviceProperty => exact .bind fun _ => .some (.answering _ _)
  | same => exact .bind fun _ => .some (.nothing _)

theorem Allocation.delivering (job : Allocation) (slots : Slots) :
    Delivering (.allocation job) (job.work slots) := by
  cases job with
  | newContext => exact .bind fun _ => .some (.making rfl (.newContext _ _))
  | contextDevices | queueInfo => exact .bind fun _ => .some (.nothing _)
  | newQueue => exact .bind fun _ => .bind fun _ => .some (.making rfl (.newQueue _ _ _ _))
  | newBuffer | newBufferFrom => exact .bind fun _ => .some (.making rfl (.newBufferFrom _ _ _ _ _))
  | newBufferOf => exact .bind fun _ => .some (.making rfl (.newBufferOf _ _ _ _ _))
  | newImage => exact .bind fun _ => .bind fun _ => .some (.making rfl (.newImage _ _ _ _ _ _ _))
  | newImageFrom =>
    exact .bind fun _ => .bind fun _ => .some (.making rfl (.newImageFrom _ _ _ _ _ _ _))
  | newImageOf => exact .bind fun _ => .some (.making rfl (.newImageOf _ _ _ _))
  | newUserEvent => exact .bind fun _ => .some (.making rfl (.newUserEvent _ _))
  | formats | memoryInfo => exact .bind fun _ => .some (.answering _ _)
  | contents => exact .bind fun _ => .some (.bind fun _ => Delivers.observing _)

theorem Compilation.delivering (job : Compilation) (slots : Slots) :
    Delivering (.compilation job) (job.work slots) := by
  cases job with
  | newProgram => exact .bind fun _ => .some (.making rfl (.newProgram _ _ _))
  | newKernel => exact .bind fun _ => .some (.making rfl (.newKernel _ _ _))
  | programDevices => exact .bind fun _ => .some (.nothing _)
  | build | buildLog | buildStatus => exact .bind fun _ => .bind fun _ => .some (.answering _ _)
  | storedLog | argument => exact .bind fun _ => .some (.bind fun _ => Delivers.observing _)
  | ask kernel device question =>
    refine .bind fun _ => .bind fun _ => .some ?_
    cases question with
    | name => exact .nothing _
    | functionName | argumentCount | workGroup => exact .answering _ _
  | bind kernel index binding =>
    refine .bind fun _ => ?_
    cases binding with
    | scalar | localMemory | bytes => exact .some (.silent _)
    | memory => exact .bind fun _ => .some (.silent _)

theorem Queueing.delivering (job : Queueing) (slots : Slots) :
    Delivering (.queueing job) (job.work slots) := by
  intro work found
  cases job.issues slots work found with
  | yielding route bears yields => exact .and_then yields fun _ whole => .pure (.single rfl whole)
  | reading route bears yields present =>
    refine .and_then yields fun reading accepted => ?_
    split
    · exact .pure (.single rfl (accepted _ ‹_›))
    · exact Delivers.nothing _
  | answering => exact .answering _ _

theorem Ownership.delivering {job : Ownership} (direct : (Job.ownership job).isDirect = true)
    (slots : Slots) : Delivering (.ownership job) (job.work slots) := by
  cases job with
  | adopt | assume => cases direct
  | handleOf =>
    refine .bind fun slot => ?_
    unfold handleWork
    split
    · exact .some (.answering _ _)
    · exact .none
  | writtenOf => exact .bind fun _ => .some (.nothing _)

theorem Controls.delivers {job : Controls} (direct : (Job.controls job).isDirect = true) :
    Delivers (.controls job) job.work := by
  unfold Controls.work
  cases job with
  | fail | returnNull => exact .arranging _
  | callCount | lastWaits | lastBuildDevices => exact .observing _
  | directContext => exact .making rfl (.certain (.newContext _ _))
  | firstDevice => exact .answering _ _
  | allocateContext | prepare | recount | hide => cases direct

/-- A step that may fill the slot of a name. -/
def Step.Fills (step : Step) (name : String) : Prop :=
  ∃ kept ∈ step.keep?, ∃ suffix, step.job.Adds suffix ∧ name = kept ++ suffix

/-- A step that makes a single object fills the chosen slot only. -/
theorem Step.not_fills {step : Step} {name : String} (single : ∀ suffix, step.job.Adds suffix → suffix = "")
    (differs : step.keep? ≠ some name) : ¬ step.Fills name := by
  rintro ⟨kept, chosen, suffix, adds, same⟩
  rw [single suffix adds, String.append_empty] at same
  exact differs (same ▸ chosen)

namespace Slots
variable {slots : Slots} {name other : String}

/-- A slot that comes first goes before all others. -/
theorem put_of_lt (slot : Slot) (first : ∀ entry ∈ slots, other < entry.1) :
    slots.put other slot = ((other, slot) :: slots, none) := by
  cases slots with
  | nil => rfl
  | cons entry rest =>
    have before := first entry List.mem_cons_self
    rw [put, if_neg fun same : entry.1 = other => String.lt_irrefl other (same ▸ before), if_pos before]

/-- An emptied slot makes no difference to the filling of others. -/
theorem put_erase (ascending : slots.Ascending) (differs : other ≠ name) (slot : Slot) :
    (slots.erase name).put other slot = ((slots.put other slot).1.erase name, (slots.put other slot).2) := by
  induction slots with
  | nil => simp [put, erase, differs]
  | cons entry rest ih =>
    obtain ⟨key, old⟩ := entry
    obtain ⟨before, ordered⟩ := List.pairwise_cons.mp ascending
    have later := ih ordered
    by_cases gone : key = name
    · subst gone
      have emptied : erase ((key, old) :: rest) key = erase rest key :=
        List.filter_cons_of_neg (by simp)
      rw [emptied, put, if_neg differs.symm]
      split
      · rename_i first
        have front : ∀ entry ∈ erase rest key, other < entry.1 := fun entry member =>
          String.lt_trans first (before entry (List.mem_filter.mp member |>.1))
        rw [put_of_lt slot front]
        simp [erase, differs]
      · rw [later]
        simp [erase]
    · have kept : erase ((key, old) :: rest) name = (key, old) :: erase rest name :=
        List.filter_cons_of_pos (by simpa using gone)
      rw [kept, put, put]
      split
      · simp [erase, differs]
      · split
        · simp [erase, differs, gone]
        · rw [later]
          simp [erase, gone]

private theorem putAll_erase (ascending : slots.Ascending) {made : List (String × Slot)}
    (differ : ∀ entry ∈ made, entry.1 ≠ name) :
    (slots.erase name).putAll made = ((slots.putAll made).1.erase name, (slots.putAll made).2) := by
  induction made generalizing slots with
  | nil => rfl
  | cons entry rest ih =>
    obtain ⟨first, others⟩ := List.forall_mem_cons.mp differ
    simp only [putAll, put_erase ascending first]
    rw [ih (slots.ascending_put _ _ ascending) others]

theorem erase_erase (slots : Slots) (name other : String) :
    (slots.erase name).erase other = (slots.erase other).erase name := by
  simp only [erase, List.filter_filter]
  exact List.filter_congr fun entry _ => Bool.and_comm _ _

/-- Releasing a slot does not depend on another one. -/
theorem release?_erase (ascending : slots.Ascending) (differs : other ≠ name) :
    (slots.erase name).release? other =
      (slots.release? other).map fun filing => (filing.1.erase name, filing.2) := by
  simp only [release?, get?_erase differs]
  split
  · rfl
  · simp only [put_erase ascending differs, Option.map_some]
  · rename_i item _ _
    cases item.owner? with
    | none => rfl
    | some owner => simp only [erase_erase slots name other, Option.map_some]

end Slots

/-- Filing does not depend on a slot that is not filled. -/
theorem State.file_erase {slots : Slots} {name : String} (ascending : slots.Ascending)
    {keep? : Option String} {made : List (String × Slot)}
    (differ : ∀ kept ∈ keep?, ∀ entry ∈ made, kept ++ entry.1 ≠ name) :
    file (slots.erase name) keep? made =
      ((file slots keep? made).1.erase name, (file slots keep? made).2) := by
  cases keep? with
  | none => rfl
  | some kept =>
    refine Slots.putAll_erase ascending fun entry member => ?_
    obtain ⟨given, origin, rfl⟩ := List.mem_map.mp member
    exact differ kept rfl given origin

/-- No owner in the slots has been released. -/
def Slots.Whole (slots : Slots) : Prop := ∀ slot ∈ slots.contents, slot.item.Whole

theorem Slots.Whole.initial (platforms devices : Nat) : (State.initial platforms devices).slots.Whole :=
  fun _ impossible => nomatch impossible

namespace Slots.Whole
variable {slots : Slots} (whole : slots.Whole)
include whole

theorem erase (name : String) : Slots.Whole (slots.erase name) := fun slot member => by
  obtain ⟨entry, kept, rfl⟩ := List.mem_map.mp member
  exact whole entry.2 (List.mem_map_of_mem (List.mem_filter.mp kept).1)

/-- A release takes the owner out of its slot. -/
theorem release? {name : String} {others : Slots} {action : Action World Unit}
    (found : slots.release? name = some (others, action)) : others.Whole := by
  unfold Slots.release? at found
  split at found
  · cases found
  · rename_i route kind owned got
    exact (whole _ (mem_contents_of_get? got)).elim
  · split at found
    · cases found
      exact whole.erase name
    · cases found

end Slots.Whole

namespace State
variable {state : State} (whole : state.slots.Whole)
include whole

theorem whole_performWork {work : Work} (delivers : Delivers job work) (keep? : Option String) :
    (state.performWork work keep?).2.slots.Whole := by
  unfold performWork
  generalize performed : state.run work = pair
  obtain ⟨stop | product, scene⟩ := pair
  · exact whole
  · intro slot member
    have filing := file_perm state.slots keep? product.made
    rcases List.mem_append.mp (filing.mem_iff.mp (List.mem_append_left _ member)) with new | old
    · obtain ⟨entry, made, rfl⟩ := List.mem_map.mp new
      exact (delivers _ product scene performed entry made).2
    · exact whole slot old

private theorem whole_performFound {found : Option Work} (delivering : Delivering job found)
    (keep? : Option String) : (state.performFound found keep?).2.slots.Whole := by
  cases found with
  | none => exact whole
  | some work => exact whole_performWork whole (delivering work rfl) keep?

theorem whole_step {step : Step} (direct : step.job.isDirect = true) :
    (state.step step).2.slots.Whole := by
  obtain ⟨job, keep?⟩ := step
  cases job with
  | discovery job => exact whole_performFound whole (job.delivering _) keep?
  | allocation job => exact whole_performFound whole (job.delivering _) keep?
  | compilation job => exact whole_performFound whole (job.delivering _) keep?
  | queueing job => exact whole_performFound whole (job.delivering _) keep?
  | ownership job => exact whole_performFound whole (job.delivering direct _) keep?
  | controls job => exact whole_performWork whole (job.delivers direct) keep?
  | native => cases direct
  | release slot =>
    show (state.release slot).2.slots.Whole
    unfold State.release
    cases found : state.slots.release? slot with
    | none => exact whole
    | some filing => exact whole.release? found
  | drop slot =>
    show (state.drop slot).2.slots.Whole
    unfold State.drop
    cases found : state.slots.get? slot with
    | none => exact whole
    | some gone => exact whole.erase slot

theorem whole_steps {steps : List (Option Step)}
    (direct : ∀ next ∈ steps, next.all (·.job.isDirect) = true) : (state.steps steps).2.slots.Whole := by
  induction steps generalizing state with
  | nil => exact whole
  | cons next rest ih =>
    obtain ⟨first, others⟩ := List.forall_mem_cons.mp direct
    cases next with
    | none => exact ih whole others
    | some step => exact ih (whole_step whole first) others

end State

end Offload.Session
