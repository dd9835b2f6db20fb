import Offload.Proofs.Absence
import Offload.Proofs.Conduct
import Offload.Proofs.Metadata
import Offload.Proofs.Products

/-! What was made in a context, from a program or through a queue outlives it. Two runs are compared
of which one has given such an object back: as long as no step is about that object, its steps end
as those of the other do, and the object remains all that they differ in. -/
namespace Offload.Simulator
open Session

namespace Machine

/-- Two runtimes that differ in an object from which others may have been made, and in how often
objects of its kind have been given back. -/
structure AlikeBesides (kind : ObjectKind) (id : Nat) (kept left : Machine) : Prop where
  present : kept.store.Bystander id
  missing : left.store.Bystander id
  same : left.without id [] = kept.without id []
  counted : ∀ entry, entry ≠ .release kind → kept.callCount entry = left.callCount entry

variable {machine : Machine} {kind : ObjectKind} {id : Nat}

theorem without_without (calls others : List Request) :
    (machine.without id calls).without id others = machine.without id others := by
  simp only [without, Store.without, Table.erase, List.filter_filter, Bool.and_self]

/-- Giving the object back leaves a runtime that differs in it only, also when that fails. -/
theorem alikeBesides_release (bystander : machine.store.Bystander id) :
    machine.AlikeBesides kind id (machine.perform (.release kind id)).2 where
  present := bystander
  missing := bystander.changed (change_perform machine _)
  same := by
    cases halted : machine.halted with
    | true =>
      rw [perform_of_halted halted]
      rfl
    | false =>
      obtain ⟨status, store, reached, ⟨_, _, rfl⟩ | ⟨rfl, _⟩⟩ := perform_release halted kind id
      · rw [reached]
        exact @without_without machine id [] []
      · rw [reached]
        rfl
  counted entry differs := by
    have calls := (outcome_perform machine (.release kind id)).calls_eq
    have uncounted : (Request.release kind id).entry ≠ entry := differs.symm
    rw [callCount, callCount, calls, List.countP_cons, if_neg (by simpa using uncounted), Nat.add_zero]

namespace AlikeBesides
variable {kept left : Machine} (alike : kept.AlikeBesides kind id left)
include alike

/-- A call that is not made on the object is answered alike, and changes nothing about that. -/
theorem perform {request : Request} (apart : id ∉ principals request) :
    (kept.perform request).1 = (left.perform request).1 ∧
      (kept.perform request).2.AlikeBesides kind id (left.perform request).2 := by
  have one : (kept.without id []).perform request = _ :=
    Machine.perform_without alike.present apart
  have other : (left.without id []).perform request = _ :=
    Machine.perform_without alike.missing apart
  rw [alike.same, one] at other
  have answers := congrArg Prod.fst other
  exact ⟨answers, {
    present := alike.present.changed (change_perform kept request)
    missing := alike.missing.changed (change_perform left request)
    same := by
      have after := congrArg (fun answered => answered.2.without id []) other
      simp only [answerWithout, without_without] at after
      exact after.symm
    counted := fun entry differs => by
      have calls := alike.counted entry differs
      simp only [callCount] at calls ⊢
      rw [(outcome_perform kept request).calls_eq, (outcome_perform left request).calls_eq,
        List.countP_cons, List.countP_cons, calls] }⟩

/-- What is injected makes no difference. -/
theorem fail (entry : EntryPoint) (status : Int) :
    (kept.fail entry status).AlikeBesides kind id (left.fail entry status) where
  present := alike.present
  missing := alike.missing
  same := congrArg (·.fail entry status) alike.same
  counted := alike.counted

private theorem returnNull (entry : EntryPoint) :
    (kept.returnNull entry).AlikeBesides kind id (left.returnNull entry) where
  present := alike.present
  missing := alike.missing
  same := congrArg (·.returnNull entry) alike.same
  counted := alike.counted

private theorem contents {other : Nat} : kept.contents other = left.contents other := by
  have same : (left.without id []).contents other = (kept.without id []).contents other :=
    congrArg (·.contents other) alike.same
  simp only [Machine.contents, Store.contents, without, Store.memory_without alike.present,
    Store.memory_without alike.missing] at same ⊢
  exact same.symm

section
variable {other : Nat} (differs : other ≠ id)
include differs

private theorem buildLog : kept.buildLog other = left.buildLog other := by
  have same : (left.without id []).buildLog other = (kept.without id []).buildLog other :=
    congrArg (·.buildLog other) alike.same
  simp only [Machine.buildLog, without, Store.program_without differs] at same ⊢
  exact same.symm

private theorem kernelArgument? (index : Nat) :
    kept.kernelArgument? other index = left.kernelArgument? other index := by
  have same : (left.without id []).kernelArgument? other index =
      (kept.without id []).kernelArgument? other index :=
    congrArg (·.kernelArgument? other index) alike.same
  simp only [Machine.kernelArgument?, without, Store.kernel_without differs] at same ⊢
  exact same.symm

end
end AlikeBesides
end Machine
end Offload.Simulator

namespace Offload.Session
open Host Simulator

/-- Dialogues that are not about an object, and see nothing of it. -/
def Manners.elsewhere (kind : ObjectKind) (id : Nat) : Manners where
  uses handle := handle ≠ id
  makes := True
  releases := True
  overreaches := True
  faults := True
  looks view := ∀ kept left, Machine.AlikeBesides kind id kept left → view kept = view left
  answers _ _ := True
  null _ := trivial

section
variable {kind : ObjectKind} {id : Nat}

theorem Manners.elsewhere_indistinct :
    (Manners.elsewhere kind id).Indistinct (Machine.AlikeBesides kind id) fun _ => True where
  call _ asks _ _ alike := by
    obtain ⟨same, after⟩ := alike.perform fun principal => asks.uses id principal rfl
    exact ⟨same, after, fun _ _ => trivial, fun _ _ => trivial⟩
  look _ allowed := allowed
  faults _ _ := trivial

private theorem Manners.elsewhere_open : (Manners.elsewhere kind id).Open where
  contents _ _ _ _ alike := congrArg Answer.bytes alike.contents
  log _ differs _ _ alike := congrArg Answer.text (alike.buildLog differs)
  argument _ index differs _ _ alike := congrArg Answer.bytesIfAny (alike.kernelArgument? differs index)

/-- An owner that does not hold the object may be used. -/
theorem Slot.admitted_elsewhere (handled : id ≠ 0) {slot : Slot}
    (apart : ∀ owner ∈ slot.holding, owner.2 ≠ id) : slot.Admitted (.elsewhere kind id) := by
  intro sort owned owner same
  have held : owned.handle ≠ 0 := same ▸ handled
  exact apart _ (Slot.mem_holding owner held) same

end

/-- The object in a slot from which others can be made. -/
def Item.parent? : Item → Option (ObjectKind × Nat)
  | .context item => some (.context, item.owned.handle)
  | .queue item => some (.queue, item.owned.handle)
  | .program item => some (.program, item.owned.handle)
  | .kernel item => some (.kernel, item.owned.handle)
  | _ => none

/-- A step that is not about the object in a slot: it does not name the slot, puts nothing else there
and does not count how often such objects have been given back. -/
structure Step.Ignores (step : Step) (name : String) (kind : ObjectKind) : Prop where
  unnamed : name ∉ step.job.mentions
  unfilled : ¬ step.Fills name
  uncounted : step.job ≠ .controls (.callCount (.release kind))

/-- What a step shows of itself: how it ended, and what it told. -/
def Report.said (report : Report) : Ending × List Notice := (report.ending, report.notices)

/-- Two sessions of which one has lost a slot with the object in it. -/
inductive Bereft (name : String) (kind : ObjectKind) (id : Nat) : State → State → Prop where
  | intro {made : List (ObjectKind × Nat)} {slots : Slots} {machine other : Machine}
      (sound : Sound made ⟨({}, machine), slots⟩) (known : id ∈ made.map Prod.snd)
      (apart : ∀ owner ∈ Slots.holdings (slots.erase name), owner.2 ≠ id)
      (alike : machine.AlikeBesides kind id other) :
      Bereft name kind id ⟨({}, machine), slots⟩ ⟨({}, other), slots.erase name⟩

/-- Two steps that ended alike. -/
def Abreast (name : String) (kind : ObjectKind) (id : Nat) (kept left : Report × State) : Prop :=
  kept.1.said = left.1.said ∧ Bereft name kind id kept.2 left.2

section
variable {name : String} {kind : ObjectKind} {id : Nat}

/-- What has come into being is not what was there before. -/
theorem fresh_of_known {made held children : List (ObjectKind × Nat)} {machine : Machine}
    (ledger : Ledger (children ++ made) held machine) (known : id ∈ made.map Prod.snd) :
    ∀ owner ∈ children, owner.2 ≠ id := by
  intro owner member same
  have distinct := ledger.distinct
  rw [List.map_append, List.nodup_append] at distinct
  exact distinct.2.2 owner.2 (List.mem_map_of_mem member) id known same

section
variable {kept left : State} (bereft : Bereft name kind id kept left)
include bereft

/-- The slots that are left hold other objects. -/
theorem Bereft.apart : ∀ owner ∈ left.slots.holdings, owner.2 ≠ id := by
  cases bereft
  assumption

theorem Bereft.slots_eq : left.slots = kept.slots.erase name := by
  cases bereft
  rfl

private theorem Bereft.store_eq : left.world.2.store.without id = kept.world.2.store.without id := by
  cases bereft with
  | intro _ _ _ alike => exact congrArg Machine.store alike.same

end

theorem Bereft.performWork {kept left : State} (bereft : Bereft name kind id kept left) {work : Work}
    (accounts : Accounts work) (simulated : Simulated (Machine.AlikeBesides kind id) (fun _ => True) work)
    {job : Job} (delivers : Delivers job work) {keep? : Option String}
    (unfilled : ∀ prior ∈ keep?, ∀ added, job.Adds added → prior ++ added ≠ name) :
    Abreast name kind id (kept.performWork work keep?) (left.performWork work keep?) := by
  obtain @⟨made, slots, machine, other, sound, known, apart, alike⟩ := bereft
  have after := sound.performWork accounts keep?
  obtain ⟨result, between, middle, beside, running, likewise, alike, _⟩ :=
    simulated.run alike slots (slots.erase name)
  obtain ⟨_, _, _, performed, _, _, grown⟩ := accounts made _ machine [] sound.balanced
  cases performed.symm.trans running
  unfold State.performWork at after ⊢
  rw [running] at after ⊢
  rw [likewise]
  cases result with
  | error stop =>
    exact ⟨rfl, .intro after (List.map_append ▸ List.mem_append_right _ known) apart alike⟩
  | ok product =>
    have fresh := fresh_of_known grown known
    have differ : ∀ prior ∈ keep?, ∀ entry ∈ product.made, prior ++ entry.1 ≠ name :=
      fun prior given entry member => unfilled prior given entry.1 (delivers _ _ _ running entry member).1
    have parted := State.file_erase sound.ascending differ
    have moved := Slots.holdings_perm (State.file_perm (slots.erase name) keep? product.made)
    dsimp only at after ⊢
    rw [parted] at moved ⊢
    -- What is left after the work and what it drives out has been there or is fresh.
    have elsewhere : ∀ owner ∈ (State.file slots keep? product.made).2.flatMap Slot.holding ++
        Slots.holdings ((State.file slots keep? product.made).1.erase name), owner.2 ≠ id := by
      intro owner member
      rcases List.mem_append.mp (moved.mem_iff.mp member) with new | old
      · exact fresh owner new
      · exact apart owner old
    generalize State.file slots keep? product.made = filing at after elsewhere ⊢
    obtain ⟨filed, leaving⟩ := filing
    have discarded : Simulated (Machine.AlikeBesides kind id) (fun _ => True) (Slot.discardAll leaving) :=
      Slot.discardAll_simulated (fun owner held => elsewhere owner (List.mem_append_left _ held))
        trivial Manners.elsewhere_indistinct
    obtain ⟨last, notes, final, aside, finished, likewise, alike, _⟩ := discarded middle beside between alike
    dsimp only at after ⊢
    rw [finished] at after ⊢
    rw [likewise]
    exact ⟨rfl, .intro after (List.map_append ▸ List.mem_append_right _ known)
      (fun owner held => elsewhere owner (List.mem_append_right _ held)) alike⟩

/-- Work that is found in slots which have not been lost. -/
theorem Bereft.performFound {kept left : State} (bereft : Bereft name kind id kept left)
    {found : Option Work} (bearing : Bearing found) (talks : Talks (.elsewhere kind id) found)
    {job : Job} (delivering : Delivering job found) {keep? : Option String}
    (unfilled : ∀ prior ∈ keep?, ∀ added, job.Adds added → prior ++ added ≠ name) :
    Abreast name kind id (kept.performFound found keep?) (left.performFound found keep?) := by
  cases found with
  | none =>
    cases bereft with
    | intro sound known apart alike => exact ⟨rfl, .intro sound known apart alike⟩
  | some work =>
    exact bereft.performWork (bearing work rfl).accounts
      ((talks work rfl).simulated Manners.elsewhere_indistinct) (delivering work rfl) unfilled

private theorem Bereft.release {kept left : State} (bereft : Bereft name kind id kept left)
    {slot : String} (differs : slot ≠ name) :
    Abreast name kind id (kept.release slot) (left.release slot) := by
  obtain @⟨made, slots, machine, other, sound, known, apart, alike⟩ := bereft
  have after := (sound.keeps_release slot).sound
  unfold State.release at after ⊢
  dsimp only at after ⊢
  rw [Slots.release?_erase sound.ascending differs]
  have origin := fun others action => @Sound.release?_cases (slots.erase name) others slot action
    (slots.ascending_erase name sound.ascending)
  rw [Slots.release?_erase sound.ascending differs] at origin
  cases found : slots.release? slot with
  | none => exact ⟨rfl, .intro sound known apart alike⟩
  | some filing =>
    obtain ⟨others, action⟩ := filing
    rw [found] at after origin
    obtain ⟨route, sort, owned, rfl, filed, _, _⟩ := origin _ _ rfl
    have used : owned.handle ≠ 0 → owned.handle ≠ id := fun held =>
      apart _ (filed.mem_iff.mp (List.mem_append_left _ (mem_holding_self held)))
    have released : Simulated (Machine.AlikeBesides kind id) (fun _ => True) (owned.release route.driver) :=
      (Dialogue.release route trivial used).simulated Manners.elsewhere_indistinct
    obtain ⟨result, notes, final, aside, running, likewise, alike, _⟩ :=
      released.run alike slots (slots.erase name)
    dsimp only [Option.map_some] at after ⊢
    rw [running] at after ⊢
    rw [likewise]
    refine ⟨rfl, .intro after (List.map_append ▸ List.mem_append_right _ known) ?_ alike⟩
    exact fun owner held => apart owner (filed.mem_iff.mp (List.mem_append_right _ held))

private theorem Bereft.drop {kept left : State} (bereft : Bereft name kind id kept left)
    {slot : String} (differs : slot ≠ name) : Abreast name kind id (kept.drop slot) (left.drop slot) := by
  obtain @⟨made, slots, machine, other, sound, known, apart, alike⟩ := bereft
  have after := (sound.keeps_drop slot).sound
  have emptied := slots.ascending_erase name sound.ascending
  unfold State.drop at after ⊢
  dsimp only at after ⊢
  rw [Slots.get?_erase differs]
  cases found : slots.get? slot with
  | none => exact ⟨rfl, .intro sound known apart alike⟩
  | some gone =>
    rw [found] at after
    have filed := Slots.erase_perm _ emptied ((Slots.get?_erase differs).trans found)
    have held : ∀ owner ∈ gone.holding ++ Slots.holdings ((slots.erase name).erase slot), owner.2 ≠ id := by
      intro owner member
      have parted := filed.flatMap_right Slot.holding
      rw [List.flatMap_cons] at parted
      exact apart owner (parted.mem_iff.mpr member)
    have discarded : Simulated (Machine.AlikeBesides kind id) (fun _ => True) gone.discard :=
      Slot.discard_simulated (fun owner member => held owner (List.mem_append_left _ member)) trivial
        Manners.elsewhere_indistinct
    obtain ⟨result, notes, final, aside, running, likewise, alike, _⟩ :=
      discarded.run alike slots (slots.erase name)
    dsimp only at after ⊢
    rw [running] at after ⊢
    rw [likewise, Slots.erase_erase]
    refine ⟨rfl, .intro after (List.map_append ▸ List.mem_append_right _ known) (fun owner member => ?_) alike⟩
    rw [Slots.erase_erase] at member
    exact held owner (List.mem_append_right _ member)

private theorem Controls.simulated {job : Controls} (direct : (Job.controls job).isDirect = true)
    (uncounted : job ≠ .callCount (.release kind)) :
    Simulated (Machine.AlikeBesides kind id) (fun _ => True) job.work := by
  cases job with
  | fail entry status => exact fun _ _ _ alike => ⟨_, _, _, _, rfl, rfl, alike.fail entry status, nofun⟩
  | returnNull entry => exact fun _ _ _ alike => ⟨_, _, _, _, rfl, rfl, alike.returnNull entry, nofun⟩
  | callCount entry =>
    have differs : entry ≠ .release kind := fun same => uncounted (same ▸ rfl)
    have seen : (Manners.elsewhere kind id).looks fun machine => .number (machine.callCount entry) :=
      fun _ _ alike => congrArg (Answer.number ∘ Int.ofNat) (alike.counted entry differs)
    exact (Dialogue.observing seen).simulated Manners.elsewhere_indistinct
  | lastWaits =>
    have seen : (Manners.elsewhere kind id).looks fun machine => .numbers (machine.lastWaits.map Int.ofNat) :=
      fun _ _ alike => congrArg (fun machine => Answer.numbers (machine.lastWaits.map Int.ofNat)) alike.same.symm
    exact (Dialogue.observing seen).simulated Manners.elsewhere_indistinct
  | lastBuildDevices =>
    have seen : (Manners.elsewhere kind id).looks fun machine => .numberIfAny machine.lastBuildDevices :=
      fun _ _ alike => congrArg (fun machine => Answer.numberIfAny machine.lastBuildDevices) alike.same.symm
    exact (Dialogue.observing seen).simulated Manners.elsewhere_indistinct
  | directContext =>
    have asked : Dialogue (.elsewhere kind id) (Controls.work .directContext) :=
      .making (.certain (.newContext _ trivial _) trivial)
    exact asked.simulated Manners.elsewhere_indistinct
  | firstDevice =>
    have asked : Dialogue (.elsewhere kind id) Controls.firstDeviceAnswer :=
      .bind (.devices _ _ _) fun _ => .bind (.deviceString _ _ _ _) fun _ => .done _
    exact (asked.answering _).simulated Manners.elsewhere_indistinct
  | allocateContext | prepare | recount | hide => cases direct

/-- A step that is not about the object ends as it would if that were still there. -/
theorem Bereft.step {kept left : State} (bereft : Bereft name kind id kept left) (handled : id ≠ 0)
    {step : Step} (direct : step.job.isDirect = true) (ignores : step.Ignores name kind) :
    Abreast name kind id (kept.step step) (left.step step) := by
  obtain ⟨unnamed, unfilled, uncounted⟩ := ignores
  obtain ⟨job, keep?⟩ := step
  have differ : ∀ prior ∈ keep?, ∀ added, job.Adds added → prior ++ added ≠ name :=
    fun prior given added adds same => unfilled ⟨prior, given, added, adds, same.symm⟩
  have agree : Slots.Agree job.mentions kept.slots left.slots := by
    rw [bereft.slots_eq]
    exact Slots.agree_erase _ unnamed
  have admits : left.slots.Admits (.elsewhere kind id) job.mentions := fun _ _ slot found =>
    Slot.admitted_elsewhere handled fun owner held =>
      bereft.apart owner (List.mem_flatMap_of_mem (Slots.mem_contents_of_get? found) held)
  have seen := @Manners.elsewhere_open kind id
  cases job with
  | discovery job =>
    have work := job.work_congr agree
    simp only [State.step, work]
    exact bereft.performFound (job.bearing _) (job.talks _) (job.delivering _) differ
  | allocation job =>
    have work := job.work_congr agree
    simp only [State.step, work]
    exact bereft.performFound (job.bearing _)
      (job.talks trivial seen admits (fun _ => trivial) (job.readable_of_faults trivial)) (job.delivering _)
      differ
  | compilation job =>
    have work := job.work_congr agree
    simp only [State.step, work]
    exact bereft.performFound (job.bearing _)
      (job.talks trivial seen admits (fun _ => trivial) (Or.inl trivial)) (job.delivering _) differ
  | queueing job =>
    have work := job.work_congr agree
    simp only [State.step, work]
    exact bereft.performFound (job.bearing _) (job.talks trivial admits fun _ => trivial)
      (job.delivering _) differ
  | ownership job =>
    have work := job.work_congr agree
    simp only [State.step, work]
    exact bereft.performFound (job.bearing direct _) (job.talks direct admits)
      (job.delivering direct _) differ
  | controls job =>
    have simulated := @Controls.simulated kind id job direct fun same => uncounted (congrArg Job.controls same)
    exact bereft.performWork (job.accounts direct) simulated (job.delivers direct) differ
  | native => cases direct
  | release slot => exact bereft.release fun same => unnamed (same ▸ List.mem_cons_self)
  | drop slot => exact bereft.drop fun same => unnamed (same ▸ List.mem_cons_self)

/-- Over a whole run the two sessions say the same. -/
theorem Bereft.steps {kept left : State} (bereft : Bereft name kind id kept left) (handled : id ≠ 0)
    {later : List (Option Step)} (direct : ∀ next ∈ later, next.all (·.job.isDirect) = true)
    (ignores : ∀ step, some step ∈ later → step.Ignores name kind) :
    (left.steps later).1.map Report.said = (kept.steps later).1.map Report.said ∧
      Bereft name kind id (kept.steps later).2 (left.steps later).2 := by
  induction later generalizing kept left with
  | nil => exact ⟨rfl, bereft⟩
  | cons next rest ih =>
    obtain ⟨now, onward⟩ := List.forall_mem_cons.mp direct
    have others := fun step member => ignores step (List.mem_cons_of_mem next member)
    cases next with
    | none =>
      obtain ⟨said, final⟩ := ih bereft onward others
      exact ⟨congrArg (List.cons _) said, final⟩
    | some step =>
      obtain ⟨first, middle⟩ := bereft.step handled now (ignores step List.mem_cons_self)
      obtain ⟨said, final⟩ := ih middle onward others
      refine ⟨?_, final⟩
      simp only [State.steps, List.map_cons]
      rw [first, said]

/-- What others can be made from is neither a memory object nor an event. -/
theorem Item.Describes.parent {item : Item} {object : Object} (describes : item.Describes object)
    {owner : ObjectKind × Nat} (parent : item.parent? = some owner) :
    object.kind ≠ .memory ∧ object.kind ≠ .event := by
  cases describes with
  | context | queue | program | kernel => exact ⟨nofun, nofun⟩
  | memory | event | bare => cases parent

/-- The slot of a parent is emptied, and the parent given back, by a release as by a drop. -/
theorem Slots.release?_parent {slots : Slots} {route : Route} {item : Item}
    (held : slots.get? name = some ⟨route, item⟩) (parent : item.parent? = some (kind, id)) :
    ∃ owned : Owned kind, item.owner? = some ⟨kind, owned⟩ ∧ owned.handle = id ∧
      slots.release? name = some (slots.erase name, owned.release route.driver) := by
  rw [release?, held]
  cases item with
  | context item | queue item | program item | kernel item =>
    cases parent
    exact ⟨item.owned, rfl, rfl, rfl⟩
  | platform | device | memory | event | bare => cases parent

/-- A session that gives a parent back, next to the one that keeps it. -/
theorem Bereft.parted {made : List (ObjectKind × Nat)} {machine : Machine} {slots : Slots}
    (sound : Sound made ⟨({}, machine), slots⟩) (agrees : State.Agrees ⟨({}, machine), slots⟩) {slot : Slot}
    (held : slots.get? name = some slot) (parent : slot.item.parent? = some (kind, id)) {owned : Owned kind}
    (owner : slot.item.owner? = some ⟨kind, owned⟩) (live : owned.handle ≠ 0) :
    Bereft name kind owned.handle ⟨({}, machine), slots⟩
      ⟨({}, (machine.perform (.release kind owned.handle)).2), slots.erase name⟩ := by
  have present := Slots.mem_contents_of_get? held
  have holds : (kind, owned.handle) ∈ slot.holding := Slot.mem_holding owner live
  have known : (kind, owned.handle) ∈ made :=
    sound.balanced.balance.mem_iff.mp (List.mem_append_right _ (List.mem_flatMap_of_mem present holds))
  obtain ⟨object, found, describes⟩ := agrees _ present _ holds
  have bystander : machine.store.Bystander owned.handle := by
    refine ⟨sound.balanced.issued _ known, fun other stored => ?_⟩
    cases stored.symm.trans found
    exact describes.parent parent
  have emptied := (slots.erase_perm sound.ascending held).flatMap_right Slot.holding
  rw [List.flatMap_cons, Slot.holding, owner] at emptied
  dsimp only at emptied
  rw [Session.holding, if_neg live] at emptied
  have alone : ∀ other ∈ Slots.holdings (slots.erase name), other.2 ≠ owned.handle := by
    intro other member same
    exact (sound.balanced.perm (.refl made) emptied).alone (List.mem_map.mpr ⟨other, member, same⟩)
  exact .intro sound (List.mem_map_of_mem known) alone (Machine.alikeBesides_release bystander)

section
variable {machine : Machine} {slots : Slots} {owned : Owned kind} (live : owned.handle ≠ 0)
include live

/-- A slot that is released leaves the runtime after that call. -/
theorem State.after_release {route : Route}
    (released : slots.release? name = some (slots.erase name, owned.release route.driver)) :
    (State.release ⟨({}, machine), slots⟩ name).2 =
      ⟨({}, (machine.perform (.release kind owned.handle)).2), slots.erase name⟩ := by
  have running : State.run ⟨({}, machine), slots⟩ (owned.release route.driver) = (_, plain _ _) :=
    perform_release_plain route live machine []
  unfold State.release
  dsimp only
  rw [released]
  dsimp only
  rw [running]
  rfl

/-- So does one that is dropped. -/
theorem State.after_drop {slot : Slot} (held : slots.get? name = some slot)
    (owner : slot.item.owner? = some ⟨kind, owned⟩) :
    (State.drop ⟨({}, machine), slots⟩ name).2 =
      ⟨({}, (machine.perform (.release kind owned.handle)).2), slots.erase name⟩ := by
  have running : State.run ⟨({}, machine), slots⟩ (owned.discard slot.route.driver) = (_, plain _ _) :=
    perform_discard_plain (perform_release_plain slot.route live machine [])
  have discards : slot.discard = owned.discard slot.route.driver := by
    rw [Slot.discard, owner]
  unfold State.drop
  dsimp only
  rw [held]
  dsimp only
  rw [discards, running]
  rfl

end

private theorem Bereft.start {made : List (ObjectKind × Nat)} {state : State} (sound : Sound made state)
    (agrees : state.Agrees) {slot : Slot} (held : state.slots.get? name = some slot)
    (parent : slot.item.parent? = some (kind, id)) (live : id ≠ 0) :
    Bereft name kind id state (state.release name).2 ∧ Bereft name kind id state (state.drop name).2 := by
  obtain ⟨⟨overlay, machine⟩, slots⟩ := state
  cases sound.bare
  obtain ⟨owned, owner, rfl, released⟩ := Slots.release?_parent held parent
  rw [State.after_release live released, State.after_drop live held owner]
  have parted := Bereft.parted sound agrees held parent owner live
  exact ⟨parted, parted⟩

/-- What has been made from a context, a queue, a program or a kernel outlives it. Whether it has
been released or dropped first or is still there, later steps that are not about it end alike and
tell the same, and in the end the objects of the runtime differ in no other one. -/
theorem children_outlive_parents (platforms devices : Nat) (earlier later : List (Option Step))
    (direct : ∀ next ∈ earlier ++ later, next.all (·.job.isDirect) = true)
    {name : String} {slot : Slot} {kind : ObjectKind} {id : Nat}
    (held : ((State.initial platforms devices).steps earlier).2.slots.get? name = some slot)
    (parent : slot.item.parent? = some (kind, id))
    (ignores : ∀ step, some step ∈ later → step.Ignores name kind) :
    let before := ((State.initial platforms devices).steps earlier).2
    let kept := before.steps later
    ∀ gone ∈ [(before.release name).2, (before.drop name).2],
      (gone.steps later).1.map Report.said = kept.1.map Report.said ∧
        (gone.steps later).2.slots = kept.2.slots.erase name ∧
        (gone.steps later).2.world.2.store.without id = kept.2.world.2.store.without id := by
  intro before kept gone among
  obtain ⟨early, late⟩ := List.forall_mem_append.mp direct
  have sound := (Sound.initial platforms devices).steps earlier early
  have agrees := (Sound.initial platforms devices).agrees_steps (fun _ impossible => nomatch impossible) early
  have live : id ≠ 0 := by
    have whole : before.slots.Whole := State.whole_steps (.initial platforms devices) early
    obtain ⟨owned, owner, rfl, _⟩ := Slots.release?_parent held parent
    exact (whole slot (Slots.mem_contents_of_get? held)).owner owner
  have started : Bereft name kind id before gone := by
    obtain ⟨released, dropped⟩ := Bereft.start sound agrees held parent live
    simp only [List.mem_cons, List.not_mem_nil, or_false] at among
    rcases among with rfl | rfl
    · exact released
    · exact dropped
  obtain ⟨said, final⟩ := started.steps live late ignores
  exact ⟨said, final.slots_eq, final.store_eq⟩

/-- A queue and a buffer are made in a context. -/
def furnishedSession : List (Option Step) :=
  [some ⟨.controls .directContext, some "context"⟩,
    some ⟨.discovery (.deviceWithId (deviceId 0 0)), some "device"⟩,
    some ⟨.allocation (.newQueue "context" "device" 2), some "queue"⟩,
    some ⟨.allocation (.newBuffer "context" 0 2), some "buffer"⟩]

/-- Numbers go into a buffer and back, and the time of that is asked for. -/
def roundTrip : List (Option Step) :=
  [some ⟨.queueing (.enqueue "queue" [] (.writeValues "buffer" 0 .uint8 [7, 9])), some "written"⟩,
    some ⟨.queueing (.enqueue "queue" ["written"] (.readValues "buffer" 0 .uint8 2)), some "read"⟩,
    some ⟨.queueing (.profiledAt "read" .finish), none⟩]

theorem roundTrip_outlives_context :
    (∀ next ∈ furnishedSession ++ roundTrip, next.all (·.job.isDirect) = true) ∧
      (∀ step, some step ∈ roundTrip → step.Ignores "context" .context) ∧
      ∃ slot, ((State.initial 1 1).steps furnishedSession).2.slots.get? "context" = some slot ∧
        slot.item.parent? = some (.context, handleOf 1) ∧
        ((((State.initial 1 1).steps furnishedSession).2.drop "context").2.steps roundTrip).1.map Report.said =
          (((State.initial 1 1).steps furnishedSession).2.steps roundTrip).1.map Report.said := by
  have direct : ∀ next ∈ furnishedSession ++ roundTrip, next.all (·.job.isDirect) = true := by decide
  have filed : (((State.initial 1 1).steps furnishedSession).2.slots.context? "context").map Routed.object =
      some ⟨⟨handleOf 1⟩, [⟨deviceId 0 0⟩]⟩ := by decide +kernel
  have ignores : ∀ step, some step ∈ roundTrip → step.Ignores "context" .context := by
    intro step member
    simp only [roundTrip, List.mem_cons, Option.some.injEq, List.not_mem_nil, or_false] at member
    rcases member with rfl | rfl | rfl <;>
      exact ⟨by decide, Step.not_fills (fun _ => id) (by decide), nofun⟩
  obtain ⟨⟨route, _⟩, found, rfl⟩ := Option.map_eq_some_iff.mp filed
  have held := Slots.get?_of_context? found
  have outlives := children_outlive_parents 1 1 furnishedSession roundTrip direct held rfl ignores
  obtain ⟨said, _⟩ := outlives _ (List.mem_cons_of_mem _ List.mem_cons_self)
  exact ⟨direct, ignores, _, held, rfl, said⟩

end
end Offload.Session
