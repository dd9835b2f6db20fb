import Mathlib.Data.List.Induction
import Offload.Proofs.Deliveries

/-! What the host remembers about its objects never drifts from what the runtime keeps. Both
sides are settled when an object is made, from the same request; no later step changes what is
remembered, and an object is taken away with its last owner only. -/
namespace Offload.Session
open Host Simulator

/-- A step of a run has made the owner, in a context that was in the slots then. -/
def MadeFrom (start : State) (steps : List (Option Step)) (owner : ObjectKind × Nat)
    (context : Context) : Prop :=
  ∃ earlier step later, steps = earlier ++ some step :: later ∧
    step.job.StemsFrom (start.steps earlier).2.slots context ∧
    owner ∈ announced ((start.steps earlier).2.step step).1.notices

private theorem MadeFrom.snoc {start : State} {steps : List (Option Step)} {owner : ObjectKind × Nat}
    {context : Context} (made : MadeFrom start steps owner context) (last : Option Step) :
    MadeFrom start (steps ++ [last]) owner context := by
  obtain ⟨earlier, step, later, rfl, stems, told⟩ := made
  exact ⟨earlier, step, later ++ [last], by simp, stems, told⟩

theorem Slots.get?_of_context? {slots : Slots} {name : String} {route : Route} {context : Context}
    (found : slots.context? name = some ⟨route, context⟩) :
    slots.get? name = some ⟨route, .context context⟩ := by
  unfold context? at found
  split at found
  · rename_i got
    cases found
    exact got
  · cases found

private theorem Slots.mem_contents_of_context? {slots : Slots} {name : String} {route : Route}
    {context : Context} (found : slots.context? name = some ⟨route, context⟩) :
    (⟨route, .context context⟩ : Slot) ∈ slots.contents :=
  mem_contents_of_get? (get?_of_context? found)

/-- Every slot of a state agrees with its store. -/
def State.Agrees (state : State) : Prop :=
  ∀ slot ∈ state.slots.contents, slot.Agrees state.world.2.store

/-- After a step every slot agrees, and what was not there before has been made from what the
job names. -/
def Advances (state : State) (job : Job) (ended : Report × State) : Prop :=
  ∀ slot ∈ ended.2.slots.contents, slot.Agrees ended.2.world.2.store ∧
    ∀ owner ∈ slot.holding, slot ∈ state.slots.contents ∨
      owner ∈ announced ended.1.notices ∧ slot.item.Stems (job.StemsFrom state.slots)

section steps
variable {made : List (ObjectKind × Nat)} {state : State}

/-- A step advances that makes slots that fit and takes no object from those that stay. -/
theorem Kept.advances {fresh : List Slot} {middle : Store} {ended : Report × State} {job : Job}
    (kept : Kept made state fresh middle ended) (keeps : Keeps state.world.2.store middle)
    (agrees : state.Agrees) (fits : ∀ slot ∈ fresh, slot.Fits (job.StemsFrom state.slots) middle) :
    Advances state job ended := by
  have stays : ∀ slot ∈ state.slots.contents, slot.Agrees middle :=
    fun slot member => (agrees slot member).kept keeps
  have homes : ∀ context, job.StemsFrom state.slots context →
      ∀ route, Slot.Agrees middle ⟨route, .context context⟩ := by
    rintro context ⟨name, way, _, found⟩ route
    exact stays ⟨way, .context context⟩ (Slots.mem_contents_of_context? found)
  intro slot member
  refine ⟨fun owner held => ?_, fun owner held => ?_⟩
  · rw [kept.untouched owner (List.mem_flatMap_of_mem member held)]
    rcases kept.origin slot member (List.ne_nil_of_mem held) with new | old
    · exact (fits slot new homes).1 owner held
    · exact stays slot old owner held
  · rcases kept.origin slot member (List.ne_nil_of_mem held) with new | old
    · exact Or.inr ⟨kept.told slot new owner held, (fits slot new homes).2⟩
    · exact Or.inl old

/-- A step that makes nothing advances. -/
theorem Kept.advances_idly {ended : Report × State} {job : Job}
    (kept : Kept made state [] state.world.2.store ended) (agrees : state.Agrees) :
    Advances state job ended :=
  kept.advances (.refl _) agrees fun _ impossible => (List.not_mem_nil impossible).elim

namespace Sound

theorem advances_performWork (sound : Sound made state) (agrees : state.Agrees) {job : Job} {work : Work}
    (accounts : Accounts work) (ensures : Ensures work (Product.Fits (job.StemsFrom state.slots)))
    (keep? : Option String) : Advances state job (state.performWork work keep?) := by
  obtain ⟨result, middle, notes, performed, keeps, kept⟩ := sound.keeps_performWork accounts keep?
  refine kept.advances keeps agrees fun slot new => ?_
  cases result with
  | error stop => cases new
  | ok product => exact ensures state.world.2 [] sound.balanced.orderly product _ performed slot new

private theorem advances_performFound (sound : Sound made state) (agrees : state.Agrees) {job : Job}
    {found : Option Work} (bearing : Bearing found) (fitting : Fitting (job.StemsFrom state.slots) found)
    (keep? : Option String) : Advances state job (state.performFound found keep?) := by
  cases found with
  | none => exact sound.keeps_refused.advances_idly agrees
  | some work =>
    exact sound.advances_performWork agrees (bearing work rfl).accounts (fitting work rfl) keep?

theorem advances (sound : Sound made state) (agrees : state.Agrees) {step : Step}
    (direct : step.job.isDirect = true) : Advances state step.job (state.step step) := by
  obtain ⟨job, keep?⟩ := step
  cases job with
  | discovery job => exact sound.advances_performFound agrees (job.bearing _) (job.fitting _) keep?
  | allocation job => exact sound.advances_performFound agrees (job.bearing _) (job.fitting _) keep?
  | compilation job => exact sound.advances_performFound agrees (job.bearing _) (job.fitting _) keep?
  | queueing job => exact sound.advances_performFound agrees (job.bearing _) (job.fitting _) keep?
  | ownership job =>
    exact sound.advances_performFound agrees (job.bearing direct _) (job.fitting direct _) keep?
  | controls job =>
    exact sound.advances_performWork agrees (job.accounts direct) (job.ensures direct) keep?
  | native => cases direct
  | release slot => exact (sound.keeps_release slot).advances_idly agrees
  | drop slot => exact (sound.keeps_drop slot).advances_idly agrees

theorem agrees_steps (sound : Sound made state) (agrees : state.Agrees) {steps : List (Option Step)}
    (direct : ∀ next ∈ steps, next.all (·.job.isDirect) = true) : (state.steps steps).2.Agrees := by
  induction steps generalizing made state with
  | nil => exact agrees
  | cons next rest ih =>
    obtain ⟨first, others⟩ := List.forall_mem_cons.mp direct
    cases next with
    | none => exact ih sound agrees others
    | some step =>
      exact ih (sound.step first) (fun slot member => (sound.advances agrees first slot member).1) others

end Sound
end steps

theorem State.steps_append (state : State) (first second : List (Option Step)) :
    (state.steps (first ++ second)).2 = ((state.steps first).2.steps second).2 := by
  induction first generalizing state with
  | nil => rfl
  | cons next rest ih => exact ih _

/-- Over every run of owners on the runtime itself, what an unreleased owner remembers is so: it
describes the object under its handle, and its devices are those of the context it was made in. -/
theorem metadata_agrees (platforms devices : Nat) (steps : List (Option Step))
    (direct : ∀ next ∈ steps, next.all (·.job.isDirect) = true) :
    let run := (State.initial platforms devices).steps steps
    ∀ slot ∈ run.2.slots.contents, slot.Agrees run.2.world.2.store ∧
      ∀ owner ∈ slot.holding, slot.item.Stems (MadeFrom (.initial platforms devices) steps owner) := by
  intro run
  -- From the end of the run, since an owner stems from the state before the step that made it.
  induction steps using List.reverseRecOn with
  | nil => exact fun slot impossible => (List.not_mem_nil impossible).elim
  | append_singleton past last ih =>
    have early : ∀ next ∈ past, next.all (·.job.isDirect) = true :=
      fun next member => direct next (List.mem_append_left _ member)
    have sound := (Sound.initial platforms devices).steps past early
    have before := ih early
    have reached : run.2 = (((State.initial platforms devices).steps past).2.steps [last]).2 :=
      State.steps_append _ past [last]
    rw [reached]
    intro slot member
    cases last with
    | none =>
      obtain ⟨agrees, stems⟩ := before slot member
      exact ⟨agrees, fun owner held => (stems owner held).mono fun _ made => made.snoc none⟩
    | some step =>
      have allowed : step.job.isDirect = true := direct (some step) (by simp)
      obtain ⟨agrees, origin⟩ :=
        sound.advances (fun slot member => (before slot member).1) allowed slot member
      refine ⟨agrees, fun owner held => ?_⟩
      rcases origin owner held with old | ⟨told, stems⟩
      · exact ((before slot old).2 owner held).mono fun _ made => made.snoc (some step)
      · exact stems.mono fun _ source => ⟨past, step, [], rfl, source, told⟩

/-- The context is released while its queue is still there, an image is made and a buffer given
back in vain. -/
def filledSession : List (Option Step) :=
  [some ⟨.controls .directContext, some "context"⟩,
    some ⟨.discovery (.deviceWithId (deviceId 0 0)), some "device"⟩,
    some ⟨.allocation (.newQueue "context" "device" 2), some "queue"⟩,
    some ⟨.allocation (.newBuffer "context" 0 4), some "buffer"⟩,
    some ⟨.allocation (.newImage "context" 0 (Context.byteFormat .rgba) (.flat 2 3) none none),
      some "image"⟩,
    some ⟨.release "context", none⟩,
    some ⟨.controls (.fail (.release .memory) (-5)), none⟩,
    some ⟨.drop "buffer", none⟩]

private theorem Slots.mem_contents_of_queue? {slots : Slots} {name : String} {queue : Queue}
    (filed : (slots.queue? name).map Routed.object = some queue) :
    ∃ route, (⟨route, .queue queue⟩ : Slot) ∈ slots.contents := by
  obtain ⟨⟨route, _⟩, found, rfl⟩ := Option.map_eq_some_iff.mp filed
  unfold queue? at found
  split at found
  · rename_i got
    cases found
    exact ⟨route, mem_contents_of_get? got⟩
  · cases found

theorem metadata_of_filledSession :
    (∀ next ∈ filledSession, next.all (·.job.isDirect) = true) ∧
      ((State.initial 1 1).steps filledSession).2.slots.holdings =
        [(.memory, handleOf 4), (.queue, handleOf 2)] ∧
      (∃ object, ((State.initial 1 1).steps filledSession).2.world.2.store.objects.find? (handleOf 2) =
          some object ∧ (Item.queue ⟨⟨handleOf 2⟩, ⟨deviceId 0 0⟩, 2⟩).Describes object) ∧
      ∃ context, MadeFrom (.initial 1 1) filledSession (.queue, handleOf 2) context ∧
        (⟨deviceId 0 0⟩ : Device) ∈ context.devices := by
  have direct : ∀ next ∈ filledSession, next.all (·.job.isDirect) = true := by decide
  have filed : (((State.initial 1 1).steps filledSession).2.slots.queue? "queue").map Routed.object =
      some ⟨⟨handleOf 2⟩, ⟨deviceId 0 0⟩, 2⟩ := by decide +kernel
  obtain ⟨route, member⟩ := Slots.mem_contents_of_queue? filed
  obtain ⟨agrees, stems⟩ := metadata_agrees 1 1 filledSession direct _ member
  have held : (.queue, handleOf 2) ∈
      Slot.holding ⟨route, .queue ⟨⟨handleOf 2⟩, ⟨deviceId 0 0⟩, 2⟩⟩ :=
    Slot.mem_holding rfl (handleOf_ne_zero 2)
  exact ⟨direct, by decide +kernel, agrees (.queue, handleOf 2) held, stems _ held⟩

end Offload.Session
