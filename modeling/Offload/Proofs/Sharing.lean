import Offload.Proofs.Absence
import Offload.Proofs.Mentions
import Offload.Proofs.Stewardship

/-! Several owners of one object. Each of them gives the object back once, without regard to the
others; the runtime takes it back from the first and refuses it to all others, since the handle is
never used again, whatever is stored in between. -/
namespace Offload.Simulator
namespace Machine
variable {machine : Machine} {kind : ObjectKind} {id : Nat}

theorem perform_release_of_hasKind (serving : machine.halted = false)
    (allowed : machine.injection.failure? (.release kind) = none) (live : machine.store.HasKind kind id) :
    machine.perform (.release kind id) =
      (.ok {}, machine.without id (.release kind id :: machine.calls)) := by
  obtain ⟨object, found, sort⟩ := live
  rw [@perform_of_serving machine (.release kind id) serving allowed]
  simp only [serve, Store.remove, counted, found, if_pos sort]
  rfl

private theorem perform_release_of_missing (serving : machine.halted = false)
    (allowed : machine.injection.failure? (.release kind) = none)
    (gone : machine.store.objects.find? id = none) :
    machine.perform (.release kind id) =
      (.ok { status := (invalid kind).code }, machine.counted (.release kind id)) := by
  rw [@perform_of_serving machine (.release kind id) serving allowed]
  simp only [serve, Store.remove, counted, gone]
  rfl

/-- How matters stand with an object that is there until it is given back, and never after. -/
structure Lends (machine : Machine) (kind : ObjectKind) (id : Nat) (given : Prop) : Prop where
  orderly : Orderly machine.store
  issued : id ≤ handleOf machine.store.made
  allowed : machine.injection.failure? (.release kind) = none
  live : ¬given → machine.store.HasKind kind id
  gone : given → machine.halted = false → machine.store.objects.find? id = none

namespace Lends
variable {given : Prop}

theorem congr (lends : machine.Lends kind id given) {taken : Prop} (same : given ↔ taken) :
    machine.Lends kind id taken := propext same ▸ lends

/-- Only giving it back takes the object away, and nothing brings it back. -/
theorem after (lends : machine.Lends kind id given) {happening : Happening}
    (spares : happening.Spares (.release kind)) :
    (machine.after happening).Lends kind id (given ∨ happening = .call (.release kind id)) where
  orderly := orderly_after lends.orderly happening
  issued := (change_run machine [happening]).issued lends.issued
  allowed := (machine.failure?_after spares).trans lends.allowed
  live kept := by
    rcases hasKind_after (lends.live (mt Or.inl kept)) with live | ⟨released, _⟩
    · exact live
    · exact absurd (Or.inr released) kept
  gone taken serving := by
    have before := serving_of_after serving
    by_cases given
    -- The handle has been given out before, so nothing that is stored now has it.
    · have unused := Table.find?_eq_none_iff.mp (lends.gone ‹given› before)
      exact Table.find?_eq_none_iff.mpr (unused_run lends.orderly lends.issued unused [happening])
    · obtain rfl := taken.resolve_left ‹¬given›
      rw [Machine.after, perform_release_of_hasKind before lends.allowed (lends.live ‹¬given›)]
      exact (Table.find?_erase _ id id).trans (if_pos rfl)

end Lends
end Machine
end Offload.Simulator

namespace Offload.Session
open Host Simulator

/-- What is done with one of several owners in slots, or happens to the runtime meanwhile. -/
inductive Deed where
  | use (name : String)
  | release (name : String)
  | drop (name : String)
  | meanwhile (happening : Happening)

namespace Deed

/-- The slot that something is done with. -/
def name? : Deed → Option String
  | use name | release name | drop name => some name
  | meanwhile _ => none

/-- Only these slots are made use of, nobody else gives back the object, and no failure is injected
into giving back. -/
def Sole (kind : ObjectKind) (id : Nat) (names : List String) : Deed → Prop
  | use name | release name | drop name => name ∈ names
  | meanwhile happening => happening.Spares (.release kind) ∧ happening ≠ .call (.release kind id)

/-- A slot is released or dropped. -/
def Gives (deed : Deed) (name : String) : Prop := deed = .release name ∨ deed = .drop name

end Deed

theorem mem_concat_of_ne {deeds : List Deed} {deed other : Deed} (differs : deed ≠ other) :
    other ∈ deeds ++ [deed] ↔ other ∈ deeds := by
  simp [differs.symm]

/-- A slot has been released or dropped. -/
def GivenBack (deeds : List Deed) (name : String) : Prop := .release name ∈ deeds ∨ .drop name ∈ deeds

theorem givenBack_append {early late : List Deed} {name : String} :
    GivenBack (early ++ late) name ↔ GivenBack early name ∨ GivenBack late name := by
  simp only [GivenBack, List.mem_append]
  exact or_or_or_comm

theorem givenBack_singleton {deed : Deed} {name : String} : GivenBack [deed] name ↔ deed.Gives name := by
  simp only [GivenBack, Deed.Gives, List.mem_singleton, eq_comm]

namespace State

/-- The state of a session after a deed. -/
def follow (state : State) : Deed → State
  | .use name => (state.step ⟨.ownership (.handleOf name), none⟩).2
  | .release name => (state.step ⟨.release name, none⟩).2
  | .drop name => (state.step ⟨.drop name, none⟩).2
  | .meanwhile happening => { state with world := (state.world.1, state.world.2.after happening) }

def followAll (state : State) (deeds : List Deed) : State := deeds.foldl follow state

/-- The calls that one step makes, in order. -/
def callsBetween (before after : State) : List Request :=
  (after.world.2.calls.take (after.world.2.calls.length - before.world.2.calls.length)).reverse

/-- The calls that are made for one slot in the course of these deeds, in order. -/
def callsOf (state : State) (name : String) : List Deed → List Request
  | [] => []
  | deed :: rest =>
    (if deed.name? = some name then callsBetween state (state.follow deed) else []) ++
      (state.follow deed).callsOf name rest

private theorem callsBetween_of_still {before after : State} (still : after.world = before.world) :
    callsBetween before after = [] := by
  rw [callsBetween, still, Nat.sub_self, List.take_zero, List.reverse_nil]

private theorem callsBetween_of_call {before after : State} {request : Request}
    (called : after.world.2.calls = request :: before.world.2.calls) :
    callsBetween before after = [request] := by
  rw [callsBetween, called, List.length_cons, Nat.add_sub_cancel_left]
  rfl

/-- A step ends in this way without a call and without a notice. -/
structure Idle (state : State) (job : Job) (ending : Ending) : Prop where
  report : (state.step ⟨job, none⟩).1 = ⟨ending, state.world.2.liveObjects, []⟩
  world : (state.step ⟨job, none⟩).2.world = state.world

theorem Idle.of_step {state after : State} {job : Job} {ending : Ending}
    (stepped : state.step ⟨job, none⟩ = (⟨ending, state.world.2.liveObjects, []⟩, after))
    (still : after.world = state.world) : state.Idle job ending :=
  ⟨congrArg Prod.fst stepped, (congrArg (·.2.world) stepped).trans still⟩

/-- Giving back the object of a slot comes to one call, which ends in this way; whoever drops the slot
is only told of faults. -/
structure Closes (state : State) (kind : ObjectKind) (id : Nat) (name : String)
    (result : Except Stop Unit) (world : Machine) : Prop where
  called : world.calls = .release kind id :: state.world.2.calls
  released : ∃ slots, state.step ⟨.release name, none⟩ =
    concluded (result.map fun _ => .nothing) (plain world [.releasing kind id]) slots
  dropped : ∃ slots, state.step ⟨.drop name, none⟩ =
    concluded ((discarded kind result).1.map fun _ => .truth true)
      (plain world ((discarded kind result).2 ++ [.releasing kind id])) slots

section
variable {machine : Machine} {slots : Slots} {name : String} {route : Route} {kind : ObjectKind}
  {owned : Owned kind}

theorem step_release_bare (held : slots.get? name = some ⟨route, .bare kind owned⟩)
    {result : Except Stop Unit} {after : Machine} {notes : List Notice}
    (performed : (owned.release route.driver).perform (plain machine []) = (result, plain after notes)) :
    step ⟨({}, machine), slots⟩ ⟨.release name, none⟩ =
      concluded (result.map fun _ => .nothing) (plain after notes)
        (slots.put name ⟨route, .bare kind (.released kind)⟩).1 := by
  have running : run ⟨({}, machine), slots⟩ (owned.release route.driver) = (result, plain after notes) :=
    performed
  show release _ name = _
  unfold release
  dsimp only
  rw [Slots.release?, held]
  dsimp only
  rw [running]

theorem step_drop_bare (held : slots.get? name = some ⟨route, .bare kind owned⟩)
    {result : Except Stop Unit} {after : Machine} {notes : List Notice}
    (performed : (owned.release route.driver).perform (plain machine []) = (result, plain after notes)) :
    step ⟨({}, machine), slots⟩ ⟨.drop name, none⟩ =
      concluded ((discarded kind result).1.map fun _ => .truth true)
        (plain after ((discarded kind result).2 ++ notes)) (slots.erase name) := by
  have running : run ⟨({}, machine), slots⟩ (owned.discard route.driver) =
    ((discarded kind result).1, plain after ((discarded kind result).2 ++ notes)) :=
      perform_discard_plain performed
  show drop _ name = _
  unfold drop
  dsimp only
  rw [held]
  dsimp only [Slot.discard, Item.owner?]
  rw [running]

theorem step_use_bare (held : slots.get? name = some ⟨route, .bare kind owned⟩) (live : owned.handle ≠ 0) :
    step ⟨({}, machine), slots⟩ ⟨.ownership (.handleOf name), none⟩ =
      (⟨.answered (.number owned.handle), machine.liveObjects, []⟩, ⟨({}, machine), slots⟩) := by
  have used : (owned.use : Host.Action World Nat) = pure owned.handle := if_neg live
  simp only [step, Ownership.work, held, Ownership.handleWork, Option.bind_eq_bind, Option.bind_some, used]
  rfl

theorem step_use_released (held : slots.get? name = some ⟨route, .bare kind (.released kind)⟩) :
    step ⟨({}, machine), slots⟩ ⟨.ownership (.handleOf name), none⟩ =
      (⟨.faulted (.released kind), machine.liveObjects, []⟩, ⟨({}, machine), slots⟩) := by
  simp only [step, Ownership.work, held, Ownership.handleWork, Option.bind_eq_bind, Option.bind_some]
  rfl

end

section
variable {state : State} {name : String}

theorem step_use_missing (gone : state.slots.get? name = none) :
    state.step ⟨.ownership (.handleOf name), none⟩ = state.refused := by
  simp only [step, Ownership.work, gone, Option.bind_eq_bind, Option.bind_none]
  rfl

theorem step_release_missing (gone : state.slots.get? name = none) :
    state.step ⟨.release name, none⟩ = state.refused := by
  show release state name = _
  unfold release
  rw [Slots.release?, gone]

theorem step_drop_missing (gone : state.slots.get? name = none) :
    state.step ⟨.drop name, none⟩ = (⟨.answered (.truth false), state.world.2.liveObjects, []⟩, state) := by
  show drop state name = _
  unfold drop
  rw [gone]
  rfl

private theorem get?_drop (state : State) (name other : String) :
    (state.step ⟨.drop name, none⟩).2.slots.get? other =
      if other = name then none else state.slots.get? other := by
  cases held : state.slots.get? name with
  | none =>
    rw [step_drop_missing held]
    split
    · rename_i same
      exact same ▸ held
    · rfl
  | some slot =>
    have emptied : (state.drop name).2.slots = state.slots.erase name := by
      unfold drop
      rw [held]
      rcases run state slot.discard with ⟨result, scene⟩
      rfl
    show (state.drop name).2.slots.get? other = _
    rw [emptied]
    split
    · rename_i same
      rw [same, Slots.get?_erase_self]
    · exact Slots.get?_erase ‹_›

private theorem get?_release {route : Route} {kind : ObjectKind} {owned : Owned kind}
    (held : state.slots.get? name = some ⟨route, .bare kind owned⟩) (other : String) :
    (state.step ⟨.release name, none⟩).2.slots.get? other =
      if name = other then some ⟨route, .bare kind (.released kind)⟩ else state.slots.get? other := by
  have kept : (state.release name).2.slots = (state.slots.put name ⟨route, .bare kind (.released kind)⟩).1 := by
    unfold release
    rw [Slots.release?, held]
    dsimp only
    rcases run state (owned.release route.driver) with ⟨result, scene⟩
    rfl
  show (state.release name).2.slots.get? other = _
  rw [kept, Slots.get?_put]

end
end State

/-- What a slot holds that had one of several owners of an object, after these deeds. -/
structure Remains (kind : ObjectKind) (id : Nat) (deeds : List Deed) (name : String) (slot? : Option Slot) :
    Prop where
  kept : ¬GivenBack deeds name → ∃ route, slot? = some ⟨route, .bare kind ⟨id⟩⟩
  released : .release name ∈ deeds → .drop name ∉ deeds →
    ∃ route, slot? = some ⟨route, .bare kind (.released kind)⟩
  dropped : .drop name ∈ deeds → slot? = none

namespace Remains
variable {kind : ObjectKind} {id : Nat} {deeds : List Deed} {name : String} {slot? : Option Slot}

/-- There is an owner in a slot until it is dropped. -/
theorem undropped (remains : Remains kind id deeds name slot?) (undropped : .drop name ∉ deeds) :
    ∃ route owned, slot? = some ⟨route, .bare kind owned⟩ := by
  by_cases given : .release name ∈ deeds
  · obtain ⟨route, held⟩ := remains.released given undropped
    exact ⟨route, _, held⟩
  · obtain ⟨route, held⟩ := remains.kept (not_or.mpr ⟨given, undropped⟩)
    exact ⟨route, _, held⟩

theorem others (remains : Remains kind id deeds name slot?) {deed : Deed} (unreleased : deed ≠ .release name)
    (undropped : deed ≠ .drop name) : Remains kind id (deeds ++ [deed]) name slot? := by
  have releases := @mem_concat_of_ne deeds _ _ unreleased
  have drops := @mem_concat_of_ne deeds _ _ undropped
  constructor
  · simpa only [GivenBack, releases, drops] using remains.kept
  · simpa only [releases, drops] using remains.released
  · simpa only [drops] using remains.dropped

end Remains

/-- How matters stand with several owners of an object in slots, after these deeds. -/
structure Shares (kind : ObjectKind) (id : Nat) (names : List String) (deeds : List Deed)
    (state : State) : Prop where
  bare : state.world.1 = {}
  named : id ≠ 0
  remains : ∀ name ∈ names, Remains kind id deeds name (state.slots.get? name)
  lends : state.world.2.Lends kind id (∃ name, GivenBack deeds name)

namespace Shares
variable {kind : ObjectKind} {id : Nat} {names : List String} {deeds : List Deed} {state : State}
  {name : String}

section
variable (shares : Shares kind id names deeds state) (member : name ∈ names)
include shares member

/-- The first time that an object is given back the runtime is called. -/
theorem closes (kept : ¬GivenBack deeds name) {answer : Except Fault Response} {world : Machine}
    (answered : state.world.2.perform (.release kind id) = (answer, world)) :
    state.Closes kind id name ((heard answer).map fun _ => ()) world := by
  obtain ⟨⟨overlay, machine⟩, slots⟩ := state
  obtain rfl : overlay = {} := shares.bare
  obtain ⟨route, held⟩ := (shares.remains name member).kept kept
  have called := (outcome_perform machine (.release kind id)).calls_eq
  have performed := @perform_release_plain kind ⟨id⟩ route shares.named machine []
  rw [answered] at called performed
  exact ⟨called, ⟨_, State.step_release_bare held performed⟩, ⟨_, State.step_drop_bare held performed⟩⟩

private theorem idle_of_kept (kept : ¬GivenBack deeds name) :
    state.Idle (.ownership (.handleOf name)) (.answered (.number id)) := by
  obtain ⟨⟨overlay, machine⟩, slots⟩ := state
  obtain rfl : overlay = {} := shares.bare
  obtain ⟨route, held⟩ := (shares.remains name member).kept kept
  exact .of_step (@State.step_use_bare machine slots name route kind ⟨id⟩ held shares.named) rfl

/-- An owner that was released is not heard of any more, and cannot be used. -/
theorem idle_of_released (released : .release name ∈ deeds) (undropped : .drop name ∉ deeds) :
    state.Idle (.ownership (.handleOf name)) (.faulted (.released kind)) ∧
      state.Idle (.release name) (.answered .nothing) ∧ state.Idle (.drop name) (.answered (.truth true)) := by
  obtain ⟨⟨overlay, machine⟩, slots⟩ := state
  obtain rfl : overlay = {} := shares.bare
  obtain ⟨route, held⟩ := (shares.remains name member).released released undropped
  have performed : ((Owned.released kind).release route.driver).perform (plain machine []) =
    (.ok (), plain machine []) := rfl
  exact ⟨.of_step (State.step_use_released held) rfl, .of_step (State.step_release_bare held performed) rfl,
    .of_step (State.step_drop_bare held performed) rfl⟩

theorem idle_of_dropped (dropped : .drop name ∈ deeds) :
    state.Idle (.ownership (.handleOf name)) .refused ∧ state.Idle (.release name) .refused ∧
      state.Idle (.drop name) (.answered (.truth false)) := by
  have gone := (shares.remains name member).dropped dropped
  exact ⟨.of_step (State.step_use_missing gone) rfl, .of_step (State.step_release_missing gone) rfl,
    .of_step (State.step_drop_missing gone) rfl⟩

theorem follow_use : state.follow (.use name) = state := by
  obtain ⟨⟨overlay, machine⟩, slots⟩ := state
  obtain rfl : overlay = {} := shares.bare
  have remains := shares.remains name member
  by_cases gone : .drop name ∈ deeds
  · exact congrArg Prod.snd (State.step_use_missing (remains.dropped gone))
  · by_cases given : .release name ∈ deeds
    · obtain ⟨route, held⟩ := remains.released given gone
      exact congrArg Prod.snd (State.step_use_released held)
    · obtain ⟨route, held⟩ := remains.kept (not_or.mpr ⟨given, gone⟩)
      exact congrArg Prod.snd (@State.step_use_bare machine slots name route kind ⟨id⟩ held shares.named)

/-- Whoever gives the object back calls the runtime the first time only. -/
theorem world_of_gives {deed : Deed} (gives : deed.Gives name) :
    (GivenBack deeds name ∧ (state.follow deed).world = state.world) ∨
    (¬GivenBack deeds name ∧
      (state.follow deed).world = ({}, state.world.2.after (.call (.release kind id)))) := by
  by_cases gone : .drop name ∈ deeds
  · obtain ⟨_, released, dropped⟩ := shares.idle_of_dropped member gone
    refine Or.inl ⟨Or.inr gone, ?_⟩
    rcases gives with rfl | rfl
    · exact released.world
    · exact dropped.world
  · by_cases given : .release name ∈ deeds
    · obtain ⟨_, released, dropped⟩ := shares.idle_of_released member given gone
      refine Or.inl ⟨Or.inl given, ?_⟩
      rcases gives with rfl | rfl
      · exact released.world
      · exact dropped.world
    · have kept : ¬GivenBack deeds name := not_or.mpr ⟨given, gone⟩
      obtain ⟨_, ⟨_, released⟩, ⟨_, dropped⟩⟩ := shares.closes member kept rfl
      refine Or.inr ⟨kept, ?_⟩
      rcases gives with rfl | rfl
      · exact congrArg (·.2.world) released
      · exact congrArg (·.2.world) dropped

/-- Giving back the object, which makes no difference in the end when it is not for the first time. -/
theorem of_gives {deed : Deed} (gives : deed.Gives name)
    (remains : ∀ other ∈ names,
      Remains kind id (deeds ++ [deed]) other ((state.follow deed).slots.get? other)) :
    Shares kind id names (deeds ++ [deed]) (state.follow deed) := by
  have given : ∃ name, GivenBack (deeds ++ [deed]) name :=
    ⟨name, givenBack_append.mpr (Or.inr (givenBack_singleton.mpr gives))⟩
  rcases shares.world_of_gives member gives with ⟨before, still⟩ | ⟨_, moved⟩
  · have lends := shares.lends.congr (iff_of_true ⟨name, before⟩ given)
    exact ⟨still ▸ shares.bare, shares.named, remains, still ▸ lends⟩
  · have lends := @Machine.Lends.after _ _ _ _ shares.lends (.call (.release kind id)) trivial
    exact ⟨moved ▸ rfl, shares.named, remains, moved ▸ lends.congr (iff_of_true (Or.inr rfl) given)⟩

end

/-- What gives no object back leaves the owners as they are. -/
theorem of_others (shares : Shares kind id names deeds state) {deed : Deed}
    (unreleased : ∀ name, deed ≠ .release name) (undropped : ∀ name, deed ≠ .drop name) {machine : Machine}
    (lends : machine.Lends kind id (∃ name, GivenBack deeds name)) :
    Shares kind id names (deeds ++ [deed]) { state with world := (state.world.1, machine) } where
  bare := shares.bare
  named := shares.named
  remains name member := (shares.remains name member).others (unreleased name) (undropped name)
  lends := lends.congr (exists_congr fun name =>
    or_congr (mem_concat_of_ne (unreleased name)).symm (mem_concat_of_ne (undropped name)).symm)

/-- One deed more. -/
theorem follow (shares : Shares kind id names deeds state) {deed : Deed} (sole : deed.Sole kind id names) :
    Shares kind id names (deeds ++ [deed]) (state.follow deed) := by
  cases deed with
  | use name =>
    rw [shares.follow_use sole]
    exact shares.of_others (by simp) (by simp) shares.lends
  | meanwhile happening =>
    exact shares.of_others (by simp) (by simp) ((shares.lends.after sole.1).congr (or_iff_left sole.2))
  | release name =>
    refine shares.of_gives sole (Or.inl rfl) fun other known => ?_
    have remains := shares.remains other known
    have apart (differs : other ≠ name) : Deed.release name ≠ .release other :=
      fun same => differs (Deed.release.inj same).symm
    have given : GivenBack (deeds ++ [.release name]) name := Or.inl List.mem_concat_self
    by_cases gone : .drop name ∈ deeds
    · have missing := (shares.remains name sole).dropped gone
      have still : state.follow (.release name) = state :=
        congrArg Prod.snd (State.step_release_missing missing)
      rw [still]
      by_cases same : other = name
      · subst same
        exact ⟨absurd given, fun _ undropped => absurd (List.mem_append_left _ gone) undropped,
          fun _ => missing⟩
      · exact remains.others (apart same) nofun
    · obtain ⟨route, owned, held⟩ := (shares.remains name sole).undropped gone
      have slots : (state.follow (.release name)).slots.get? other =
        if name = other then some ⟨route, .bare kind (.released kind)⟩ else state.slots.get? other :=
          State.get?_release held other
      rw [slots]
      split
      · rename_i same
        subst same
        have undropped := mt (@mem_concat_of_ne deeds (.release name) (.drop name) nofun).mp gone
        exact ⟨absurd given, fun _ _ => ⟨route, rfl⟩, fun dropped => absurd dropped undropped⟩
      · exact remains.others (apart fun same => ‹name ≠ other› same.symm) nofun
  | drop name =>
    refine shares.of_gives sole (Or.inr rfl) fun other known => ?_
    have slots : (state.follow (.drop name)).slots.get? other =
      if other = name then none else state.slots.get? other := state.get?_drop name other
    rw [slots]
    split
    · rename_i same
      subst same
      exact ⟨absurd (Or.inr List.mem_concat_self), fun _ => absurd List.mem_concat_self, fun _ => rfl⟩
    · exact (shares.remains other known).others nofun fun same => ‹other ≠ name› (Deed.drop.inj same).symm

private theorem followAll (shares : Shares kind id names deeds state) {later : List Deed}
    (sole : ∀ deed ∈ later, deed.Sole kind id names) :
    Shares kind id names (deeds ++ later) (state.followAll later) := by
  induction later generalizing deeds state with
  | nil => exact (List.append_nil deeds).symm ▸ shares
  | cons deed rest ih =>
    obtain ⟨now, later⟩ := List.forall_mem_cons.mp sole
    rw [List.append_cons]
    exact ih (shares.follow now) later

section
variable (shares : Shares kind id names deeds state) (member : name ∈ names)
include shares member

/-- A deed that does not give back the object for the first time makes no call. -/
theorem uncalled_after {deed : Deed} (named : deed.name? = some name)
    (idle : deed.Gives name → GivenBack deeds name) : State.callsBetween state (state.follow deed) = [] := by
  have again (gives : deed.Gives name) : State.callsBetween state (state.follow deed) = [] := by
    rcases shares.world_of_gives member gives with ⟨_, still⟩ | ⟨kept, _⟩
    · exact State.callsBetween_of_still still
    · exact absurd (idle gives) kept
  cases deed with
  | use other =>
    cases named
    exact State.callsBetween_of_still (congrArg State.world (shares.follow_use member))
  | release other => cases named; exact again (Or.inl rfl)
  | drop other => cases named; exact again (Or.inr rfl)
  | meanwhile => cases named

private theorem called_after {deed : Deed} (gives : deed.Gives name) (kept : ¬GivenBack deeds name) :
    State.callsBetween state (state.follow deed) = [.release kind id] := by
  rcases shares.world_of_gives member gives with ⟨given, _⟩ | ⟨_, moved⟩
  · exact absurd given kept
  · refine State.callsBetween_of_call ?_
    rw [moved]
    exact (outcome_perform state.world.2 (.release kind id)).calls_eq

theorem callsOf_idle {later : List Deed} (sole : ∀ deed ∈ later, deed.Sole kind id names)
    (idle : GivenBack later name → GivenBack deeds name) : state.callsOf name later = [] := by
  induction later generalizing deeds state with
  | nil => rfl
  | cons deed rest ih =>
    obtain ⟨now, later⟩ := List.forall_mem_cons.mp sole
    rw [← List.singleton_append, givenBack_append, givenBack_singleton] at idle
    have onward := ih (shares.follow now) later fun given => givenBack_append.mpr (Or.inl (idle (Or.inr given)))
    rw [State.callsOf, onward, List.append_nil]
    split
    · exact shares.uncalled_after member ‹_› fun gives => idle (Or.inl gives)
    · rfl

/-- The one call for a slot is made when the object is given back for the first time. -/
theorem callsOf_giving {later : List Deed} (sole : ∀ deed ∈ later, deed.Sole kind id names)
    (kept : ¬GivenBack deeds name) (given : GivenBack later name) :
    state.callsOf name later = [.release kind id] := by
  induction later generalizing deeds state with
  | nil => exact given.elim nofun nofun
  | cons deed rest ih =>
    obtain ⟨now, later⟩ := List.forall_mem_cons.mp sole
    rw [← List.singleton_append, givenBack_append, givenBack_singleton] at given
    rw [State.callsOf]
    -- The first deed that gives the object back makes the call, and leaves no other one to be made.
    by_cases gives : deed.Gives name
    · have named : deed.name? = some name := by rcases gives with rfl | rfl <;> rfl
      have before : GivenBack (deeds ++ [deed]) name :=
        givenBack_append.mpr (Or.inr (givenBack_singleton.mpr gives))
      rw [if_pos named, shares.called_after member gives kept,
        (shares.follow now).callsOf_idle member later fun _ => before]
      rfl
    · have still : ¬GivenBack (deeds ++ [deed]) name := by
        rw [givenBack_append, givenBack_singleton]
        exact not_or.mpr ⟨kept, gives⟩
      rw [ih (shares.follow now) later still (given.resolve_left gives)]
      split
      · rw [shares.uncalled_after member ‹_› fun same => absurd same gives]
        rfl
      · rfl

end
end Shares

/-- Several slots with one object, with which anything is done in any order, while anything else happens
to the runtime that does not give back this object. For each slot one call is made, when it is released
or dropped for the first time, and none when it is released or dropped again or its handle is used; the
handle can be used until then and not any more after. The object is there until the first of these calls,
which takes it away; all others are refused with the error of the kind and change nothing, and whoever
drops a slot finds this error among the notices only. A runtime that has halted is called all the same. -/
theorem shared_object_given_back_once {kind : ObjectKind} {id : Nat} {machine : Machine} {slots : Slots}
    {names : List String} {deeds : List Deed} (reachable : machine.Reachable)
    (live : machine.store.HasKind kind id) (allowed : machine.injection.failure? (.release kind) = none)
    (shared : ∀ name ∈ names, ∃ route, slots.get? name = some ⟨route, .bare kind ⟨id⟩⟩)
    (sole : ∀ deed ∈ deeds, deed.Sole kind id names) :
    let start : State := ⟨({}, machine), slots⟩
    let state := start.followAll deeds
    let world := state.world.2
    let called := world.counted (.release kind id)
    let given := ∃ name, GivenBack deeds name
    (¬given → world.store.HasKind kind id) ∧
    (given → world.halted = false → world.store.objects.find? id = none) ∧
    ∀ name ∈ names,
      (GivenBack deeds name → start.callsOf name deeds = [.release kind id]) ∧
      (.release name ∈ deeds → .drop name ∉ deeds →
        state.Idle (.ownership (.handleOf name)) (.faulted (.released kind)) ∧
        state.Idle (.release name) (.answered .nothing) ∧
        state.Idle (.drop name) (.answered (.truth true))) ∧
      (.drop name ∈ deeds →
        state.Idle (.ownership (.handleOf name)) .refused ∧ state.Idle (.release name) .refused ∧
        state.Idle (.drop name) (.answered (.truth false))) ∧
      (¬GivenBack deeds name → start.callsOf name deeds = [] ∧
        state.Idle (.ownership (.handleOf name)) (.answered (.number id)) ∧
        (¬given → world.halted = false → state.Closes kind id name (.ok ()) (world.without id called.calls)) ∧
        (given → world.halted = false →
          state.Closes kind id name (.error (.failed (.native (invalid kind)))) called) ∧
        (world.halted = true → state.Closes kind id name (.error (.faulted .halted)) called)) := by
  intro start state world called given
  have begun : Shares kind id names [] start := by
    have ⟨_, found, _⟩ := live
    exact {
      bare := rfl
      named := reachable.ne_zero found
      remains := fun name member => ⟨fun _ => shared name member, nofun, nofun⟩
      lends := {
        orderly := reachable.orderly
        issued := reachable.orderly.issued_of_find? found
        allowed := allowed
        live := fun _ => live
        gone := fun ⟨_, before⟩ => before.elim nofun nofun } }
  have unopened (name : String) : ¬GivenBack [] name := fun before => before.elim nofun nofun
  have shares : Shares kind id names deeds state := begun.followAll sole
  have lends := shares.lends
  refine ⟨lends.live, lends.gone, fun name member => ⟨begun.callsOf_giving member sole (unopened name),
    shares.idle_of_released member, shares.idle_of_dropped member, fun kept => ?_⟩⟩
  refine ⟨begun.callsOf_idle member sole fun closed => absurd closed kept, shares.idle_of_kept member kept,
    fun fresh serving => ?_, fun before serving => ?_, fun halted => ?_⟩
  · exact shares.closes member kept
      (Machine.perform_release_of_hasKind serving lends.allowed (lends.live fresh))
  · have closes := shares.closes member kept
      (Machine.perform_release_of_missing serving lends.allowed (lends.gone before serving))
    rwa [heard_refused] at closes
  · exact shares.closes member kept (Machine.perform_of_halted halted _)

/-- A context. -/
def loneContext : Machine := (Machine.ofTopology 1 1).run [.call (.createContext ⟨1, some [deviceId 0 0]⟩)]

/-- Three owners of one object. -/
def threeOwners (kind : ObjectKind) (id : Nat) : Slots := [
  ("first", ⟨.layered, .bare kind ⟨id⟩⟩),
  ("second", ⟨.direct, .bare kind ⟨id⟩⟩),
  ("third", ⟨.direct, .bare kind ⟨id⟩⟩)]

/-- Two of the owners give the object back, one of them twice. Meanwhile another context is made, and
the handle is given back as that of a queue. -/
def givingBack : List Deed := [
  .use "first",
  .release "second",
  .meanwhile (.call (.createContext ⟨1, some [deviceId 0 0]⟩)),
  .meanwhile (.call (.release .queue (handleOf 1))),
  .drop "first",
  .release "second"]

/-- The third owner can still use the handle, but it cannot give anything back. -/
theorem loneContext_given_back :
    let start : State := ⟨({}, loneContext), threeOwners .context (handleOf 1)⟩
    let state := start.followAll givingBack
    start.callsOf "first" givingBack = [.release .context (handleOf 1)] ∧
      start.callsOf "second" givingBack = [.release .context (handleOf 1)] ∧
      start.callsOf "third" givingBack = [] ∧
      state.Idle (.ownership (.handleOf "second")) (.faulted (.released .context)) ∧
      state.Idle (.ownership (.handleOf "first")) .refused ∧
      state.Idle (.ownership (.handleOf "third")) (.answered (.number (handleOf 1))) ∧
      state.Closes .context (handleOf 1) "third" (.error (.failed (.native .invalidContext)))
        (state.world.2.counted (.release .context (handleOf 1))) := by
  have reachable : loneContext.Reachable := ⟨1, 1, _, rfl⟩
  have live : loneContext.store.HasKind .context (handleOf 1) :=
    ⟨.context [deviceId 0 0], by decide +kernel, rfl⟩
  have allowed : loneContext.injection.failure? (.release .context) = none := by decide +kernel
  have shared : ∀ name ∈ ["first", "second", "third"], ∃ route,
      (threeOwners .context (handleOf 1)).get? name = some ⟨route, .bare .context ⟨handleOf 1⟩⟩ := by
    simp only [List.forall_mem_cons]
    exact ⟨⟨_, rfl⟩, ⟨_, rfl⟩, ⟨_, rfl⟩, List.forall_mem_nil _⟩
  have sole : ∀ deed ∈ givingBack, deed.Sole .context (handleOf 1) ["first", "second", "third"] := by
    simp only [givingBack, List.forall_mem_cons, Deed.Sole, Happening.Spares]
    exact ⟨by decide, by decide, ⟨trivial, fun same => by cases same⟩, ⟨trivial, fun same => by cases same⟩,
      by decide, by decide, List.forall_mem_nil _⟩
  obtain ⟨_, _, owners⟩ := shared_object_given_back_once reachable live allowed shared sole
  obtain ⟨firstCalls, _, dropped, _⟩ := owners "first" (by decide)
  obtain ⟨secondCalls, released, _⟩ := owners "second" (by decide)
  obtain ⟨_, _, _, kept⟩ := owners "third" (by decide)
  obtain ⟨thirdCalls, used, _, refused, _⟩ := kept (by simp [GivenBack, givingBack])
  have given : ∃ name, GivenBack givingBack name := ⟨"first", by simp [GivenBack, givingBack]⟩
  exact ⟨firstCalls (by simp [GivenBack, givingBack]), secondCalls (by simp [GivenBack, givingBack]),
    thirdCalls, (released (by simp [givingBack]) (by simp [givingBack])).1,
    (dropped (by simp [givingBack])).1, used, refused given (by decide +kernel)⟩

end Offload.Session
