import Offload.Proofs.Handles
import Offload.Proofs.Locality

/-! What the commands of a run leave behind, in the order in which they were put into their queues.
The ticks of a command that was profiled lie behind those of all earlier ones, on whichever queues. -/
namespace Offload.Simulator

/-- The event of a command: its handle, the events it waits for, and its first tick if it was
profiled. -/
structure Entry where
  event : Nat
  waits : List Nat
  queuedAt : Option Nat
  deriving DecidableEq, Repr

def Store.commandAt? (store : Store) (id : Nat) : Option Entry :=
  match store.objects.find? id with
  | some (.event (.command waits queuedAt)) => some ⟨id, waits, queuedAt⟩
  | _ => none

theorem Store.commandAt?_of_command {store : Store} {id : Nat} {waits : List Nat} {queuedAt : Option Nat}
    (found : store.objects.find? id = some (.event (.command waits queuedAt))) :
    store.commandAt? id = some ⟨id, waits, queuedAt⟩ := by
  rw [commandAt?, found]

/-- The events of commands that have been stored between two states. -/
def newEntries (before after : Store) : List Entry := (newKeys before after).filterMap after.commandAt?

/-- The events of commands that a run stores, in order; some of them may be released later in it. -/
def Machine.chronicle (machine : Machine) : List Happening → List Entry
  | [] => []
  | first :: rest =>
    newEntries machine.store (machine.after first).store ++ (machine.after first).chronicle rest

/-- A later command with a younger event, all of whose ticks are later if both were profiled. -/
def Entry.Precedes (first later : Entry) : Prop :=
  first.event < later.event ∧ ∀ tick ∈ first.queuedAt, ∀ next ∈ later.queuedAt,
    stampTick tick .finish < stampTick next .queued

/-- The moments of a command that was profiled come one after the other. -/
def Entry.Ascends (entry : Entry) : Prop :=
  ∀ tick ∈ entry.queuedAt, stampTick tick .queued < stampTick tick .submit ∧
    stampTick tick .submit < stampTick tick .start ∧ stampTick tick .start < stampTick tick .finish

theorem Entry.ascends (entry : Entry) : entry.Ascends := by
  intro tick _
  simp only [stampTick]
  omega

/-- The handle and the first tick that the next command gets are these or later ones. -/
def Entry.ComesAfter (store : Store) (entry : Entry) : Prop :=
  handleOf store.made < entry.event ∧ ∀ tick ∈ entry.queuedAt, store.clock ≤ tick

theorem Store.eq_of_firstTick {store : Store} {properties : UInt64} {tick : Nat}
    (first : tick ∈ store.firstTick? properties) : tick = store.clock := by
  unfold firstTick? at first
  split at first
  · exact (Option.some.inj first).symm
  · cases first

/-- What a step does to the clock: it stands still unless a command is profiled, which takes four
ticks. -/
inductive Tick (before after : Store) : Prop where
  | still (entries : newEntries before after = []) (clock : after.clock = before.clock)
  | stored (waits : List Nat) (properties : UInt64)
      (entries : newEntries before after =
        [⟨handleOf (before.made + 1), waits, before.firstTick? properties⟩])
      (made : after.made = before.made + 1)
      (clock : after.clock = before.clock + if (before.firstTick? properties).isSome then 4 else 0)

theorem Revision.clock_eq {before after : Store} (revision : Revision before after) :
    after.clock = before.clock := by
  cases revision <;> rfl

section
variable {before after : Store} (stride : Stride before after) (orderly : Orderly before)
include stride orderly

theorem newEntries_of_made_eq (made : after.made = before.made) : newEntries before after = [] := by
  rw [newEntries, stride.newKeys_eq orderly, made, Nat.sub_self]
  rfl

theorem newEntries_of_made_succ (made : after.made = before.made + 1) :
    newEntries before after = (after.commandAt? (handleOf (before.made + 1))).toList := by
  rw [newEntries, stride.newKeys_eq orderly, made, Nat.add_sub_cancel_left]
  cases found : after.commandAt? (handleOf (before.made + 1)) <;> simp [found]

end

section
variable {before carried : Store} (orderly : Orderly before) (revision : Revision before carried)
  (properties : UInt64) (waits : List Nat)
include orderly revision

/-- A finished command has stored its event, with the events it waits for and the time. -/
theorem find?_finishCommand :
    (Machine.finishCommand carried properties waits).2.objects.find? (handleOf (before.made + 1)) =
      some (.event (.command waits (before.firstTick? properties))) := by
  have ticks : carried.firstTick? properties = before.firstTick? properties := by
    rw [Store.firstTick?, Store.firstTick?, revision.clock_eq]
  rw [finishCommand_timed, ticks, ← revision.made_eq]
  exact (orderly.revised revision).find?_add _

theorem newEntries_finishCommand : newEntries before (Machine.finishCommand carried properties waits).2 =
    [⟨handleOf (before.made + 1), waits, before.firstTick? properties⟩] := by
  have made : (Machine.finishCommand carried properties waits).2.made = before.made + 1 := by
    rw [finishCommand_timed, ← revision.made_eq]
    rfl
  have stride := stride_finishCommand revision properties waits
  have stored := find?_finishCommand orderly revision properties waits
  rw [newEntries_of_made_succ stride orderly made]
  exact congrArg Option.toList (Store.commandAt?_of_command stored)

private theorem tick_finishCommand : Tick before (Machine.finishCommand carried properties waits).2 := by
  refine .stored waits properties (newEntries_finishCommand orderly revision properties waits) ?_ ?_
  · rw [finishCommand_timed, ← revision.made_eq]
    rfl
  · rw [finishCommand_timed, Store.firstTick?, Store.firstTick?, revision.clock_eq]
    rfl

end

theorem commandAt?_of_fresh {store : Store} {id : Nat} {object : Object} {entry : EntryPoint}
    (found : store.objects.find? id = some object) (fresh : Fresh entry object) : store.commandAt? id = none := by
  rw [Store.commandAt?, found]
  cases fresh <;> rfl

private theorem Outcome.tick {machine after : Machine} {request : Request} {answer : Except Fault Response}
    (outcome : Outcome machine request answer after) (orderly : Orderly machine.store) :
    Tick machine.store after.store := by
  have stride := outcome.stride
  cases outcome with
  | halted | injected | refused | faulted | exhausted | answered | waited | suppressed | compiled | rejected =>
    exact .still (newEntries_of_made_eq stride orderly rfl) rfl
  | @created object _ _ service =>
    have silent := commandAt?_of_fresh (orderly.find?_add object) (Store.fresh_of_creation service)
    exact .still ((newEntries_of_made_succ stride orderly rfl).trans (congrArg Option.toList silent)) rfl
  | updated _ _ service =>
    rcases Store.update_ok service with ⟨_, revision⟩ | ⟨_, _, _, _, _, _, rfl⟩
    · exact .still (newEntries_of_made_eq stride orderly revision.made_eq) revision.clock_eq
    · exact .still (newEntries_of_made_eq stride orderly rfl) rfl
  | queued _ _ _ _ _ accepted => exact tick_finishCommand orderly (Store.revision_apply accepted) _ _

/-- A wait-list that was accepted is taken as it was given, if a call can count it. -/
theorem Machine.waitList_ofList {store : Store} {handles events : List Nat} (few : handles.length < halfRange)
    (listed : waitList store (.ofList handles) = .ok events) : events = handles := by
  rw [HandleList.ofList_of_lt few] at listed
  cases handles with
  | nil =>
    cases listed
    rfl
  | cons first rest =>
    obtain ⟨_, _, taken⟩ := exists_of_bind_ok listed
    cases taken
    exact List.take_length

section
variable {machine after : Machine} {queue : Nat} {command : Command} {handles : List Nat}
  {answer : Except Fault Response}
  (outcome : Outcome machine (.enqueue queue command (.ofList handles) true) answer after)
include outcome

/-- A command whose event comes back has stored it, with the wait-list that was given. -/
theorem Outcome.recorded {response : Response} (few : handles.length < halfRange)
    (answered : answer = .ok response) (object : response.handle ≠ 0) (orderly : Orderly machine.store) :
    ∃ properties, machine.store.queue queue = .ok properties ∧
      newKeys machine.store after.store = [response.handle] ∧
      after.store.objects.find? response.handle =
        some (.event (.command handles (machine.store.firstTick? properties))) ∧
      newEntries machine.store after.store =
        [⟨response.handle, handles, machine.store.firstTick? properties⟩] ∧
      after.lastWaits = handles := by
  subst answered
  have stride := outcome.stride
  obtain ⟨next, made⟩ := outcome.handle_eq rfl object
  have keys : newKeys machine.store after.store = [response.handle] := by
    rw [stride.newKeys_eq orderly, made, Nat.add_sub_cancel_left, next]
    rfl
  generalize same : Except.ok (ε := Fault) response = answer at outcome
  cases outcome with
  | queued _ _ service found listed accepted =>
    cases service
    cases Machine.waitList_ofList few listed
    have carried := Store.revision_apply accepted
    refine ⟨_, found, keys, ?_, ?_, rfl⟩
    · rw [next]
      exact find?_finishCommand orderly carried _ _
    · rw [next]
      exact newEntries_finishCommand orderly carried _ _
  | answered _ _ service | created _ _ service => cases service
  | halted | injected | refused | faulted | exhausted | waited | suppressed | updated | compiled | rejected =>
    cases same
    try exact (object rfl).elim

/-- A command that comes back without an event has changed nothing. -/
theorem Outcome.unrecorded (failed : ∀ response, answer = .ok response → response.status = 0 →
    response.handle = 0) : after.store = machine.store := by
  cases outcome with
  | halted | injected | refused | faulted | exhausted | answered | waited | suppressed => rfl
  | created _ _ service | updated _ _ service | compiled _ _ service | rejected _ _ service => cases service
  | queued _ _ service =>
    cases service
    have null := failed _ rfl rfl
    dsimp only at null
    rw [if_pos rfl, finishCommand_timed] at null
    exact (handleOf_ne_zero _ null).elim

end

namespace Tick
variable {before after : Store} {entry : Entry}

theorem clock_le (ticks : Tick before after) : before.clock ≤ after.clock := by
  cases ticks <;> omega

private theorem comesAfter (ticks : Tick before after) (member : entry ∈ newEntries before after) :
    entry.ComesAfter before := by
  cases ticks with
  | still entries =>
    rw [entries] at member
    cases member
  | stored waits properties entries =>
    rw [entries, List.mem_singleton] at member
    subst member
    exact ⟨handleOf_lt before.made, fun tick first => Nat.le_of_eq (Store.eq_of_firstTick first).symm⟩

/-- All ticks of a command have passed once its event is stored. -/
theorem passed (ticks : Tick before after) (member : entry ∈ newEntries before after) :
    entry.event ≤ handleOf after.made ∧ ∀ tick ∈ entry.queuedAt, tick + 4 ≤ after.clock := by
  cases ticks with
  | still entries =>
    rw [entries] at member
    cases member
  | stored waits properties entries made clock =>
    rw [entries, List.mem_singleton] at member
    subst member
    refine ⟨Nat.le_of_eq (congrArg handleOf made).symm, fun tick first => ?_⟩
    have profiled : (before.firstTick? properties).isSome := Option.isSome_of_mem first
    rw [if_pos profiled] at clock
    have := Store.eq_of_firstTick first
    omega

/-- A step stores one event at most. -/
theorem pairwise (ticks : Tick before after) (relation : Entry → Entry → Prop) :
    (newEntries before after).Pairwise relation := by
  cases ticks with
  | still entries =>
    rw [entries]
    exact .nil
  | stored _ _ entries =>
    rw [entries]
    exact List.pairwise_singleton _ _

end Tick

private theorem Entry.ComesAfter.earlier {before after : Store} {entry : Entry}
    (comesAfter : entry.ComesAfter after) (made : before.made ≤ after.made)
    (clock : before.clock ≤ after.clock) : entry.ComesAfter before := by
  refine ⟨?_, fun tick first => Nat.le_trans clock (comesAfter.2 tick first)⟩
  have := comesAfter.1
  simp only [handleOf] at this ⊢
  omega

namespace Machine

theorem tick_after {machine : Machine} (orderly : Orderly machine.store) (happening : Happening) :
    Tick machine.store (machine.after happening).store := by
  have stride := machine.stride_after happening
  cases happening with
  | call request => exact (outcome_perform machine request).tick orderly
  | fail | returnNull => exact .still (newEntries_of_made_eq stride orderly rfl) rfl
  | allocateContext =>
    have silent := commandAt?_of_fresh (orderly.find?_add (.context [deviceId 0 0])) (.context _)
    exact .still ((newEntries_of_made_succ stride orderly rfl).trans (congrArg Option.toList silent)) rfl

theorem clock_le_run {machine : Machine} (orderly : Orderly machine.store) (happenings : List Happening) :
    machine.store.clock ≤ (machine.run happenings).store.clock := by
  induction happenings generalizing machine with
  | nil => exact Nat.le_refl _
  | cons first rest ih =>
    exact Nat.le_trans (tick_after orderly first).clock_le (ih (orderly_after orderly first))

/-- The commands of a run come after all that there was before, and their ticks pass with it. -/
theorem chronicle_bounds {machine : Machine} (orderly : Orderly machine.store)
    {happenings : List Happening} {entry : Entry} (member : entry ∈ machine.chronicle happenings) :
    entry.ComesAfter machine.store ∧
      ∀ tick ∈ entry.queuedAt, tick + 4 ≤ (machine.run happenings).store.clock := by
  induction happenings generalizing machine with
  | nil => cases member
  | cons first rest ih =>
    have ticks := tick_after orderly first
    have stepped := orderly_after orderly first
    rcases List.mem_append.mp member with new | later
    · refine ⟨ticks.comesAfter new, fun tick profiled => ?_⟩
      exact Nat.le_trans ((ticks.passed new).2 tick profiled) (clock_le_run stepped rest)
    · obtain ⟨comesAfter, passed⟩ := ih stepped later
      exact ⟨comesAfter.earlier (machine.stride_after first).made_le ticks.clock_le, passed⟩

/-- The ticks of a command lie behind those of all commands before it. -/
theorem chronicle_ordered {machine : Machine} (orderly : Orderly machine.store)
    (happenings : List Happening) : (machine.chronicle happenings).Pairwise Entry.Precedes := by
  induction happenings generalizing machine with
  | nil => exact .nil
  | cons first rest ih =>
    have ticks := tick_after orderly first
    have stepped := orderly_after orderly first
    refine List.pairwise_append.mpr ⟨?_, ih stepped, fun entry new later member => ?_⟩
    · exact ticks.pairwise Entry.Precedes
    · -- What the first step has stored is done by the time at which the rest of the run starts.
      obtain ⟨event, passed⟩ := ticks.passed new
      obtain ⟨⟨younger, comesAfter⟩, _⟩ := chronicle_bounds stepped member
      refine ⟨Nat.lt_of_le_of_lt event younger, fun tick profiled next timed => ?_⟩
      have := passed tick profiled
      have := comesAfter next timed
      simp only [stampTick]
      omega

theorem chronicle_append (machine : Machine) (early late : List Happening) :
    machine.chronicle (early ++ late) = machine.chronicle early ++ (machine.run early).chronicle late := by
  induction early generalizing machine with
  | nil => rfl
  | cons first rest ih =>
    rw [List.cons_append, chronicle, chronicle, ih, List.append_assoc]
    rfl

/-- The event of a command that exists was there before, or a command of the run has stored it. -/
theorem mem_chronicle {machine : Machine} (orderly : Orderly machine.store) {happenings : List Happening}
    {id : Nat} {waits : List Nat} {queuedAt : Option Nat}
    (found : (machine.run happenings).store.objects.find? id = some (.event (.command waits queuedAt))) :
    machine.store.objects.find? id = some (.event (.command waits queuedAt)) ∨
      ⟨id, waits, queuedAt⟩ ∈ machine.chronicle happenings := by
  induction happenings generalizing machine with
  | nil => exact Or.inl found
  | cons first rest ih =>
    rcases ih (orderly_after orderly first) found with present | later
    · -- The event of a command is never revised, so it is still the same or has just been stored.
      cases machine.origin_after first present with
      | same earlier => exact Or.inl earlier
      | altered _ _ alters => cases alters
      | entered next =>
        have used := Table.mem_keys_of_find? present
        have unused : id ∉ machine.store.objects.keys := by
          rw [next]
          exact Table.find?_eq_none_iff.mp orderly.find?_next
        have new : id ∈ newKeys machine.store (machine.after first).store := by
          simp [newKeys, used, unused]
        exact Or.inr (List.mem_append_left _
          (List.mem_filterMap.mpr ⟨id, new, Store.commandAt?_of_command present⟩))
    · exact Or.inr (List.mem_append_right _ later)

end Machine

end Offload.Simulator
