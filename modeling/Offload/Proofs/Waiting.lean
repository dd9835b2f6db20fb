import Mathlib.Algebra.Group.Nat.Defs
import Offload.Proofs.EventAnswers
import Offload.Proofs.EventGraph
import Offload.Proofs.Locality

/-! Waiting and asking come to the same: what becomes of waiting for a list of events can be read
off the statuses with which they answer, in whatever order and however often they are listed. -/
namespace Offload.Simulator

/-- User events are decided with numbers of 32 bits, which is all that a native call takes. -/
def Happening.Native : Happening → Prop
  | .call (.setEventStatus _ status) => ScalarType.int32.Holds status
  | _ => True

/-- The statuses of user events can be told in 32 bits. -/
def Store.Tellable (store : Store) : Prop :=
  ∀ id status, store.objects.find? id = some (.event (.user status)) → ScalarType.int32.Holds status

namespace Machine

/-- Deciding an event is the only call that matters, and it takes over what it is given. -/
theorem tellable_after {machine : Machine} {happening : Happening} (native : happening.Native)
    (tellable : machine.store.Tellable) : (machine.after happening).store.Tellable := by
  intro id status found
  cases machine.origin_after happening found with
  | same present => exact tellable id status present
  | altered called _ alters =>
    subst called
    cases alters with
    | decided => exact native
  | entered _ enters =>
    cases enters with
    | made fresh =>
      cases fresh with
      | event => decide

theorem tellable_run {machine : Machine} {happenings : List Happening}
    (native : ∀ happening ∈ happenings, happening.Native) (tellable : machine.store.Tellable) :
    (machine.run happenings).store.Tellable := by
  induction happenings generalizing machine with
  | nil => exact tellable
  | cons first rest ih =>
    have stepped := tellable_after (native first List.mem_cons_self) tellable
    exact ih (fun later member => native later (List.mem_cons_of_mem _ member)) stepped

end Machine

/-- A command adds three statuses of its own to those of the user events. -/
theorem Orderly.holds_statusOf {store : Store} (orderly : Orderly store) (tellable : store.Tellable)
    (id : Nat) : ScalarType.int32.Holds (store.objects.statusOf id) := by
  by_cases complete : store.objects.statusOf id = ExecutionStatus.completeCode
  · rw [complete]
    decide
  · obtain ⟨status | ⟨waits, queuedAt⟩, found⟩ := Table.exists_event_of_statusOf_ne complete
    · rw [Table.statusOf_user found]
      exact tellable id status found
    · rcases orderly.command_status_cases found with done | submitted | failed
      · exact (complete done).elim
      · rw [submitted]
        decide
      · rw [failed]
        decide

end Offload.Simulator

namespace Offload.Host
open Simulator

/-- What waiting for an event with this status comes to. -/
def awaited : ExecutionStatus → Except Stop Unit
  | .complete => .ok ()
  | .error _ => .error (.failed (.native .execStatusErrorForEventsInWaitList))
  | _ => .error (.failed (.native .invalidOperation))

/-- The runtime serves its calls, nothing is injected into asking for a status and waiting, and the
events have not been released. -/
structure Attended (machine : Machine) (events : List Event) : Prop where
  serving : machine.halted = false
  asking : machine.injection.failure? (.info .event) = none
  waiting : machine.injection.failure? .waitForEvents = none
  live : ∀ event ∈ events, ∃ found, machine.store.event event.owned.handle = .ok found

/-- The status with which an event answers. -/
def Event.asked (scene : Scene Machine) (event : Event) : Except Stop ExecutionStatus :=
  ((event.status Machine.driver).perform scene).1

/-- What waiting for all of some events comes to. -/
def Event.waited (scene : Scene Machine) (events : List Event) : Except Stop Unit :=
  ((Event.waitForAll Machine.driver events).perform scene).1

/-- At least one of the events answers with a failure. -/
def Failing (scene : Scene Machine) (events : List Event) : Prop :=
  ∃ event ∈ events, ∃ code, event.asked scene = .ok (.error code)

def Completed (scene : Scene Machine) (events : List Event) : Prop :=
  ∀ event ∈ events, event.asked scene = .ok .complete

/-- Waiting for events comes to what their statuses say. -/
structure Concurs (scene : Scene Machine) (events : List Event) : Prop where
  completed : Event.waited scene events = .ok () ↔ Completed scene events
  failed : Event.waited scene events =
    .error (.failed (.native .execStatusErrorForEventsInWaitList)) ↔ Failing scene events
  stalled : Event.waited scene events = .error (.failed (.native .invalidOperation)) ↔
    ¬ Completed scene events ∧ ¬ Failing scene events

/-- Lists that are alike in what their events answer are alike in waiting for them. -/
theorem Concurs.waited_eq {scene : Scene Machine} {events others : List Event} (first : Concurs scene events)
    (second : Concurs scene others) (completed : Completed scene others ↔ Completed scene events)
    (failing : Failing scene others ↔ Failing scene events) :
    Event.waited scene others = Event.waited scene events := by
  by_cases done : Completed scene events
  · rw [first.completed.mpr done, second.completed.mpr (completed.mpr done)]
  · by_cases failed : Failing scene events
    · rw [first.failed.mpr failed, second.failed.mpr (failing.mpr failed)]
    · rw [first.stalled.mpr ⟨done, failed⟩,
        second.stalled.mpr ⟨mt completed.mp done, mt failing.mp failed⟩]

namespace Attended
variable {scene : Scene Machine} {events : List Event} {event : Event}

theorem held (attended : Attended scene.world events) (reachable : scene.world.Reachable)
    (listed : event ∈ events) : event.owned.handle ≠ 0 := by
  obtain ⟨found, present⟩ := attended.live event listed
  exact reachable.ne_zero (Store.event_ok_iff.mp present)

/-- What an event answers, next to the number that it keeps. -/
theorem asked_cases (attended : Attended scene.world events) (reachable : scene.world.Reachable)
    (tellable : scene.world.store.Tellable) (listed : event ∈ events) :
    let raw := scene.world.store.objects.statusOf event.owned.handle
    (raw = ExecutionStatus.completeCode ∧ event.asked scene = .ok .complete) ∨
      (raw = ExecutionStatus.submittedCode ∧ event.asked scene = .ok .submitted) ∨
      (raw < 0 ∧ event.asked scene = .ok (.error raw)) := by
  intro raw
  obtain ⟨found, present⟩ := attended.live event listed
  have answered : event.asked scene = .ok (.ofRaw raw) :=
    Event.perform_status (attended.held reachable listed) attended.serving attended.asking
      (Store.event_ok_iff.mp present) (reachable.orderly.holds_statusOf tellable _)
  rw [answered]
  rcases reachable.statusOf_cases event.owned.handle with complete | submitted | failed
  · exact Or.inl ⟨complete, by rw [show raw = _ from complete]; rfl⟩
  · exact Or.inr (Or.inl ⟨submitted, by rw [show raw = _ from submitted]; rfl⟩)
  · refine Or.inr (Or.inr ⟨failed, ?_⟩)
    rw [ExecutionStatus.ofRaw_of_nonpos (Int.le_of_lt failed), if_neg (Int.ne_of_lt failed)]

private theorem asked_complete_iff (attended : Attended scene.world events) (reachable : scene.world.Reachable)
    (tellable : scene.world.store.Tellable) (listed : event ∈ events) :
    event.asked scene = .ok .complete ↔
      scene.world.store.objects.statusOf event.owned.handle = ExecutionStatus.completeCode := by
  rcases attended.asked_cases reachable tellable listed with ⟨raw, same⟩ | ⟨raw, same⟩ | ⟨raw, same⟩
  · exact iff_of_true same raw
  · exact iff_of_false (by rw [same]; nofun) (by rw [raw]; decide)
  · refine iff_of_false (by rw [same]; nofun) ?_
    simp only [ExecutionStatus.completeCode]
    omega

private theorem asked_error_iff (attended : Attended scene.world events) (reachable : scene.world.Reachable)
    (tellable : scene.world.store.Tellable) (listed : event ∈ events) :
    (∃ code, event.asked scene = .ok (.error code)) ↔
      scene.world.store.objects.statusOf event.owned.handle < 0 := by
  rcases attended.asked_cases reachable tellable listed with ⟨raw, same⟩ | ⟨raw, same⟩ | ⟨raw, same⟩
  · exact iff_of_false (by rw [same]; nofun) (by rw [raw]; decide)
  · exact iff_of_false (by rw [same]; nofun) (by rw [raw]; decide)
  · exact iff_of_true ⟨_, same⟩ raw

theorem concurs (attended : Attended scene.world events) (reachable : scene.world.Reachable)
    (tellable : scene.world.store.Tellable) (nonempty : events ≠ []) (few : events.length < halfRange) :
    Concurs scene events := by
  have waited : Event.waited scene events = _ :=
    Event.perform_waitForAll nonempty few (fun _ listed => attended.held reachable listed)
      attended.serving attended.waiting attended.live
  have failing : Failing scene events ↔
      ∃ event ∈ events, scene.world.store.objects.statusOf event.owned.handle < 0 :=
    exists_congr fun event => and_congr_right fun listed =>
      attended.asked_error_iff reachable tellable listed
  have completed : Completed scene events ↔ ¬ ∃ event ∈ events,
      scene.world.store.objects.statusOf event.owned.handle ≠ ExecutionStatus.completeCode := by
    simp only [not_exists, not_and, ne_eq, Decidable.not_not]
    exact forall₂_congr fun event listed => attended.asked_complete_iff reachable tellable listed
  -- A failed event is not complete, so the order in which the two conditions are tested does not show.
  have apart : Failing scene events → ¬ Completed scene events := by
    rintro ⟨event, listed, code, failed⟩ all
    cases failed.symm.trans (all event listed)
  by_cases failed : ∃ event ∈ events, scene.world.store.objects.statusOf event.owned.handle < 0
  · rw [if_pos failed] at waited
    have answered := failing.mpr failed
    constructor <;> rw [waited]
    · exact iff_of_false nofun (apart answered)
    · exact iff_of_true rfl answered
    · exact iff_of_false nofun fun both => both.2 answered
  · rw [if_neg failed] at waited
    have healthy := mt failing.mp failed
    by_cases unfinished : ∃ event ∈ events,
        scene.world.store.objects.statusOf event.owned.handle ≠ ExecutionStatus.completeCode
    · rw [if_pos unfinished] at waited
      have pending := mt completed.mp (not_not_intro unfinished)
      constructor <;> rw [waited]
      · exact iff_of_false nofun pending
      · exact iff_of_false nofun healthy
      · exact iff_of_true rfl ⟨pending, healthy⟩
    · rw [if_neg unfinished] at waited
      have done := completed.mpr unfinished
      constructor <;> rw [waited]
      · exact iff_of_true rfl done
      · exact iff_of_false nofun healthy
      · exact iff_of_false nofun fun both => both.1 done

private theorem singleton (attended : Attended scene.world events) (listed : event ∈ events) :
    Attended scene.world [event] := by
  refine ⟨attended.serving, attended.asking, attended.waiting, fun other member => ?_⟩
  obtain rfl := List.mem_singleton.mp member
  exact attended.live other listed

/-- Waiting for one event comes to what its answer says. -/
theorem waited_singleton (attended : Attended scene.world [event]) (reachable : scene.world.Reachable)
    (tellable : scene.world.store.Tellable) :
    Event.waited scene [event] = event.asked scene >>= awaited := by
  have concurs := attended.concurs reachable tellable (List.cons_ne_nil event [])
    (Nat.lt_of_sub_eq_succ rfl)
  have listed : event ∈ [event] := List.mem_singleton_self event
  rcases attended.asked_cases reachable tellable listed with ⟨_, same⟩ | ⟨_, same⟩ | ⟨_, same⟩
  · rw [same]
    refine concurs.completed.mpr fun other member => ?_
    rw [List.mem_singleton.mp member, same]
  · rw [same]
    refine concurs.stalled.mpr ⟨fun completed => ?_, ?_⟩
    · cases same.symm.trans (completed event listed)
    · rintro ⟨other, member, code, failed⟩
      rw [List.mem_singleton.mp member, same] at failed
      cases failed
  · rw [same]
    exact concurs.failed.mpr ⟨event, listed, _, same⟩

end Attended

/-- In every state that a run leads to, waiting for events that have not been released comes to what
they answer when they are asked for their status: it succeeds exactly if all are complete, reports
the failure exactly if one has failed, and refuses to wait otherwise. Nothing else matters, so that
the same events can be listed in another order and more than once, and complete ones among them. -/
theorem waiting_follows_statuses {platforms devices : Nat} {happenings : List Happening}
    (native : ∀ happening ∈ happenings, happening.Native) {scene : Scene Machine}
    (ran : scene.world = (Machine.ofTopology platforms devices).run happenings) {events : List Event}
    (attended : Attended scene.world events) (nonempty : events ≠ [])
    (few : events.length < 2 ^ 32) :
    Concurs scene events ∧
    (∀ event ∈ events,
      (event.asked scene = .ok .complete ∨ event.asked scene = .ok .submitted ∨
        ∃ code, event.asked scene = .ok (.error code)) ∧
      ((event.wait Machine.driver).perform scene).1 = event.asked scene >>= awaited) ∧
    ∀ others, others.length < 2 ^ 32 → (∀ event ∈ events, event ∈ others) →
      (∀ event ∈ others, event ∈ events ∨
        (event.asked scene = .ok .complete ∧
          ∃ found, scene.world.store.event event.owned.handle = .ok found)) →
      Event.waited scene others = Event.waited scene events := by
  have reachable : scene.world.Reachable := ⟨platforms, devices, happenings, ran⟩
  have tellable : scene.world.store.Tellable := by
    rw [ran]
    exact Machine.tellable_run native nofun
  have concurs := attended.concurs reachable tellable nonempty few
  refine ⟨concurs, fun event listed => ⟨?_, ?_⟩, fun others short all known => ?_⟩
  · rcases attended.asked_cases reachable tellable listed with ⟨_, same⟩ | ⟨_, same⟩ | ⟨_, same⟩
    · exact Or.inl same
    · exact Or.inr (Or.inl same)
    · exact Or.inr (Or.inr ⟨_, same⟩)
  · exact (attended.singleton listed).waited_singleton reachable tellable
  · have live : ∀ event ∈ others, ∃ found, scene.world.store.event event.owned.handle = .ok found := by
      intro event member
      rcases known event member with listed | ⟨_, present⟩
      · exact attended.live event listed
      · exact present
    have also : Attended scene.world others :=
      ⟨attended.serving, attended.asking, attended.waiting, live⟩
    obtain ⟨first, member⟩ := List.exists_mem_of_ne_nil events nonempty
    have repeated := also.concurs reachable tellable (List.ne_nil_of_mem (all first member)) short
    refine concurs.waited_eq repeated ?_ ?_
    · refine ⟨fun completed event listed => completed event (all event listed), fun completed event member => ?_⟩
      rcases known event member with listed | ⟨complete, _⟩
      · exact completed event listed
      · exact complete
    · constructor
      · rintro ⟨event, member, code, failed⟩
        rcases known event member with listed | ⟨complete, _⟩
        · exact ⟨event, listed, code, failed⟩
        · cases complete.symm.trans failed
      · rintro ⟨event, listed, code, failed⟩
        exact ⟨event, all event listed, code, failed⟩

/-- A marker and the event that it waits for, beside one that has failed and one that is complete. -/
def mixedEvents : List Happening := [
  .call (.createContext ⟨1, some [deviceId 0 0]⟩),
  .call (.createQueue (handleOf 1) (deviceId 0 0) 0),
  .call (.createUserEvent (handleOf 1)),
  .call (.createUserEvent (handleOf 1)),
  .call (.createUserEvent (handleOf 1)),
  .call (.setEventStatus (handleOf 4) (-5)),
  .call (.setEventStatus (handleOf 5) 0),
  .call (.enqueue (handleOf 2) .marker ⟨1, some [handleOf 3]⟩ true)]

/-- The scene after all that has happened. -/
def mixedScene : Scene Machine where
  world := (Machine.ofTopology 1 1).run mixedEvents

private theorem mixedScene_asked (number : Nat) (raw : Int) {status : ExecutionStatus}
    {found : Simulator.Event}
    (present : mixedScene.world.store.objects.find? (handleOf number) = some (.event found))
    (kept : mixedScene.world.store.objects.statusOf (handleOf number) = raw)
    (fits : ScalarType.int32.Holds raw) (told : .ofRaw raw = status) :
    Event.asked mixedScene ⟨⟨handleOf number⟩⟩ = .ok status := by
  subst kept told
  exact Event.perform_status (handleOf_ne_zero number) rfl rfl present fits

/-- The marker is still pending, also beside the complete event, and the failed event goes first. -/
theorem waiting_for_mixedEvents :
    let marker : Event := ⟨⟨handleOf 6⟩⟩
    let failed : Event := ⟨⟨handleOf 4⟩⟩
    let complete : Event := ⟨⟨handleOf 5⟩⟩
    ((marker.wait Machine.driver).perform mixedScene).1 = .error (.failed (.native .invalidOperation)) ∧
      Event.waited mixedScene [complete, marker, complete] = Event.waited mixedScene [marker] ∧
      Event.waited mixedScene [marker, failed] =
        .error (.failed (.native .execStatusErrorForEventsInWaitList)) := by
  intro marker failed complete
  have native : ∀ happening ∈ mixedEvents, happening.Native := by
    simp only [mixedEvents, List.forall_mem_cons, Happening.Native]
    exact ⟨trivial, trivial, trivial, trivial, trivial, by decide, by decide, trivial, nofun⟩
  have attended (events : List Event) (known : events ⊆ [marker, failed, complete]) :
      Attended mixedScene.world events := by
    refine ⟨rfl, rfl, rfl, fun event listed => ?_⟩
    have named := known listed
    simp only [List.mem_cons, List.not_mem_nil, or_false] at named
    rcases named with rfl | rfl | rfl <;> exact ⟨_, rfl⟩
  have pending : marker.asked mixedScene = .ok .submitted :=
    mixedScene_asked 6 2 rfl (by decide +kernel) (by decide) (by decide)
  have broken : failed.asked mixedScene = .ok (.error (-5)) :=
    mixedScene_asked 4 (-5) rfl (by decide +kernel) (by decide) (by decide)
  have done : complete.asked mixedScene = .ok .complete :=
    mixedScene_asked 5 0 rfl (by decide +kernel) (by decide) (by decide)
  obtain ⟨_, single, congruent⟩ := waiting_follows_statuses native rfl (attended [marker] (by simp))
    (List.cons_ne_nil _ _) (by decide)
  obtain ⟨mixed, _⟩ := waiting_follows_statuses native rfl (attended [marker, failed] (by simp))
    (List.cons_ne_nil _ _) (by decide)
  refine ⟨?_, congruent _ (by decide) (by simp) ?_, mixed.failed.mpr ⟨failed, by simp, -5, broken⟩⟩
  · rw [(single marker List.mem_cons_self).2, pending]
    rfl
  · simp only [List.forall_mem_cons]
    have present := (attended [complete] (by simp)).live complete List.mem_cons_self
    exact ⟨Or.inr ⟨done, present⟩, Or.inl List.mem_cons_self, Or.inr ⟨done, present⟩, nofun⟩

end Offload.Host
