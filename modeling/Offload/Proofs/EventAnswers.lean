import Offload.Proofs.Answers
import Offload.Host.Completion

/-! What the operations on events come to, read off the runtime: their answers follow from the
status of the event, as long as no injected failure answers in its place. -/
namespace Offload.Simulator.Store
variable {store : Store}

theorem checkEvents_of_live (error : NativeError) {handles : List Nat}
    (live : ∀ handle ∈ handles, ∃ event, store.event handle = .ok event) :
    store.checkEvents error handles = .ok () := by
  induction handles with
  | nil => rfl
  | cons first rest ih =>
    obtain ⟨event, found⟩ := live first List.mem_cons_self
    have later := ih fun handle member => live handle (List.mem_cons_of_mem _ member)
    simp only [checkEvents, found, later]

private theorem waitOutcome_eq (events : List Nat) :
    store.waitOutcome events =
      if ∃ event ∈ events, store.objects.statusOf event < 0 then
        refuse .execStatusErrorForEventsInWaitList
      else if ∃ event ∈ events, store.objects.statusOf event ≠ ExecutionStatus.completeCode then
        refuse .invalidOperation
      else .ok () := by
  simp only [waitOutcome, List.any_map, List.any_eq_true, Function.comp_apply, decide_eq_true_eq,
    bne_iff_ne]

end Offload.Simulator.Store

namespace Offload.Host
open Simulator

variable {scene : Scene Machine} {event : Event}

/-- A call that has to succeed comes back with its answer, or with the error of its status. -/
theorem perform_demand {request : Request} {response : Response} {world : Machine}
    (answered : scene.world.perform request = (.ok response, world)) :
    (Action.demand Machine.driver request).perform scene =
      match check response.status with
      | .ok _ => (.ok response, { scene with world := world })
      | .error error => (.error (.failed error), { scene with world := world }) := by
  rw [perform_demand_heard, Machine.driver, answered, heard]
  cases check response.status <;> rfl

theorem perform_demand_refused {request : Request} {world : Machine} {error : NativeError}
    (answered : scene.world.perform request = (.ok { status := error.code }, world)) :
    (Action.demand Machine.driver request).perform scene =
      (.error (.failed (.native error)), { scene with world := world }) := by
  rw [perform_demand_heard, Machine.driver, answered, heard_refused]

private theorem answered_of_demand {request : Request} {response : Response} {after : Scene Machine}
    (performed : (Action.demand Machine.driver request).perform scene = (.ok response, after)) :
    scene.world.perform request = (.ok response, after.world) ∧ response.status = 0 := by
  rcases answered : scene.world.perform request with ⟨found | given, world⟩
  · rw [Action.demand, Action.perform_bind, Action.perform_call, Machine.driver, answered] at performed
    cases performed
  · rw [perform_demand answered] at performed
    cases checked : check given.status with
    | error error =>
      rw [checked] at performed
      cases performed
    | ok success =>
      rw [checked] at performed
      cases performed
      exact ⟨rfl, check_ok_iff.mp checked⟩

/-- Deciding an event is refused with one of the listed errors. -/
theorem settle_refused {store : Store} {id : Nat} {status : Int} {refusal : Refusal}
    (refused : store.settle id status = .error refusal) :
    ∃ error : NativeError, refusal = .status error.code := by
  unfold Store.settle Store.event at refused
  split at refused
  · rename_i missing
    split at missing
    · cases missing
    · cases missing
      cases refused
      exact ⟨_, rfl⟩
  · cases refused
    exact ⟨_, rfl⟩
  · split at refused
    · cases refused
      exact ⟨_, rfl⟩
    · split at refused
      · cases refused
        exact ⟨_, rfl⟩
      · cases refused

namespace Event

/-- An event that was decided successfully has been decided in the runtime. -/
theorem settle_ok {status : Int} {after : Scene Machine}
    (settled : (event.settle Machine.driver status).perform scene = (.ok (), after))
    (allowed : scene.world.injection.failure? .setEventStatus = none) :
    scene.world.store.settle event.owned.handle status = .ok after.world.store ∧
      after.world.halted = false ∧ after.world.injection = scene.world.injection := by
  obtain ⟨used, _⟩ := Accepts.of_use ⟨_, _, settled⟩
  rw [settle, used.perform_bind, Action.perform_bind] at settled
  rcases performed : (Action.demand Machine.driver (.setEventStatus event.owned.handle status)).perform
    scene with ⟨stop | response, last⟩
  · rw [performed] at settled
    cases settled
  · rw [performed] at settled
    cases settled
    obtain ⟨answered, success⟩ := answered_of_demand performed
    cases serving : scene.world.halted with
    | true =>
      rw [Machine.perform_of_halted serving] at answered
      cases answered
    | false =>
      rw [@Machine.perform_of_serving scene.world (.setEventStatus event.owned.handle status)
        serving allowed, Machine.serve] at answered
      dsimp only [Machine.counted] at answered
      cases decided : scene.world.store.settle event.owned.handle status with
      | error refusal =>
        obtain ⟨error, rfl⟩ := settle_refused decided
        rw [decided] at answered
        have code : response = { status := error.code } :=
          (Except.ok.inj (Prod.mk.inj answered).1).symm
        rw [code] at success
        cases (ofStatus?_code error).symm.trans (congrArg CallError.ofStatus? success)
      | ok store =>
        rw [decided] at answered
        rw [← (Prod.mk.inj answered).2]
        exact ⟨rfl, serving, rfl⟩

variable {found : Simulator.Event}

/-- An event answers with its status, as long as it has 32 bits. -/
theorem perform_status (held : event.owned.handle ≠ 0) (serving : scene.world.halted = false)
    (allowed : scene.world.injection.failure? (.info .event) = none)
    (present : scene.world.store.objects.find? event.owned.handle = some (.event found))
    (fits : ScalarType.int32.Holds (scene.world.store.objects.statusOf event.owned.handle)) :
    ((event.status Machine.driver).perform scene).1 =
      .ok (.ofRaw (scene.world.store.objects.statusOf event.owned.handle)) := by
  obtain ⟨bytes, written⟩ : ∃ bytes, bytes =
    ScalarType.int32.encode (scene.world.store.objects.statusOf event.owned.handle) := ⟨_, rfl⟩
  have sized : bytes.length = 4 := written ▸ ScalarType.length_encode _ _
  have known : scene.world.store.information (.event event.owned.handle)
      EventParameter.executionStatus.code = .ok bytes := by
    rw [Store.information, Store.event_ok_iff.mpr present, written]
    rfl
  obtain ⟨after, asked⟩ := @perform_value scene (.event event.owned.handle) _ .int32 bytes serving
    allowed known sized
  rw [status, (settles_use held).perform_bind, Action.perform_bind, asked, written,
    ScalarType.decode_encode _ _ fits]
  rfl

/-- What an event answers that was put into its queue at this tick, if it was profiled. -/
def profiled (queuedAt : Option Nat) (stamp : ProfilingStamp) : Except Stop Int :=
  match queuedAt with
  | some tick => .ok (stampTick tick stamp)
  | none => .error (.failed (.native .profilingInfoNotAvailable))

section
variable (held : event.owned.handle ≠ 0) (serving : scene.world.halted = false)
  (allowed : scene.world.injection.failure? (.info .profiling) = none)
include held serving allowed

/-- A command answers with its ticks, as long as they have 64 bits. -/
theorem perform_stamp {waits : List Nat} {queuedAt : Option Nat}
    (present : scene.world.store.objects.find? event.owned.handle = some (.event (.command waits queuedAt)))
    (fits : ∀ tick ∈ queuedAt, tick + 4 ≤ LittleEndian.capacity 8) (stamp : ProfilingStamp) :
    ((event.stamp Machine.driver stamp).perform scene).1 = profiled queuedAt stamp := by
  rw [Event.stamp, (settles_use held).perform_bind]
  cases queuedAt with
  | none =>
    refine perform_value_refused serving allowed ?_
    simp only [Store.information, Store.event_ok_iff.mpr present, bind, Except.bind]
  | some tick =>
    have small : stampTick tick stamp < LittleEndian.capacity 8 := by
      have := fits tick rfl
      cases stamp <;> simp only [stampTick] <;> omega
    have known : scene.world.store.information (.profiling event.owned.handle) stamp.code =
        .ok (word64 (stampTick tick stamp)) := by
      have listed : (Listed.ofCode? stamp.code : Option ProfilingStamp) = some stamp :=
        Listed.ofCode?_code stamp
      simp only [Store.information, Store.event_ok_iff.mpr present, bind, Except.bind, Simulator.known,
        listed]
    obtain ⟨after, asked⟩ := @perform_value scene (.profiling event.owned.handle) _ .uint64 _ serving
      allowed known (LittleEndian.length_ofNat _ _)
    rw [asked, decode_word64 small]
    rfl

theorem perform_stamp_of_user {status : Int}
    (present : scene.world.store.objects.find? event.owned.handle = some (.event (.user status)))
    (stamp : ProfilingStamp) :
    ((event.stamp Machine.driver stamp).perform scene).1 = profiled none stamp := by
  rw [Event.stamp, (settles_use held).perform_bind]
  refine perform_value_refused serving allowed ?_
  simp only [Store.information, Store.event_ok_iff.mpr present, bind, Except.bind]

end

theorem settles_handles {events : List Event} (held : ∀ event ∈ events, event.owned.handle ≠ 0) :
    Settles (handles events) (.ok (events.map (·.owned.handle))) := by
  have used := settles_useAll (List.forall_mem_map.mpr held)
  rwa [List.map_map] at used

/-- Waiting for events reports a failure first, and refuses to wait for ever. -/
theorem perform_waitForAll {events : List Event} (nonempty : events ≠ []) (few : events.length < halfRange)
    (held : ∀ event ∈ events, event.owned.handle ≠ 0) (serving : scene.world.halted = false)
    (allowed : scene.world.injection.failure? .waitForEvents = none)
    (live : ∀ event ∈ events, ∃ found, scene.world.store.event event.owned.handle = .ok found) :
    ((waitForAll Machine.driver events).perform scene).1 =
      if ∃ event ∈ events, scene.world.store.objects.statusOf event.owned.handle < 0 then
        .error (.failed (.native .execStatusErrorForEventsInWaitList))
      else if ∃ event ∈ events,
          scene.world.store.objects.statusOf event.owned.handle ≠ ExecutionStatus.completeCode then
        .error (.failed (.native .invalidOperation))
      else .ok () := by
  obtain ⟨ids, named⟩ : ∃ ids, ids = events.map (·.owned.handle) := ⟨_, rfl⟩
  have counted : ids.length ≠ 0 := by
    rw [named, List.length_map]
    exact mt List.length_eq_zero_iff.mp nonempty
  have used : Settles (handles events) (.ok ids) := named ▸ settles_handles held
  have checked : scene.world.store.checkEvents .invalidEvent ids = .ok () := by
    refine Store.checkEvents_of_live .invalidEvent fun id member => ?_
    obtain ⟨event, listed, rfl⟩ := List.mem_map.mp (named ▸ member)
    exact live event listed
  have asked : (waitForAll Machine.driver events).perform scene =
      (Action.demand Machine.driver (.waitForEvents ⟨ids.length, some ids⟩) >>=
        fun _ => pure ()).perform scene := by
    have some : ids.isEmpty = false := List.isEmpty_eq_false_iff.mpr (mt List.length_eq_zero_iff.mpr counted)
    have listed : HandleList.ofList ids = ⟨ids.length, .some ids⟩ := by
      rw [HandleList.ofList_of_lt (by rwa [named, List.length_map]), some]
      rfl
    rw [waitForAll, if_neg (by simpa using nonempty), used.perform_bind scene, listed]
  have members (holds : Int → Prop) : (∃ id ∈ ids, holds (scene.world.store.objects.statusOf id)) ↔
      ∃ event ∈ events, holds (scene.world.store.objects.statusOf event.owned.handle) := by
    rw [named]
    constructor
    · rintro ⟨_, member, held⟩
      obtain ⟨event, listed, rfl⟩ := List.mem_map.mp member
      exact ⟨event, listed, held⟩
    · rintro ⟨event, listed, held⟩
      exact ⟨_, List.mem_map_of_mem listed, held⟩
  have served := @Machine.perform_of_serving scene.world
    (.waitForEvents ⟨ids.length, some ids⟩) serving allowed
  simp only [Machine.serve, Machine.waitForEvents, Machine.counted, counted, List.take_length, checked,
    Store.waitOutcome_eq, if_false, members (· < 0), members (· ≠ ExecutionStatus.completeCode)] at served
  rw [asked, Action.perform_bind]
  by_cases failed : ∃ event ∈ events, scene.world.store.objects.statusOf event.owned.handle < 0
  · rw [if_pos failed] at served ⊢
    rw [perform_demand_refused served]
  · rw [if_neg failed] at served ⊢
    by_cases unfinished : ∃ event ∈ events,
        scene.world.store.objects.statusOf event.owned.handle ≠ ExecutionStatus.completeCode
    · rw [if_pos unfinished] at served ⊢
      rw [perform_demand_refused served]
    · rw [if_neg unfinished] at served ⊢
      rw [perform_demand served]
      rfl

/-- Waiting for an event reports its failure, and refuses to wait for ever. -/
theorem perform_wait (held : event.owned.handle ≠ 0) (serving : scene.world.halted = false)
    (allowed : scene.world.injection.failure? .waitForEvents = none)
    (present : scene.world.store.objects.find? event.owned.handle = some (.event found)) :
    ((event.wait Machine.driver).perform scene).1 =
      if scene.world.store.objects.statusOf event.owned.handle < 0 then
        .error (.failed (.native .execStatusErrorForEventsInWaitList))
      else if scene.world.store.objects.statusOf event.owned.handle ≠ ExecutionStatus.completeCode then
        .error (.failed (.native .invalidOperation))
      else .ok () := by
  have waited := @perform_waitForAll scene [event] (List.cons_ne_nil _ _) (Nat.one_lt_two_pow (by decide : 32 ≠ 0))
    (by simpa using held)
    serving allowed (by simpa using ⟨_, Store.event_ok_iff.mpr present⟩)
  simp only [List.mem_singleton, exists_eq_left] at waited
  exact waited

end Event
end Offload.Host
