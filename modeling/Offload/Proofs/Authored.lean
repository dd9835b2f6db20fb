import Offload.Proofs.Programs
import Offload.Proofs.Sources
import Offload.Proofs.Runs

/-! How a program comes about: a context for devices that there are, and pieces of source that are
put together, wherever they were cut. -/
namespace Offload.Simulator

private theorem Store.checkDevices_ok {store : Store} {devices : List Nat}
    (accepted : store.checkDevices devices = .ok ()) :
    ∀ device ∈ devices, ∃ place, store.deviceIndex device = .ok place := by
  induction devices with
  | nil => simp
  | cons first rest ih =>
    rw [checkDevices, List.forM_eq_forM, List.forM_cons] at accepted
    obtain ⟨_, checked, later⟩ := exists_of_bind_ok accepted
    obtain ⟨place, located, _⟩ := exists_of_bind_ok checked
    intro device member
    rcases List.mem_cons.mp member with rfl | further
    · exact ⟨place, located⟩
    · exact ih later device further

theorem Store.newContext_located {store : Store} {handles : List Nat} {object : Object}
    (accepted : store.newContext (.ofList handles) = .ok object) :
    ∃ first rest place, handles = first :: rest ∧ store.deviceIndex first = .ok place := by
  cases handles with
  | nil => cases accepted
  | cons first rest =>
    unfold newContext HandleList.ofList at accepted
    simp only [List.isEmpty_cons, Bool.false_eq_true, if_false] at accepted
    split at accepted
    · cases accepted
    · rename_i counted
      split at accepted
      · rename_i checked
        obtain ⟨number, same⟩ := Nat.exists_eq_succ_of_ne_zero counted
        rw [same, List.take_succ_cons] at checked
        obtain ⟨place, located⟩ := checkDevices_ok checked first List.mem_cons_self
        exact ⟨first, rest, place, rfl, located⟩
      · cases accepted

/-- Pieces of a source are put together as they stand, if there is room for all of them. -/
theorem Store.joinParts_eq (pieces : List String) :
    joinParts "" (pieces.map some) =
      (reserve (String.join pieces).utf8ByteSize >>= fun _ => .ok (String.join pieces)) := by
  rcases Nat.lt_or_ge memoryLimit (String.join pieces).utf8ByteSize with large | fits
  · have refused := @joinParts_of_large [] pieces [] (Nat.zero_le _) large
    rw [List.append_nil] at refused
    rw [reserve_of_lt large]
    exact refused
  · rw [reserve_of_le fits]
    exact joinParts_some fits

/-- A program has the pieces of its source put together; where they were cut is not kept. -/
theorem Store.newProgram_eq (store : Store) (context : Nat) (pieces : List String) :
    store.newProgram context pieces.length (some (pieces.map some)) false =
      (store.context context >>= fun _ => require (!pieces.isEmpty) .invalidValue >>= fun _ =>
        reserve (String.join pieces).utf8ByteSize >>= fun _ =>
          .ok (.program { source := String.join pieces })) := by
  have whole : (pieces.map some).take pieces.length = pieces.map some :=
    List.take_of_length_le (Nat.le_of_eq (List.length_map ..))
  have counted : (pieces.length != 0 && !false) = !pieces.isEmpty := by cases pieces <;> rfl
  simp only [newProgram, whole, counted, joinParts_eq]
  cases reserve (String.join pieces).utf8ByteSize <;> rfl

theorem Store.newProgram_joined {store : Store} {context : Nat} {pieces : List String} {object : Object}
    (accepted : store.newProgram context pieces.length (some (pieces.map some)) false = .ok object) :
    object = .program { source := String.join pieces } := by
  rw [newProgram_eq] at accepted
  obtain ⟨_, _, located⟩ := exists_of_bind_ok accepted
  obtain ⟨_, _, asked⟩ := exists_of_bind_ok located
  obtain ⟨_, _, joined⟩ := exists_of_bind_ok asked
  exact (Except.ok.inj joined).symm

private theorem Machine.create_alike {machine other : Machine} (stores : machine.store = other.store)
    (injected : machine.injection = other.injection) (entry : EntryPoint)
    (outcome : Except Refusal Object) :
    (machine.create entry outcome).1 = (other.create entry outcome).1 ∧
      (machine.create entry outcome).2.store = (other.create entry outcome).2.store := by
  cases outcome with
  | error refusal => cases refusal <;> exact ⟨rfl, stores⟩
  | ok object =>
    by_cases null : machine.injection.nulls.contains entry = true
    · simp only [create, ← injected, if_pos null, stores, and_self]
    · simp only [create, ← injected, if_neg null, stores, and_self]

/-- Creating calls of one sort that come to the same are answered alike and store the same. -/
theorem Machine.perform_creation_alike {machine : Machine} {first second : Request}
    {outcome : Except Refusal Object} (entry : first.entry = second.entry)
    (service : machine.store.service first = .creation outcome)
    (other : machine.store.service second = .creation outcome) :
    (machine.perform first).1 = (machine.perform second).1 ∧
      (machine.perform first).2.store = (machine.perform second).2.store := by
  cases serving : machine.halted with
  | true =>
    rw [perform_of_halted serving, perform_of_halted serving]
    exact ⟨rfl, rfl⟩
  | false =>
    cases allowed : machine.injection.failure? first.entry with
    | some status =>
      rw [perform_of_failure serving allowed, perform_of_failure serving (entry ▸ allowed)]
      exact ⟨rfl, rfl⟩
    | none =>
      rw [perform_of_serving serving allowed, perform_of_serving serving (entry ▸ allowed), serve_eq,
        serve_eq]
      have kept : ∀ request, (machine.counted request).store = machine.store := fun _ => rfl
      simp only [kept, service, other, ← entry]
      exact @create_alike (machine.counted first) (machine.counted second) rfl rfl first.entry outcome

end Offload.Simulator

namespace Offload.Host
open Simulator

theorem isConsistent_ofList {handles : List Nat} (few : handles.length < halfRange) :
    isConsistent (.ofList handles) = true := by
  rw [HandleList.ofList_of_lt few]
  cases handles <;> rfl

theorem Context.create_ok {devices : List Device} {scene after : Scene Machine} {context : Context}
    (performed : (Context.create Machine.driver devices).perform scene = (.ok context, after)) :
    (∃ device others place, devices = device :: others ∧
      scene.world.store.deviceIndex device.id = .ok place) ∧ context.devices = devices ∧
      ∃ response, scene.world.perform (.createContext (.ofList (idsOf devices))) =
        (.ok response, after.world) := by
  cases devices with
  | nil => cases performed
  | cons device others =>
    obtain ⟨response, world, answered, handled, adopted⟩ := answered_of_obtain performed
    cases adopted
    obtain ⟨_, object, accepted, _⟩ := created_of_answered rfl answered handled
    obtain ⟨_, _, place, same, located⟩ := Store.newContext_located accepted
    cases same
    exact ⟨⟨device, others, place, rfl, located⟩, rfl, response, answered⟩

theorem perform_allWithoutNul {σ : Type} (texts : List String) (scene : Scene σ) :
    (Context.allWithoutNul texts).perform scene =
      (if ∀ text ∈ texts, '\x00' ∉ text.toList then .ok () else .error (.failed .interiorNul), scene) := by
  induction texts with
  | nil => rfl
  | cons text rest ih =>
    rw [Context.allWithoutNul, Action.perform_bind, perform_withoutNul]
    simp only [List.forall_mem_cons]
    by_cases nul : '\x00' ∈ text.toList
    · rw [if_pos nul, if_neg (fun free => free.1 nul)]
    · rw [if_neg nul]
      dsimp only
      rw [ih]
      simp only [nul, not_false_eq_true, true_and]

theorem Context.newProgram_ok {context : Context} {pieces : List String} {scene after : Scene Machine}
    {program : Program} (few : pieces.length < halfRange)
    (performed : (context.newProgram Machine.driver pieces).perform scene = (.ok program, after)) :
    (∀ piece ∈ pieces, '\x00' ∉ piece.toList) ∧ program.devices = context.devices ∧
      program.owned.handle ≠ 0 ∧ ∃ response, response.handle = program.owned.handle ∧
        scene.world.perform (.createProgram context.owned.handle pieces.length
          (some (pieces.map some)) false) = (.ok response, after.world) := by
  rw [newProgram, Nat.mod_eq_of_lt few, Action.perform_bind, perform_allWithoutNul] at performed
  by_cases free : ∀ piece ∈ pieces, '\x00' ∉ piece.toList
  · rw [if_pos free] at performed
    dsimp only at performed
    obtain ⟨used, _⟩ := Accepts.of_use ⟨_, _, performed⟩
    rw [used.perform_bind] at performed
    obtain ⟨response, world, answered, handled, adopted⟩ := answered_of_obtain performed
    cases adopted
    exact ⟨free, rfl, handled, response, rfl, answered⟩
  · rw [if_neg free] at performed
    cases performed

/-- How a source is cut into pieces makes no difference to the program that is made. -/
theorem Context.newProgram_alike (context : Context) {first second : List String}
    (full : first ≠ []) (filled : second ≠ []) (few : first.length < halfRange)
    (short : second.length < halfRange) (free : ∀ piece ∈ first, '\x00' ∉ piece.toList)
    (clean : ∀ piece ∈ second, '\x00' ∉ piece.toList) (same : String.join first = String.join second)
    (scene : Scene Machine) :
    ((context.newProgram Machine.driver first).perform scene).1 =
        ((context.newProgram Machine.driver second).perform scene).1 ∧
      ((context.newProgram Machine.driver first).perform scene).2.world.store =
        ((context.newProgram Machine.driver second).perform scene).2.world.store := by
  obtain ⟨answers, stores⟩ := @Machine.perform_creation_alike scene.world
    (.createProgram context.owned.handle first.length (some (first.map some)) false)
    (.createProgram context.owned.handle second.length (some (second.map some)) false)
    _ rfl rfl (by
      rw [Store.service, Store.newProgram_eq, Store.newProgram_eq, same]
      simp only [List.isEmpty_eq_false_iff.mpr full, List.isEmpty_eq_false_iff.mpr filled])
  simp only [newProgram, Nat.mod_eq_of_lt few, Nat.mod_eq_of_lt short, Action.perform_bind,
    perform_allWithoutNul, if_pos free, if_pos clean]
  by_cases released : context.owned.handle = 0
  · rw [settles_use_of_released released]
    exact ⟨rfl, rfl⟩
  · rw [settles_use released]
    simp only [Action.obtain, Action.perform_bind, Action.perform_call, Machine.driver]
    generalize scene.world.perform (.createProgram context.owned.handle first.length
      (some (first.map some)) false) = one at answers stores ⊢
    generalize scene.world.perform (.createProgram context.owned.handle second.length
      (some (second.map some)) false) = other at answers stores ⊢
    obtain ⟨answer, world⟩ := one
    obtain ⟨_, another⟩ := other
    cases answers
    cases answer with
    | error found => exact ⟨rfl, stores⟩
    | ok response =>
      dsimp only
      cases checkHandle response.status response.handle <;> exact ⟨rfl, stores⟩

/-- A program that was made from these pieces of source, as many as a call can count, in a context that
was made before, on a runtime where this has happened since. -/
inductive Authored (pieces : List String) (later : List Happening) : Machine → Program → Prop where
  | made {devices : List Device} {context : Context} {start opened scene after : Scene Machine}
      {between : List Happening} {program : Program} (few : pieces.length < halfRange)
      (reachable : start.world.Reachable)
      (created : (Context.create Machine.driver devices).perform start = (.ok context, opened))
      (onward : scene.world = opened.world.run between)
      (authored : (context.newProgram Machine.driver pieces).perform scene = (.ok program, after)) :
      Authored pieces later (after.world.run later) program

theorem Authored.pieces {pieces : List String} {later : List Happening} {machine : Machine}
    {program : Program} (authored : Authored pieces later machine program) :
    pieces ≠ [] ∧ pieces.length < halfRange ∧ ∀ piece ∈ pieces, '\x00' ∉ piece.toList := by
  obtain ⟨few, _, _, _, authored⟩ := authored
  obtain ⟨free, _, held, response, named, answered⟩ := Context.newProgram_ok few authored
  obtain ⟨_, _, accepted, _⟩ := created_of_answered rfl answered (named ▸ held)
  refine ⟨?_, few, free⟩
  rintro rfl
  rw [Store.newProgram_eq] at accepted
  obtain ⟨_, _, located⟩ := exists_of_bind_ok accepted
  obtain ⟨_, refused, _⟩ := exists_of_bind_ok located
  cases refused

/-- A program stays the one that was made, whatever else happens. -/
theorem Authored.run {pieces : List String} {later : List Happening} {machine : Machine}
    {program : Program} (authored : Authored pieces later machine program) (more : List Happening) :
    Authored pieces (later ++ more) (machine.run more) program := by
  obtain ⟨few, reachable, created, onward, authored⟩ := authored
  rw [← Machine.run_append]
  exact .made few reachable created onward authored

end Offload.Host
