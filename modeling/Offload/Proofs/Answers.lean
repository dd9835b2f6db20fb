import Offload.Proofs.Acceptance

/-! How questions are answered. A driver that answers them in the usual way gives all that it knows
to whoever brings a buffer for it, and tells how much that is; its state behind a question is told
by the calls that were made of it. The runtime answers what it knows in this way. -/
namespace Offload.Host
open Simulator

/-- What is heard of a call: its reply if the status is success, and the translated error if not. -/
def heard : Except Fault Response → Except Stop Response
  | .error found => .error (.faulted found)
  | .ok response =>
    match check response.status with
    | .error error => .error (.failed error)
    | .ok () => .ok response

theorem heard_success {response : Response} (success : response.status = 0) :
    heard (.ok response) = .ok response := by
  rw [heard, check_ok_iff.mpr success]

theorem heard_failed {response : Response} {error : CallError} (failed : check response.status = .error error) :
    heard (.ok response) = .error (.failed error) := by
  rw [heard, failed]

theorem heard_refused (error : NativeError) :
    heard (.ok { status := error.code }) = .error (.failed (.native error)) :=
  heard_failed (check_eq_error_iff.mpr (ofStatus?_code error))

/-- A call that has to succeed comes back with what is heard of it. -/
theorem perform_demand_heard {σ : Type} (driver : Driver σ) (request : Request) (scene : Scene σ) :
    (Action.demand driver request).perform scene =
      (heard (driver request scene.world).1, { scene with world := (driver request scene.world).2 }) := by
  rw [Action.demand, Action.perform_bind, Action.perform_call]
  rcases driver request scene.world with ⟨found | response, world⟩
  · rfl
  · dsimp only [heard]
    rw [Action.perform_bind]
    rcases check response.status with error | ⟨⟩ <;> rfl

/-- How a question is usually answered: a buffer that is too small for the answer is refused, and
another one holds it from the start on; the number of its bytes is reported. -/
structure Usual (bytes : Bytes) (window : Window) (response : Response) : Prop where
  refused : window.value = true → window.size < bytes.length →
    response.status = NativeError.invalidValue.code
  accepted : (window.value = true → bytes.length ≤ window.size) → response.status = 0
  stored : window.value = true → bytes.length ≤ window.size →
    ((Block.zeros window.size).patch response.writes).bytes =
      bytes ++ Bytes.zeros (window.size - bytes.length)
  reported : window.length = true → (window.value = true → bytes.length ≤ window.size) →
    response.reported = some bytes.length

namespace Question
variable {σ : Type}

/-- The same bytes answer a question in all of these states, and none of its calls leaves them. -/
def Answers (question : Question σ) (among : σ → Prop) (bytes : Bytes) : Prop :=
  ∀ state, among state → ∀ window, ∃ response,
    (question window state).1 = .ok response ∧ Usual bytes window response ∧
      among (question window state).2

/-- The state of a driver once a question was put with these windows, one call for each. -/
def afterAll (question : Question σ) (windows : List Window) (state : σ) : σ :=
  windows.foldl (fun state window => (question window state).2) state

variable {question : Question σ} {among : σ → Prop} {bytes : Bytes} {scene : Scene σ} {size : Nat}

/-- One call is made and heard before anything else is done. -/
theorem perform_heard {α : Type} (window : Window) (next : Response → Action σ α) (scene : Scene σ) :
    (Action.invoke (question window) >>= fun response =>
        Action.ofExcept (check response.status) >>= fun _ => next response).perform scene =
      match heard (question window scene.world).1 with
      | .error stop => (.error stop, { scene with world := question.afterAll [window] scene.world })
      | .ok response =>
        (next response).perform { scene with world := question.afterAll [window] scene.world } := by
  simp only [Action.perform_bind, afterAll, List.foldl_cons, List.foldl_nil]
  simp only [Action.invoke, Action.perform]
  rcases question window scene.world with ⟨found | response, world⟩
  · rfl
  · dsimp only [heard]
    rcases check response.status with error | ⟨⟩ <;> rfl

section
variable {window : Window} {response : Response} {error : CallError} {wantLength : Bool}

private theorem perform_fetch_answered
    (answered : (question ⟨size, true, wantLength⟩ scene.world).1 = .ok response)
    (success : response.status = 0) :
    (question.fetch size wantLength).perform scene =
      (.ok ((Block.zeros size).patch response.writes, response.reported.getD 0),
        { scene with world := question.afterAll [⟨size, true, wantLength⟩] scene.world }) := by
  rw [fetch, perform_heard, answered, heard_success success]
  rfl

theorem perform_fetch_failed
    (answered : (question ⟨size, true, wantLength⟩ scene.world).1 = .ok response)
    (failed : check response.status = .error error) :
    (question.fetch size wantLength).perform scene = (.error (.failed error),
      { scene with world := question.afterAll [⟨size, true, wantLength⟩] scene.world }) := by
  rw [fetch, perform_heard, answered, heard_failed failed]

theorem perform_length_answered (answered : (question ⟨0, false, true⟩ scene.world).1 = .ok response)
    (success : response.status = 0) :
    question.length.perform scene = (.ok (response.reported.getD 0),
      { scene with world := question.afterAll [⟨0, false, true⟩] scene.world }) := by
  rw [length, perform_heard, answered, heard_success success]
  rfl

theorem perform_length_failed (answered : (question ⟨0, false, true⟩ scene.world).1 = .ok response)
    (failed : check response.status = .error error) :
    question.length.perform scene = (.error (.failed error),
      { scene with world := question.afterAll [⟨0, false, true⟩] scene.world }) := by
  rw [length, perform_heard, answered, heard_failed failed]

end

/-- A buffer that is large enough comes back with the answer. -/
theorem perform_fetch (answers : question.Answers among bytes) (inside : among scene.world)
    (room : bytes.length ≤ size) (wantLength : Bool) :
    ∃ buffer length, buffer.bytes = bytes ++ Bytes.zeros (size - bytes.length) ∧
      (wantLength = true → length = bytes.length) ∧
      (question.fetch size wantLength).perform scene = (.ok (buffer, length),
        { scene with world := question.afterAll [⟨size, true, wantLength⟩] scene.world }) := by
  obtain ⟨response, answered, usual, _⟩ := answers scene.world inside ⟨size, true, wantLength⟩
  refine ⟨_, _, usual.stored rfl room, fun wanted => ?_,
    perform_fetch_answered answered (usual.accepted fun _ => room)⟩
  rw [usual.reported wanted fun _ => room]
  rfl

theorem perform_length (answers : question.Answers among bytes) (inside : among scene.world) :
    question.length.perform scene =
      (.ok bytes.length, { scene with world := question.afterAll [⟨0, false, true⟩] scene.world }) := by
  obtain ⟨response, answered, usual, _⟩ := answers scene.world inside ⟨0, false, true⟩
  rw [perform_length_answered answered (usual.accepted fun impossible => nomatch impossible),
    usual.reported rfl fun impossible => nomatch impossible]
  rfl

/-- The calls of a question keep the driver among the states in which it answers. -/
theorem Answers.after (answers : question.Answers among bytes) {state : σ} (inside : among state)
    (windows : List Window) : among (question.afterAll windows state) := by
  induction windows generalizing state with
  | nil => exact inside
  | cons window rest ih =>
    obtain ⟨_, _, _, kept⟩ := answers state inside window
    exact ih kept

/-- A number comes back from a buffer that fits it. -/
theorem perform_value (answers : question.Answers among bytes) (inside : among scene.world)
    {type : ScalarType} (sized : bytes.length = type.width) :
    (question.value type).perform scene = (.ok (type.decode bytes),
      { scene with world := question.afterAll [⟨type.width, true, false⟩] scene.world }) := by
  obtain ⟨buffer, _, stored, _, fetched⟩ := perform_fetch answers inside (Nat.le_of_eq sized) false
  have whole : buffer.bytes = bytes := by
    rw [stored, sized, Nat.sub_self]
    exact List.append_nil bytes
  rw [value, Action.perform_bind, fetched]
  dsimp only
  rw [Action.perform_pure, whole]

end Question

/-- The answer to a question that the runtime can answer is the usual one. -/
theorem usual_respond (bytes : Bytes) (window : Window) :
    ∃ response, (∀ machine : Machine, machine.query (respond bytes window) = (.ok response, machine)) ∧
      Usual bytes window response := by
  by_cases short : window.value = true ∧ window.size < bytes.length
  · refine ⟨{ status := NativeError.invalidValue.code }, fun machine => ?_, fun _ _ => rfl, ?_, ?_, ?_⟩
    · rw [respond, if_pos short]
      rfl
    · intro room
      exact absurd (room short.1) (Nat.not_le_of_lt short.2)
    · intro _ room
      exact absurd room (Nat.not_le_of_lt short.2)
    · intro _ room
      exact absurd (room short.1) (Nat.not_le_of_lt short.2)
  · refine ⟨{ writes := if window.value then [(0, .ofBytes bytes)] else []
              reported := if window.length then some bytes.length else none },
      fun machine => ?_, ?_, fun _ => rfl, ?_, ?_⟩
    · rw [respond, if_neg short]
      rfl
    · intro value small
      exact absurd ⟨value, small⟩ short
    · intro value room
      dsimp only
      rw [if_pos value, Block.bytes_patch, List.foldl_cons, List.foldl_nil, Block.bytes_zeros,
        Block.bytes_ofBytes, Bytes.overwrite_zeros _ _ room]
    · intro length _
      exact if_pos length

/-- A driver answers in the usual way if it does as the runtime does. -/
theorem Question.Answers.of_respond {σ : Type} {question : Question σ} {among : σ → Prop} {bytes : Bytes}
    (alike : ∀ state, among state → ∀ window, ∃ machine : Machine,
      (question window state).1 = (machine.query (respond bytes window)).1)
    (kept : ∀ state, among state → ∀ window, among (question window state).2) :
    question.Answers among bytes := by
  intro state inside window
  obtain ⟨response, answered, usual⟩ := usual_respond bytes window
  obtain ⟨machine, same⟩ := alike state inside window
  exact ⟨response, same.trans (congrArg Prod.fst (answered machine)), usual, kept state inside window⟩

/-- The runtime with this store, which answers queries of a topic itself. -/
structure Informs (store : Store) (topic : InfoTopic) (machine : Machine) : Prop where
  kept : machine.store = store
  serving : machine.halted = false
  allowed : machine.injection.failure? (.info topic) = none

section
variable {store : Store} {query : InfoQuery} {parameter : Int} {bytes : Bytes} {machine : Machine}

/-- A query is counted, whatever else comes of it, and changes nothing. -/
theorem perform_information (informs : Informs store query.topic machine)
    (known : store.information query parameter = .ok bytes) (window : Window) :
    machine.perform (.info query parameter window) =
      (machine.counted (.info query parameter window)).query (respond bytes window) := by
  rw [@Machine.perform_of_serving machine (.info query parameter window) informs.serving
    informs.allowed, Machine.serve]
  simp only [Machine.counted, informs.kept, known, bind, Except.bind]

theorem answers_information (known : store.information query parameter = .ok bytes) :
    (Question.info Machine.driver query parameter).Answers (Informs store query.topic) bytes := by
  intro machine informs window
  obtain ⟨response, answered, usual⟩ := usual_respond bytes window
  have performed := (perform_information informs known window).trans (answered _)
  simp only [Question.info, Machine.driver, performed]
  exact ⟨response, rfl, usual, informs.kept, informs.serving, informs.allowed⟩

theorem afterAll_information (known : store.information query parameter = .ok bytes)
    (informs : Informs store query.topic machine) (windows : List Window) :
    (Question.info Machine.driver query parameter).afterAll windows machine =
      (windows.map (Request.info query parameter)).foldl Machine.counted machine := by
  induction windows generalizing machine with
  | nil => rfl
  | cons window rest ih =>
    obtain ⟨response, answered, usual⟩ := usual_respond bytes window
    have performed := (perform_information informs known window).trans (answered _)
    have still : Informs store query.topic (machine.counted (.info query parameter window)) :=
      ⟨informs.kept, informs.serving, informs.allowed⟩
    rw [List.map_cons, List.foldl_cons, ← ih still, Question.afterAll, List.foldl_cons]
    simp only [Question.info, Machine.driver, performed]
    rfl

end

/-- The calls of a question are part of what happens to the runtime. -/
theorem afterAll_eq_run (query : InfoQuery) (parameter : Int) (windows : List Window) (machine : Machine) :
    (Question.info Machine.driver query parameter).afterAll windows machine =
      machine.run ((windows.map (Request.info query parameter)).map .call) := by
  simp only [Question.afterAll, Machine.run, List.foldl_map]
  rfl

/-- A number that fits 64 bits is read back as it was stored. -/
theorem decode_word64 {value : Nat} (fits : value < LittleEndian.capacity 8) :
    ScalarType.uint64.decode (word64 value) = value := by
  show (LittleEndian.toNat (LittleEndian.ofNat 8 value) : Int) = value
  rw [LittleEndian.toNat_ofNat, Nat.mod_eq_of_lt fits]

/-- A question for a number comes back with what the runtime knows. -/
theorem perform_value {scene : Scene Machine} {query : InfoQuery} {parameter : Int} {type : ScalarType}
    {bytes : Bytes} (serving : scene.world.halted = false)
    (allowed : scene.world.injection.failure? (.info query.topic) = none)
    (known : scene.world.store.information query parameter = .ok bytes)
    (sized : bytes.length = type.width) :
    ∃ after, ((Question.info Machine.driver query parameter).value type).perform scene =
      (.ok (type.decode bytes), after) := by
  have informs : Informs scene.world.store query.topic scene.world := ⟨rfl, serving, allowed⟩
  exact ⟨_, Question.perform_value (answers_information known) informs sized⟩

/-- A question that the runtime refuses comes back with its error. -/
theorem perform_value_refused {scene : Scene Machine} {query : InfoQuery} {parameter : Int}
    {type : ScalarType} {error : NativeError} (serving : scene.world.halted = false)
    (allowed : scene.world.injection.failure? (.info query.topic) = none)
    (refused : scene.world.store.information query parameter = refuse error) :
    (((Question.info Machine.driver query parameter).value type).perform scene).1 =
      .error (.failed (.native error)) := by
  have answered : (Question.info Machine.driver query parameter ⟨type.width, true, false⟩ scene.world).1 =
      .ok { status := error.code } := by
    have served := @Machine.perform_of_serving scene.world
      (.info query parameter ⟨type.width, true, false⟩) serving allowed
    rw [Question.info, Machine.driver, served]
    simp only [Machine.serve, Machine.counted, refused]
    rfl
  rw [Question.value, Action.perform_bind,
    Question.perform_fetch_failed answered (check_eq_error_iff.mpr (ofStatus?_code error))]

end Offload.Host
