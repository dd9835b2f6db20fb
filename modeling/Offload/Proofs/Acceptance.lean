import Offload.Proofs.Inventory
import Offload.Host.Context

/-! When the runtime accepts what an operation asks of it. An operation that makes one call
succeeds exactly if that call comes back with an object. -/
namespace Offload.Host
open Simulator

variable {α β : Type}

/-- The runtime comes back from a call with an object. -/
def Serves (machine : Machine) (request : Request) : Prop :=
  ∃ response after, machine.perform request = (.ok response, after) ∧
    response.status = 0 ∧ response.handle ≠ 0

def Accepts (action : Action Machine α) (scene : Scene Machine) : Prop :=
  ∃ value after, action.perform scene = (.ok value, after)

/-- An operation that succeeds exactly if the runtime serves one call, which it then has made. -/
structure Asks (action : Action Machine α) (scene : Scene Machine) (request : Request) : Prop where
  accepts_iff : Accepts action scene ↔ Serves scene.world request
  called : ∀ value after, action.perform scene = (.ok value, after) →
    after.world.calls = request :: scene.world.calls

/-- An action whose result does not depend on the scene, which it leaves as it is. -/
def Settles (action : Action Machine α) (result : Except Stop α) : Prop :=
  ∀ scene, action.perform scene = (result, scene)

namespace Settles
variable {action : Action Machine α} {next : α → Action Machine β}

theorem bind_ok {value : α} {result : Except Stop β} (first : Settles action (.ok value))
    (rest : Settles (next value) result) : Settles (action >>= next) result := by
  intro scene
  rw [Action.perform_bind, first scene]
  exact rest scene

theorem bind_error {stop : Stop} (first : Settles action (.error stop)) :
    Settles (action >>= next) (.error stop) := by
  intro scene
  rw [Action.perform_bind, first scene]

theorem perform_bind {value : α} (first : Settles action (.ok value)) (scene : Scene Machine) :
    (action >>= next).perform scene = (next value).perform scene := by
  rw [Action.perform_bind, first scene]

/-- What settles and then succeeds has settled well. -/
theorem of_accepts {result : Except Stop α} {scene : Scene Machine} (settles : Settles action result)
    (accepts : Accepts (action >>= next) scene) :
    ∃ value, result = .ok value ∧ Accepts (next value) scene := by
  obtain ⟨last, after, performed⟩ := accepts
  cases result with
  | error stop => cases (settles.bind_error scene).symm.trans performed
  | ok value => exact ⟨value, rfl, last, after, (settles.perform_bind scene).symm.trans performed⟩

end Settles

theorem Asks.after {action : Action Machine α} {value : α} {next : α → Action Machine β}
    {scene : Scene Machine} {request : Request} (first : Settles action (.ok value))
    (asks : Asks (next value) scene request) : Asks (action >>= next) scene request := by
  refine ⟨?_, fun last after performed => ?_⟩
  · simp only [Accepts, first.perform_bind]
    exact asks.accepts_iff
  · exact asks.called last after ((first.perform_bind scene).symm.trans performed)

theorem settles_use {kind : ObjectKind} {owned : Owned kind} (held : owned.handle ≠ 0) :
    Settles owned.use (.ok owned.handle) := by
  intro scene
  rw [Owned.use, if_neg held]
  rfl

theorem settles_useAll {kind : ObjectKind} {owners : List (Owned kind)}
    (held : ∀ owned ∈ owners, owned.handle ≠ 0) :
    Settles (useAll owners) (.ok (owners.map Owned.handle)) := by
  induction owners with
  | nil => exact fun _ => rfl
  | cons owned rest ih =>
    have first : Settles owned.use (.ok owned.handle) := settles_use (held owned List.mem_cons_self)
    have later := ih fun other member => held other (List.mem_cons_of_mem _ member)
    exact .bind_ok first (.bind_ok later fun _ => rfl)

theorem settles_use_of_released {kind : ObjectKind} {owned : Owned kind} (released : owned.handle = 0) :
    Settles owned.use (.error (.faulted (.released kind))) := by
  intro scene
  rw [Owned.use, if_pos released]
  rfl

/-- An owner that was used successfully holds its handle. -/
theorem Accepts.of_use {kind : ObjectKind} {owned : Owned kind} {next : Nat → Action Machine α}
    {scene : Scene Machine} (accepts : Accepts (owned.use >>= next) scene) :
    Settles owned.use (.ok owned.handle) ∧ Accepts (next owned.handle) scene := by
  by_cases released : owned.handle = 0
  · obtain ⟨_, impossible, _⟩ := (settles_use_of_released released).of_accepts accepts
    cases impossible
  · obtain ⟨_, same, onward⟩ := (settles_use released).of_accepts accepts
    cases same
    exact ⟨settles_use released, onward⟩

theorem exists_settles_use {kind : ObjectKind} (owned : Owned kind) :
    ∃ result, Settles owned.use result := by
  by_cases released : owned.handle = 0
  · exact ⟨_, settles_use_of_released released⟩
  · exact ⟨_, settles_use released⟩

/-- Owners can all be used, or the first one that cannot stops. -/
theorem useAll_cases {kind : ObjectKind} (owners : List (Owned kind)) :
    (∀ owned ∈ owners, owned.handle ≠ 0) ∨ ∃ stop, Settles (useAll owners) (.error stop) := by
  induction owners with
  | nil => exact Or.inl nofun
  | cons owned rest ih =>
    by_cases released : owned.handle = 0
    · exact Or.inr ⟨_, .bind_error (settles_use_of_released released)⟩
    · rcases ih with held | ⟨stop, later⟩
      · exact Or.inl (List.forall_mem_cons.mpr ⟨released, held⟩)
      · exact Or.inr ⟨stop, .bind_ok (settles_use released) (.bind_error later)⟩

private theorem exists_settles_useAll {kind : ObjectKind} (owners : List (Owned kind)) :
    ∃ result, Settles (useAll owners) result := by
  rcases useAll_cases owners with held | ⟨stop, settles⟩
  · exact ⟨_, settles_useAll held⟩
  · exact ⟨_, settles⟩

theorem exists_settles_backing (backing : Option Memory) :
    ∃ result, Settles (Context.backingHandle backing) result := by
  cases backing with
  | none => exact ⟨_, fun _ => rfl⟩
  | some memory => exact exists_settles_use memory.owned

theorem not_exists_ok {ε : Type} {error : ε} : ¬ ∃ value : α, Except.error error = .ok value := by
  rintro ⟨value, same⟩
  cases same

private theorem calls_of_answered {machine after : Machine} {request : Request} {response : Response}
    (performed : machine.perform request = (.ok response, after)) :
    after.calls = request :: machine.calls := by
  have outcome := outcome_perform machine request
  rw [performed] at outcome
  exact outcome.calls_eq

/-- A runtime that answers a call does not halt with it. -/
theorem serving_of_answered {machine after : Machine} {request : Request} {response : Response}
    (performed : machine.perform request = (.ok response, after)) : after.halted = false := by
  have came := outcome_perform machine request
  rw [performed] at came
  generalize same : Except.ok (ε := Fault) response = answer at came
  cases came with
  | halted | faulted | exhausted => cases same
  | injected serving | refused _ _ _ serving | answered serving | waited _ serving | suppressed serving
  | created serving | updated serving | compiled serving | rejected serving | queued serving =>
    exact serving

/-- An operation that calls once and succeeds exactly if the answer comes with an object. -/
theorem Asks.of_call {next : Response → Action Machine α} {scene : Scene Machine} {request : Request}
    (takes : ∀ response scene, ∃ result notes,
      (next response).perform scene = (result, ⟨scene.world, notes⟩) ∧
        ((∃ value, result = .ok value) ↔ response.status = 0 ∧ response.handle ≠ 0)) :
    Asks (Action.call Machine.driver request >>= next) scene request := by
  rcases answered : scene.world.perform request with ⟨found | response, world⟩
  · have performed : (Action.call Machine.driver request >>= next).perform scene =
        (.error (.faulted found), { scene with world := world }) := by
      rw [Action.perform_bind, Action.perform_call, Machine.driver, answered]
    refine ⟨iff_of_false ?_ ?_, ?_⟩
    · rintro ⟨value, after, ended⟩
      cases performed.symm.trans ended
    · rintro ⟨response, after, same, _⟩
      cases answered.symm.trans same
    · intro value after ended
      cases performed.symm.trans ended
  · obtain ⟨result, notes, taken, served⟩ := takes response { scene with world := world }
    have performed : (Action.call Machine.driver request >>= next).perform scene =
        (result, ⟨world, notes⟩) := by
      rw [Action.perform_bind, Action.perform_call, Machine.driver, answered]
      exact taken
    refine ⟨⟨?_, ?_⟩, ?_⟩
    · rintro ⟨value, after, ended⟩
      cases performed.symm.trans ended
      exact ⟨response, _, answered, served.mp ⟨value, rfl⟩⟩
    · rintro ⟨other, after, same, object⟩
      cases answered.symm.trans same
      obtain ⟨value, rfl⟩ := served.mpr object
      exact ⟨value, _, performed⟩
    · intro value after ended
      cases performed.symm.trans ended
      exact calls_of_answered answered

theorem Asks.of_obtain {next : Nat → Action Machine α} {scene : Scene Machine} {request : Request}
    (takes : ∀ handle scene, ∃ value notes,
      (next handle).perform scene = (.ok value, ⟨scene.world, notes⟩)) :
    Asks (Action.obtain Machine.driver request >>= next) scene request := by
  rw [Action.obtain, bind_assoc]
  refine of_call fun response scene => ?_
  simp only [Action.perform_bind]
  cases checked : checkHandle response.status response.handle with
  | error error =>
    refine ⟨.error (.failed error), scene.notices, rfl, iff_of_false not_exists_ok ?_⟩
    intro object
    cases checked.symm.trans (checkHandle_ok_iff.mpr ⟨object, rfl⟩)
  | ok handle =>
    obtain ⟨value, notes, taken⟩ := takes handle scene
    exact ⟨.ok value, notes, taken, iff_of_true ⟨value, rfl⟩ (checkHandle_ok_iff.mp checked).1⟩

/-- An image is asked for in one call, whatever host memory it is to be copied from. -/
theorem newImageFrom_asks {context : Context} {flags : UInt64} {format : ImageFormat}
    {layout : ImageDescriptor} {backing : Option Memory} {host : Option Block} {scene : Scene Machine}
    (accepts : Accepts (context.newImageFrom Machine.driver flags format layout backing host) scene) :
    ∃ buffer, ∀ other, Asks (context.newImageFrom Machine.driver flags format layout backing other) scene
      (.createImage context.owned.handle flags (some format.toRaw)
        (some { layout with buffer := buffer }) other) := by
  obtain ⟨_, backed⟩ := exists_settles_backing backing
  obtain ⟨buffer, rfl, onward⟩ := backed.of_accepts accepts
  obtain ⟨used, _⟩ := onward.of_use
  refine ⟨buffer, fun other => .after backed (.after used (.of_obtain fun handle scene => ?_))⟩
  exact ⟨_, _, rfl⟩

/-- What is done with a submission succeeds exactly if the submission has. -/
def Passes (next : Submission → Action Machine α) : Prop :=
  ∀ submission scene, ∃ result, (next submission).perform scene = (result, scene) ∧
    ((∃ value, result = .ok value) ↔ ∃ event, submission.outcome = .ok event)

/-- A command is asked for in one call, whatever there is to be named in it. -/
theorem submit_asks {queue : Queue} {waits : List Event} {command : Action Machine Command}
    {next : Submission → Action Machine α} {scene : Scene Machine}
    (accepts : Accepts (queue.submit Machine.driver waits command >>= next) scene) :
    (∃ onward : Command → Action Machine α, Accepts (command >>= onward) scene) ∧
      ∃ handles, ∀ (other : Action Machine Command) named, Settles other (.ok named) →
        ∀ next : Submission → Action Machine α, Passes next →
          Asks (queue.submit Machine.driver waits other >>= next) scene
            (.enqueue queue.owned.handle named (.ofList handles) true) := by
  unfold Queue.submit Event.handles at *
  simp only [bind_assoc] at *
  obtain ⟨_, listed⟩ := exists_settles_useAll (waits.map Event.owned)
  obtain ⟨handles, rfl, queued⟩ := listed.of_accepts accepts
  obtain ⟨used, named⟩ := queued.of_use
  refine ⟨⟨_, named⟩, handles, fun other command naming next passes => ?_⟩
  refine .after listed (.after used (.after naming (.of_call fun response scene => ?_)))
  cases checked : checkHandle response.status response.handle with
  | error error =>
    obtain ⟨result, performed, succeeds⟩ := passes ⟨response.writes, .error error⟩ scene
    refine ⟨result, scene.notices, performed, succeeds.trans (iff_of_false not_exists_ok ?_)⟩
    intro object
    cases checked.symm.trans (checkHandle_ok_iff.mpr ⟨object, rfl⟩)
  | ok handle =>
    obtain ⟨result, performed, succeeds⟩ := passes ⟨response.writes, .ok ⟨⟨handle⟩⟩⟩
      { scene with notices := .created .event handle :: scene.notices }
    refine ⟨result, _, performed, succeeds.trans (iff_of_true ⟨_, rfl⟩ (checkHandle_ok_iff.mp checked).1)⟩

end Offload.Host
