import Offload.Proofs.Bearing

/-! Actions as dialogues with the runtime: notices, calls and looks one after the other, each of
which may depend on what was answered before. What holds of single calls is carried over to whole
actions by induction on the dialogue. -/
namespace Offload.Session
open Host Simulator

/-- The contexts, queues, programs and kernels that a call is made on, or what it gives back. -/
def principals : Request → List Nat
  | .info (.build program _) _ _ => [program]
  | .info (.kernel kernel) _ _ | .info (.workGroup kernel _) _ _ => [kernel]
  | .imageFormats context _ _ _ _ _ | .createQueue context _ _ | .createBuffer context _ _ _
  | .createImage context _ _ _ _ | .createProgram context _ _ _ | .createUserEvent context => [context]
  | .createKernel program _ | .buildProgram program _ _ => [program]
  | .setKernelArg kernel _ _ _ => [kernel]
  | .flush queue | .finish queue => [queue]
  | .enqueue queue (.dispatch kernel _ _ _ _) _ _ => [queue, kernel]
  | .enqueue queue _ _ _ => [queue]
  | .release _ handle => [handle]
  | _ => []

/-- Whether a call carries out a kernel or asks for memory, so that a runtime may stop at it. -/
def mayOverreach : Request → Bool
  | .createBuffer .. | .createImage .. | .createProgram .. | .enqueue _ (.dispatch ..) _ _ => true
  | _ => false

/-- A command that carries out no kernel. -/
def isData : Command → Prop
  | .dispatch .. => False
  | _ => True

/-- What an action may do in a dialogue. -/
structure Manners where
  /-- The handles that owners may be used under. -/
  uses : Nat → Prop
  /-- Whether objects may be made and adopted. -/
  makes : Prop
  releases : Prop
  /-- Whether calls may be made at which a runtime may stop. -/
  overreaches : Prop
  /-- Whether there may be faults that are not those of a call. -/
  faults : Prop
  looks : (Machine → Answer) → Prop
  /-- What a call may be answered with. -/
  answers : Request → Response → Prop
  null : uses 0 → faults

/-- Where nothing is made and nothing else is forbidden. -/
def Manners.calm : Manners where
  uses _ := True
  makes := False
  releases := False
  overreaches := True
  faults := True
  looks _ := True
  answers _ _ := True
  null _ := trivial

/-- No length is reported of a build of which there can be no text, or there may be faults. -/
def Manners.Measures (manners : Manners) : Prop :=
  manners.faults ∨ ∀ program device parameter window response,
    manners.answers (.info (.build program device) parameter window) response →
      response.reported.getD 0 ≤ memoryLimit

/-- A call that keeps to the manners of a dialogue. -/
structure Manners.Asks (manners : Manners) (request : Request) : Prop where
  makes : manners.makes ∨ made? request = none
  keeps : manners.releases ∨ released? request = none
  overreaches : manners.overreaches ∨ mayOverreach request = false
  uses : ∀ handle ∈ principals request, manners.uses handle

namespace Manners.Asks
variable {manners : Manners} {request : Request}

/-- A call that names no object which could be out of bounds. -/
theorem freely (makes : made? request = none) (keeps : released? request = none)
    (modest : mayOverreach request = false) (alone : principals request = []) :
    manners.Asks request :=
  ⟨Or.inr makes, Or.inr keeps, Or.inr modest, fun _ member => nomatch alone ▸ member⟩

/-- A call that is made on one object. -/
theorem upon {handle : Nat} (makes : manners.makes ∨ made? request = none)
    (keeps : released? request = none) (modest : manners.overreaches ∨ mayOverreach request = false)
    (single : principals request = [handle]) (held : manners.uses handle) : manners.Asks request :=
  ⟨makes, Or.inr keeps, modest, single ▸ List.forall_mem_singleton.mpr held⟩

/-- A data command, a marker or a barrier in a queue. -/
theorem enqueue (makes : manners.makes) {queue : Nat} {command : Command} (data : isData command)
    (held : manners.uses queue) (list : HandleList) :
    manners.Asks (.enqueue queue command list true) := by
  cases command with
  | dispatch => exact data.elim
  | _ => exact upon (Or.inl makes) rfl (Or.inr rfl) rfl held

end Manners.Asks

/-- A look at the runtime that is not a call. -/
def look (view : Machine → Answer) : Action World Answer := fun scene =>
  (.ok (view scene.world.2), scene)

/-- An action that leaves notices, makes calls and looks at the runtime until it returns or
stops. -/
inductive Dialogue (manners : Manners) {α : Type} : Action World α → Prop where
  | done (value : α) : Dialogue manners (pure value)
  | failed (error : CallError) : Dialogue manners (Action.fail error)
  | faulted {found : Fault} (allowed : manners.faults) : Dialogue manners (Action.fault found)
  | noted {notice : Notice} (told : manners.makes ∨ announced [notice] = []) {rest : Action World α}
      (later : Dialogue manners rest) : Dialogue manners (Action.note notice >>= fun _ => rest)
  | called (route : Route) {request : Request} (asked : manners.Asks request)
      {next : Response → Action World α}
      (later : ∀ response, manners.answers request response → Dialogue manners (next response)) :
      Dialogue manners (Action.call route.driver request >>= next)
  | looked {view : Machine → Answer} (allowed : manners.looks view) {next : Answer → Action World α}
      (later : ∀ answer, Dialogue manners (next answer)) : Dialogue manners (look view >>= next)

namespace Dialogue
variable {α β : Type} {manners : Manners} {action : Action World α}

theorem bind {next : α → Action World β} (first : Dialogue manners action)
    (rest : ∀ value, Dialogue manners (next value)) : Dialogue manners (action >>= next) := by
  induction first with
  | done value =>
    rw [pure_bind]
    exact rest value
  | failed error => exact .failed error
  | faulted allowed => exact .faulted allowed
  | noted told _ ih =>
    rw [bind_assoc]
    exact .noted told ih
  | called route asked _ ih =>
    rw [bind_assoc]
    exact .called route asked ih
  | looked allowed _ ih =>
    rw [bind_assoc]
    exact .looked allowed ih

/-- Errors may be handled, faults go through. -/
theorem handled {handle : Stop → Action World α} (first : Dialogue manners action)
    (errors : ∀ error, Dialogue manners (handle (.failed error)))
    (faults : ∀ found, handle (.faulted found) = Action.fault found) :
    Dialogue manners (tryCatch action handle) := by
  induction first with
  | done value => exact .done value
  | failed error => exact errors error
  | @faulted found allowed =>
    have passed : tryCatch (Action.fault found) handle = handle (.faulted found) := rfl
    rw [passed, faults]
    exact .faulted allowed
  | noted told _ ih => exact .noted told ih
  | @called route request asked next _ ih =>
    have onward : tryCatch (Action.call route.driver request >>= next) handle =
        Action.call route.driver request >>= fun response => tryCatch (next response) handle := by
      funext scene
      show (tryCatch (Action.call route.driver request >>= next) handle).perform scene =
        (Action.call route.driver request >>= fun response => tryCatch (next response) handle).perform scene
      rw [Action.perform_tryCatch, Action.perform_bind, Action.perform_bind, Action.perform_call]
      rcases route.driver request scene.world with ⟨found | response, world⟩
      · dsimp only
        rw [faults]
        rfl
      · exact (Action.perform_tryCatch _ _ _).symm
    rw [onward]
    exact .called route asked ih
  | looked allowed _ ih => exact .looked allowed ih

theorem refuse (error : NativeError) : Dialogue manners (Action.refuse error : Action World α) :=
  failed (.native error)

theorem map {view : α → β} (first : Dialogue manners action) : Dialogue manners (view <$> action) :=
  bind first fun _ => done _

theorem ofExcept (result : Except CallError α) : Dialogue manners (Action.ofExcept result) := by
  cases result with
  | ok value => exact done value
  | error error => exact failed error

theorem note {notice : Notice} (told : manners.makes ∨ announced [notice] = []) :
    Dialogue manners (Action.note notice) := noted told (done ())

theorem outcome (first : Dialogue manners action) : Dialogue manners action.outcome :=
  handled (map first) (fun _ => done _) fun _ => rfl

theorem certain (first : Dialogue manners action) (allowed : manners.faults) :
    Dialogue manners action.certain :=
  handled first (fun _ => faulted allowed) fun _ => rfl

/-- Using an owner gives its handle, or there may be faults. -/
theorem use {kind : ObjectKind} {owned : Owned kind} {next : Nat → Action World α}
    (held : manners.uses owned.handle) (rest : Dialogue manners (next owned.handle)) :
    Dialogue manners (owned.use >>= next) := by
  unfold Owned.use
  split
  · rename_i null
    exact faulted (manners.null (null ▸ held))
  · rw [pure_bind]
    exact rest

theorem held {kind : ObjectKind} {owned : Owned kind} (allowed : manners.uses owned.handle) :
    Dialogue manners (owned.use (σ := World)) := by
  rw [← bind_pure (owned.use (σ := World))]
  exact use allowed (done _)

section calls
variable (route : Route) {request : Request}

theorem demand (asked : manners.Asks request) :
    Dialogue manners (Action.demand route.driver request) :=
  called route asked fun _ _ => bind (ofExcept _) fun _ => done _

theorem obtain (asked : manners.Asks request) :
    Dialogue manners (Action.obtain route.driver request) :=
  called route asked fun _ _ => ofExcept _

theorem adopt (makes : manners.makes) (kind : ObjectKind) (handle : Nat) :
    Dialogue manners (Owned.adopt kind handle : Action World (Owned kind)) :=
  bind (note (Or.inl makes)) fun _ => done _

end calls

section owners
variable (route : Route) {kind : ObjectKind} {owned : Owned kind} (releases : manners.releases)
  (allowed : owned.handle ≠ 0 → manners.uses owned.handle)
include releases allowed

theorem release : Dialogue manners (owned.release route.driver) := by
  unfold Owned.release
  split
  · exact done ()
  · rename_i held
    refine noted (Or.inr rfl) (bind (demand route ⟨Or.inr rfl, Or.inl releases, Or.inr rfl, ?_⟩) fun _ => done ())
    exact List.forall_mem_singleton.mpr (allowed held)

theorem discard : Dialogue manners (owned.discard route.driver) := by
  refine bind (outcome (release route releases allowed)) fun result => ?_
  cases result with
  | ok _ => exact done ()
  | error error => exact note (Or.inr rfl)

end owners

section questions
variable (route : Route) {query : InfoQuery} {parameter : Int}
  (asked : ∀ window, manners.Asks (.info query parameter window))
include asked

theorem fetch (size : Nat) (wantLength : Bool) :
    Dialogue manners ((Question.info route.driver query parameter).fetch size wantLength) :=
  called route (asked _) fun _ _ => bind (ofExcept _) fun _ => done _

theorem string (size : Nat) :
    Dialogue manners ((Question.info route.driver query parameter).string size) :=
  bind (fetch route asked size true) fun _ => done _

/-- A number that is answered is one of its type. -/
theorem value_bind (type : ScalarType) {next : Int → Action World α}
    (rest : ∀ number, type.Holds number → Dialogue manners (next number)) :
    Dialogue manners ((Question.info route.driver query parameter).value type >>= next) := by
  simp only [Question.value, Question.fetch, bind_assoc, pure_bind]
  refine called route (asked _) fun response _ => bind (ofExcept _) fun _ => rest _ ?_
  exact ScalarType.holds_decode ((Block.length_bytes _).trans (Block.size_patch _ _))

theorem value (type : ScalarType) :
    Dialogue manners ((Question.info route.driver query parameter).value type) := by
  rw [← bind_pure ((Question.info route.driver query parameter).value type)]
  exact value_bind route asked type fun _ _ => done _

theorem array {type : ScalarType} {count : Nat} (fits : type.width * count ≤ memoryLimit) :
    Dialogue manners ((Question.info route.driver query parameter).array type count) := by
  rw [Question.array, reserve_of_le fits]
  exact bind (done ()) fun _ => bind (fetch route asked _ false) fun _ => done _

end questions

section
variable (route : Route) (measures : manners.Measures) {program device : Nat} {parameter : Int}
  (asked : ∀ window, manners.Asks (.info (.build program device) parameter window))
include measures asked

private theorem exactString :
    Dialogue manners (Question.info route.driver (.build program device) parameter).exactString := by
  simp only [Question.exactString, Question.length, bind_assoc, pure_bind]
  refine called route (asked _) fun response answered => bind (ofExcept _) fun _ => ?_
  refine bind ?_ fun _ => bind (fetch route asked _ false) fun _ => done _
  rcases measures with allowed | bounded
  · cases reserve (response.reported.getD 0) with
    | ok _ => exact done ()
    | error _ => exact faulted allowed
  · rw [reserve_of_le (bounded _ _ _ _ _ answered)]
    exact done ()

theorem longString (size : Nat) :
    Dialogue manners ((Question.info route.driver (.build program device) parameter).longString size) := by
  refine handled (string route asked size) (fun error => ?_) fun _ => rfl
  split
  · exact exactString route measures asked
  · exact failed error

end

/-- An action makes no object if its dialogue makes none. -/
theorem quiet (dialogue : Dialogue .calm action) : Quiet action := by
  induction dialogue with
  | done value => exact .pure rfl
  | failed error => exact .fail error
  | faulted => exact .fault _
  | noted told _ ih => exact .bind (.note (told.resolve_left id)) fun _ => ih
  | called route asked _ ih =>
    exact .bind (.call route (asked.makes.resolve_left id) (asked.keeps.resolve_left id)) fun response =>
      ih response trivial
  | @looked view _ next _ ih =>
    refine .bind (fun machine notices _ => ?_) ih
    exact ⟨.ok (view machine), machine, notices, rfl, .unchanged machine, Nat.zero_le 1, rfl⟩

end Dialogue
end Offload.Session
