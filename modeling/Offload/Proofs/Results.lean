import Offload.Proofs.HostDialogues

/-! What actions return, whenever they return. Owners that are handed out hold an object: a call that
has to come with one refuses the null handle. -/
namespace Offload.Host
open Session

variable {σ α β : Type}

/-- Whatever an action returns is so. -/
def Yields (post : α → Prop) (action : Action σ α) : Prop :=
  ∀ scene value after, action.perform scene = (.ok value, after) → post value

namespace Yields
variable {post : α → Prop} {last : β → Prop} {action : Action σ α} {next : α → Action σ β}

theorem pure {value : α} (holds : post value) : Yields post (Pure.pure value : Action σ α) := by
  intro scene other after performed
  cases performed
  exact holds

theorem fail (error : CallError) : Yields post (Action.fail error : Action σ α) := by
  intro scene value after performed
  cases performed

theorem refuse (error : NativeError) : Yields post (Action.refuse error : Action σ α) :=
  fail (.native error)

theorem and_then (first : Yields post action) (rest : ∀ value, post value → Yields last (next value)) :
    Yields last (action >>= next) := by
  intro scene value after performed
  rw [Action.perform_bind] at performed
  generalize begun : action.perform scene = pair at performed
  obtain ⟨stop | early, middle⟩ := pair
  · cases performed
  · exact rest early (first scene early middle begun) middle value after performed

/-- What comes last decides. -/
theorem bind (rest : ∀ value, Yields last (next value)) : Yields last (action >>= next) := by
  have anything : Yields (fun _ => True) action := fun _ _ _ _ => trivial
  exact and_then anything fun value _ => rest value

theorem certain (first : Yields post action) : Yields post action.certain := by
  intro scene value after performed
  rw [Action.perform_certain] at performed
  generalize begun : action.perform scene = pair at performed
  obtain ⟨(error | found) | early, middle⟩ := pair
  · cases performed
  · cases performed
  · cases performed
    exact first scene value _ begun

theorem ofExcept {result : Except CallError α} (holds : ∀ value, result = .ok value → post value) :
    Yields post (Action.ofExcept result : Action σ α) := by
  cases result with
  | ok value => exact pure (holds value rfl)
  | error error => exact fail error

/-- An object that is obtained has a handle. -/
theorem obtain {driver : Driver σ} {request : Request} {next : Nat → Action σ β}
    (rest : ∀ handle, handle ≠ 0 → Yields last (next handle)) :
    Yields last (Action.obtain driver request >>= next) :=
  and_then (bind fun _ => ofExcept fun _ checked => ne_zero_of_checkHandle checked) rest

theorem adopt {kind : ObjectKind} {handle : Nat} {next : Owned kind → Action σ β}
    (rest : Yields last (next ⟨handle⟩)) : Yields last (Owned.adopt kind handle >>= next) := by
  have adopted : Yields (· = ⟨handle⟩) (Owned.adopt kind handle : Action σ (Owned kind)) :=
    bind fun _ => pure rfl
  exact and_then adopted fun _ same => same ▸ rest

section makers
variable (route : Route)

theorem newContext (devices : List Device) :
    Yields (·.owned.handle ≠ 0) (Context.create route.driver devices) := by
  unfold Context.create
  split
  · exact .fail _
  · exact .obtain fun _ handled => .adopt (.pure handled)

section contexts
variable (context : Context) (flags : UInt64)

theorem newQueue (device : Device) (properties : UInt64) :
    Yields (·.owned.handle ≠ 0) (context.newQueue route.driver device properties) :=
  .bind fun _ => .obtain fun _ handled => .adopt (.pure handled)

theorem newProgram (sources : List String) :
    Yields (·.owned.handle ≠ 0) (context.newProgram route.driver sources) :=
  .bind fun _ => .bind fun _ => .obtain fun _ handled => .adopt (.pure handled)

theorem newUserEvent : Yields (·.owned.handle ≠ 0) (context.newUserEvent route.driver) :=
  .bind fun _ => .obtain fun _ handled => .adopt (.pure handled)

theorem newBufferFrom (size : Nat) (host : Option Block) :
    Yields (·.owned.handle ≠ 0) (context.newBufferFrom route.driver flags size host) :=
  .bind fun _ => .obtain fun _ handled => .bind fun _ => .adopt (.pure handled)

theorem newBufferOf (type : ScalarType) (values : List Int) :
    Yields (·.owned.handle ≠ 0) (context.newBufferOf route.driver flags type values) := by
  unfold Context.newBufferOf
  split
  · exact .refuse _
  · exact newBufferFrom route context _ _ _

theorem newImageFrom (format : ImageFormat) (descriptor : ImageDescriptor) (backing : Option Memory)
    (host : Option Block) :
    Yields (·.owned.handle ≠ 0) (context.newImageFrom route.driver flags format descriptor backing host) :=
  .bind fun _ => .bind fun _ => .obtain fun _ handled => .bind fun _ => .adopt (.pure handled)

theorem newImage (format : ImageFormat) (descriptor : ImageDescriptor) (backing : Option Memory)
    (data : Option Block) :
    Yields (·.owned.handle ≠ 0) (context.newImage route.driver flags format descriptor backing data) := by
  rcases newImage_cases route.driver context flags format descriptor backing data with
    ⟨error, refused⟩ | ⟨given, host, asked⟩
  · exact refused ▸ .refuse error
  · exact asked ▸ newImageFrom route context given format descriptor backing host

theorem newImageOf (bitmap : Bitmap) :
    Yields (·.owned.handle ≠ 0) (context.newImageOf route.driver flags bitmap) := by
  unfold Context.newImageOf
  dsimp only
  split
  · exact newImage route context flags _ _ none _
  · exact newImage route context flags _ _ none _
  · exact .bind fun _ => newImage route context flags _ _ none _

end contexts

theorem newKernel (program : Program) (name : String) :
    Yields (·.owned.handle ≠ 0) (program.newKernel route.driver name) :=
  .bind fun _ => .bind fun _ => .obtain fun _ handled => .adopt (.pure handled)

/-- The event of a command that was accepted. -/
def Accepted (outcome : Except CallError Event) : Prop :=
  ∀ event, outcome = .ok event → event.owned.handle ≠ 0

variable (queue : Queue) (waits : List Event)

theorem submit (command : Action World Command) :
    Yields (fun submission => Accepted submission.outcome) (queue.submit route.driver waits command) := by
  refine .bind fun events => .bind fun handle => .bind fun command => .bind fun response => ?_
  cases checked : checkHandle response.status response.handle with
  | error error => exact .pure nofun
  | ok event =>
    refine .adopt (.pure fun other same => ?_)
    cases same
    exact ne_zero_of_checkHandle checked

theorem enqueue (command : Action World Command) :
    Yields (·.owned.handle ≠ 0) (queue.enqueue route.driver waits command) :=
  .and_then (submit route queue waits command) fun _ accepted => .ofExcept accepted

/-- A command that reads into host memory. -/
theorem reading {command : Action World Command} {memory : Block} :
    Yields (fun reading => Accepted reading.outcome)
      (do Pure.pure ((← queue.submit route.driver waits command).into memory)) :=
  .and_then (submit route queue waits command) fun _ accepted => .pure accepted

theorem readImage (image : Memory) (region : ImageRegion) (memory : Block) :
    Yields (fun reading => Accepted reading.outcome)
      (queue.readImage route.driver image region memory waits) := by
  unfold Queue.readImage
  split
  · exact .pure nofun
  · exact reading route queue waits

theorem writeImage (image : Memory) (region : ImageRegion) (data : Block) :
    Yields (·.owned.handle ≠ 0) (queue.writeImage route.driver image region data waits) := by
  unfold Queue.writeImage
  split
  · exact .fail _
  · exact enqueue route queue waits _

theorem dispatch (kernel : Kernel) (globals : List Nat) (offsets locals : Option (List Nat)) :
    Yields (·.owned.handle ≠ 0)
      (queue.dispatch route.driver kernel globals offsets locals waits) := by
  unfold Queue.dispatch
  dsimp only
  split
  · exact .refuse _
  · split
    · exact .refuse _
    · split
      · exact .refuse _
      · exact .bind fun _ => enqueue route queue waits _

end makers
end Yields
end Offload.Host
