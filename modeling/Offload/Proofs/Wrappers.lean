import Offload.Proofs.HostDialogues

/-! What the operations of owners make that make something: at most the one object that they
answer with. -/
namespace Offload.Session
open Host

namespace Bears
variable {α : Type} (route : Route)

section programs
variable (program : Program)

theorem newKernel (name : String) :
    Bears (program.newKernel route.driver name) fun kernel => holding kernel.owned :=
  bind (Dialogue.withoutNul name).quiet fun _ => bind (use program.owned) fun _ =>
    obtain route rfl nofun fun _ handled _ => ⟨_, _, rfl, if_neg handled, rfl⟩

end programs

theorem newContext (devices : List Device) :
    Bears (Context.create route.driver devices) fun context => holding context.owned := by
  unfold Context.create
  split
  · exact fail _
  · exact obtain route rfl nofun fun _ handled _ => ⟨_, _, rfl, if_neg handled, rfl⟩

theorem backingHandle (backing : Option Memory) :
    Quiet (Context.backingHandle (σ := World) backing) := by
  cases backing with
  | none => exact pure rfl
  | some memory => exact use memory.owned

section contexts
variable (context : Context) (flags : UInt64)

theorem newQueue (device : Device) (properties : UInt64) :
    Bears (context.newQueue route.driver device properties) fun queue => holding queue.owned :=
  bind (use context.owned) fun _ =>
    obtain route rfl nofun fun _ handled _ => ⟨_, _, rfl, if_neg handled, rfl⟩

theorem newProgram (sources : List String) :
    Bears (context.newProgram route.driver sources) fun program => holding program.owned :=
  bind (Dialogue.allWithoutNul sources).quiet fun _ => bind (use context.owned) fun _ =>
    obtain route rfl nofun fun _ handled _ => ⟨_, _, rfl, if_neg handled, rfl⟩

theorem newUserEvent :
    Bears (context.newUserEvent route.driver) fun event => holding event.owned :=
  bind (use context.owned) fun _ =>
    obtain route rfl nofun fun _ handled _ => ⟨_, _, rfl, if_neg handled, rfl⟩

theorem newBufferFrom (size : Nat) (host : Option Block) :
    Bears (context.newBufferFrom route.driver flags size host) fun memory => holding memory.owned :=
  bind (use context.owned) fun _ =>
    obtain route rfl nofun fun _ handled _ => ⟨_, _, rfl, if_neg handled, rfl⟩

theorem newBufferOf (type : ScalarType) (values : List Int) :
    Bears (context.newBufferOf route.driver flags type values) fun memory => holding memory.owned := by
  unfold Context.newBufferOf
  split
  · exact refuse _
  · exact newBufferFrom route context _ _ _

theorem newImageFrom (format : ImageFormat) (descriptor : ImageDescriptor) (backing : Option Memory)
    (host : Option Block) :
    Bears (context.newImageFrom route.driver flags format descriptor backing host)
      fun memory => holding memory.owned :=
  bind (backingHandle backing) fun _ => bind (use context.owned) fun _ =>
    obtain route rfl nofun fun _ handled _ => ⟨_, _, rfl, if_neg handled, rfl⟩

theorem newImage (format : ImageFormat) (descriptor : ImageDescriptor) (backing : Option Memory)
    (data : Option Block) :
    Bears (context.newImage route.driver flags format descriptor backing data)
      fun memory => holding memory.owned := by
  rcases newImage_cases route.driver context flags format descriptor backing data with
    ⟨error, refused⟩ | ⟨given, host, asked⟩
  · exact refused ▸ refuse error
  · exact asked ▸ newImageFrom route context given format descriptor backing host

theorem newImageOf (bitmap : Bitmap) :
    Bears (context.newImageOf route.driver flags bitmap) fun memory => holding memory.owned := by
  unfold Context.newImageOf
  dsimp only
  split
  · exact newImage route context flags _ _ none _
  · exact newImage route context flags _ _ none _
  · exact bind (ofFaulty _) fun _ => newImage route context flags _ _ none _

end contexts

/-- The event of a command that was accepted. -/
def yielded : Except CallError Event → List (ObjectKind × Nat)
  | .ok event => holding event.owned
  | .error _ => []

section queues
variable (queue : Queue) (waits : List Event)

theorem submit {command : Action World Command} (quiet : Quiet command) :
    Bears (queue.submit route.driver waits command) fun submission => yielded submission.outcome := by
  refine bind (Dialogue.useAll fun _ _ => trivial).quiet fun events => bind (use queue.owned) fun handle =>
    bind quiet fun command => ?_
  refine making route rfl (fun _ _ _ same => by cases same) fun response scene => ?_
  simp only [Simulator.offspring]
  cases checked : checkHandle response.status response.handle with
  | error error => exact ⟨.ok ⟨response.writes, .error error⟩, scene.notices, rfl, rfl, rfl⟩
  | ok event =>
    exact ⟨.ok ⟨response.writes, .ok ⟨⟨event⟩⟩⟩, .created .event event :: scene.notices, rfl,
      if_neg (ne_zero_of_checkHandle checked), rfl⟩

theorem enqueue {command : Action World Command} (quiet : Quiet command) :
    Bears (queue.enqueue route.driver waits command) fun event => holding event.owned :=
  and_then (submit route queue waits quiet) fun submission => by
    cases outcome : submission.outcome with
    | ok event => exact ⟨.ok event, fun _ => rfl, rfl⟩
    | error error => exact ⟨.error (.failed error), fun _ => rfl, rfl⟩

/-- A command whose arguments name one memory object. -/
theorem naming (memory : Memory) (command : Nat → Command) :
    Quiet (do Pure.pure (command (← memory.owned.use)) : Action World Command) :=
  bind (use memory.owned) fun _ => pure rfl

theorem write (buffer : Memory) (offset size : Nat) (data : Option Block) :
    Bears (queue.write route.driver buffer offset size data waits) fun event => holding event.owned :=
  enqueue route queue waits (naming buffer _)

theorem read (buffer : Memory) (offset size : Nat) (target : Option Block) :
    Bears (queue.read route.driver buffer offset size target waits)
      fun reading => yielded reading.outcome :=
  and_then (submit route queue waits (naming buffer _)) fun submission =>
    ⟨.ok (submission.into _), fun _ => rfl, rfl⟩

theorem copy (source target : Memory) (sourceOffset targetOffset size : Nat) :
    Bears (queue.copy route.driver source target sourceOffset targetOffset size waits)
      fun event => holding event.owned :=
  enqueue route queue waits (bind (use source.owned) fun _ => naming target _)

theorem fill (buffer : Memory) (pattern : Bytes) (offset size : Nat) :
    Bears (queue.fill route.driver buffer pattern offset size waits) fun event => holding event.owned :=
  enqueue route queue waits (naming buffer _)

theorem readImageInto (image : Memory) (region : ImageRegion) (target : Option Block) :
    Bears (queue.readImageInto route.driver image region target waits)
      fun reading => yielded reading.outcome :=
  and_then (submit route queue waits (naming image _)) fun submission =>
    ⟨.ok (submission.into _), fun _ => rfl, rfl⟩

theorem writeImageFrom (image : Memory) (region : ImageRegion) (data : Option Block) :
    Bears (queue.writeImageFrom route.driver image region data waits)
      fun event => holding event.owned :=
  enqueue route queue waits (naming image _)

theorem readImage (image : Memory) (region : ImageRegion) (memory : Block) :
    Bears (queue.readImage route.driver image region memory waits)
      fun reading => yielded reading.outcome := by
  unfold Queue.readImage
  split
  · exact pure rfl
  · exact readImageInto route queue waits image region (some memory)

theorem writeImage (image : Memory) (region : ImageRegion) (data : Block) :
    Bears (queue.writeImage route.driver image region data waits) fun event => holding event.owned := by
  unfold Queue.writeImage
  split
  · exact fail _
  · exact writeImageFrom route queue waits image region (some data)

theorem dispatch (kernel : Kernel) (globals : List Nat) (offsets locals : Option (List Nat)) :
    Bears (queue.dispatch route.driver kernel globals offsets locals waits)
      fun event => holding event.owned := by
  unfold Queue.dispatch
  dsimp only
  split
  · exact refuse _
  · split
    · exact refuse _
    · split
      · exact refuse _
      · exact bind (note rfl) fun _ =>
          enqueue route queue waits (bind (use kernel.owned) fun _ => pure rfl)

theorem marker : Bears (queue.marker route.driver waits) fun event => holding event.owned :=
  enqueue route queue waits (pure rfl)

theorem barrier : Bears (queue.barrier route.driver waits) fun event => holding event.owned :=
  enqueue route queue waits (pure rfl)

end queues

end Bears
end Offload.Session
