import Offload.Host.Context
import Offload.Overlay
import Offload.Simulator.Machine

/-! Named slots. A slot holds a platform, a device or the owner of an object, together with
the way by which it talks to the simulated runtime. Slots are kept in ascending order of
their names. -/
namespace Offload.Session

/-- The simulated runtime below a layer of prepared answers. -/
abbrev World := Overlay × Simulator.Machine

/-- An object talks to the runtime through the layer or past it. -/
inductive Route where
  | layered | direct
  deriving DecidableEq, Repr

def Route.driver : Route → Driver World
  | layered => Overlay.driver Simulator.Machine.driver
  | direct => Overlay.bypass Simulator.Machine.driver

inductive Item where
  | platform (platform : Host.Platform)
  | device (device : Host.Device)
  | context (context : Host.Context)
  | queue (queue : Host.Queue)
  | memory (memory : Host.Memory)
  | program (program : Host.Program)
  | kernel (kernel : Host.Kernel)
  | event (event : Host.Event)
  | bare (kind : ObjectKind) (owned : Host.Owned kind)

namespace Item

/-- The owner inside an item, where there is one. -/
def owner? : Item → Option ((kind : ObjectKind) × Host.Owned kind)
  | platform _ | device _ => none
  | context item => some ⟨_, item.owned⟩
  | queue item => some ⟨_, item.owned⟩
  | memory item => some ⟨_, item.owned⟩
  | program item => some ⟨_, item.owned⟩
  | kernel item => some ⟨_, item.owned⟩
  | event item => some ⟨_, item.owned⟩
  | bare kind owned => some ⟨kind, owned⟩

def written : Item → String
  | platform item => item.written
  | device item => item.written
  | context item => item.written
  | queue item => item.written
  | memory item => item.written
  | program item => item.written
  | kernel item => item.written
  | event item => item.written
  | bare _ owned => owned.written

end Item

structure Slot where
  route : Route
  item : Item

namespace Slot

/-- Gives back what a slot owns, because the slot goes away. -/
def discard (slot : Slot) : Host.Action World Unit :=
  match slot.item.owner? with
  | some ⟨_, owned⟩ => owned.discard slot.route.driver
  | none => pure ()

/-- Discards slots one after the other, also behind one that a fault stops. -/
def discardAll : List Slot → Host.Action World Unit
  | [] => pure ()
  | slot :: rest => do
    try slot.discard
    finally discardAll rest

end Slot

/-- An item together with its route, once its kind is known. -/
structure Routed (α : Type) where
  route : Route
  object : α

namespace Routed

def driver {α : Type} (routed : Routed α) : Driver World := routed.route.driver

end Routed

abbrev Slots := List (String × Slot)

namespace Slots

def get? : (slots : Slots) → (name : String) → Option Slot
  | [], _ => none
  | (key, slot) :: rest, name => if key = name then some slot else get? rest name

/-- Fills a slot, and gives what was in it before. -/
def put : (slots : Slots) → (name : String) → Slot → Slots × Option Slot
  | [], name, slot => ([(name, slot)], none)
  | (key, old) :: rest, name, slot =>
    if key = name then ((name, slot) :: rest, some old)
    else if name < key then ((name, slot) :: (key, old) :: rest, none)
    else
      let (filled, before) := put rest name slot
      ((key, old) :: filled, before)

def erase (slots : Slots) (name : String) : Slots := slots.filter fun entry => entry.1 != name

/-- Fills slots in order, and lists what was in them before. -/
def putAll (slots : Slots) : List (String × Slot) → Slots × List Slot
  | [] => (slots, [])
  | (name, slot) :: rest =>
    let (filled, before) := slots.put name slot
    let (all, others) := putAll filled rest
    (all, before.toList ++ others)

def platform? (slots : Slots) (name : String) : Option (Routed Host.Platform) :=
  match slots.get? name with
  | some ⟨route, .platform object⟩ => some ⟨route, object⟩
  | _ => none

def device? (slots : Slots) (name : String) : Option (Routed Host.Device) :=
  match slots.get? name with
  | some ⟨route, .device object⟩ => some ⟨route, object⟩
  | _ => none

def context? (slots : Slots) (name : String) : Option (Routed Host.Context) :=
  match slots.get? name with
  | some ⟨route, .context object⟩ => some ⟨route, object⟩
  | _ => none

def queue? (slots : Slots) (name : String) : Option (Routed Host.Queue) :=
  match slots.get? name with
  | some ⟨route, .queue object⟩ => some ⟨route, object⟩
  | _ => none

def memory? (slots : Slots) (name : String) : Option (Routed Host.Memory) :=
  match slots.get? name with
  | some ⟨route, .memory object⟩ => some ⟨route, object⟩
  | _ => none

def program? (slots : Slots) (name : String) : Option (Routed Host.Program) :=
  match slots.get? name with
  | some ⟨route, .program object⟩ => some ⟨route, object⟩
  | _ => none

def kernel? (slots : Slots) (name : String) : Option (Routed Host.Kernel) :=
  match slots.get? name with
  | some ⟨route, .kernel object⟩ => some ⟨route, object⟩
  | _ => none

def event? (slots : Slots) (name : String) : Option (Routed Host.Event) :=
  match slots.get? name with
  | some ⟨route, .event object⟩ => some ⟨route, object⟩
  | _ => none

/-- A slot that was filled shows its new contents, every other slot what it held. -/
theorem get?_put (slots : Slots) (name : String) (slot : Slot) (other : String) :
    (slots.put name slot).1.get? other = if name = other then some slot else slots.get? other := by
  induction slots with
  | nil => rfl
  | cons entry rest ih =>
    obtain ⟨key, old⟩ := entry
    unfold put
    split
    · rename_i same
      subst same
      simp only [get?]
      split <;> rfl
    · rename_i differs
      split
      · rfl
      · simp only [get?, ih]
        split
        · rename_i hit
          subst hit
          rw [if_neg (Ne.symm differs)]
        · rfl

theorem get?_eq_none {slots : Slots} {name : String} (absent : ∀ entry ∈ slots, entry.1 ≠ name) :
    slots.get? name = none := by
  induction slots with
  | nil => rfl
  | cons entry rest ih =>
    rw [get?, if_neg (absent entry List.mem_cons_self)]
    exact ih fun other member => absent other (List.mem_cons_of_mem _ member)

/-- What was in a filled slot before is handed out. -/
theorem put_snd (slots : Slots) (name : String) (slot : Slot)
    (ascending : slots.Pairwise fun first second => first.1 < second.1) :
    (slots.put name slot).2 = slots.get? name := by
  induction slots with
  | nil => rfl
  | cons entry rest ih =>
    obtain ⟨key, old⟩ := entry
    rw [List.pairwise_cons] at ascending
    unfold put
    split
    · rename_i same
      simp [get?, same]
    · rename_i differs
      split
      · rename_i before
        rw [get?, if_neg differs]
        refine (get?_eq_none fun entry member same => ?_).symm
        exact String.lt_irrefl name (String.lt_trans before (same ▸ ascending.1 entry member))
      · rw [get?, if_neg differs]
        exact ih ascending.2

/-- Looks up several slots; one that is missing or of another kind spoils all. -/
def all? {α : Type} (find? : String → Option α) : List String → Option (List α)
  | [] => some []
  | name :: rest =>
    match find? name, all? find? rest with
    | some object, some objects => some (object :: objects)
    | _, _ => none

def devices? (slots : Slots) (names : List String) : Option (List (Routed Host.Device)) :=
  all? slots.device? names

def events? (slots : Slots) (names : List String) : Option (List (Routed Host.Event)) :=
  all? slots.event? names

/-- Looks up a slot that may be left out. -/
def optional? {α : Type} (find? : String → Option α) : Option String → Option (Option α)
  | none => some none
  | some name => (find? name).map some

end Slots
end Offload.Session
