import Offload.Progress
import Offload.Driver.Request
import Offload.Simulator.Source
import Offload.Block

/-! The objects that the simulated runtime keeps, and the table that holds them in the
order of their creation. -/
namespace Offload.Simulator

structure ImageShape where
  width : Nat
  height : Nat
  pixel : Nat
  deriving DecidableEq, Repr

/-- A memory object: its bytes, and the shape of an image. -/
structure Memory where
  data : Block
  shape? : Option ImageShape := none
  deriving DecidableEq, Repr

structure Program where
  source : String
  status : BuildStatus := .none
  log : String := ""
  kernels : List Signature := []
  deriving DecidableEq, Repr

/-- A kernel and the bytes bound to each of its parameters so far. -/
structure Kernel where
  signature : Signature
  arguments : List (Option Bytes)
  deriving DecidableEq, Repr

/-- A user event carries its own status. A command event follows the events it waits
for; with profiling its four moments are consecutive ticks from `queuedAt` on. -/
inductive Event where
  | user (status : Int)
  | command (waits : List Nat) (queuedAt : Option Nat)
  deriving DecidableEq, Repr

inductive Object where
  | context (devices : List Nat)
  | queue (properties : UInt64)
  | memory (memory : Memory)
  | program (program : Program)
  | kernel (kernel : Kernel)
  | event (event : Event)
  deriving DecidableEq, Repr

def Object.kind : Object → ObjectKind
  | context _ => .context
  | queue _ => .queue
  | memory _ => .memory
  | program _ => .program
  | kernel _ => .kernel
  | event _ => .event

/-- Objects by handle, oldest first. -/
abbrev Table := List (Nat × Object)

namespace Table

def find? : (table : Table) → (id : Nat) → Option Object
  | [], _ => none
  | (key, object) :: rest, id => if key = id then some object else find? rest id

def insert (table : Table) (id : Nat) (object : Object) : Table := table ++ [(id, object)]

def erase (table : Table) (id : Nat) : Table := table.filter fun entry => entry.1 != id

/-- Puts another object in the place of the one with this handle. -/
def replace (table : Table) (id : Nat) (object : Object) : Table :=
  table.map fun entry => if entry.1 = id then (id, object) else entry

theorem find?_insert (table : Table) (id : Nat) (object : Object) (other : Nat) :
    (table.insert id object).find? other =
      (table.find? other).or (if other = id then some object else none) := by
  induction table with
  | nil => by_cases same : id = other <;> simp [insert, find?, same, eq_comm]
  | cons entry rest ih =>
    obtain ⟨key, value⟩ := entry
    by_cases hit : key = other
    · simp [insert, find?, hit]
    · simpa [insert, find?, hit] using ih

theorem find?_erase (table : Table) (id other : Nat) :
    (table.erase id).find? other = if other = id then none else table.find? other := by
  induction table with
  | nil => simp [erase, find?]
  | cons entry rest ih =>
    obtain ⟨key, value⟩ := entry
    simp only [erase, List.filter_cons, bne_iff_ne, ne_eq] at ih ⊢
    by_cases gone : key = id
    · rw [if_neg (by simpa using gone), ih]
      by_cases same : other = id
      · simp [same]
      · simp [find?, same, show key ≠ other by omega]
    · rw [if_pos gone, find?, find?]
      by_cases hit : key = other
      · simp [hit, show other ≠ id by omega]
      · simp [hit, ih]

theorem find?_replace (table : Table) (id : Nat) (object : Object) (other : Nat) :
    (table.replace id object).find? other =
      if other = id then (table.find? other).map fun _ => object else table.find? other := by
  induction table with
  | nil => simp [replace, find?]
  | cons entry rest ih =>
    obtain ⟨key, value⟩ := entry
    simp only [replace, List.map_cons] at ih ⊢
    by_cases changed : key = id
    · simp only [changed, if_true, find?]
      by_cases hit : id = other
      · simp [hit]
      · simp only [hit, if_false, ih]
    · simp only [changed, if_false, find?]
      by_cases hit : key = other
      · simp [hit, show other ≠ id by omega]
      · simp [hit, ih]

section
variable {table : Table} {id other : Nat} {object found : Object}

/-- What is found after an insertion was there before, or has been inserted. -/
theorem find?_insert_cases (later : (table.insert id object).find? other = some found) :
    table.find? other = some found ∨ (other = id ∧ found = object) := by
  rw [find?_insert, Option.or_eq_some_iff] at later
  rcases later with earlier | ⟨_, inserted⟩
  · exact Or.inl earlier
  · split at inserted
    · rename_i same
      exact Or.inr ⟨same, (Option.some.inj inserted).symm⟩
    · cases inserted

theorem find?_insert_of_found (earlier : table.find? other = some found) :
    (table.insert id object).find? other = some found := by
  rw [find?_insert, earlier, Option.some_or]

theorem of_find?_erase (later : (table.erase id).find? other = some found) :
    table.find? other = some found := by
  rw [find?_erase] at later
  split at later
  · cases later
  · exact later

theorem find?_replace_cases (later : (table.replace id object).find? other = some found) :
    table.find? other = some found ∨ (other = id ∧ found = object) := by
  rw [find?_replace] at later
  split at later
  · rename_i same
    obtain ⟨_, _, replaced⟩ := Option.map_eq_some_iff.mp later
    exact Or.inr ⟨same, replaced.symm⟩
  · exact Or.inl later

end

@[simp] theorem length_replace (table : Table) (id : Nat) (object : Object) :
    (table.replace id object).length = table.length := by simp [replace]

end Table
end Offload.Simulator
