import Offload.Text.Radix

/-! Native enumerations. The listed members have distinct codes; every other code
is kept as it is, so that no code is ever lost or refused. -/
namespace Offload

/-- A type whose members are listed completely and coded without collisions. -/
class Listed (α : Type) where
  members : List α
  code : α → Int
  mem_members : ∀ member, member ∈ members
  nodup_codes : (members.map code).Nodup

/-- Members that also have a text to show and a name to write. -/
class Labelled (α : Type) extends Listed α where
  label : α → String
  name : α → String := label

namespace Listed
variable {α : Type} [Listed α]

/-- The member with a code. -/
def ofCode? (code : Int) : Option α := members.find? (fun member => Listed.code member == code)

private theorem eq_of_code_eq {list : List α} (nodup : (list.map (Listed.code : α → Int)).Nodup)
    {first second : α} (inFirst : first ∈ list) (inSecond : second ∈ list)
    (same : Listed.code first = Listed.code second) : first = second := by
  induction list with
  | nil => cases inFirst
  | cons head rest ih =>
    simp only [List.map_cons, List.nodup_cons, List.mem_map, not_exists, not_and] at nodup
    rcases List.mem_cons.mp inFirst with firstHead | firstRest <;>
      rcases List.mem_cons.mp inSecond with secondHead | secondRest
    · rw [firstHead, secondHead]
    · exact absurd (firstHead ▸ same.symm) (nodup.1 second secondRest)
    · exact absurd (secondHead ▸ same) (nodup.1 first firstRest)
    · exact ih nodup.2 firstRest secondRest

theorem code_injective {first second : α} (same : Listed.code first = Listed.code second) : first = second :=
  eq_of_code_eq Listed.nodup_codes (mem_members first) (mem_members second) same

/-- Looking up a member's own code finds that member. -/
@[simp] theorem ofCode?_code (member : α) : ofCode? (code member) = some member := by
  unfold ofCode?
  cases found : (members : List α).find? (fun other => Listed.code other == code member) with
  | none =>
    have missing := List.find?_eq_none.mp found member (mem_members member)
    simp at missing
  | some other =>
    have same : Listed.code other = code member := by simpa using List.find?_some found
    rw [code_injective same]

theorem code_of_ofCode? {raw : Int} {member : α} (found : ofCode? raw = some member) :
    code member = raw := by
  simpa using List.find?_some found

theorem ofCode?_eq_some {raw : Int} {member : α} : ofCode? raw = some member ↔ code member = raw :=
  ⟨code_of_ofCode?, fun same => same ▸ ofCode?_code member⟩

end Listed

/-- A value of a native enumeration, listed or not. -/
inductive Coded (α : Type) where
  | listed (member : α)
  | unknown (raw : Int)
  deriving DecidableEq, Repr

namespace Coded

def ofRaw {α : Type} [Listed α] (raw : Int) : Coded α :=
  match Listed.ofCode? raw with
  | some member => .listed member
  | none => .unknown raw

def raw {α : Type} [Listed α] : Coded α → Int
  | .listed member => Listed.code member
  | .unknown raw => raw

/-- The text shown for a value; an unlisted code is shown as its 32 bits in hexadecimal. -/
def text {α : Type} [Labelled α] : Coded α → String
  | .listed member => Labelled.label member
  | .unknown raw => "Unknown(" ++ Text.hexadecimal (raw % 4294967296).toNat ++ ")"

/-- The written form of a value; an unlisted code is written in decimal. -/
def written {α : Type} [Labelled α] : Coded α → String
  | .listed member => Labelled.name member
  | .unknown raw => "Unknown(" ++ Text.signedDecimal raw ++ ")"

variable {α : Type} [Listed α]

@[simp] theorem raw_ofRaw (code : Int) : (ofRaw code : Coded α).raw = code := by
  unfold ofRaw
  split
  · rename_i member found
    exact Listed.code_of_ofCode? found
  · rfl

@[simp] theorem ofRaw_code (member : α) : ofRaw (Listed.code member) = Coded.listed member := by
  simp [ofRaw]

end Coded
end Offload
