import Offload.Text.Blank
import Offload.Text.Search
import Offload.Text.Radix

/-! What the simulated compiler sees in a source text: whether its brackets match, and
which kernels it declares with which parameters. -/
namespace Offload.Simulator

/-- What a kernel parameter takes: a memory object, local memory or bytes by value. -/
inductive ParameterKind where
  | pointer
  | localMemory
  | scalar (size : Nat)
  deriving DecidableEq, Repr

/-- The name and the parameters of a kernel. -/
structure Signature where
  name : String
  parameters : List ParameterKind
  deriving DecidableEq, Repr

namespace Source

/-- Whether the brackets of a text match when `depth` of them are open before it. -/
def balancedFrom (opening closing : Char) : (depth : Nat) → List Char → Bool
  | depth, [] => depth == 0
  | depth, char :: rest =>
    if char = opening then balancedFrom opening closing (depth + 1) rest
    else if char = closing then
      match depth with
      | 0 => false
      | depth + 1 => balancedFrom opening closing depth rest
    else balancedFrom opening closing depth rest

/-- Curly and round brackets each match on their own. -/
def isBalanced (source : List Char) : Bool :=
  balancedFrom '\x7b' '\x7d' 0 source && balancedFrom '(' ')' 0 source

/-- The compiler's message on a text whose brackets do not match. It names the last line. -/
def bracketLog (source : List Char) : String :=
  "<source>:" ++ Text.decimal (max (Text.lines source).length 1) ++
    ":1: error: expected '\x7d' at end of input\n1 error generated.\n"

/-- The parts of a text between separators. -/
def splitOn (separator : Char) : List Char → List (List Char)
  | [] => [[]]
  | char :: rest =>
    if char = separator then [] :: splitOn separator rest
    else match splitOn separator rest with
      | [] => [[char]]
      | part :: parts => (char :: part) :: parts

/-- The kind of a parameter, by the first of these marks that its text shows: the local
address space, a pointer, and the scalar types of eight, two and one bytes. -/
def parameterKind (text : List Char) : ParameterKind :=
  let shows (word : String) : Bool := Text.occursIn word.toList text
  if shows "__local" || (Text.strip? "local ".toList text).isSome then .localMemory
  else if text.contains '*' then .pointer
  else if shows "double" || shows "long" || shows "size_t" then .scalar 8
  else if shows "short" || shows "half" then .scalar 2
  else if shows "char" then .scalar 1
  else .scalar 4

/-- The parameters written between the brackets of a declaration. -/
def parameters (text : List Char) : List ParameterKind :=
  (((splitOn ',' text).map Text.trim).filter fun part =>
    !part.isEmpty && part != "void".toList).map parameterKind

/-- The word that marks the declaration of a kernel. -/
def keyword : List Char := "__kernel".toList

/-- The declaration that begins right behind the keyword, and the text from its closing
bracket on. There is none without both brackets. -/
def declaration? (text : List Char) : Option (Signature × List Char) :=
  let name := text.takeWhile (· != '(')
  match text.dropWhile (· != '(') with
  | [] => none
  | _ :: rest =>
    match rest.dropWhile (· != ')') with
    | [] => none
    | closing =>
      some (⟨String.ofList (Text.lastWord name), parameters (rest.takeWhile (· != ')'))⟩, closing)

theorem length_declaration? {text rest : List Char} {signature : Signature}
    (found : declaration? text = some (signature, rest)) : rest.length ≤ text.length := by
  unfold declaration? at found
  have outer := (List.dropWhile_suffix (l := text) (· != '(')).length_le
  split at found
  · cases found
  · rename_i char behind opened
    rw [opened] at outer
    have inner := (List.dropWhile_suffix (l := behind) (· != ')')).length_le
    split at found
    · cases found
    · simp only [Option.some.injEq, Prod.mk.injEq] at found
      rw [← found.2]
      simp only [List.length_cons] at outer
      omega

/-- The kernels that a source declares, in order. The scan ends at the first keyword
that no bracketed parameter list follows. -/
def kernels (source : List Char) : List Signature :=
  match _found : Text.after? keyword source with
  | none => []
  | some behind =>
    match _declared : declaration? behind with
    | none => []
    | some (signature, rest) => signature :: kernels rest
termination_by source.length
decreasing_by
  have shorter := Text.length_after? _found
  have bounded := length_declaration? _declared
  have positive : 0 < keyword.length := by decide
  omega

end Source
end Offload.Simulator
