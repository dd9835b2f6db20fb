import Offload.Proofs.Scanning

/-! Declarations of kernels, written out and read back. The scan looks for a keyword, a bracket and
another bracket, one behind the other; it finds every declaration again, whatever stands between
them, because no occurrence of the keyword can reach into another one. -/
namespace Offload

namespace Text

/-- No part of a word that begins inside it begins the word as well. -/
def Unbordered (word : List Char) : Prop :=
  ∀ place < word.length, 0 < place → ¬ word.drop place <+: word

private theorem after?_eq_none {word text : List Char} (absent : ¬ word <:+: text) : after? word text = none := by
  rcases found : after? word text with _ | behind
  · rfl
  · obtain ⟨before, same⟩ := after?_suffix found
    exact absurd ⟨before, behind, same.symm⟩ absent

/-- A word that begins in front of another occurrence of it ends in front of that, too. -/
theorem infix_of_prefix_append {word front rest : List Char} (unbordered : Unbordered word)
    (nonempty : front ≠ []) (early : word <+: front ++ (word ++ rest)) : word <:+: front := by
  obtain ⟨behind, same⟩ := early
  rcases List.append_eq_append_iff.mp same with ⟨kept, rfl, _⟩ | ⟨overlap, spread, shared⟩
  · exact ⟨[], kept, List.nil_append _⟩
  · -- What stands behind `front` in the early occurrence ends the word, and begins the later one.
    have ending : word.drop front.length = overlap := by rw [spread, List.drop_left]
    have beginning : overlap <+: word := by
      refine List.prefix_of_prefix_length_le ⟨behind, shared.symm⟩ ⟨rest, rfl⟩ ?_
      have length := congrArg List.length spread
      rw [List.length_append] at length
      omega
    rcases Nat.lt_or_ge front.length word.length with inside | outside
    · exact absurd (ending ▸ beginning) (unbordered _ inside (List.length_pos_iff.mpr nonempty))
    · have empty : overlap = [] := by rw [← ending, List.drop_eq_nil_iff.mpr outside]
      have whole : word = front := by rw [spread, empty, List.append_nil]
      exact whole ▸ List.infix_rfl

/-- The first occurrence of a word behind a text without it is found where it was put. -/
theorem after?_append {word filler : List Char} (unbordered : Unbordered word)
    (absent : ¬ word <:+: filler) (rest : List Char) :
    after? word (filler ++ (word ++ rest)) = some rest := by
  have stripped : strip? word (word ++ rest) = some rest := strip?_eq_some.mpr rfl
  induction filler with
  | nil =>
    rw [List.nil_append]
    rcases whole : word ++ rest with _ | ⟨char, others⟩
    · obtain ⟨rfl, rfl⟩ := List.append_eq_nil_iff.mp whole
      rfl
    · rw [after?, ← whole, stripped]
  | cons char filler ih =>
    have missing : strip? word (char :: (filler ++ (word ++ rest))) = none := by
      rcases found : strip? word (char :: (filler ++ (word ++ rest))) with _ | behind
      · rfl
      · have early : word <+: (char :: filler) ++ (word ++ rest) := ⟨behind, (strip?_eq_some.mp found).symm⟩
        exact absurd (infix_of_prefix_append unbordered (List.cons_ne_nil _ _) early) absent
    rw [List.cons_append, after?, missing]
    exact ih fun inside => absent (List.infix_cons inside)

/-- A word with white space before it is the last one. -/
theorem lastWord_append {front word : List Char} {blank : Char} (parted : isBlank blank = true)
    (nonempty : word ≠ []) (solid : ∀ char ∈ word, isBlank char = false) :
    lastWord (front ++ blank :: word) = word := by
  have backwards : (front ++ blank :: word).reverse = word.reverse ++ blank :: front.reverse := by simp
  have plain : ∀ char ∈ word.reverse, (!isBlank char) = true := fun char member => by
    rw [solid char (List.mem_reverse.mp member)]
    rfl
  have kept : (word.reverse ++ blank :: front.reverse).dropWhile isBlank =
      word.reverse ++ blank :: front.reverse := by
    rcases reversed : word.reverse with _ | ⟨last, others⟩
    · exact absurd (List.reverse_eq_nil_iff.mp reversed) nonempty
    · have first : isBlank last = false :=
        solid last (List.mem_reverse.mp (reversed ▸ List.mem_cons_self))
      rw [List.cons_append, List.dropWhile_cons, first]
      rfl
  rw [lastWord, backwards, kept, List.takeWhile_append_of_pos plain, List.takeWhile_cons, parted]
  simp

private theorem trim_cons {blank : Char} {text : List Char} (leading : isBlank blank = true) :
    trim (blank :: text) = trim text := by
  rw [trim, trim, List.dropWhile_cons, if_pos leading]

end Text

namespace Simulator.Source
open Text

private theorem splitOn_of_notMem {separator : Char} {text : List Char} (free : separator ∉ text) :
    splitOn separator text = [text] := by
  induction text with
  | nil => rfl
  | cons char rest ih =>
    have other : separator ≠ char := List.ne_of_not_mem_cons free
    rw [splitOn, if_neg other.symm, ih (List.not_mem_of_not_mem_cons free)]

private theorem splitOn_append {separator : Char} {front rest : List Char} (free : separator ∉ front) :
    splitOn separator (front ++ separator :: rest) = front :: splitOn separator rest := by
  induction front with
  | nil => rw [List.nil_append, splitOn, if_pos rfl]
  | cons char front ih =>
    have other : separator ≠ char := List.ne_of_not_mem_cons free
    rw [List.cons_append, splitOn, if_neg other.symm, ih (List.not_mem_of_not_mem_cons free)]

/-- A parameter as it is written: without white space around it, and without what ends it. -/
structure Parameter where
  text : List Char
  nonempty : text ≠ []
  trimmed : trim text = text
  named : text ≠ "void".toList
  single : ',' ∉ text
  closed : ')' ∉ text

/-- A declaration as it is written, of a kernel that takes these parameters. -/
structure Declaration where
  name : List Char
  parameters : List Parameter
  /-- Whether it is written out that there are no parameters. -/
  spelled : Bool
  nonempty : name ≠ []
  solid : ∀ char ∈ name, isBlank char = false
  unbracketed : '(' ∉ name

/-- A text that declares nothing. -/
structure Filler where
  text : List Char
  quiet : ¬ keyword <:+: text

/-- What is written between the brackets of a declaration. -/
def listed (spelled : Bool) : List Parameter → List Char
  | [] => if spelled then "void".toList else []
  | first :: others => first.text ++ others.flatMap fun next => ", ".toList ++ next.text

namespace Declaration

def text (declaration : Declaration) : List Char :=
  keyword ++ (" void ".toList ++ declaration.name ++
    '(' :: (listed declaration.spelled declaration.parameters ++ [')']))

/-- What the scan is to make of a declaration. -/
def signature (declaration : Declaration) : Signature where
  name := String.ofList declaration.name
  parameters := declaration.parameters.map fun parameter => parameterKind parameter.text

end Declaration

/-- A source: declarations, each with the text behind it, and the text before all of them. -/
def written (leading : Filler) (pieces : List (Declaration × Filler)) : List Char :=
  leading.text ++ pieces.flatMap fun piece => piece.1.text ++ piece.2.text

private theorem unbordered_keyword : Unbordered keyword := by
  unfold Unbordered
  decide

/-- A text is cut at the first place of a character. -/
theorem parts_of_notMem {char : Char} {front : List Char} (free : char ∉ front) (rest : List Char) :
    (front ++ char :: rest).takeWhile (· != char) = front ∧
      (front ++ char :: rest).dropWhile (· != char) = char :: rest := by
  have passed : ∀ other ∈ front, (other != char) = true := fun other member =>
    bne_iff_ne.mpr fun same => free (same ▸ member)
  rw [List.takeWhile_append_of_pos passed, List.dropWhile_append_of_pos passed]
  simp

/-- The parts between the commas are the parameters, all but the first with a space before them. -/
theorem splitOn_commas {front : List Char} (free : ',' ∉ front) (others : List Parameter) :
    splitOn ',' (front ++ others.flatMap fun next => ", ".toList ++ next.text) =
      front :: others.map fun next => ' ' :: next.text := by
  induction others generalizing front with
  | nil => rw [List.flatMap_nil, List.append_nil, splitOn_of_notMem free, List.map_nil]
  | cons next others ih =>
    have spaced : ',' ∉ ' ' :: next.text := List.not_mem_cons_of_ne_of_not_mem (by decide) next.single
    rw [List.flatMap_cons, List.append_assoc, List.map_cons, ← ih spaced]
    exact splitOn_append free

/-- What is written between the brackets is read as the parameters. -/
theorem parameters_listed (spelled : Bool) (all : List Parameter) :
    Source.parameters (listed spelled all) = all.map fun parameter => parameterKind parameter.text := by
  rcases all with _ | ⟨first, others⟩
  · cases spelled <;> decide
  · have trimmed : (others.map fun next => ' ' :: next.text).map trim = others.map Parameter.text := by
      rw [List.map_map]
      refine List.map_congr_left fun next _ => ?_
      exact (trim_cons (by decide)).trans next.trimmed
    have kept : ∀ part ∈ (first :: others).map Parameter.text,
        (!part.isEmpty && part != "void".toList) = true := by
      intro part member
      obtain ⟨parameter, _, rfl⟩ := List.mem_map.mp member
      rw [Bool.and_eq_true, Bool.not_eq_true', List.isEmpty_eq_false_iff, bne_iff_ne]
      exact ⟨parameter.nonempty, parameter.named⟩
    rw [Source.parameters, listed, splitOn_commas first.single, List.map_cons, trimmed, first.trimmed,
      ← List.map_cons, List.filter_eq_self.mpr kept, List.map_map]
    rfl

private theorem closed_listed (spelled : Bool) (all : List Parameter) : ')' ∉ listed spelled all := by
  rcases all with _ | ⟨first, others⟩
  · cases spelled <;> decide
  · rw [listed, List.mem_append, List.mem_flatMap]
    rintro (inside | ⟨next, _, inside⟩)
    · exact first.closed inside
    · rcases List.mem_append.mp inside with comma | inside
      · exact absurd comma (by decide)
      · exact next.closed inside

/-- Behind the keyword a declaration is read as it was written, up to its closing bracket. -/
theorem declaration?_read (declaration : Declaration) (rest : List Char) :
    declaration? (" void ".toList ++ declaration.name ++
        '(' :: (listed declaration.spelled declaration.parameters ++ ')' :: rest)) =
      some (declaration.signature, ')' :: rest) := by
  have unbracketed : '(' ∉ " void ".toList ++ declaration.name := by
    rw [List.mem_append]
    rintro (inside | inside)
    · exact absurd inside (by decide)
    · exact declaration.unbracketed inside
  obtain ⟨named, opened⟩ := parts_of_notMem unbracketed
    (listed declaration.spelled declaration.parameters ++ ')' :: rest)
  obtain ⟨inner, closed⟩ := parts_of_notMem
    (closed_listed declaration.spelled declaration.parameters) rest
  have word : lastWord (" void ".toList ++ declaration.name) = declaration.name :=
    @lastWord_append " void".toList _ ' ' (by decide) declaration.nonempty declaration.solid
  rw [declaration?, opened, named]
  dsimp only
  rw [closed, inner]
  dsimp only
  rw [word, parameters_listed, Declaration.signature]

private theorem kernels_of_absent {source : List Char} (absent : ¬ keyword <:+: source) :
    kernels source = [] := by
  rw [kernels, after?_eq_none absent]

private theorem kernels_of_declared {source behind rest : List Char} {signature : Signature}
    (found : after? keyword source = some behind)
    (declared : declaration? behind = some (signature, rest)) :
    kernels source = signature :: kernels rest := by
  rw [kernels, found]
  dsimp only
  rw [declared]

/-- A bracket does not belong to the keyword, so a text behind one declares nothing either. -/
def Filler.bracketed (filler : Filler) : Filler where
  text := ')' :: filler.text
  quiet inside := by
    rcases List.infix_cons_iff.mp inside with early | late
    · have begun : keyword = '_' :: keyword.tail := by decide
      rw [begun, List.cons_prefix_cons] at early
      exact absurd early.1 (by decide)
    · exact filler.quiet late

theorem kernels_read (leading : Filler) (pieces : List (Declaration × Filler)) :
    kernels (written leading pieces) = pieces.map fun piece => piece.1.signature := by
  induction pieces generalizing leading with
  | nil => rw [written, List.flatMap_nil, List.append_nil, kernels_of_absent leading.quiet, List.map_nil]
  | cons piece pieces ih =>
    obtain ⟨declaration, filler⟩ := piece
    -- The scan goes on at the closing bracket, in front of what follows the declaration.
    have found := after?_append unbordered_keyword leading.quiet (" void ".toList ++ declaration.name ++
      '(' :: (listed declaration.spelled declaration.parameters ++ written filler.bracketed pieces))
    have declared := declaration?_read declaration (filler.text ++
      pieces.flatMap fun piece => piece.1.text ++ piece.2.text)
    have same : written leading ((declaration, filler) :: pieces) = leading.text ++ (keyword ++
        (" void ".toList ++ declaration.name ++ '(' :: (listed declaration.spelled declaration.parameters ++
          written filler.bracketed pieces))) := by
      simp only [written, List.flatMap_cons, Declaration.text, Filler.bracketed, List.append_assoc,
        List.cons_append, List.nil_append]
    rw [same, kernels_of_declared found declared, List.map_cons, ← ih filler.bracketed]
    rfl

/-- Reading a source gives back exactly what was declared in it: the kernels of a source are those that
were written, in order, each with its name and the kinds of its parameters, whatever other text stands
before, between and behind the declarations. No source is cut at a place where it cannot be cut, so
reading ends without a fault on all others, too. -/
theorem declarations_recovered :
    (∀ (leading : Filler) (pieces : List (Declaration × Filler)),
      kernels (written leading pieces) = pieces.map (fun piece => piece.1.signature) ∧
      guardedKernels (written leading pieces) = .ok (pieces.map fun piece => piece.1.signature)) ∧
    ∀ source : List Char, guardedKernels source = .ok (kernels source) := by
  refine ⟨fun leading pieces => ?_, guardedKernels_eq⟩
  rw [guardedKernels_eq, kernels_read]
  exact ⟨rfl, rfl⟩

/-- A beginning of the keyword in front of a declaration is passed, and so is the keyword inside one. -/
example :
    let count : Parameter := ⟨"int n".toList, by decide, by decide, by decide, by decide, by decide⟩
    let scratch : Parameter :=
      ⟨"__local float *__kernel".toList, by decide, by decide, by decide, by decide, by decide⟩
    let declaration : Declaration :=
      ⟨['f'], [count, scratch], true, by decide, List.forall_mem_singleton.mpr rfl, by decide⟩
    let leading : Filler := ⟨"__ker".toList, by decide⟩
    kernels (written leading [(declaration, leading)]) = [⟨"f", [.scalar 4, .localMemory]⟩] := by
  exact (kernels_read _ _).trans (by decide)

end Simulator.Source
end Offload
