import Offload.Proofs.Phrases

/-! Parameters as a program declares them, with a type and a name. Which kind of argument a parameter
takes is looked for in its whole text, so it is the kind of its type exactly if its name has none of
the words that are looked for first. -/
namespace Offload.Simulator.Source
open Text

/-- The scalar types of kernels. -/
inductive Builtin where
  | char | uchar | short | ushort | half | int | uint | float | long | ulong | double | size
  deriving DecidableEq, Repr

namespace Builtin

def word : Builtin → List Char
  | char => "char".toList
  | uchar => "uchar".toList
  | short => "short".toList
  | ushort => "ushort".toList
  | half => "half".toList
  | int => "int".toList
  | uint => "uint".toList
  | float => "float".toList
  | long => "long".toList
  | ulong => "ulong".toList
  | double => "double".toList
  | size => "size_t".toList

/-- Bytes of one value. -/
def width : Builtin → Nat
  | char | uchar => 1
  | short | ushort | half => 2
  | int | uint | float => 4
  | long | ulong | double | size => 8

end Builtin

/-- What may stand before a scalar type. -/
inductive Qualifier where
  | constant | unsigned
  deriving DecidableEq, Repr

def Qualifier.word : Qualifier → List Char
  | constant => "const".toList
  | unsigned => "unsigned".toList

/-- Where a pointer points; for local memory there is a word with and one without underscores. -/
inductive Storage where
  | everywhere | group | plainGroup
  deriving DecidableEq, Repr

def Storage.word : Storage → List Char
  | everywhere => "__global".toList
  | group => "__local".toList
  | plainGroup => "local".toList

def isNameChar (char : Char) : Bool := char.isAlphanum || char == '_'

/-- A name as programs write it: letters, digits and underscores, and no digit first. -/
structure Identifier where
  first : Char
  others : List Char
  letter : (first.isAlpha || first == '_') = true
  named : ∀ char ∈ others, isNameChar char = true

def Identifier.text (name : Identifier) : List Char := name.first :: name.others

/-- A parameter with its type and its name. -/
inductive TypedParameter where
  | scalar (qualifiers : List (Qualifier × Gap)) (type : Builtin) (gap : Gap) (name : Identifier)
  | pointer (storage : Storage) (gap : Gap) (type : Builtin) (behind : Gap) (name : Identifier)

namespace TypedParameter

def name : TypedParameter → Identifier
  | scalar _ _ _ name | pointer _ _ _ _ name => name

/-- The words before the name. -/
def leading : TypedParameter → List (List Char × Gap)
  | scalar qualifiers type gap _ =>
    qualifiers.map (fun qualifier => (qualifier.1.word, qualifier.2)) ++ [(type.word, gap)]
  | pointer storage gap type behind _ => [(storage.word, gap), (type.word ++ ['*'], behind)]

def text (parameter : TypedParameter) : List Char := spaced parameter.leading parameter.name.text

/-- The kind of a parameter of this type. -/
def kind : TypedParameter → ParameterKind
  | scalar _ type _ _ => .scalar type.width
  | pointer .everywhere _ _ _ _ => .pointer
  | pointer .group _ _ _ _ | pointer .plainGroup _ _ _ _ => .localMemory

end TypedParameter

/-- The word by which local memory is known anywhere in a text. -/
def localWord : List Char := "__local".toList

/-- The words by which a scalar of this size is known; without one it has four bytes. -/
def marks : (size : Nat) → List (List Char)
  | 8 => ["double".toList, "long".toList, "size_t".toList]
  | 2 => ["short".toList, "half".toList]
  | 1 => ["char".toList]
  | _ => []

/-- A text has one of the words for this size. -/
def Marked (size : Nat) (text : List Char) : Prop := ∃ mark ∈ marks size, mark <:+: text

theorem any_occursIn_iff {words : List (List Char)} {text : List Char} :
    words.any (occursIn · text) = true ↔ ∃ word ∈ words, word <:+: text := by
  simp only [List.any_eq_true, occursIn_iff]

instance (size : Nat) (text : List Char) : Decidable (Marked size text) :=
  decidable_of_iff ((marks size).any (occursIn · text) = true) any_occursIn_iff

/-- The size of the first words that are found, in the order in which they are looked for. -/
def sizeShown (shows : Nat → Prop) [DecidablePred shows] : Nat :=
  if shows 8 then 8 else if shows 2 then 2 else if shows 1 then 1 else 4

/-- The sizes whose words are looked for before those of this size. -/
def outranking : (size : Nat) → List Nat
  | 8 => []
  | 2 => [8]
  | 1 => [8, 2]
  | _ => [8, 2, 1]

/-- The name of a parameter does not speak for another kind than that of its type. -/
def TypedParameter.Plain : TypedParameter → Prop
  | scalar _ type _ name =>
    ¬ localWord <:+: name.text ∧ ∀ size ∈ outranking type.width, ¬ Marked size name.text
  | pointer .everywhere _ _ _ name => ¬ localWord <:+: name.text
  | pointer .group _ _ _ _ => True
  | pointer .plainGroup gap _ _ name => gap.text.head? = some ' ' ∨ localWord <:+: name.text

theorem isBlank_of_nameChar {char : Char} (named : isNameChar char = true) : isBlank char = false := by
  delta isNameChar Char.isAlphanum Char.isAlpha Char.isUpper Char.isLower Char.isDigit at named
  simp only [Bool.or_eq_true, Bool.and_eq_true, decide_eq_true_eq, beq_iff_eq, UInt32.le_iff_toNat_le,
    ge_iff_le] at named
  change (((65 ≤ char.toNat ∧ char.toNat ≤ 90) ∨ (97 ≤ char.toNat ∧ char.toNat ≤ 122)) ∨
    (48 ≤ char.toNat ∧ char.toNat ≤ 57)) ∨ char = '_' at named
  rcases named with ((upper | lower) | digit) | rfl
  · simp [isBlank]
    omega
  · simp [isBlank]
    omega
  · simp [isBlank]
    omega
  · rfl

private theorem Identifier.text_ne_nil (name : Identifier) : name.text ≠ [] := List.cons_ne_nil _ _

theorem Identifier.named_text (name : Identifier) : ∀ char ∈ name.text, isNameChar char = true := by
  intro char member
  rcases List.mem_cons.mp member with rfl | later
  · have letter := name.letter
    rw [isNameChar, Char.isAlphanum]
    simp only [Bool.or_eq_true] at letter ⊢
    exact letter.imp Or.inl id
  · exact name.named char later

/-- The characters of the words before a name. -/
def isWordChar (char : Char) : Bool := isNameChar char || char == '*'

private theorem isBlank_of_wordChar {char : Char} (worded : isWordChar char = true) : isBlank char = false := by
  rcases Bool.or_eq_true_iff.mp worded with named | star
  · exact isBlank_of_nameChar named
  · rw [eq_of_beq star]
    rfl

namespace TypedParameter

theorem mem_leading_scalar {qualifiers : List (Qualifier × Gap)} {type : Builtin} {gap : Gap}
    {name : Identifier} {part : List Char × Gap}
    (member : part ∈ (scalar qualifiers type gap name).leading) :
    (∃ qualifier : Qualifier, part.1 = qualifier.word) ∨ part.1 = type.word := by
  rcases List.mem_append.mp member with before | last
  · obtain ⟨⟨qualifier, between⟩, _, rfl⟩ := List.mem_map.mp before
    exact Or.inl ⟨qualifier, rfl⟩
  · rw [List.mem_singleton.mp last]
    exact Or.inr rfl

/-- The words before the name are words. -/
theorem word_of_leading (parameter : TypedParameter) : ∀ part ∈ parameter.leading,
    part.1 ≠ [] ∧ part.1.all isWordChar = true := by
  cases parameter with
  | scalar qualifiers type gap name =>
    intro part member
    rcases mem_leading_scalar member with ⟨qualifier, spelled⟩ | spelled <;> rw [spelled]
    · cases qualifier <;> exact ⟨List.cons_ne_nil _ _, rfl⟩
    · cases type <;> exact ⟨List.cons_ne_nil _ _, rfl⟩
  | pointer storage gap type behind name =>
    intro part member
    rcases List.mem_cons.mp member with rfl | last
    · cases storage <;> exact ⟨List.cons_ne_nil _ _, rfl⟩
    · rw [List.mem_singleton.mp last]
      cases type <;> exact ⟨List.cons_ne_nil _ _, rfl⟩

theorem exists_leading (parameter : TypedParameter) :
    ∃ first gap more, parameter.leading = (first, gap) :: more := by
  cases parameter with
  | scalar qualifiers type gap name => cases qualifiers <;> exact ⟨_, _, _, rfl⟩
  | pointer storage gap type behind name => exact ⟨_, _, _, rfl⟩

theorem firm_leading (parameter : TypedParameter) : ∀ part ∈ parameter.leading,
    ∀ char ∈ part.1, isBlank char = false := by
  intro part listed char member
  exact isBlank_of_wordChar (List.all_eq_true.mp (parameter.word_of_leading part listed).2 char member)

theorem mem_text {parameter : TypedParameter} {char : Char} (member : char ∈ parameter.text) :
    isBlank char = true ∨ isWordChar char = true := by
  rcases mem_spaced member with blank | ⟨part, listed, inside⟩ | named
  · exact Or.inl blank
  · exact Or.inr (List.all_eq_true.mp (parameter.word_of_leading part listed).2 char inside)
  · exact Or.inr (by rw [isWordChar, parameter.name.named_text char named, Bool.true_or])

/-- A parameter with a type and a name can be written in a declaration. -/
def parameter (typed : TypedParameter) : Parameter where
  text := typed.text
  nonempty := by simp [text, spaced, Identifier.text]
  trimmed := by
    apply trim_of_ends
    · obtain ⟨first, gap, more, words⟩ := typed.exists_leading
      have listed : (first, gap) ∈ typed.leading := words ▸ List.mem_cons_self
      obtain ⟨nonempty, _⟩ := typed.word_of_leading _ listed
      intro char begins
      rw [text, words, spaced_cons, List.head?_append_of_ne_nil _ nonempty] at begins
      exact typed.firm_leading _ listed char (List.mem_of_mem_head? begins)
    · intro char ends
      rw [text, spaced, List.getLast?_append_of_ne_nil _ typed.name.text_ne_nil] at ends
      exact isBlank_of_nameChar (typed.name.named_text char (List.mem_of_mem_getLast? ends))
  named same := by
    obtain ⟨first, gap, more, words⟩ := typed.exists_leading
    obtain ⟨char, others, spelled⟩ := List.exists_cons_of_ne_nil gap.nonempty
    have between : char ∈ gap.text := spelled ▸ List.mem_cons_self
    have member : char ∈ typed.text := by
      rw [text, words, spaced_cons]
      exact List.mem_append_right _ (List.mem_append_left _ between)
    have solid : ∀ char ∈ "void".toList, isBlank char = false := solid_of_all rfl
    rw [same] at member
    exact notMem_of_solid solid (gap.blank char between) member
  single member := by
    rcases mem_text member with blank | worded
    · exact absurd blank (by decide)
    · exact absurd worded (by decide)
  closed member := by
    rcases mem_text member with blank | worded
    · exact absurd blank (by decide)
    · exact absurd worded (by decide)

end TypedParameter

/-- The words that are looked for have no white space. -/
theorem firm_marks {size : Nat} {mark : List Char} (listed : mark ∈ marks size) :
    ∀ char ∈ mark, isBlank char = false := by
  apply solid_of_all
  unfold marks at listed
  split at listed
  · revert mark
    decide
  · revert mark
    decide
  · revert mark
    decide
  · cases listed

theorem firm_localWord : ∀ char ∈ localWord, isBlank char = false := solid_of_all rfl

/-- A text shows a size in one of its words or not at all. -/
theorem marked_spaced {size : Nat} {leading : List (List Char × Gap)} {last : List Char} :
    Marked size (spaced leading last) ↔ (∃ part ∈ leading, Marked size part.1) ∨ Marked size last := by
  constructor
  · rintro ⟨mark, listed, found⟩
    rcases (infix_spaced_iff (firm_marks listed)).mp found with ⟨part, member, inside⟩ | inside
    · exact Or.inl ⟨part, member, mark, listed, inside⟩
    · exact Or.inr ⟨mark, listed, inside⟩
  · rintro (⟨part, member, mark, listed, inside⟩ | ⟨mark, listed, inside⟩)
    · exact ⟨mark, listed, (infix_spaced_iff (firm_marks listed)).mpr (Or.inl ⟨part, member, inside⟩)⟩
    · exact ⟨mark, listed, (infix_spaced_iff (firm_marks listed)).mpr (Or.inr inside)⟩

/-- What a parameter's kind is found by, said of occurrences. -/
theorem parameterKind_eq (text : List Char) :
    parameterKind text =
      if localWord <:+: text ∨ (strip? "local ".toList text).isSome = true then .localMemory
      else if '*' ∈ text then .pointer
      else .scalar (sizeShown (Marked · text)) := by
  have known : ∀ size, Marked size text ↔ (marks size).any (occursIn · text) = true := fun _ =>
    any_occursIn_iff.symm
  have marked : localWord <:+: text ↔ occursIn "__local".toList text = true := occursIn_iff.symm
  simp only [parameterKind, sizeShown, known, marked, marks, List.any_cons, List.any_nil, Bool.or_false,
    Bool.or_eq_true, or_assoc, List.contains_iff_mem, apply_ite ParameterKind.scalar]

/-- Each type has the words of its own size and of no other. -/
theorem Builtin.marked_word_iff (type : Builtin) :
    ∀ size ∈ [8, 2, 1], (Marked size type.word ↔ size = type.width) := by
  cases type <;> decide

private theorem Qualifier.not_marked_word (qualifier : Qualifier) :
    ∀ size ∈ [8, 2, 1], ¬ Marked size qualifier.word := by
  cases qualifier <;> decide

private theorem Builtin.named_word (type : Builtin) : type.word.all isNameChar = true := by
  cases type <;> rfl

private theorem Qualifier.named_word (qualifier : Qualifier) : qualifier.word.all isNameChar = true := by
  cases qualifier <;> rfl

private theorem Builtin.word_ne (type : Builtin) : type.word ≠ "local".toList := by
  cases type <;> decide

private theorem Qualifier.word_ne (qualifier : Qualifier) : qualifier.word ≠ "local".toList := by
  cases qualifier <;> decide

theorem Builtin.free_word (type : Builtin) : ¬ localWord <:+: type.word ++ ['*'] := by
  rw [← occursIn_iff]
  cases type <;> decide

private theorem Qualifier.free_word (qualifier : Qualifier) : ¬ localWord <:+: qualifier.word := by
  rw [← occursIn_iff]
  cases qualifier <;> decide

private theorem Storage.localWord_iff (storage : Storage) : localWord <:+: storage.word ↔ storage = .group := by
  rw [← occursIn_iff]
  cases storage <;> decide

/-- The size that is found first is the one of the type, unless a name shows one that is looked for
before it. -/
theorem sizeShown_eq_iff {shows named : Nat → Prop} [DecidablePred shows] (type : Builtin)
    (split : ∀ size ∈ [8, 2, 1], (shows size ↔ size = type.width ∨ named size)) :
    sizeShown shows = type.width ↔ ∀ size ∈ outranking type.width, ¬ named size := by
  have listed : type.width = 1 ∨ type.width = 2 ∨ type.width = 4 ∨ type.width = 8 := by
    cases type <;> decide
  have eight := split 8 (by simp)
  have two := split 2 (by simp)
  have one := split 1 (by simp)
  rcases listed with width | width | width | width
  all_goals
    rw [width] at eight two one ⊢
    by_cases first : named 8 <;> by_cases second : named 2 <;> by_cases third : named 1 <;>
      simp [sizeShown, outranking, eight, two, one, first, second, third]

namespace TypedParameter
variable {qualifiers : List (Qualifier × Gap)} {type : Builtin} {gap behind : Gap} {name : Identifier}
  {storage : Storage}

/-- A scalar parameter shows the size of its type, and what its name shows. -/
theorem marked_scalar_iff {size : Nat} (listed : size ∈ [8, 2, 1]) :
    Marked size (scalar qualifiers type gap name).text ↔ size = type.width ∨ Marked size name.text := by
  rw [text, marked_spaced, ← type.marked_word_iff size listed]
  constructor
  · rintro (⟨part, member, shown⟩ | shown)
    · rcases mem_leading_scalar member with ⟨qualifier, spelled⟩ | spelled <;> rw [spelled] at shown
      · exact absurd shown (qualifier.not_marked_word size listed)
      · exact Or.inl shown
    · exact Or.inr shown
  · rintro (shown | shown)
    · exact Or.inl ⟨_, List.mem_append_right _ (List.mem_singleton.mpr rfl), shown⟩
    · exact Or.inr shown

/-- Only a name can make a scalar parameter look like local memory. -/
theorem localWord_scalar_iff : localWord <:+: (scalar qualifiers type gap name).text ↔
    localWord <:+: name.text := by
  rw [text, infix_spaced_iff firm_localWord, or_iff_right]
  · rfl
  · rintro ⟨part, member, inside⟩
    rcases mem_leading_scalar member with ⟨qualifier, spelled⟩ | spelled <;> rw [spelled] at inside
    · exact qualifier.free_word inside
    · exact type.free_word (inside.trans (List.prefix_append _ _).isInfix)

private theorem star_notMem_scalar : '*' ∉ (scalar qualifiers type gap name).text := by
  intro member
  rcases mem_spaced member with blank | ⟨part, listed, inside⟩ | named
  · exact absurd blank (by decide)
  · rcases mem_leading_scalar listed with ⟨qualifier, spelled⟩ | spelled <;> rw [spelled] at inside
    · exact absurd (List.all_eq_true.mp qualifier.named_word '*' inside) (by decide)
    · exact absurd (List.all_eq_true.mp type.named_word '*' inside) (by decide)
  · exact absurd (name.named_text '*' named) (by decide)

/-- A text begins as one for local memory only if its first word says so. -/
theorem begins_local_iff {parameter : TypedParameter} {first : List Char} {more : List (List Char × Gap)}
    (words : parameter.leading = (first, gap) :: more) :
    (strip? "local ".toList parameter.text).isSome = true ↔
      first = "local".toList ∧ gap.text.head? = some ' ' := by
  have firm := parameter.firm_leading (first, gap) (words ▸ List.mem_cons_self)
  have solid : ∀ char ∈ "local".toList, isBlank char = false := solid_of_all rfl
  rw [text, words]
  exact strip?_spaced solid firm

theorem parameterKind_scalar : parameterKind (scalar qualifiers type gap name).text =
    if localWord <:+: name.text then .localMemory
    else .scalar (sizeShown (Marked · (scalar qualifiers type gap name).text)) := by
  have begins : ¬ (strip? "local ".toList (scalar qualifiers type gap name).text).isSome = true := by
    obtain ⟨first, between, more, words⟩ := (scalar qualifiers type gap name).exists_leading
    rw [begins_local_iff words]
    rintro ⟨same, _⟩
    have listed : (first, between) ∈ (scalar qualifiers type gap name).leading :=
      words ▸ List.mem_cons_self
    rcases mem_leading_scalar listed with ⟨qualifier, spelled⟩ | spelled
    · exact qualifier.word_ne (spelled.symm.trans same)
    · exact type.word_ne (spelled.symm.trans same)
  rw [parameterKind_eq, if_neg star_notMem_scalar]
  simp only [localWord_scalar_iff, eq_false begins, or_false]

theorem parameterKind_pointer : parameterKind (pointer storage gap type behind name).text =
    if storage = .group ∨ localWord <:+: name.text ∨ (storage = .plainGroup ∧ gap.text.head? = some ' ')
    then .localMemory else .pointer := by
  have words : (pointer storage gap type behind name).leading =
      (storage.word, gap) :: [(type.word ++ ['*'], behind)] := rfl
  have starred : '*' ∈ (pointer storage gap type behind name).text := by
    simp [text, leading, spaced]
  have word_iff : storage.word = "local".toList ↔ storage = .plainGroup := by
    cases storage <;> decide
  have marked : localWord <:+: (pointer storage gap type behind name).text ↔
      storage = .group ∨ localWord <:+: name.text := by
    rw [text, infix_spaced_iff firm_localWord, words, List.exists_mem_cons_iff, storage.localWord_iff]
    simp only [List.mem_singleton, exists_eq_left, type.free_word, or_false]
    rfl
  simp only [parameterKind_eq, marked, begins_local_iff words, word_iff, starred, if_true, or_assoc]

/-- The kind of a parameter is found to be that of its type exactly if its name is plain. -/
theorem parameterKind_eq_iff (parameter : TypedParameter) :
    parameterKind parameter.text = parameter.kind ↔ parameter.Plain := by
  cases parameter with
  | scalar qualifiers type gap name =>
    rw [parameterKind_scalar, kind, Plain]
    by_cases mistaken : localWord <:+: name.text
    · simp [mistaken]
    · simp [mistaken, sizeShown_eq_iff type fun size listed => marked_scalar_iff listed]
  | pointer storage gap type behind name =>
    rw [parameterKind_pointer]
    cases storage <;> by_cases mistaken : localWord <:+: name.text <;> simp [kind, Plain, mistaken]

end TypedParameter
end Offload.Simulator.Source
