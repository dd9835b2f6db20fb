import Mathlib.Data.List.Infix
import Offload.Proofs.Declarations

/-! Words with white space between them. A word without white space occurs in such a text only where
it occurs in one of the words, so each of them can be looked at on its own. -/
namespace Offload.Text

theorem occursIn_iff {word text : List Char} : occursIn word text = true ↔ word <:+: text := by
  constructor
  · intro found
    obtain ⟨behind, located⟩ := Option.isSome_iff_exists.mp found
    obtain ⟨before, same⟩ := after?_suffix located
    exact ⟨before, behind, same.symm⟩
  · intro inside
    induction text with
    | nil =>
      rw [occursIn, after?, if_pos (List.infix_nil.mp inside)]
      rfl
    | cons char rest ih =>
      rw [occursIn, after?]
      cases stripped : strip? word (char :: rest) with
      | some behind => rfl
      | none =>
        rcases List.infix_cons_iff.mp inside with ⟨behind, same⟩ | later
        · rw [strip?_eq_some.mpr same.symm] at stripped
          cases stripped
        · exact ih later

/-- A word that lacks a character cannot reach across it. -/
theorem prefix_parted_iff {word front rest : List Char} {char : Char} (free : char ∉ word) :
    word <+: front ++ char :: rest ↔ word <+: front := by
  induction front generalizing word with
  | nil =>
    cases word with
    | nil => simp
    | cons first others =>
      have different : first ≠ char := (List.ne_of_not_mem_cons free).symm
      simp [List.cons_prefix_cons, different]
  | cons next front ih =>
    cases word with
    | nil => simp
    | cons first others =>
      rw [List.cons_append, List.cons_prefix_cons, List.cons_prefix_cons,
        ih (List.not_mem_of_not_mem_cons free)]

theorem infix_parted_iff {word front rest : List Char} {char : Char} (free : char ∉ word) :
    word <:+: front ++ char :: rest ↔ word <:+: front ∨ word <:+: rest := by
  induction front with
  | nil =>
    have passed := @prefix_parted_iff word [] rest char free
    rw [List.nil_append] at passed ⊢
    rw [List.infix_cons_iff, passed, List.prefix_nil, List.infix_nil]
  | cons next front ih =>
    have passed := @prefix_parted_iff word (next :: front) rest char free
    rw [List.cons_append] at passed ⊢
    rw [List.infix_cons_iff, passed, ih, List.infix_cons_iff, or_assoc]

theorem solid_of_all {word : List Char} (tested : word.all (!isBlank ·) = true) :
    ∀ char ∈ word, isBlank char = false := by
  intro char member
  simpa using List.all_eq_true.mp tested char member

/-- White space between two words. -/
structure Gap where
  text : List Char
  nonempty : text ≠ []
  blank : ∀ char ∈ text, isBlank char = true

/-- A single space. -/
def Gap.space : Gap := ⟨[' '], List.cons_ne_nil _ _, by simp [isBlank]⟩

/-- Words with white space behind each of them, and a last word. -/
def spaced (leading : List (List Char × Gap)) (last : List Char) : List Char :=
  leading.flatMap (fun part => part.1 ++ part.2.text) ++ last

theorem spaced_cons (first : List Char) (gap : Gap) (leading : List (List Char × Gap)) (last : List Char) :
    spaced ((first, gap) :: leading) last = first ++ (gap.text ++ spaced leading last) := by
  rw [spaced, spaced, List.flatMap_cons, List.append_assoc, List.append_assoc]

section
variable {word last : List Char} {leading : List (List Char × Gap)}

theorem notMem_of_solid (solid : ∀ char ∈ word, isBlank char = false) {char : Char}
    (blank : isBlank char = true) : char ∉ word := by
  intro member
  rw [solid char member] at blank
  cases blank

/-- White space at the beginning of a text is of no account. -/
theorem infix_blanks_iff (solid : ∀ char ∈ word, isBlank char = false) {blanks rest : List Char}
    (white : ∀ char ∈ blanks, isBlank char = true) :
    word <:+: blanks ++ rest ↔ word <:+: [] ∨ word <:+: rest := by
  induction blanks with
  | nil =>
    rw [List.nil_append, List.infix_nil]
    exact ⟨Or.inr, Or.rec (fun empty => empty ▸ List.nil_infix) id⟩
  | cons char blanks ih =>
    have parted := @infix_parted_iff word [] (blanks ++ rest) char
      (notMem_of_solid solid (white char List.mem_cons_self))
    rw [List.nil_append] at parted
    rw [List.cons_append, parted, ih fun other member => white other (List.mem_cons_of_mem _ member),
      ← or_assoc, or_self]

private theorem infix_gap_iff (solid : ∀ char ∈ word, isBlank char = false) (front : List Char) (gap : Gap)
    (rest : List Char) : word <:+: front ++ (gap.text ++ rest) ↔ word <:+: front ∨ word <:+: rest := by
  have white := gap.blank
  rcases spelled : gap.text with _ | ⟨char, blanks⟩
  · exact absurd spelled gap.nonempty
  · rw [spelled] at white
    have parted := @infix_parted_iff word front (blanks ++ rest) char
      (notMem_of_solid solid (white char List.mem_cons_self))
    rw [List.cons_append, parted,
      infix_blanks_iff solid fun other member => white other (List.mem_cons_of_mem _ member)]
    constructor
    · rintro (early | empty | late)
      · exact Or.inl early
      · exact Or.inl (empty.trans List.nil_infix)
      · exact Or.inr late
    · exact Or.imp_right Or.inr

/-- A word without white space occurs in one of the words or nowhere. -/
theorem infix_spaced_iff (solid : ∀ char ∈ word, isBlank char = false) :
    word <:+: spaced leading last ↔ (∃ part ∈ leading, word <:+: part.1) ∨ word <:+: last := by
  induction leading with
  | nil => simp [spaced]
  | cons part leading ih =>
    rw [spaced_cons, infix_gap_iff solid, ih, List.exists_mem_cons_iff, or_assoc]

theorem mem_spaced {char : Char} (member : char ∈ spaced leading last) :
    isBlank char = true ∨ (∃ part ∈ leading, char ∈ part.1) ∨ char ∈ last := by
  rw [spaced, List.mem_append, List.mem_flatMap] at member
  rcases member with ⟨part, listed, member⟩ | member
  · rcases List.mem_append.mp member with inside | between
    · exact Or.inr (Or.inl ⟨part, listed, inside⟩)
    · exact Or.inl (part.2.blank char between)
  · exact Or.inr (Or.inr member)

theorem trim_of_ends {text : List Char} (begins : ∀ char ∈ text.head?, isBlank char = false)
    (ends : ∀ char ∈ text.getLast?, isBlank char = false) : trim text = text := by
  have kept : text.dropWhile isBlank = text := by
    cases text with
    | nil => rfl
    | cons first others =>
      rw [List.dropWhile_cons, begins first rfl]
      rfl
  have backwards : text.reverse.dropWhile isBlank = text.reverse := by
    cases reversed : text.reverse with
    | nil => rfl
    | cons last others =>
      have final : last ∈ text.getLast? := by
        rw [List.getLast?_eq_head?_reverse, reversed]
        rfl
      rw [List.dropWhile_cons, ends last final]
      rfl
  rw [trim, kept, trimEnd, backwards, List.reverse_reverse]

/-- The first word of a text ends where the first white space begins. -/
theorem takeWhile_front {front rest : List Char} {blank : Char}
    (solid : ∀ char ∈ front, isBlank char = false) (white : isBlank blank = true) :
    (front ++ blank :: rest).takeWhile (!isBlank ·) = front := by
  have passed : ∀ char ∈ front, (!isBlank char) = true := by
    intro char member
    rw [solid char member]
    rfl
  rw [List.takeWhile_append_of_pos passed, List.takeWhile_cons, white]
  simp

/-- A word with a space behind it begins a text if it is the first word and a space follows. -/
theorem strip?_spaced {first : List Char} {gap : Gap} (solid : ∀ char ∈ word, isBlank char = false)
    (firm : ∀ char ∈ first, isBlank char = false) :
    (strip? (word ++ [' ']) (spaced ((first, gap) :: leading) last)).isSome = true ↔
      first = word ∧ gap.text.head? = some ' ' := by
  rw [spaced_cons]
  rcases spelled : gap.text with _ | ⟨blank, blanks⟩
  · exact absurd spelled gap.nonempty
  have parted : isBlank blank = true := gap.blank blank (spelled ▸ List.mem_cons_self)
  constructor
  · intro found
    obtain ⟨behind, stripped⟩ := Option.isSome_iff_exists.mp found
    have same := strip?_eq_some.mp stripped
    rw [List.append_assoc, List.singleton_append, List.cons_append] at same
    have words := congrArg (List.takeWhile (!isBlank ·)) same
    rw [takeWhile_front firm parted, takeWhile_front solid (by simp [isBlank])] at words
    subst words
    rw [List.append_cancel_left_eq, List.cons.injEq] at same
    exact ⟨rfl, congrArg some same.1⟩
  · rintro ⟨rfl, begins⟩
    cases begins
    have stripped : strip? (first ++ [' ']) (first ++ (' ' :: blanks ++ spaced leading last)) =
        some (blanks ++ spaced leading last) := by
      rw [strip?_eq_some, List.append_assoc, List.singleton_append, List.cons_append]
    rw [stripped]
    rfl

end
end Offload.Text
