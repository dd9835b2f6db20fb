import Mathlib.Algebra.Group.Nat.Defs
import Offload.Proofs.Accepted
import Offload.Proofs.Encoding

/-! What the compiler makes of a source text. Whether it accepts one is told by counting brackets,
what it says when it refuses one can be handed over as a text that is not blank, and the names of
the kernels that it finds are written in the source. -/
namespace Offload.Simulator

/-- Brackets match if none is closed that is not open, and none is open at the end. -/
structure Balanced (opening closing : Char) (text : List Char) : Prop where
  within : ∀ initial, initial <+: text → initial.count closing ≤ initial.count opening
  whole : text.count closing = text.count opening

namespace Source

private theorem forall_prefix_cons {char : Char} {rest : List Char} {holds : List Char → Prop} :
    (∀ initial, initial <+: char :: rest → holds initial) ↔
      holds [] ∧ ∀ initial, initial <+: rest → holds (char :: initial) := by
  constructor
  · intro all
    exact ⟨all [] List.nil_prefix, fun initial leads => all _ (List.cons_prefix_cons.mpr ⟨rfl, leads⟩)⟩
  · rintro ⟨empty, longer⟩ initial leads
    rcases List.prefix_cons_iff.mp leads with rfl | ⟨shorter, rfl, further⟩
    · exact empty
    · exact longer shorter further

private theorem balancedFrom_iff {opening closing : Char} (apart : opening ≠ closing) (depth : Nat)
    (text : List Char) :
    balancedFrom opening closing depth text = true ↔
      (∀ initial, initial <+: text → initial.count closing ≤ depth + initial.count opening) ∧
        text.count closing = depth + text.count opening := by
  induction text generalizing depth with
  | nil =>
    have ended : balancedFrom opening closing depth [] = (depth == 0) := by cases depth <;> rfl
    rw [ended, beq_iff_eq]
    constructor
    · rintro rfl
      exact ⟨fun initial leads => by rw [List.prefix_nil.mp leads]; exact Nat.zero_le _, rfl⟩
    · rintro ⟨_, whole⟩
      exact whole.symm
  | cons char rest ih =>
    rw [forall_prefix_cons, balancedFrom.eq_def]
    dsimp only
    by_cases opens : char = opening
    · subst opens
      simp only [if_true, ih, List.count_cons_self, List.count_cons_of_ne apart, List.count_nil,
        Nat.zero_le, true_and, Nat.add_assoc, Nat.add_comm 1]
    · by_cases closes : char = closing
      · subst closes
        simp only [if_neg opens, if_true, List.count_cons_self, List.count_cons_of_ne opens,
          List.count_nil, Nat.zero_le, true_and]
        cases depth with
        -- The beginning that ends with this bracket already has one too many.
        | zero =>
          simp only [Bool.false_eq_true, false_iff]
          rintro ⟨within, _⟩
          exact absurd (within [] List.nil_prefix) (by simp)
        | succ depth =>
          simp only [ih, Nat.add_right_comm depth 1, Nat.add_le_add_iff_right, Nat.add_right_cancel_iff]
      · simp only [if_neg opens, if_neg closes, ih, List.count_cons_of_ne opens,
          List.count_cons_of_ne closes, List.count_nil, Nat.zero_le, true_and]

/-- Curly and round brackets match, each on their own. -/
def Matched (source : List Char) : Prop :=
  Balanced '\x7b' '\x7d' source ∧ Balanced '(' ')' source

theorem isBalanced_iff (source : List Char) : isBalanced source = true ↔ Matched source := by
  have told : ∀ {opening closing : Char}, opening ≠ closing →
      (balancedFrom opening closing 0 source = true ↔ Balanced opening closing source) := by
    intro opening closing apart
    rw [balancedFrom_iff apart]
    simp only [Nat.zero_add]
    exact ⟨fun matching => ⟨matching.1, matching.2⟩, fun matching => ⟨matching.within, matching.whole⟩⟩
  rw [isBalanced, Bool.and_eq_true, told (by decide), told (by decide), Matched]

instance (source : List Char) : Decidable (Matched source) :=
  decidable_of_iff _ (isBalanced_iff source)

private theorem free_decimal (value : Nat) : '\x00' ∉ (Text.decimal value).toList := by
  intro member
  rw [Text.decimal, String.toList_ofList] at member
  obtain ⟨small, below, nul⟩ := Text.exists_digit_of_mem_digits (by decide) member
  have table : ∀ small : Fin 10, Text.digit small.val ≠ '\x00' := by decide
  exact table ⟨small, below⟩ nul.symm

theorem free_bracketLog (source : List Char) : '\x00' ∉ (bracketLog source).toList := by
  have before : '\x00' ∉ "<source>:".toList := by decide
  have behind : '\x00' ∉ ":1: error: expected '\x7d' at end of input\n1 error generated.\n".toList := by
    decide
  simp only [bracketLog, String.toList_append, List.mem_append]
  rintro ((first | middle) | last)
  · exact before first
  · exact free_decimal _ middle
  · exact behind last

private theorem length_digits_le {base value count : Nat} (small : value < base ^ (count + 1)) :
    (Text.digits base value).length ≤ count + 1 := by
  induction count generalizing value with
  | zero =>
    rw [Nat.zero_add, pow_one] at small
    rw [Text.digits, dif_pos (Or.inl small)]
    exact Nat.le_refl 1
  | succ count ih =>
    rw [Text.digits]
    split
    · exact Nat.le_add_left 1 _
    · rw [pow_succ'] at small
      have below : value / base < base ^ (count + 1) := Nat.div_lt_of_lt_mul small
      rw [List.length_append]
      exact Nat.add_le_add_right (ih below) 1

theorem utf8ByteSize_decimal_le {value count : Nat} (small : value < 10 ^ (count + 1)) :
    (Text.decimal value).utf8ByteSize ≤ count + 1 := by
  have narrow : ∀ char ∈ Text.digits 10 value, char.utf8Size = 1 := by
    intro char member
    obtain ⟨digit, below, rfl⟩ := Text.exists_digit_of_mem_digits (by decide) member
    have table : ∀ digit : Fin 10, (Text.digit digit.val).utf8Size = 1 := by decide
    exact table ⟨digit, below⟩
  rw [Text.decimal, Text.Utf8.utf8ByteSize_of_narrow narrow]
  exact length_digits_le small

/-- The compiler's message on a source that fits into memory is short. -/
theorem utf8ByteSize_bracketLog_le {source : String} (fits : source.utf8ByteSize ≤ memoryLimit) :
    (bracketLog source.toList).utf8ByteSize ≤ 100 := by
  have few : (Text.lines source.toList).length ≤ memoryLimit :=
    Nat.le_trans (Text.length_lines_le _) (Nat.le_trans (Text.Utf8.length_le_utf8ByteSize source) fits)
  have number : (Text.decimal (max (Text.lines source.toList).length 1)).utf8ByteSize ≤ 18 + 1 := by
    refine utf8ByteSize_decimal_le ?_
    simp only [memoryLimit] at few
    omega
  have before : "<source>:".utf8ByteSize = 9 := by decide
  have behind : ":1: error: expected '\x7d' at end of input\n1 error generated.\n".utf8ByteSize ≤ 70 := by
    decide
  rw [bracketLog, String.utf8ByteSize_append, String.utf8ByteSize_append, before]
  omega

theorem exists_visible_bracketLog (source : List Char) :
    ∃ char ∈ (bracketLog source).toList, Text.isBlank char = false := by
  refine ⟨'<', ?_, rfl⟩
  have first : '<' ∈ "<source>:".toList := by decide
  simp only [bracketLog, String.toList_append, List.mem_append]
  exact Or.inl (Or.inl first)

private theorem mem_of_mem_lastWord {char : Char} {text : List Char} (member : char ∈ Text.lastWord text) :
    char ∈ text := by
  rw [Text.lastWord, List.mem_reverse] at member
  exact List.mem_reverse.mp
    ((List.dropWhile_suffix _).subset ((List.takeWhile_prefix _).subset member))

/-- The name in a declaration is written in it, and so is all that follows. -/
theorem declaration?_written {text rest : List Char} {signature : Signature}
    (declared : declaration? text = some (signature, rest)) :
    (∀ char ∈ signature.name.toList, char ∈ text) ∧ ∀ char ∈ rest, char ∈ text := by
  unfold declaration? at declared
  split at declared
  · cases declared
  · rename_i opening inner opened
    have inside : opening :: inner <:+ text := opened ▸ List.dropWhile_suffix _
    split at declared
    · cases declared
    · cases declared
      refine ⟨fun char member => ?_, fun char member => ?_⟩
      · rw [String.toList_ofList] at member
        exact (List.takeWhile_prefix _).subset (mem_of_mem_lastWord member)
      · exact inside.subset (List.mem_cons_of_mem _ ((List.dropWhile_suffix _).subset member))

theorem kernels_written (source : List Char) :
    ∀ signature ∈ kernels source, ∀ char ∈ signature.name.toList, char ∈ source := by
  induction source using kernels.induct with
  | case1 source missing =>
    intro signature member
    rw [kernels.eq_def, missing] at member
    cases member
  | case2 source behind found missing =>
    intro signature member
    rw [kernels.eq_def, found] at member
    dsimp only at member
    rw [missing] at member
    cases member
  | case3 source behind found first rest declared ih =>
    intro signature member char present
    obtain ⟨before, same⟩ := Text.after?_suffix found
    obtain ⟨named, remaining⟩ := declaration?_written declared
    have inside : ∀ char ∈ behind, char ∈ source := by
      intro char present
      rw [same]
      exact List.mem_append_right _ present
    rw [kernels.eq_def, found] at member
    dsimp only at member
    rw [declared] at member
    rcases List.mem_cons.mp member with rfl | later
    · exact inside char (named char present)
    · exact inside char (remaining char (ih signature later char present))

end Source

/-- Pieces of a source are put together as they stand, as far as there is room for them. -/
theorem Store.joinParts_some {joined : String} {pieces : List String}
    (fits : (joined ++ String.join pieces).utf8ByteSize ≤ memoryLimit) :
    joinParts joined (pieces.map some) = .ok (joined ++ String.join pieces) := by
  induction pieces generalizing joined with
  | nil => rw [List.map_nil, joinParts, String.join_nil, String.append_empty]
  | cons piece rest ih =>
    rw [String.join_cons, ← String.append_assoc] at fits ⊢
    have room : (joined ++ piece).utf8ByteSize ≤ memoryLimit := by
      rw [String.utf8ByteSize_append] at fits
      exact Nat.le_of_add_right_le fits
    rw [List.map_cons, joinParts, reserve_of_le room]
    exact ih fits

end Offload.Simulator
