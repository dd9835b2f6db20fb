import Offload.Proofs.Bounds
import Offload.Proofs.Encoding
import Offload.Simulator.Source

/-! The kernels of a source, found by byte positions. A text is cut at positions that a search has
found, and cutting it inside a character, behind its end or backwards is a fault. No source has one,
whatever stands in it: a search only finds places where a character begins. -/
namespace Offload

namespace Text

/-- The bytes that a text takes. -/
def byteLength (text : List Char) : Nat := (Utf8.encode text).length

/-- The two parts of a text at a byte position. There are none inside a character or behind the end. -/
def cutAt? : (position : Nat) → (text : List Char) → Option (List Char × List Char)
  | 0, text => some ([], text)
  | _ + 1, [] => none
  | position + 1, char :: rest =>
    if char.utf8Size ≤ position + 1 then
      (cutAt? (position + 1 - char.utf8Size) rest).map fun parts => (char :: parts.1, parts.2)
    else none

/-- The byte position of the first occurrence of a word. -/
def position? (word : List Char) : (text : List Char) → Option Nat
  | [] => if word = [] then some 0 else none
  | char :: rest =>
    match strip? word (char :: rest) with
    | some _ => some 0
    | none => (position? word rest).map (char.utf8Size + ·)

@[simp] theorem byteLength_nil : byteLength [] = 0 := rfl

@[simp] theorem byteLength_cons (char : Char) (rest : List Char) :
    byteLength (char :: rest) = char.utf8Size + byteLength rest := by
  rw [byteLength, Utf8.encode, List.flatMap_cons, List.length_append, Utf8.length_encodeChar]
  rfl

@[simp] theorem byteLength_append (front rest : List Char) :
    byteLength (front ++ rest) = byteLength front + byteLength rest := by
  rw [byteLength, Utf8.encode, List.flatMap_append, List.length_append]
  rfl

/-- A text can be cut behind each of its beginnings. -/
theorem cutAt?_append (front rest : List Char) :
    cutAt? (byteLength front) (front ++ rest) = some (front, rest) := by
  induction front with
  | nil => rw [byteLength_nil, List.nil_append, cutAt?]
  | cons char front ih =>
    have positive := char.utf8Size_pos
    obtain ⟨size, sized⟩ : ∃ size, char.utf8Size + byteLength front = size + 1 :=
      Nat.exists_eq_succ_of_ne_zero (by omega)
    have onward : size + 1 - char.utf8Size = byteLength front := by omega
    rw [byteLength_cons, sized, List.cons_append, cutAt?, if_pos (by omega), onward, ih]
    rfl

/-- Where a text is cut, one of its beginnings ends. -/
theorem parts_of_cutAt? {position : Nat} {text front rest : List Char}
    (cut : cutAt? position text = some (front, rest)) :
    text = front ++ rest ∧ position = byteLength front := by
  fun_induction cutAt? position text generalizing front with
  | case1 =>
    cases cut
    exact ⟨rfl, rfl⟩
  | case2 => cases cut
  | case3 position char others fits ih =>
    obtain ⟨parts, further, same⟩ := Option.map_eq_some_iff.mp cut
    cases same
    obtain ⟨rfl, placed⟩ := ih further
    refine ⟨rfl, ?_⟩
    rw [byteLength_cons]
    omega
  | case4 => cases cut

/-- A word is found where the text before it ends. -/
theorem position?_of_after? {word text behind : List Char} (found : after? word text = some behind) :
    ∃ front, text = front ++ word ++ behind ∧ position? word text = some (byteLength front) := by
  induction text with
  | nil =>
    rw [after?] at found
    split at found
    · rename_i empty
      cases found
      exact ⟨[], by simp [empty], by rw [position?, if_pos empty, byteLength_nil]⟩
    · cases found
  | cons char rest ih =>
    rw [after?] at found
    split at found
    · rename_i stripped
      cases found
      refine ⟨[], strip?_eq_some.mp stripped, ?_⟩
      rw [position?, stripped]
      rfl
    · rename_i missing
      obtain ⟨front, same, placed⟩ := ih found
      refine ⟨char :: front, by simp [same], ?_⟩
      rw [position?, missing, placed, byteLength_cons]
      rfl

private theorem position?_eq_none {word text : List Char} (missing : after? word text = none) :
    position? word text = none := by
  induction text with
  | nil =>
    rw [after?] at missing
    split at missing
    · cases missing
    · rename_i longer
      rw [position?, if_neg longer]
  | cons char rest ih =>
    rw [after?] at missing
    split at missing
    · cases missing
    · rename_i unfit
      rw [position?, unfit, ih missing]
      rfl

/-- The first place of a character is where the text without it ends. -/
theorem position?_char (char : Char) (text : List Char) :
    (text.dropWhile (· != char) = [] ∧ position? [char] text = none) ∨
      ∃ front rest, text = front ++ char :: rest ∧ text.takeWhile (· != char) = front ∧
        text.dropWhile (· != char) = char :: rest ∧ position? [char] text = some (byteLength front) := by
  induction text with
  | nil => exact Or.inl ⟨rfl, rfl⟩
  | cons first rest ih =>
    by_cases same : first = char
    · subst same
      have ended : ¬ (first != first) = true := by simp
      rw [List.dropWhile_cons, List.takeWhile_cons, if_neg ended, if_neg ended]
      refine Or.inr ⟨[], rest, rfl, rfl, rfl, ?_⟩
      rw [position?, strip?, if_pos rfl, strip?, byteLength_nil]
    · have passed : (first != char) = true := bne_iff_ne.mpr same
      have onward : position? [char] (first :: rest) = (position? [char] rest).map (first.utf8Size + ·) := by
        rw [position?, strip?, if_neg (Ne.symm same)]
      rw [List.dropWhile_cons, List.takeWhile_cons, if_pos passed, if_pos passed, onward]
      rcases ih with ⟨absent, missing⟩ | ⟨front, behind, split, taken, dropped, placed⟩
      · exact Or.inl ⟨absent, by rw [missing]; rfl⟩
      · refine Or.inr ⟨first :: front, behind, congrArg _ split, congrArg _ taken, dropped, ?_⟩
        rw [placed, byteLength_cons]
        rfl

end Text

namespace Simulator.Source
open Text

/-- The two parts of a text at a byte position, which has to be a place to cut it. -/
def cut (position : Nat) (text : List Char) : Except Refusal (List Char × List Char) :=
  match cutAt? position text with
  | some parts => .ok parts
  | none => .error (.fault .outsideRange)

/-- The text between two byte positions. -/
def between (start stop : Nat) (text : List Char) : Except Refusal (List Char) := do
  demand (start ≤ stop)
  let outer ← cut start text
  let inner ← cut (stop - start) outer.2
  .ok inner.1

/-- The declaration behind a keyword, cut out of the text. -/
def guardedDeclaration (text : List Char) : Except Refusal (Option (Signature × List Char)) :=
  match position? ['('] text with
  | none => .ok none
  | some opening => do
    let named ← cut opening text
    match position? [')'] named.2 with
    | none => .ok none
    | some length => do
      let inner ← between (opening + 1) (opening + length) text
      let closing ← cut (opening + length) text
      .ok (some (⟨String.ofList (lastWord named.1), parameters inner⟩, closing.2))

variable {source text front rest : List Char} {position : Nat}

theorem cut_of_append (split : text = front ++ rest) (placed : position = byteLength front) :
    cut position text = .ok (front, rest) := by
  rw [cut, split, placed, cutAt?_append]

private theorem between_of_append {inner : List Char} (split : text = front ++ (inner ++ rest)) {start stop : Nat}
    (starts : start = byteLength front) (stops : stop = start + byteLength inner) :
    between start stop text = .ok inner := by
  have length : stop - start = byteLength inner := by omega
  have ordered : start ≤ stop := by omega
  rw [between, demand_of ordered, ok_bind, cut_of_append split starts, ok_bind, cut_of_append rfl length,
    ok_bind]

/-- The text is cut at its brackets only. -/
theorem guardedDeclaration_eq (text : List Char) : guardedDeclaration text = .ok (declaration? text) := by
  rw [guardedDeclaration, declaration?]
  rcases position?_char '(' text with ⟨absent, missing⟩ | ⟨name, behind, split, taken, dropped, placed⟩
  · rw [missing, absent]
  rw [placed, taken, dropped]
  dsimp only
  rw [cut_of_append split rfl, ok_bind]
  -- The second search begins at the opening bracket, which it passes.
  have passed : ('(' != ')') = true := by decide
  have closing := position?_char ')' ('(' :: behind)
  rw [List.dropWhile_cons, List.takeWhile_cons, if_pos passed, if_pos passed] at closing
  rcases closing with ⟨absent, missing⟩ | ⟨_, after, inner, rfl, closed, placed⟩
  · rw [absent]
    dsimp only
    rw [missing]
  generalize behind.takeWhile (· != ')') = listed at inner placed
  rw [closed]
  dsimp only
  rw [placed]
  dsimp only
  have opened : text = (name ++ ['(']) ++ (listed ++ ')' :: after) := by
    rw [split, inner, List.append_assoc]
    rfl
  have ended : text = (name ++ '(' :: listed) ++ ')' :: after := by
    rw [split, inner, List.append_assoc]
  have bracket : byteLength ['('] = 1 := rfl
  have starts : byteLength name + 1 = byteLength (name ++ ['(']) := by rw [byteLength_append, bracket]
  have stops : byteLength name + byteLength ('(' :: listed) = byteLength name + 1 + byteLength listed := by
    rw [byteLength_cons, Nat.add_assoc]
    rfl
  rw [between_of_append opened starts stops, ok_bind,
    cut_of_append ended (byteLength_append _ _).symm, ok_bind]

private theorem parts_of_cut {parts : List Char × List Char} (found : cut position text = .ok parts) :
    text = parts.1 ++ parts.2 ∧ position = byteLength parts.1 := by
  rw [cut] at found
  split at found
  · rename_i located
    cases found
    exact parts_of_cutAt? located
  · cases found

/-- The kernels of a source, each declaration cut out of what the one before it has left. -/
def guardedKernels (source : List Char) : Except Refusal (List Signature) :=
  match position? keyword source with
  | none => .ok []
  | some place =>
    match _found : cut (place + byteLength keyword) source with
    | .error refusal => .error refusal
    | .ok parts =>
      match _declared : guardedDeclaration parts.2 with
      | .error refusal => .error refusal
      | .ok none => .ok []
      | .ok (some (signature, rest)) => (guardedKernels rest).map (signature :: ·)
termination_by source.length
decreasing_by
  obtain ⟨split, placed⟩ := parts_of_cut _found
  rw [guardedDeclaration_eq] at _declared
  have bounded := length_declaration? (Except.ok.inj _declared)
  have positive : 0 < parts.1.length := by
    apply List.length_pos_iff.mpr
    intro empty
    rw [empty] at placed
    exact absurd placed (Nat.succ_ne_zero _)
  have length := congrArg List.length split
  rw [List.length_append] at length
  omega

/-- Whatever a source is, its kernels are found without a fault. -/
theorem guardedKernels_eq (source : List Char) : guardedKernels source = .ok (kernels source) := by
  fun_induction kernels source with
  | case1 source missing => rw [guardedKernels, position?_eq_none missing]
  | case2 source behind found undeclared =>
    obtain ⟨front, split, placed⟩ := position?_of_after? found
    have cutting := cut_of_append split (byteLength_append _ _).symm
    have declaring := guardedDeclaration_eq behind
    rw [undeclared] at declaring
    rw [guardedKernels, placed]
    dsimp only
    rw [cutting]
    dsimp only
    rw [declaring]
  | case3 source behind found signature rest declared ih =>
    obtain ⟨front, split, placed⟩ := position?_of_after? found
    have cutting := cut_of_append split (byteLength_append _ _).symm
    have declaring := guardedDeclaration_eq behind
    rw [declared] at declaring
    rw [guardedKernels, placed]
    dsimp only
    rw [cutting]
    dsimp only
    rw [declaring]
    dsimp only
    rw [ih]
    rfl

end Simulator.Source
end Offload
