/-! Finding a word in a text. What follows a match is shorter than the text, so a
scan that goes on behind each match ends. -/
namespace Offload.Text

/-- The text behind `word`, if it starts with that. -/
def strip? : (word text : List Char) → Option (List Char)
  | [], text => some text
  | _ :: _, [] => none
  | expected :: word, char :: text => if expected = char then strip? word text else none

/-- The text behind the first occurrence of `word`. -/
def after? (word : List Char) : (text : List Char) → Option (List Char)
  | [] => if word = [] then some [] else none
  | char :: rest =>
    match strip? word (char :: rest) with
    | some behind => some behind
    | none => after? word rest

def occursIn (word text : List Char) : Bool := (after? word text).isSome

theorem strip?_eq_some {word text behind : List Char} :
    strip? word text = some behind ↔ text = word ++ behind := by
  induction word generalizing text with
  | nil => simp [strip?, eq_comm]
  | cons expected word ih =>
    cases text with
    | nil => simp [strip?]
    | cons char text =>
      by_cases same : expected = char
      · simp [strip?, same, ih]
      · simp [strip?, same, Ne.symm same]

/-- What is found behind a word is a rest of the text. -/
theorem after?_suffix {word text behind : List Char} (found : after? word text = some behind) :
    ∃ before, text = before ++ word ++ behind := by
  induction text with
  | nil =>
    simp only [after?] at found
    split at found
    · rename_i empty
      exact ⟨[], by simp_all⟩
    · cases found
  | cons char rest ih =>
    simp only [after?] at found
    split at found
    · rename_i stripped
      cases found
      exact ⟨[], by simpa using strip?_eq_some.mp stripped⟩
    · obtain ⟨before, same⟩ := ih found
      exact ⟨char :: before, by simp [same]⟩

theorem length_after? {word text behind : List Char} (found : after? word text = some behind) :
    behind.length + word.length ≤ text.length := by
  obtain ⟨before, same⟩ := after?_suffix found
  subst same
  simp only [List.length_append]
  omega

end Offload.Text
