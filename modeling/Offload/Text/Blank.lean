/-! White space in the sense of the Unicode property of that name, and the
trimming, word and line rules that rest on it. -/
namespace Offload.Text

/-- The code points with the property `White_Space`. -/
def isBlank (char : Char) : Bool :=
  let code := char.toNat
  (9 ≤ code && code ≤ 13) || code == 0x20 || code == 0x85 || code == 0xA0 || code == 0x1680 ||
    (0x2000 ≤ code && code ≤ 0x200A) || code == 0x2028 || code == 0x2029 || code == 0x202F ||
    code == 0x205F || code == 0x3000

def trimEnd (text : List Char) : List Char := (text.reverse.dropWhile isBlank).reverse

/-- The text without the white space at both ends. -/
def trim (text : List Char) : List Char := trimEnd (text.dropWhile isBlank)

def isAllBlank (text : List Char) : Bool := text.all isBlank

/-- The last run of characters that are no white space, empty where there is none. -/
def lastWord (text : List Char) : List Char :=
  ((text.reverse.dropWhile isBlank).takeWhile (fun char => !isBlank char)).reverse

private def withoutReturn : (reversed : List Char) → List Char
  | '\r' :: rest => rest.reverse
  | reversed => reversed.reverse

private def linesFrom (reversed : List Char) : List Char → List (List Char)
  | [] => if reversed.isEmpty then [] else [reversed.reverse]
  | '\n' :: rest => withoutReturn reversed :: linesFrom [] rest
  | char :: rest => linesFrom (char :: reversed) rest

/-- The lines of a text. A line ends at a line feed, which may have a carriage
return before it, and at the end of the text; nothing follows a final line feed. -/
def lines (text : List Char) : List (List Char) := linesFrom [] text

private theorem length_linesFrom_le (reversed text : List Char) :
    (linesFrom reversed text).length ≤ reversed.length + text.length := by
  induction text generalizing reversed with
  | nil =>
    rw [linesFrom]
    split
    · exact Nat.zero_le _
    · rename_i some
      exact List.length_pos_iff.mpr (mt List.isEmpty_iff.mpr some)
  | cons char rest ih =>
    rw [linesFrom.eq_def]
    split
    · rename_i impossible
      cases impossible
    · rename_i feed
      cases feed
      simp only [List.length_cons]
      have later := ih []
      rw [List.length_nil] at later
      omega
    · rename_i same
      cases same
      have later := ih (char :: reversed)
      simp only [List.length_cons] at later ⊢
      omega

/-- No text has more lines than characters. -/
theorem length_lines_le (text : List Char) : (lines text).length ≤ text.length := by
  have bound := length_linesFrom_le [] text
  rwa [List.length_nil, Nat.zero_add] at bound

end Offload.Text
