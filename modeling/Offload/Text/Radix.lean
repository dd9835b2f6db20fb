/-! Natural numbers and integers as digits, without leading zeros. Reading the
digits back shows that different numbers have different texts. -/
namespace Offload.Text

/-- The digit of a value below 16, in lower case. -/
def digit (value : Nat) : Char :=
  Char.ofNat (if value < 10 then 48 + value else 87 + value)

def digitValue (char : Char) : Nat :=
  if char.toNat < 58 then char.toNat - 48 else char.toNat - 87

/-- The digits of a number to a base of at least two, highest first. -/
def digits (base : Nat) (value : Nat) : List Char :=
  if _small : value < base ∨ base < 2 then [digit value]
  else digits base (value / base) ++ [digit (value % base)]
termination_by value
decreasing_by
  have : 0 < value := by omega
  exact Nat.div_lt_self this (by omega)

/-- The number that digits to a base stand for. -/
def ofDigits (base : Nat) (chars : List Char) : Nat :=
  chars.foldl (fun value char => value * base + digitValue char) 0

theorem digitValue_digit (value : Nat) (small : value < 16) : digitValue (digit value) = value := by
  have table : ∀ value : Fin 16, digitValue (digit value.val) = value.val := by decide
  exact table ⟨value, small⟩

/-- Digits to a base from 2 to 16 read back as the number they were written from. -/
theorem ofDigits_digits (base value : Nat) (atLeast : 2 ≤ base) (atMost : base ≤ 16) :
    ofDigits base (digits base value) = value := by
  induction value using Nat.strongRecOn with
  | ind value ih =>
    rw [digits]
    split
    · have small : value < base := by omega
      simp [ofDigits, digitValue_digit value (by omega)]
    · rename_i large
      have smaller : value / base < value := Nat.div_lt_self (by omega) (by omega)
      have low : value % base < 16 := Nat.lt_of_lt_of_le (Nat.mod_lt _ (by omega)) atMost
      have high := ih (value / base) smaller
      simp only [ofDigits] at high ⊢
      rw [List.foldl_append, high, List.foldl_cons, List.foldl_nil, digitValue_digit _ low,
        Nat.mul_comm]
      exact Nat.div_add_mod value base

/-- Nothing but digits of the base is written. -/
theorem exists_digit_of_mem_digits {base value : Nat} {char : Char} (base_ge : 2 ≤ base)
    (member : char ∈ digits base value) : ∃ small, small < base ∧ char = digit small := by
  induction value using Nat.strongRecOn with
  | ind value ih =>
    rw [digits] at member
    split at member
    · exact ⟨value, by omega, List.mem_singleton.mp member⟩
    · rename_i large
      rcases List.mem_append.mp member with high | low
      · exact ih (value / base) (Nat.div_lt_self (by omega) (by omega)) high
      · exact ⟨value % base, Nat.mod_lt _ (by omega), List.mem_singleton.mp low⟩

def hexadecimal (value : Nat) : String := String.ofList (digits 16 value)

theorem hexadecimal_injective {first second : Nat} (same : hexadecimal first = hexadecimal second) :
    first = second := by
  have written : digits 16 first = digits 16 second := String.ofList_injective same
  rw [← ofDigits_digits 16 first (by decide) (by decide), written,
    ofDigits_digits 16 second (by decide) (by decide)]

def decimal (value : Nat) : String := String.ofList (digits 10 value)

def signedDecimal (value : Int) : String :=
  if value < 0 then "-" ++ decimal value.natAbs else decimal value.natAbs

/-- The text of a native handle or address. -/
def address (value : Nat) : String := "0x" ++ hexadecimal value

end Offload.Text
