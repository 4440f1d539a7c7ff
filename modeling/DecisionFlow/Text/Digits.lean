/-!
# Digits

The values of digits and of runs of digits. Main statement: the decimal digits of a number have
its value (`digitsValue_toDigits`).
-/
namespace DecisionFlow.Text

/-- The value of a decimal digit. -/
def digitValue (c : Char) : Nat := c.toNat - '0'.toNat

/-- The value of decimal digits. -/
def digitsValue (digits : List Char) : Nat :=
  digits.foldl (fun value c => value * 10 + digitValue c) 0

/-- The value of a hexadecimal digit. -/
def hexDigit? (c : Char) : Option Nat :=
  if c.isDigit then some (digitValue c)
  else if 'a' ≤ c ∧ c ≤ 'f' then some (c.toNat - 'a'.toNat + 10)
  else if 'A' ≤ c ∧ c ≤ 'F' then some (c.toNat - 'A'.toNat + 10)
  else none

/-- The value of one or more digits of a base up to 16. -/
def ofDigits? (base : Nat) (digits : List Char) : Option Nat := do
  guard !digits.isEmpty
  let values ← digits.mapM hexDigit?
  guard (values.all (· < base))
  return values.foldl (fun value digit => value * base + digit) 0

/-- The digit of a number below ten has its value. -/
theorem digitValue_digitChar {n : Nat} (small : n < 10) : digitValue n.digitChar = n := by
  rw [digitValue, Nat.toNat_digitChar_of_lt_ten small]
  exact Nat.add_sub_cancel_left 48 n

/-- One more digit multiplies the value by ten and adds its own. -/
theorem digitsValue_concat (digits : List Char) (c : Char) :
    digitsValue (digits ++ [c]) = digitsValue digits * 10 + digitValue c := by
  simp [digitsValue]

/-- Further digits never lower a value. -/
theorem le_foldl_digits (digits : List Char) (start : Nat) :
    start ≤ digits.foldl (fun value c => value * 10 + digitValue c) start := by
  induction digits generalizing start with
  | nil => exact Nat.le_refl start
  | cons c rest ih =>
    have next : start ≤ start * 10 + digitValue c := by omega
    exact Nat.le_trans next (ih _)

/-- The decimal digits of a number have its value. -/
theorem digitsValue_toDigits (n : Nat) : digitsValue (Nat.toDigits 10 n) = n := by
  induction n using Nat.strongRecOn with
  | ind n ih =>
    rw [Nat.toDigits_eq_if (by decide)]
    split
    · rename_i small
      simp [digitsValue, digitValue_digitChar small]
    · have last : n % 10 < 10 := Nat.mod_lt _ (by decide)
      rw [digitsValue_concat, ih (n / 10) (by omega), digitValue_digitChar last]
      omega

end DecisionFlow.Text
