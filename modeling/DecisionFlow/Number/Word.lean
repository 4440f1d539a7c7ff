/-!
# Integers of 64 bits

Integers that come from outside are read as unbounded ones; those that fit 64 bits with a sign
are kept as words. Main statement: an integer is kept as exactly the word of its value
(`int64?_eq_some_iff`).
-/
namespace DecisionFlow.Number

/-- The word of an integer, when it fits. -/
def int64? (value : Int) : Option Int64 :=
  if -0x8000000000000000 ≤ value ∧ value < 0x8000000000000000 then some (Int64.ofInt value)
  else none

/-- The value of a word fits. -/
theorem int64?_toInt (n : Int64) : int64? n.toInt = some n := by
  rw [int64?, if_pos ⟨n.le_toInt, n.toInt_lt⟩, Int64.ofInt_toInt]

/-- An integer is kept as the one word that has its value. -/
theorem int64?_eq_some_iff {value : Int} {n : Int64} :
    int64? value = some n ↔ n.toInt = value := by
  constructor
  · intro kept
    unfold int64? at kept
    split at kept
    · rename_i fits
      cases kept
      exact Int64.toInt_ofInt_of_le fits.1 fits.2
    · contradiction
  · rintro rfl
    exact int64?_toInt n

end DecisionFlow.Number
