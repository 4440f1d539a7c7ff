/-!
# Association lists

A finite map is kept as the list of its entries, each key once, in the order in which the keys
were first inserted. Inserting a present key replaces its value in place; so the last value given
for a key wins and the first place is kept. Main statements: looking up after an insertion
(`lookup_insert`), the keys after an insertion (`keys_insert`), and that keys stay distinct
(`nodup_keys_insert`).
-/
namespace DecisionFlow.Assoc

variable {κ α : Type} [BEq κ]

/-- Give a key a value: in the place of the key when it is present, else at the end. -/
def insert (key : κ) (value : α) : List (κ × α) → List (κ × α)
  | [] => [(key, value)]
  | entry :: rest =>
    if entry.1 == key then (key, value) :: rest else entry :: insert key value rest

/-- The map of a list of entries; the last value of a repeated key wins. -/
def ofList (entries : List (κ × α)) : List (κ × α) :=
  entries.foldl (fun table entry => insert entry.1 entry.2 table) []

/-- The keys in order. -/
def keys (table : List (κ × α)) : List κ := table.map (·.1)

variable [LawfulBEq κ]

/-- Looking up after an insertion finds the new value at its key and the old ones elsewhere. -/
theorem lookup_insert (key other : κ) (value : α) (table : List (κ × α)) :
    (insert key value table).lookup other =
      if other == key then some value else table.lookup other := by
  induction table with
  | nil => by_cases same : other == key <;> simp [insert, List.lookup_cons, same]
  | cons entry rest ih =>
    obtain ⟨first, held⟩ := entry
    by_cases here : first == key
    · obtain rfl := eq_of_beq here
      by_cases same : other == first <;> simp [insert, List.lookup_cons, same]
    · by_cases same : other == first
      · obtain rfl := eq_of_beq same
        simp [insert, here]
      · simp [insert, List.lookup_cons, here, same, ih]

/-- Inserting a present key keeps the keys; a new key comes last. -/
theorem keys_insert (key : κ) (value : α) (table : List (κ × α)) :
    keys (insert key value table) =
      if (keys table).contains key then keys table else keys table ++ [key] := by
  induction table with
  | nil => simp [insert, keys]
  | cons entry rest ih =>
    obtain ⟨first, held⟩ := entry
    by_cases here : first == key
    · obtain rfl := eq_of_beq here
      simp [insert, keys]
    · have apart : ¬ key = first := fun equal => here (by simp [equal])
      simp only [insert, here, Bool.false_eq_true, ↓reduceIte]
      simp only [keys, List.map_cons] at ih ⊢
      rw [ih]
      by_cases present : (rest.map (·.1)).contains key <;>
        simp_all

/-- A key has a value exactly when it is among the keys. -/
theorem lookup_isSome (key : κ) (table : List (κ × α)) :
    (table.lookup key).isSome = (keys table).contains key := by
  induction table with
  | nil => simp [keys]
  | cons entry rest ih =>
    obtain ⟨first, held⟩ := entry
    by_cases here : key == first
    · simp [List.lookup_cons, keys, here]
    · simp only [List.lookup_cons, here, keys, List.map_cons, List.contains_cons, Bool.false_or]
      exact ih

/-- Insertion keeps the keys distinct. -/
theorem nodup_keys_insert {table : List (κ × α)} (distinct : (keys table).Nodup) (key : κ)
    (value : α) : (keys (insert key value table)).Nodup := by
  rw [keys_insert]
  split
  · exact distinct
  · rename_i absent
    refine List.nodup_append.mpr ⟨distinct, by simp, ?_⟩
    intro a inside b last equal
    simp only [List.mem_singleton] at last
    subst last equal
    exact absent (by simpa using inside)

end DecisionFlow.Assoc
