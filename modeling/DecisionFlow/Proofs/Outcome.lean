import Mathlib.Data.List.Forall2

/-!
# Outcomes

A computation that goes on with the result of another succeeds when both do (`bind_eq_ok_iff`). A
computation on every item of a list succeeds when all of them do, and fails like the first one that
fails (`mapM_eq_ok_iff`, `mapM_eq_error_iff`). Two computations have the same outcome, up to a
relation between results, when both fail in the same way or both succeed with related results.
Computations that are composed of such pairs are such a pair.
-/
namespace DecisionFlow

/-- What goes on with the result of a computation succeeds when both do. -/
theorem bind_eq_ok_iff {ε α β : Type} {first : Except ε α} {next : α → Except ε β} {result : β} :
    first >>= next = .ok result ↔ ∃ value, first = .ok value ∧ next value = .ok result := by
  cases first with
  | error failure => simp [bind, Except.bind]
  | ok value => simp [bind, Except.bind]

/-- What goes on with the result of a computation fails when that computation does, or else the
continuation. -/
theorem bind_eq_error_iff {ε α β : Type} {first : Except ε α} {next : α → Except ε β}
    {failure : ε} :
    first >>= next = .error failure ↔
      first = .error failure ∨ ∃ value, first = .ok value ∧ next value = .error failure := by
  cases first with
  | error other => simp [bind, Except.bind]
  | ok value => simp [bind, Except.bind]

/-- What goes on with the result of a computation fails with that computation, or there is a result
to go on with. -/
theorem error_or_ok_of_bind {ε α β : Type} {first : Except ε α} {next : α → Except ε β}
    {failure : ε} (failed : first >>= next = .error failure) :
    first = .error failure ∨ ∃ value, first = .ok value := by
  rcases bind_eq_error_iff.mp failed with here | ⟨value, here, -⟩
  · exact .inl here
  · exact .inr ⟨value, here⟩

section Items

variable {ε α β : Type} {image : α → Except ε β} {items : List α}

/-- The results of all items are those of each item. -/
theorem mapM_eq_ok_iff {results : List β} :
    items.mapM image = .ok results ↔ items.map image = results.map .ok := by
  induction items generalizing results with
  | nil => cases results <;> simp [pure, Except.pure]
  | cons item items ih =>
    rw [List.mapM_cons, List.map_cons]
    cases image item with
    | error failure => cases results <;> simp [bind, Except.bind]
    | ok result =>
      cases tail : items.mapM image with
      | error failure =>
        rw [tail] at ih
        cases results with
        | nil => simp [bind, Except.bind]
        | cons first others => simp [bind, Except.bind, ← ih]
      | ok rest =>
        rw [tail] at ih
        cases results with
        | nil => simp [bind, Except.bind, pure, Except.pure]
        | cons first others => simp [bind, Except.bind, pure, Except.pure, ← ih]

/-- There are results of all items when each of them succeeds. -/
theorem exists_mapM_eq_ok_iff :
    (∃ results, items.mapM image = .ok results) ↔
      ∀ item ∈ items, ∃ result, image item = .ok result := by
  simp only [mapM_eq_ok_iff]
  constructor
  · rintro ⟨results, all⟩ item listed
    obtain ⟨result, _, same⟩ := List.mem_map.mp (all ▸ List.mem_map_of_mem listed)
    exact ⟨result, same.symm⟩
  · intro each
    induction items with
    | nil => exact ⟨[], rfl⟩
    | cons item items ih =>
      obtain ⟨⟨result, first⟩, others⟩ := List.forall_mem_cons.mp each
      obtain ⟨results, rest⟩ := ih others
      exact ⟨result :: results, by rw [List.map_cons, List.map_cons, first, rest]⟩

/-- A failure is that of the first item that fails, whatever comes after it. -/
theorem mapM_eq_error_iff {failure : ε} :
    items.mapM image = .error failure ↔
      ∃ before item after, items = before ++ item :: after ∧
        (∀ earlier ∈ before, ∃ result, image earlier = .ok result) ∧
        image item = .error failure := by
  constructor
  · intro failed
    induction items with
    | nil => contradiction
    | cons item items ih =>
      rw [List.mapM_cons] at failed
      cases head : image item with
      | error cause =>
        rw [head] at failed
        cases failed
        exact ⟨[], item, items, rfl, nofun, head⟩
      | ok result =>
        rw [head] at failed
        cases tail : items.mapM image with
        | ok results =>
          rw [tail] at failed
          contradiction
        | error cause =>
          rw [tail] at failed
          cases failed
          obtain ⟨before, found, after, rfl, passed, fails⟩ := ih tail
          exact ⟨item :: before, found, after, rfl,
            List.forall_mem_cons.mpr ⟨⟨result, head⟩, passed⟩, fails⟩
  · rintro ⟨before, item, after, rfl, passed, fails⟩
    obtain ⟨results, passed⟩ := exists_mapM_eq_ok_iff.mpr passed
    rw [List.mapM_append, passed, List.mapM_cons, fails]
    rfl

end Items

/-- Two computations with the same failure, or with related results. -/
inductive SameOutcome {ε α β : Type} (related : α → β → Prop) : Except ε α → Except ε β → Prop
  /-- Both fail in the same way. -/
  | error (failure : ε) : SameOutcome related (.error failure) (.error failure)
  /-- Both succeed. -/
  | ok {first : α} {second : β} (results : related first second) :
    SameOutcome related (.ok first) (.ok second)

/-- Item by item the same failures or related results give the same first failure or related
lists. -/
theorem SameOutcome.mapM {ε α β γ : Type} {related : β → γ → Prop} {image : α → Except ε β}
    {other : α → Except ε γ} (each : ∀ item, SameOutcome related (image item) (other item))
    (items : List α) :
    SameOutcome (List.Forall₂ related) (items.mapM image) (items.mapM other) := by
  induction items with
  | nil => exact .ok .nil
  | cons item rest ih =>
    rw [List.mapM_cons, List.mapM_cons]
    have head := each item
    generalize image item = first at head ⊢
    generalize other item = second at head ⊢
    generalize rest.mapM image = firsts at ih ⊢
    generalize rest.mapM other = seconds at ih ⊢
    cases head with
    | error failure => exact .error failure
    | ok results =>
      cases ih with
      | error failure => exact .error failure
      | ok others => exact .ok (.cons results others)

/-- Related results are mapped to related results. -/
theorem SameOutcome.map {ε α β γ δ : Type} {related : α → β → Prop} {further : γ → δ → Prop}
    {first : Except ε α} {second : Except ε β} {image : α → γ} {other : β → δ}
    (outcome : SameOutcome related first second)
    (carried : ∀ a b, related a b → further (image a) (other b)) :
    SameOutcome further (first.map image) (second.map other) := by
  cases outcome with
  | error failure => exact .error failure
  | ok results => exact .ok (carried _ _ results)

/-- Computations of the same outcome are followed by computations of the same outcome. -/
theorem SameOutcome.bind {ε α β γ δ : Type} {related : α → β → Prop} {further : γ → δ → Prop}
    {first : Except ε α} {second : Except ε β} {next : α → Except ε γ} {after : β → Except ε δ}
    (outcome : SameOutcome related first second)
    (follows : ∀ a b, related a b → SameOutcome further (next a) (after b)) :
    SameOutcome further (first >>= next) (second >>= after) := by
  cases outcome with
  | error failure => exact .error failure
  | ok results => exact follows _ _ results

end DecisionFlow
