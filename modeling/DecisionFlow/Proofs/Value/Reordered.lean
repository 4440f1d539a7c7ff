import DecisionFlow.Value.Basic
import Mathlib.Data.List.Forall2

/-!
# Values up to the order of entries

Two values are reordered when they differ in the order of the entries of maps at most, at any depth.
Strict equality does not tell them apart (`same_eq`), their items and the values at their keys are
reordered, and so are maps that are made of reordered values under the same keys (`ofEntries`).
-/
namespace DecisionFlow

/-- Two values that differ at most in the order of the entries of the maps in them. -/
inductive Value.Reordered : Value → Value → Prop where
  /-- A value in its own order. -/
  | refl (value : Value) : Reordered value value
  /-- Lists of as many items, where each is the other's one reordered. -/
  | list {items others : List Value} (length : items.length = others.length)
    (each : ∀ item other, (item, other) ∈ items.zip others → Reordered item other) :
    Reordered (.list items) (.list others)
  /-- Maps with the same distinct keys in any order, where the value at each key is the other's one
  reordered. -/
  | map {entries others : List (String × Value)} (distinct : (Assoc.keys entries).Nodup)
    (order : (Assoc.keys entries).Perm (Assoc.keys others))
    (each : ∀ key value other, entries.lookup key = some value → others.lookup key = some other →
      Reordered value other) :
    Reordered (.map entries) (.map others)

/-- What every constructor passes on from the immediate parts holds of all values. -/
@[elab_as_elim, induction_eliminator]
theorem Value.induct {motive : Value → Prop} (null : motive .null)
    (bool : ∀ value, motive (.bool value)) (int : ∀ value, motive (.int value))
    (float : ∀ value, motive (.float value)) (string : ∀ value, motive (.string value))
    (list : ∀ items, (∀ item ∈ items, motive item) → motive (.list items))
    (map : ∀ entries : List (String × Value), (∀ entry ∈ entries, motive entry.2) →
      motive (.map entries))
    (value : Value) : motive value := by
  refine @Value.rec motive (fun items => ∀ item ∈ items, motive item)
    (fun entries => ∀ entry ∈ entries, motive entry.2) (fun entry => motive entry.2)
    null bool int float string list map ?_ ?_ ?_ ?_ ?_ value
  · exact fun _ inside => absurd inside List.not_mem_nil
  · exact fun _ _ first rest => List.forall_mem_cons.mpr ⟨first, rest⟩
  · exact fun _ inside => absurd inside List.not_mem_nil
  · exact fun _ _ first rest => List.forall_mem_cons.mpr ⟨first, rest⟩
  · exact fun _ _ value => value

/-- The keys of a map that is made of entries are distinct. -/
theorem Assoc.nodup_keys_ofList (entries : List (String × Value)) :
    (keys (ofList entries)).Nodup := by
  refine List.foldlRecOn (motive := fun table => (keys table).Nodup) entries _ List.nodup_nil ?_
  exact fun table distinct entry _ => nodup_keys_insert distinct entry.1 entry.2

namespace Value

/-- The entry that is found under a key is in the list. -/
theorem mem_of_lookup {entries : List (String × Value)} {key : String} {value : Value}
    (found : entries.lookup key = some value) : (key, value) ∈ entries := by
  obtain ⟨before, after, rfl, _⟩ := List.lookup_eq_some_iff.mp found
  simp

/-- Where keys are distinct every entry is found under its key. -/
theorem lookup_of_mem {entries : List (String × Value)} (distinct : (Assoc.keys entries).Nodup)
    {key : String} {value : Value} (member : (key, value) ∈ entries) :
    entries.lookup key = some value := by
  induction entries with
  | nil => contradiction
  | cons entry rest ih =>
    obtain ⟨absent, distinct⟩ := List.nodup_cons.mp distinct
    rw [List.lookup_cons]
    rcases List.mem_cons.mp member with rfl | member
    · simp
    · have apart : key ≠ entry.1 := by
        rintro rfl
        exact absent (List.mem_map.mpr ⟨_, member, rfl⟩)
      rw [beq_false_of_ne apart]
      exact ih distinct member

namespace Reordered

/-- Reordered lists have reordered items at the same places. -/
theorem items {values others : List Value} (reordered : Reordered (.list values) (.list others)) :
    List.Forall₂ Reordered values others := by
  cases reordered with
  | refl => exact List.forall₂_same.mpr fun value _ => .refl value
  | list length each => exact List.forall₂_iff_zip.mpr ⟨length, each _ _⟩

/-- Reordered items at the same places make reordered lists. -/
theorem ofItems {values others : List Value} (items : List.Forall₂ Reordered values others) :
    Reordered (.list values) (.list others) := by
  obtain ⟨length, each⟩ := List.forall₂_iff_zip.mp items
  exact .list length fun _ _ => each

/-- Reordered maps have as many entries. -/
theorem length {entries others : List (String × Value)}
    (reordered : Reordered (.map entries) (.map others)) : entries.length = others.length := by
  cases reordered with
  | refl => rfl
  | map _ order _ =>
    have lengths := order.length_eq
    rwa [Assoc.keys, Assoc.keys, List.length_map, List.length_map] at lengths

/-- Maps of the same keys have a value at a key together. -/
theorem isSome_lookup {entries others : List (String × Value)}
    (order : (Assoc.keys entries).Perm (Assoc.keys others)) (key : String) :
    (entries.lookup key).isSome = (others.lookup key).isSome := by
  rw [Assoc.lookup_isSome, Assoc.lookup_isSome, List.contains_eq_mem, List.contains_eq_mem,
    decide_eq_decide]
  exact order.mem_iff

/-- Reordered maps have reordered values at a key, or nothing. -/
theorem lookup {entries others : List (String × Value)}
    (reordered : Reordered (.map entries) (.map others)) (key : String) :
    Option.Rel Reordered (entries.lookup key) (others.lookup key) := by
  cases reordered with
  | refl =>
    cases entries.lookup key with
    | none => exact .none
    | some value => exact .some (.refl value)
  | map _ order each =>
    have present := isSome_lookup order key
    cases found : entries.lookup key with
    | none =>
      cases foundOther : others.lookup key with
      | none => exact .none
      | some other => simp [found, foundOther] at present
    | some value =>
      cases foundOther : others.lookup key with
      | none => simp [found, foundOther] at present
      | some other => exact .some (each key value other found foundOther)

/-- A value at a key is a reordered one at the key in the other map. -/
theorem lookup_getD {entries others : List (String × Value)}
    (reordered : Reordered (.map entries) (.map others)) (key : String) :
    Reordered ((entries.lookup key).getD .null) ((others.lookup key).getD .null) := by
  have found := reordered.lookup key
  generalize entries.lookup key = value at found ⊢
  generalize others.lookup key = other at found ⊢
  cases found with
  | none => exact .refl .null
  | some same => exact same

/-- The items at one place of lists of reordered items are reordered. -/
theorem item {values others : List Value} (items : List.Forall₂ Reordered values others)
    (place : Nat) : Reordered ((values[place]?).getD .null) ((others[place]?).getD .null) := by
  induction items generalizing place with
  | nil => exact .refl .null
  | cons first _ ih =>
    cases place with
    | zero => exact first
    | succ place => exact ih place

/-- Maps of the same entries with distinct keys in any order are reordered. -/
theorem of_perm {entries others : List (String × Value)} (distinct : (Assoc.keys entries).Nodup)
    (order : entries.Perm others) : Reordered (.map entries) (.map others) := by
  refine .map distinct (order.map _) fun key value other found foundOther => ?_
  have member := order.mem_iff.mpr (mem_of_lookup foundOther)
  rw [lookup_of_mem distinct member] at found
  exact Option.some.inj found ▸ .refl other

/-- Entries of one key with reordered values. -/
def Entry (entry other : String × Value) : Prop := entry.1 = other.1 ∧ Reordered entry.2 other.2

/-- Inserting reordered values under one key keeps entries with reordered values. -/
theorem insert {entries others : List (String × Value)} (same : List.Forall₂ Entry entries others)
    (key : String) {value other : Value} (reordered : Reordered value other) :
    List.Forall₂ Entry (Assoc.insert key value entries) (Assoc.insert key other others) := by
  induction same with
  | nil => exact .cons ⟨rfl, reordered⟩ .nil
  | cons first rest ih =>
    rw [Assoc.insert, Assoc.insert, first.1]
    split
    · exact .cons ⟨rfl, reordered⟩ rest
    · exact .cons first ih

/-- Maps of the same keys in one order with reordered values are reordered. -/
theorem ofAligned {entries others : List (String × Value)}
    (distinct : (Assoc.keys entries).Nodup) (same : List.Forall₂ Entry entries others) :
    Reordered (.map entries) (.map others) := by
  have keys : Assoc.keys entries = Assoc.keys others := by
    clear distinct
    induction same with
    | nil => rfl
    | cons first _ ih => exact congrArg₂ List.cons first.1 ih
  refine .map distinct (.of_eq keys) ?_
  clear distinct keys
  intro key value other found foundOther
  induction same with
  | nil => contradiction
  | cons first _ ih =>
    rw [List.lookup_cons] at found foundOther
    rw [first.1] at found
    split at found
    · rename_i here
      rw [here] at foundOther
      exact Option.some.inj found ▸ Option.some.inj foundOther ▸ first.2
    · rename_i here
      rw [here] at foundOther
      exact ih found foundOther

/-- Maps that are made of the same keys with reordered values are reordered. -/
theorem ofEntries {entries others : List (String × Value)}
    (same : List.Forall₂ Entry entries others) :
    Reordered (Value.ofEntries entries) (Value.ofEntries others) := by
  refine ofAligned (Assoc.nodup_keys_ofList entries) ?_
  refine List.rel_foldl ?_ .nil same
  rintro table other tables ⟨key, value⟩ ⟨_, counterpart⟩ ⟨rfl, reordered⟩
  exact insert tables key reordered

end Reordered

/-- Items are strictly equal to both or to neither of two lists of reordered items, when each of
them is. -/
theorem sameItems_right {items : List Value}
    (each : ∀ item ∈ items, ∀ first second, Reordered first second →
      item.same first = item.same second) {firsts seconds : List Value}
    (reordered : List.Forall₂ Reordered firsts seconds) :
    sameItems items firsts = sameItems items seconds := by
  induction reordered generalizing items with
  | nil => rfl
  | cons first _ ih =>
    cases items with
    | nil => rfl
    | cons item rest =>
      obtain ⟨here, others⟩ := List.forall_mem_cons.mp each
      rw [sameItems, sameItems, here _ _ first, ih others]

/-- Entries are in both or in neither of two maps with reordered values, when each of them is. -/
theorem sameEntries_right {entries : List (String × Value)}
    (each : ∀ entry ∈ entries, ∀ first second, Reordered first second →
      entry.2.same first = entry.2.same second) {firsts seconds : List (String × Value)}
    (reordered : ∀ key, Option.Rel Reordered (firsts.lookup key) (seconds.lookup key)) :
    sameEntries entries firsts = sameEntries entries seconds := by
  induction entries with
  | nil => rfl
  | cons entry rest ih =>
    obtain ⟨here, others⟩ := List.forall_mem_cons.mp each
    rw [sameEntries, sameEntries, ih others]
    have found := reordered entry.1
    generalize firsts.lookup entry.1 = first at found ⊢
    generalize seconds.lookup entry.1 = second at found ⊢
    cases found with
    | none => rfl
    | some reordered => exact congrArg (· && _) (here _ _ reordered)

/-- A value is strictly equal to both or to neither of two reordered values. -/
theorem same_right (value : Value) {first second : Value} (reordered : Reordered first second) :
    value.same first = value.same second := by
  induction value generalizing first second with
  | list items ih =>
    cases reordered with
    | refl => rfl
    | map => simp only [same]
    | list length each =>
      rw [same, same]
      exact sameItems_right (fun item member _ _ => ih item member)
        (Reordered.list length each).items
  | map entries ih =>
    cases reordered with
    | refl => rfl
    | list => simp only [same]
    | map distinct order each =>
      have reordered := Reordered.map distinct order each
      rw [same, same, reordered.length]
      rw [sameEntries_right (fun entry member _ _ => ih entry member) reordered.lookup]
  | null | bool | int | float | string =>
    cases reordered with
    | refl => rfl
    | list | map => simp only [same]

/-- Entries under distinct keys are in a map when an equal value is at every one of the keys. -/
theorem sameEntries_iff {entries others : List (String × Value)}
    (distinct : (Assoc.keys entries).Nodup) :
    sameEntries entries others = true ↔ ∀ key value, entries.lookup key = some value →
      ∃ other, others.lookup key = some other ∧ value.same other = true := by
  have members : sameEntries entries others = true ↔ ∀ entry ∈ entries,
      ∃ other, others.lookup entry.1 = some other ∧ entry.2.same other = true := by
    clear distinct
    induction entries with
    | nil => simp [sameEntries]
    | cons entry rest ih =>
      rw [sameEntries, Bool.and_eq_true, ih, List.forall_mem_cons]
      cases others.lookup entry.1 <;> simp
  rw [members]
  constructor
  · exact fun each key value found => each (key, value) (mem_of_lookup found)
  · exact fun each entry member => each entry.1 entry.2 (lookup_of_mem distinct member)

/-- Two reordered values are strictly equal to a value, or neither is. -/
theorem same_left {first second : Value} (reordered : Reordered first second) (value : Value) :
    first.same value = second.same value := by
  -- The entries of the left map are gone through in its order, so this is not the mirror image of
  -- `same_right`: membership is first put in terms of lookups, which know no order.
  induction reordered generalizing value with
  | refl => rfl
  | @list items others length each ih =>
    cases value with
    | list values =>
      have both : List.Forall₂ (fun item other => ∀ value, same item value = same other value)
          items others := List.forall₂_iff_zip.mpr ⟨length, ih _ _⟩
      rw [same, same]
      clear length each ih
      induction both generalizing values with
      | nil => rfl
      | cons here _ ih =>
        cases values with
        | nil => rfl
        | cons value values => rw [sameItems, sameItems, here, ih]
    | _ => simp only [same]
  | @map entries others distinct order each ih =>
    cases value with
    | map members =>
      have reordered := Reordered.map distinct order each
      have distinctOther := order.nodup_iff.mp distinct
      rw [same, same, reordered.length]
      refine congrArg (_ && ·) ?_
      rw [Bool.eq_iff_iff, sameEntries_iff distinct, sameEntries_iff distinctOther]
      refine forall_congr' fun key => ?_
      have found := reordered.lookup key
      have equal := ih key
      generalize entries.lookup key = first at found equal ⊢
      generalize others.lookup key = second at found equal ⊢
      cases found with
      | none => exact Iff.rfl
      | some _ =>
        simp only [Option.some.injEq, forall_eq']
        simp only [equal _ _ rfl rfl]
    | _ => simp only [same]

/-- Strict equality does not depend on the order of entries. -/
theorem same_eq {first second third fourth : Value} (left : Reordered first second)
    (right : Reordered third fourth) : first.same third = second.same fourth := by
  rw [same_left left, same_right second right]

end Value

end DecisionFlow
