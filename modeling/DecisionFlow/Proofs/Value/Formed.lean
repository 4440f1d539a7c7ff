import DecisionFlow.Proofs.Number.Nearness
import DecisionFlow.Proofs.Value.Reordered
import DecisionFlow.Value.Access
import Mathlib.Data.List.Perm.Subperm

/-!
# Well-formed values

A map holds its entries in a list; it is one map only when the keys are distinct, throughout the
value. What is read from JSON is well-formed (`wellFormed_ofJson`), and so are the parts of a
well-formed value. Strict equality of well-formed values is symmetric (`same_comm`): two maps with
as many keys have the same keys when the one has all keys of the other.
-/
namespace DecisionFlow.Value

/-- Values in which every map has distinct keys. -/
inductive WellFormed : Value → Prop where
  /-- The null value. -/
  | null : WellFormed .null
  /-- A truth value. -/
  | bool (value : Bool) : WellFormed (.bool value)
  /-- An integer. -/
  | int (value : Int64) : WellFormed (.int value)
  /-- A double. -/
  | float (value : Float) : WellFormed (.float value)
  /-- A text. -/
  | string (value : String) : WellFormed (.string value)
  /-- A list of well-formed items. -/
  | list {items : List Value} (each : ∀ item ∈ items, item.WellFormed) : WellFormed (.list items)
  /-- Distinct keys with well-formed values. -/
  | map {entries : List (String × Value)} (distinct : (Assoc.keys entries).Nodup)
    (each : ∀ entry ∈ entries, entry.2.WellFormed) : WellFormed (.map entries)

namespace WellFormed

/-- The items of a well-formed list are well-formed. -/
theorem items {items : List Value} (formed : (Value.list items).WellFormed) :
    ∀ item ∈ items, item.WellFormed := by
  cases formed with
  | list each => exact each

/-- The keys of a well-formed map are distinct. -/
theorem distinct {entries : List (String × Value)} (formed : (Value.map entries).WellFormed) :
    (Assoc.keys entries).Nodup := by
  cases formed with
  | map distinct each => exact distinct

/-- The value at a key of a well-formed map is well-formed. -/
theorem lookup {entries : List (String × Value)} (formed : (Value.map entries).WellFormed)
    {key : String} {value : Value} (found : entries.lookup key = some value) :
    value.WellFormed := by
  cases formed with
  | map distinct each => exact each (key, value) (mem_of_lookup found)

/-- A map is well-formed when it is made of well-formed values, whatever their keys. -/
theorem ofEntries {entries : List (String × Value)}
    (each : ∀ entry ∈ entries, entry.2.WellFormed) : (Value.ofEntries entries).WellFormed := by
  refine .map (Assoc.nodup_keys_ofList entries) ?_
  refine List.foldlRecOn
    (motive := fun table : List (String × Value) => ∀ entry ∈ table, entry.2.WellFormed)
    entries _ nofun fun table formed entry given => ?_
  have value := each entry given
  clear each given
  induction table with
  | nil => simpa [Assoc.insert] using value
  | cons first rest ih =>
    obtain ⟨here, others⟩ := List.forall_mem_cons.mp formed
    rw [Assoc.insert]
    split
    · exact List.forall_mem_cons.mpr ⟨value, others⟩
    · exact List.forall_mem_cons.mpr ⟨here, ih others⟩

/-- The value at a key of a well-formed value, null where there is none, is well-formed. -/
theorem lookup_getD {entries : List (String × Value)} (formed : (Value.map entries).WellFormed)
    (key : String) : ((entries.lookup key).getD .null).WellFormed := by
  cases found : entries.lookup key with
  | none => exact .null
  | some value => exact formed.lookup found

/-- A field of a well-formed value is well-formed. -/
theorem field {value field : Value} {name : String} (formed : value.WellFormed)
    (found : value.field name = .ok field) : field.WellFormed := by
  cases formed with
  | map distinct each => exact Except.ok.inj found ▸ (map distinct each).lookup_getD name
  | _ => contradiction

/-- A part of a well-formed value at an index is well-formed. -/
theorem index {value key part : Value} (formed : value.WellFormed)
    (found : value.index key = .ok part) : part.WellFormed := by
  cases formed with
  | list each =>
    cases key with
    | int place =>
      simp only [Value.index] at found
      split at found
      · exact Except.ok.inj found ▸ .null
      · rename_i items _
        rw [← Except.ok.inj found]
        cases here : items[(position items.length place.toInt).toNat]? with
        | none => exact .null
        | some item => exact each item (List.mem_of_getElem? here)
    | _ => contradiction
  | map distinct each =>
    cases key with
    | string name => exact Except.ok.inj found ▸ (map distinct each).lookup_getD name
    | _ => contradiction
  | _ => cases key <;> contradiction

end WellFormed

mutual

/-- The value of a JSON tree is well-formed. -/
theorem wellFormed_ofJson (json : Json) : (ofJson json).WellFormed := by
  cases json with
  | null | broken => exact .null
  | bool value => exact .bool value
  | int value =>
    rw [ofJson]
    split
    · exact .int _
    · exact .float _
  | float value => exact .float value
  | string value => exact .string value
  | array items =>
    rw [ofJson]
    exact .list (wellFormed_ofJsonItems items)
  | object members =>
    rw [ofJson]
    exact .ofEntries (wellFormed_ofJsonMembers members)

/-- The values of JSON trees are well-formed. -/
theorem wellFormed_ofJsonItems (items : List Json) :
    ∀ value ∈ ofJsonItems items, value.WellFormed := by
  match items with
  | [] => exact nofun
  | item :: rest =>
    exact List.forall_mem_cons.mpr ⟨wellFormed_ofJson item, wellFormed_ofJsonItems rest⟩

/-- The values of the members of an object are well-formed. -/
theorem wellFormed_ofJsonMembers (members : List (String × Json)) :
    ∀ entry ∈ ofJsonMembers members, entry.2.WellFormed := by
  match members with
  | [] => exact nofun
  | (key, value) :: rest =>
    exact List.forall_mem_cons.mpr ⟨wellFormed_ofJson value, wellFormed_ofJsonMembers rest⟩

end

/-! ## Symmetry -/

/-- Lists are strictly equal both ways when their items are. -/
theorem sameItems_comm {items others : List Value}
    (each : ∀ item ∈ items, ∀ other ∈ others, item.same other = other.same item) :
    sameItems items others = sameItems others items := by
  induction items generalizing others with
  | nil => cases others <;> rfl
  | cons item rest ih =>
    cases others with
    | nil => rfl
    | cons other others =>
      rw [sameItems, sameItems, each item (.head _) other (.head _),
        ih fun item inside other within => each item (.tail _ inside) other (.tail _ within)]

/-- When the values of a map are in another one with at most as many keys, there are no others. -/
theorem sameEntries_swap {entries others : List (String × Value)}
    (distinct : (Assoc.keys entries).Nodup) (distinctOthers : (Assoc.keys others).Nodup)
    (fewer : others.length ≤ entries.length)
    (each : ∀ key value other, entries.lookup key = some value → others.lookup key = some other →
      value.same other = true → other.same value = true)
    (same : sameEntries entries others = true) : sameEntries others entries = true := by
  rw [sameEntries_iff distinct] at same
  rw [sameEntries_iff distinctOthers]
  have present (table : List (String × Value)) (key : String) :
      key ∈ Assoc.keys table ↔ ∃ value, table.lookup key = some value := by
    rw [← Option.isSome_iff_exists, Assoc.lookup_isSome, List.contains_iff_mem]
  -- The keys of the one are among those of the other, which are no more, so they are the same.
  have within : Assoc.keys entries ⊆ Assoc.keys others := fun key inside => by
    obtain ⟨value, found⟩ := (present entries key).mp inside
    obtain ⟨other, there, _⟩ := same key value found
    exact (present others key).mpr ⟨other, there⟩
  have keys : (Assoc.keys entries).Perm (Assoc.keys others) :=
    (distinct.subperm within).perm_of_length_le
      (by rwa [Assoc.keys, Assoc.keys, List.length_map, List.length_map])
  intro key other there
  obtain ⟨value, found⟩ :=
    (present entries key).mp (keys.mem_iff.mpr ((present others key).mpr ⟨other, there⟩))
  obtain ⟨held, heldThere, equal⟩ := same key value found
  obtain rfl : held = other := Option.some.inj (heldThere.symm.trans there)
  exact ⟨value, found, each key value held found there equal⟩

/-- Strict equality of well-formed values is symmetric. -/
theorem same_comm {first second : Value} (formed : first.WellFormed)
    (formedOther : second.WellFormed) : first.same second = second.same first := by
  induction first generalizing second with
  | list items ih =>
    cases second with
    | list others =>
      rw [same, same]
      exact sameItems_comm fun item inside other within =>
        ih item inside (formed.items item inside) (formedOther.items other within)
    | _ => rfl
  | map entries ih =>
    cases second with
    | map others =>
      have each (key : String) (value other : Value) (found : entries.lookup key = some value)
          (there : others.lookup key = some other) : value.same other = other.same value :=
        ih (key, value) (mem_of_lookup found) (formed.lookup found) (formedOther.lookup there)
      rw [same, same, Bool.eq_iff_iff, Bool.and_eq_true, Bool.and_eq_true, beq_iff_eq, beq_iff_eq]
      constructor
      · rintro ⟨lengths, equal⟩
        refine ⟨lengths.symm, sameEntries_swap formed.distinct formedOther.distinct
          (Nat.le_of_eq lengths.symm) (fun key value other found there => ?_) equal⟩
        exact (each key value other found there ▸ ·)
      · rintro ⟨lengths, equal⟩
        refine ⟨lengths.symm, sameEntries_swap formedOther.distinct formed.distinct
          (Nat.le_of_eq lengths.symm) (fun key other value there found => ?_) equal⟩
        exact (each key value other found there ▸ ·)
    | _ => rfl
  | null => cases second <;> rfl
  | bool value => cases second <;> simp [same, BEq.comm]
  | int value => cases second <;> simp [same, BEq.comm]
  | float value => cases second <;> simp [same, Number.beq_comm]
  | string value => cases second <;> simp [same, BEq.comm]

end DecisionFlow.Value
