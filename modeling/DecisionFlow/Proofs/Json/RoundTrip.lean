import DecisionFlow.Proofs.Expr.Induction
import DecisionFlow.Proofs.Json.Numerals
import DecisionFlow.Proofs.Json.Strings

/-!
# Reading back JSON text

The text of a tree on one line reads back as the tree, as far as its nesting is allowed: what is
nested deeper is marked as broken (`read?_compact`). So the text has a value throughout exactly
when the nesting stays within the limit (`readWhole?_compact`).
-/
namespace DecisionFlow.Json

open DecisionFlow.Text

/-- A double whose text spells it. -/
def ReadsBack (x : Float) : Prop := Spells (Number.Layout.json.write x) (.float x)

/-- The trees whose leaves are written without loss. -/
inductive Written : Json → Prop where
  /-- Null. -/
  | null : Written .null
  /-- A truth value. -/
  | bool (value : Bool) : Written (.bool value)
  /-- An integer of 64 bits. -/
  | int {value : Int} (low : -0x8000000000000000 ≤ value) (high : value < 0x10000000000000000) :
    Written (.int value)
  /-- A finite double whose text spells it. -/
  | float {value : Float} (finite : value.isFinite = true) (back : ReadsBack value) :
    Written (.float value)
  /-- A string. -/
  | string (value : String) : Written (.string value)
  /-- An array. -/
  | array {items : List Json} (each : ∀ item ∈ items, Written item) : Written (.array items)
  /-- An object. -/
  | object {members : List (String × Json)} (each : ∀ member ∈ members, Written member.2) :
    Written (.object members)

/-! ## Nesting past the limit -/

mutual

/-- A tree at a depth, with what is nested past the limit marked as broken. -/
def capped (depth : Nat) : Json → Json
  | .array items => keepWhen (depth < nestingLimit) (.array (cappedItems (depth + 1) items))
  | .object members => keepWhen (depth < nestingLimit) (.object (cappedMembers (depth + 1) members))
  | leaf => leaf

/-- Trees at a depth, with what is nested past the limit marked as broken. -/
def cappedItems (depth : Nat) : List Json → List Json
  | [] => []
  | item :: rest => capped depth item :: cappedItems depth rest

/-- Members at a depth, with what is nested past the limit marked as broken. -/
def cappedMembers (depth : Nat) : List (String × Json) → List (String × Json)
  | [] => []
  | (key, value) :: rest => (key, capped depth value) :: cappedMembers depth rest

end

/-- Items are capped one by one. -/
theorem cappedItems_eq (depth : Nat) (items : List Json) :
    cappedItems depth items = items.map (capped depth) :=
  Expr.eq_map_of_cons _ (by rw [cappedItems]) (fun _ _ => by rw [cappedItems]) items

/-- Members are capped one by one. -/
theorem cappedMembers_eq (depth : Nat) (members : List (String × Json)) :
    cappedMembers depth members = members.map fun member => (member.1, capped depth member.2) :=
  Expr.eq_map_of_cons _ (by rw [cappedMembers]) (fun _ _ => by rw [cappedMembers]) members

/-- The nesting of items is bounded by a number when that of each item is. -/
theorem itemsNesting_le {items : List Json} {bound : Nat} :
    itemsNesting items ≤ bound ↔ ∀ item ∈ items, item.nesting ≤ bound :=
  Expr.forall_mem_of_cons (itemsNesting · ≤ bound) (Nat.zero_le bound) (fun _ _ => Nat.max_le) items

/-- The nesting of members is bounded by a number when that of each value is. -/
theorem membersNesting_le {members : List (String × Json)} {bound : Nat} :
    membersNesting members ≤ bound ↔ ∀ member ∈ members, member.2.nesting ≤ bound :=
  Expr.forall_mem_of_cons (membersNesting · ≤ bound) (Nat.zero_le bound) (fun _ _ => Nat.max_le)
    members

/-- Items have values throughout when each of them has. -/
theorem allWhole_iff {items : List Json} :
    allWhole items = true ↔ ∀ item ∈ items, item.isWhole = true :=
  Expr.forall_mem_of_cons (allWhole · = true) rfl (fun _ _ => Bool.and_eq_true_iff) items

/-- Members have values throughout when each value has. -/
theorem membersWhole_iff {members : List (String × Json)} :
    membersWhole members = true ↔ ∀ member ∈ members, member.2.isWhole = true :=
  Expr.forall_mem_of_cons (membersWhole · = true) rfl (fun _ _ => Bool.and_eq_true_iff) members

/-- A tree that fits is not capped. -/
theorem Written.capped_of_fits {tree : Json} (written : tree.Written) {depth : Nat}
    (fits : depth + tree.nesting ≤ nestingLimit) : tree.capped depth = tree := by
  induction written generalizing depth with
  | null | bool | int | float | string => rfl
  | @array items each ih =>
    rw [nesting] at fits
    have inside : ∀ item ∈ items, item.capped (depth + 1) = item := by
      intro item listed
      have within := itemsNesting_le.mp (Nat.le_refl (itemsNesting items)) item listed
      exact ih item listed (by omega)
    have allowed : depth < nestingLimit := by omega
    rw [capped, cappedItems_eq, List.map_congr_left inside, List.map_id', decide_eq_true allowed]
    rfl
  | @object members each ih =>
    rw [nesting] at fits
    have inside : ∀ member ∈ members, (member.1, member.2.capped (depth + 1)) = member := by
      intro member listed
      have within := membersNesting_le.mp (Nat.le_refl (membersNesting members)) member listed
      rw [ih member listed (by omega)]
    have allowed : depth < nestingLimit := by omega
    rw [capped, cappedMembers_eq, List.map_congr_left inside, List.map_id',
      decide_eq_true allowed]
    rfl

/-- A capped tree has a value throughout when it fits. -/
theorem Written.isWhole_capped {tree : Json} (written : tree.Written) {depth : Nat}
    (allowed : depth ≤ nestingLimit) :
    (tree.capped depth).isWhole = true ↔ depth + tree.nesting ≤ nestingLimit := by
  induction written generalizing depth with
  | null | bool | int | float | string => simpa [capped, isWhole, nesting] using allowed
  | @array items each ih =>
    rw [capped, cappedItems_eq, nesting]
    by_cases inside : depth < nestingLimit
    · have bound : depth + (itemsNesting items + 1) ≤ nestingLimit ↔
          itemsNesting items ≤ nestingLimit - (depth + 1) := by omega
      rw [decide_eq_true inside, keepWhen, if_pos rfl, isWhole, allWhole_iff, List.forall_mem_map,
        bound, itemsNesting_le]
      refine forall₂_congr fun item listed => ?_
      rw [ih item listed inside]
      omega
    · rw [decide_eq_false inside, keepWhen, if_neg Bool.false_ne_true, isWhole]
      exact iff_of_false Bool.false_ne_true (by omega)
  | @object members each ih =>
    rw [capped, cappedMembers_eq, nesting]
    by_cases inside : depth < nestingLimit
    · have bound : depth + (membersNesting members + 1) ≤ nestingLimit ↔
          membersNesting members ≤ nestingLimit - (depth + 1) := by omega
      rw [decide_eq_true inside, keepWhen, if_pos rfl, isWhole, membersWhole_iff,
        List.forall_mem_map, bound, membersNesting_le]
      refine forall₂_congr fun member listed => ?_
      rw [ih member listed inside]
      omega
    · rw [decide_eq_false inside, keepWhen, if_neg Bool.false_ne_true, isWhole]
      exact iff_of_false Bool.false_ne_true (by omega)

/-! ## Texts -/

/-- The characters of a tree on one line. -/
def chars (tree : Json) : List Char := tree.compact.toList

/-- The characters of a member on one line. -/
def memberChars (member : String × Json) : List Char :=
  '"' :: (member.1.toList.flatMap writeChar ++ '"' :: ':' :: member.2.chars)

/-- An array is written as its items between brackets. -/
theorem chars_array (items : List Json) :
    chars (.array items) = '[' :: ([','].intercalate (items.map chars) ++ [']']) := by
  have parts : compactItems items = items.map compact :=
    Expr.eq_map_of_cons _ (by rw [compactItems]) (fun _ _ => by rw [compactItems]) items
  rw [chars, compact, parts, String.toList_append, String.toList_append, String.toList_intercalate,
    List.map_map]
  rfl

/-- An object is written as its members between braces. -/
theorem chars_object (members : List (String × Json)) :
    chars (.object members) =
      '\x7b' :: ([','].intercalate (members.map memberChars) ++ ['\x7d']) := by
  have parts : compactMembers members =
      members.map fun member => writeString member.1 ++ ":" ++ member.2.compact :=
    Expr.eq_map_of_cons _ (by rw [compactMembers]) (fun _ _ => by rw [compactMembers]) members
  have each (member : String × Json) :
      (writeString member.1 ++ ":" ++ member.2.compact).toList = memberChars member := by
    rw [String.toList_append, String.toList_append, toList_writeString, memberChars, chars]
    simp
  rw [chars, compact, parts, String.toList_append, String.toList_append, String.toList_intercalate,
    List.map_map, show String.toList ∘ _ = memberChars from funext each]
  rfl

/-- Whether a character may start a value: no white space and no closing bracket. -/
def startsValue (c : Char) : Bool := !isBlank c && c != ']' && c != '\x7d'

/-- A numeral starts like a value. -/
theorem startsValue_of_numeral {c : Char} (starts : c = '-' ∨ c.isDigit = true) :
    startsValue c = true := by
  rcases starts with rfl | digit
  · rfl
  · have others : ∀ c ∈ [' ', '\t', '\r', '\n', ']', '\x7d'], c.isDigit = false := by decide
    have apart : c ∉ [' ', '\t', '\r', '\n', ']', '\x7d'] := by
      intro listed
      rw [others c listed] at digit
      contradiction
    simp only [List.mem_cons, List.not_mem_nil, or_false, not_or] at apart
    simp [startsValue, isBlank, apart]

/-- The text of a double is the one that spells it. -/
theorem chars_float {value : Float} (finite : value.isFinite = true) :
    chars (.float value) = Number.Layout.json.write value := by
  rw [chars, compact, writeFloat, if_pos finite]
  exact String.toList_ofList

/-- The text of an integer. -/
theorem chars_int (value : Int) : chars (.int value) = writeInt value := by
  rw [chars, compact]
  exact String.toList_ofList

/-- A written tree starts like a value. -/
theorem Written.chars_cons {tree : Json} (written : tree.Written) :
    ∃ c rest, tree.chars = c :: rest ∧ startsValue c = true := by
  have numeral {text : List Char} {number : Json} (spells : Spells text number) :
      ∃ c rest, text = c :: rest ∧ startsValue c = true := by
    obtain ⟨_, read, _⟩ := spells
    obtain ⟨c, rest, same, starts⟩ := head_of_readNumeral read
    exact ⟨c, rest, same, startsValue_of_numeral starts⟩
  cases written with
  | null => exact ⟨'n', ['u', 'l', 'l'], rfl, rfl⟩
  | bool value =>
    cases value with
    | true => exact ⟨'t', ['r', 'u', 'e'], rfl, rfl⟩
    | false => exact ⟨'f', ['a', 'l', 's', 'e'], rfl, rfl⟩
  | int low high => exact chars_int _ ▸ numeral (spells_int low high)
  | float finite back => exact chars_float finite ▸ numeral back
  | string value => exact ⟨'"', _, toList_writeString value, rfl⟩
  | array each => exact ⟨'[', _, chars_array _, rfl⟩
  | object each => exact ⟨'\x7b', _, chars_object _, rfl⟩

/-- There is no white space before what starts like a value. -/
theorem skipBlank_starts {c : Char} (starts : startsValue c = true) (rest : List Char) :
    skipBlank (c :: rest) = c :: rest := by
  have blank : isBlank c = false := by
    simp only [startsValue, Bool.and_eq_true, Bool.not_eq_true'] at starts
    exact starts.1.1
  rw [skipBlank, List.dropWhile_cons_of_neg (by rw [blank]; exact Bool.false_ne_true)]

/-! ## Reading -/

/-- What starts like a numeral is read as one. -/
theorem readValue_numeral {c : Char} (starts : c = '-' ∨ c.isDigit = true) (steps depth : Nat)
    (text : List Char) : readValue (steps + 1) depth (c :: text) =
      (readNumeral (c :: text)).map fun (numeral, rest) => (numeral.toJson, rest) := by
  have others : ∀ d ∈ ['n', 't', 'f', '"', '[', '\x7b'], c ≠ d := by
    have apart : ∀ d ∈ ['n', 't', 'f', '"', '[', '\x7b'], d ≠ '-' ∧ d.isDigit = false := by decide
    rintro d listed rfl
    obtain ⟨minus, digit⟩ := apart c listed
    rcases starts with same | same
    · exact minus same
    · rw [digit] at same
      contradiction
  rw [readValue, skipBlank_starts (startsValue_of_numeral starts), Option.map_eq_bind]
  split
  · rename_i same; cases same; exact absurd rfl (others 'n' (by decide))
  · rename_i same; cases same; exact absurd rfl (others 't' (by decide))
  · rename_i same; cases same; exact absurd rfl (others 'f' (by decide))
  · rename_i same; cases same; exact absurd rfl (others '"' (by decide))
  · rename_i same; cases same; exact absurd rfl (others '[' (by decide))
  · rename_i same; cases same; exact absurd rfl (others '\x7b' (by decide))
  · rfl

/-- What a text spells is read as a value. -/
theorem Spells.readValue {text rest : List Char} {tree : Json} (spells : Spells text tree)
    (ended : EndsNumeral rest) (steps depth : Nat) :
    Json.readValue (steps + 1) depth (text ++ rest) = some (tree, rest) := by
  obtain ⟨numeral, read, rfl⟩ := spells.read ended
  obtain ⟨c, others, same, starts⟩ := head_of_readNumeral read
  rw [same] at read ⊢
  rw [readValue_numeral starts, read, Option.map_some]

/-- A tree is read back at every depth, in front of every rest that ends a numeral. -/
def Reads (tree : Json) : Prop :=
  ∀ steps depth rest, 2 * tree.chars.length + 1 ≤ steps → EndsNumeral rest →
    readValue steps depth (tree.chars ++ rest) = some (tree.capped depth, rest)

/-- Items that are read back by themselves are read back in a row. -/
theorem readItems_append (items : List Json) (some_item : items ≠ [])
    (each : ∀ item ∈ items, item.Reads) (steps depth : Nat) (rest : List Char)
    (enough : 2 * ([','].intercalate (items.map chars)).length + 2 ≤ steps) :
    readItems steps depth ([','].intercalate (items.map chars) ++ ']' :: rest) =
      some (items.map (capped depth), rest) := by
  induction items generalizing steps with
  | nil => contradiction
  | cons item items ih =>
    obtain ⟨first, others⟩ := List.forall_mem_cons.mp each
    cases steps with
    | zero => omega
    | succ steps =>
      cases items with
      | nil =>
        rw [List.map_cons, List.map_nil, List.intercalate_singleton] at enough ⊢
        rw [readItems, first steps depth (']' :: rest) (by omega) (endsNumeral_cons rfl rest)]
        rfl
      | cons next items =>
        have row : [','].intercalate ((item :: next :: items).map chars) =
            item.chars ++ ',' :: [','].intercalate ((next :: items).map chars) := by
          rw [List.map_cons, List.map_cons, List.intercalate_cons_cons, List.append_assoc]
          rfl
        rw [row, List.length_append, List.length_cons] at enough
        have here := first steps depth
          (',' :: ([','].intercalate ((next :: items).map chars) ++ ']' :: rest)) (by omega)
          (endsNumeral_cons rfl _)
        have later := ih (List.cons_ne_nil next items) others steps (by omega)
        rw [row, List.append_assoc, List.cons_append, readItems, here]
        exact congrArg
          (Option.bind · fun found => some (item.capped depth :: found.1, found.2)) later

/-- The key of a member is read by itself, its value in front of what follows the member. -/
theorem readMembers_keyed (steps depth : Nat) (member : String × Json) (rest : List Char) :
    readMembers (steps + 1) depth (memberChars member ++ rest) = (do
      let (value, rest) ← readValue steps depth (member.2.chars ++ rest)
      match skipBlank rest with
      | ',' :: rest => do
        let (members, rest) ← readMembers steps depth rest
        return ((some member.1, value) :: members, rest)
      | '\x7d' :: rest => return ([(some member.1, value)], rest)
      | _ => none) := by
  have key := readString_append member.1 (':' :: (member.2.chars ++ rest))
  rw [memberChars, List.cons_append, List.append_assoc, List.cons_append, List.cons_append,
    readMembers]
  change Option.bind (readString _) _ = _
  rw [key]
  rfl

/-- Members whose values are read back by themselves are read back in a row. -/
theorem readMembers_append (members : List (String × Json)) (some_member : members ≠ [])
    (each : ∀ member ∈ members, member.2.Reads) (steps depth : Nat) (rest : List Char)
    (enough : 2 * ([','].intercalate (members.map memberChars)).length + 2 ≤ steps) :
    readMembers steps depth ([','].intercalate (members.map memberChars) ++ '\x7d' :: rest) =
      some (members.map fun member => (some member.1, member.2.capped depth), rest) := by
  induction members generalizing steps with
  | nil => contradiction
  | cons member members ih =>
    obtain ⟨first, others⟩ := List.forall_mem_cons.mp each
    have shorter : member.2.chars.length ≤ (memberChars member).length := by
      simp only [memberChars, List.length_cons, List.length_append]
      omega
    cases steps with
    | zero => omega
    | succ steps =>
      cases members with
      | nil =>
        rw [List.map_cons, List.map_nil, List.intercalate_singleton] at enough ⊢
        rw [readMembers_keyed,
          first steps depth ('\x7d' :: rest) (by omega) (endsNumeral_cons rfl rest)]
        rfl
      | cons next members =>
        have row : [','].intercalate ((member :: next :: members).map memberChars) =
            memberChars member ++ ',' :: [','].intercalate ((next :: members).map memberChars) := by
          rw [List.map_cons, List.map_cons, List.intercalate_cons_cons, List.append_assoc]
          rfl
        rw [row, List.length_append, List.length_cons] at enough
        have here := first steps depth
          (',' :: ([','].intercalate ((next :: members).map memberChars) ++ '\x7d' :: rest))
          (by omega) (endsNumeral_cons rfl _)
        have later := ih (List.cons_ne_nil next members) others steps (by omega)
        rw [row, List.append_assoc, List.cons_append, readMembers_keyed, here]
        exact congrArg (Option.bind · fun found =>
          some ((some member.1, member.2.capped depth) :: found.1, found.2)) later

/-- Members whose keys have values are the members of an object. -/
theorem ofMembers_some (members : List (String × Json)) :
    ofMembers (members.map fun member => (some member.1, member.2)) = .object members := by
  have each : (members.map fun member => (some member.1, member.2)).mapM
      (fun member => member.1.map (·, member.2)) = some members := by
    induction members with
    | nil => rfl
    | cons member members ih =>
      rw [List.map_cons, List.mapM_cons, ih]
      rfl
  rw [ofMembers, each]

/-- An array is closed after its opening bracket, or items come there. -/
theorem readValue_opened (steps depth : Nat) (text : List Char) :
    readValue (steps + 1) depth ('[' :: text) =
      match skipBlank text with
      | ']' :: rest => some (keepWhen (depth < nestingLimit) (.array []), rest)
      | rest => do
        let (items, rest) ← readItems steps (depth + 1) rest
        return (keepWhen (depth < nestingLimit) (.array items), rest) := rfl

/-- After an opening bracket what starts like a value starts items. -/
theorem readValue_array {c : Char} (starts : startsValue c = true) (steps depth : Nat)
    (text : List Char) : readValue (steps + 1) depth ('[' :: c :: text) =
      (readItems steps (depth + 1) (c :: text)).map fun (items, rest) =>
        (keepWhen (depth < nestingLimit) (.array items), rest) := by
  rw [readValue_opened, skipBlank_starts starts, Option.map_eq_bind]
  split
  · rename_i same
    cases same
    contradiction
  · rfl

/-- The text of parts in a row starts with the first of them. -/
theorem intercalate_cons (separator first : List Char) (others : List (List Char)) :
    ∃ more, separator.intercalate (first :: others) = first ++ more := by
  cases others with
  | nil => exact ⟨[], by rw [List.intercalate_singleton, List.append_nil]⟩
  | cons next others => exact ⟨_, by rw [List.intercalate_cons_cons, List.append_assoc]⟩

/-- A value is read in at least one step. -/
theorem Reads.of_succ {tree : Json}
    (reads : ∀ steps depth rest, 2 * tree.chars.length ≤ steps → EndsNumeral rest →
      readValue (steps + 1) depth (tree.chars ++ rest) = some (tree.capped depth, rest)) :
    tree.Reads := by
  intro steps depth rest enough ended
  cases steps with
  | zero => omega
  | succ steps => exact reads steps depth rest (Nat.le_of_succ_le_succ enough) ended

/-- An array whose items are read back is read back. -/
theorem reads_array {items : List Json} (written : ∀ item ∈ items, item.Written)
    (each : ∀ item ∈ items, item.Reads) : Reads (.array items) := by
  refine .of_succ fun steps depth rest enough _ => ?_
  rw [chars_array, List.length_cons, List.length_append, List.length_singleton] at enough
  rw [chars_array, capped, cappedItems_eq, List.cons_append, List.append_assoc,
    List.singleton_append]
  cases items with
  | nil => rfl
  | cons item items =>
    have row := readItems_append (item :: items) (List.cons_ne_nil item items) each steps
      (depth + 1) rest (by omega)
    obtain ⟨c, others, first, starts⟩ := (written item List.mem_cons_self).chars_cons
    obtain ⟨more, same⟩ := intercalate_cons [','] item.chars (items.map chars)
    rw [List.map_cons, same, first, List.cons_append, List.cons_append] at row ⊢
    rw [readValue_array starts, row]
    rfl

/-- An object whose values are read back is read back. -/
theorem reads_object {members : List (String × Json)} (each : ∀ member ∈ members, member.2.Reads) :
    Reads (.object members) := by
  refine .of_succ fun steps depth rest enough _ => ?_
  rw [chars_object, List.length_cons, List.length_append, List.length_singleton] at enough
  rw [chars_object, capped, cappedMembers_eq, List.cons_append, List.append_assoc,
    List.singleton_append]
  cases members with
  | nil => rfl
  | cons member members =>
    have row := readMembers_append (member :: members) (List.cons_ne_nil member members) each steps
      (depth + 1) rest (by omega)
    obtain ⟨more, same⟩ := intercalate_cons [','] (memberChars member) (members.map memberChars)
    have opened (text : List Char) : readValue (steps + 1) depth ('\x7b' :: '"' :: text) =
        (readMembers steps (depth + 1) ('"' :: text)).bind fun found =>
          some (keepWhen (depth < nestingLimit) (ofMembers found.1), found.2) := rfl
    have inside := ofMembers_some ((member :: members).map fun member =>
      (member.1, member.2.capped (depth + 1)))
    rw [List.map_map] at inside
    rw [List.map_cons, same, memberChars, List.cons_append, List.cons_append] at row ⊢
    rw [opened, row, Option.bind_some]
    exact congrArg (fun object => some (keepWhen _ object, rest)) inside

/-- A written tree is read back. -/
theorem Written.reads {tree : Json} (written : tree.Written) : tree.Reads := by
  induction written with
  | null => exact .of_succ fun steps depth rest _ _ => rfl
  | bool value => exact .of_succ fun steps depth rest _ _ => by cases value <;> rfl
  | int low high =>
    refine .of_succ fun steps depth rest _ ended => ?_
    rw [chars_int]
    exact (spells_int low high).readValue ended steps depth
  | float finite back =>
    refine .of_succ fun steps depth rest _ ended => ?_
    rw [chars_float finite]
    exact back.readValue ended steps depth
  | string value =>
    refine .of_succ fun steps depth rest _ _ => ?_
    have read := readString_append value rest
    rw [chars, compact, toList_writeString, List.append_assoc, List.cons_append]
    change Option.bind (readString _) _ = _
    rw [List.cons_append, List.nil_append, read]
    rfl
  | array written ih => exact reads_array written ih
  | object _ ih => exact reads_object ih

/-- The text of a written tree reads back, with what is nested past the limit marked as
broken. -/
theorem Written.read?_compact {tree : Json} (written : tree.Written) :
    read? tree.compact = some (tree.capped 0) := by
  have read := written.reads (2 * tree.chars.length + 1) 0 [] (Nat.le_refl _) nofun
  rw [List.append_nil, chars] at read
  rw [read?]
  simp only [read, Option.bind_eq_bind, Option.bind_some]
  rfl

/-- The text of a written tree has a value when the nesting of the tree stays within the limit,
and the value is the tree. -/
theorem Written.readWhole?_compact {tree : Json} (written : tree.Written) :
    readWhole? tree.compact = if tree.nesting ≤ nestingLimit then some tree else none := by
  have whole := written.isWhole_capped (Nat.zero_le nestingLimit)
  rw [Nat.zero_add] at whole
  rw [readWhole?, written.read?_compact]
  simp only [Option.bind_eq_bind, Option.bind_some, whole]
  split
  · rename_i fits
    rw [written.capped_of_fits (by rwa [Nat.zero_add])]
  · rfl

end DecisionFlow.Json
