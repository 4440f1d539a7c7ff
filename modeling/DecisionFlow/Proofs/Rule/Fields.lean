import DecisionFlow.Rule.Definition

/-!
# Definitions from keys with values

A definition is read off an object by taking its keys one after the other. What comes out depends
only on the values that each field is given, whatever the order, the spellings of the keys and the
keys that name no field: the id and the predicate are given once, the title and the successors at
most once (`ofMembers?_eq_some_iff`). Main statement: when an object is a definition, and that
reordering its members changes nothing (`ofJson?_object`).
-/
namespace DecisionFlow.RuleDefinition

variable {τ α : Type}

/-! ## The values given for a field -/

/-- The spellings of a field. -/
def Field.keys : Field → List String
  | .id => ["id"]
  | .title => ["title"]
  | .predicate => ["predicate", "predicate_source", "predicateSource", "method"]
  | .trueNext => ["true_next", "true_id", "trueId", "trueNextId"]
  | .falseNext => ["false_next", "false_id", "falseId", "falseNextId"]

/-- A key names the field that it is a spelling of. -/
theorem Field.ofKey?_eq_some_iff {key : String} {field : Field} :
    ofKey? key = some field ↔ key ∈ field.keys := by
  constructor
  · intro named
    unfold ofKey? at named
    repeat' split at named
    all_goals cases named
    all_goals simp_all [keys]
  · have each : ∀ field : Field, ∀ key ∈ field.keys, ofKey? key = some field := by
      intro field
      cases field <;> decide
    exact each field key

/-- The values of the members whose keys spell a field, in order. -/
def Field.values (field : Field) (members : List (String × τ)) : List τ :=
  (members.filter fun member => field.keys.contains member.1).map (·.2)

/-- A first member adds its value to the field that its key names. -/
theorem Field.values_cons (field : Field) (member : String × τ) (members : List (String × τ)) :
    field.values (member :: members) =
      if ofKey? member.1 = some field then member.2 :: field.values members
      else field.values members := by
  simp only [ofKey?_eq_some_iff, values, List.filter_cons, List.contains_iff_mem]
  split <;> rfl

/-- Members in another order give a field the same values in another order. -/
theorem Field.values_perm (field : Field) {members others : List (String × τ)}
    (order : members.Perm others) : (field.values members).Perm (field.values others) :=
  (order.filter _).map _

/-- Exactly one value is given, and this is how it is read. -/
def Once (read : τ → Option α) (values : List τ) (result : α) : Prop :=
  ∃ value, values = [value] ∧ read value = some result

/-- No value is given, which means the default, or exactly one, and this is how it is read. -/
def AtMostOnce (read : τ → Option α) (absent : α) (values : List τ) (result : α) : Prop :=
  values = [] ∧ result = absent ∨ Once read values result

/-- The fields of a definition are those that some members give. -/
structure GivenBy (reader : FieldReader τ) (members : List (String × τ))
    (definition : RuleDefinition) : Prop where
  /-- The id is given once. -/
  id : Once reader.id (Field.id.values members) definition.id
  /-- The title is given at most once; it is empty otherwise. -/
  title : AtMostOnce reader.text "" (Field.title.values members) definition.title
  /-- The predicate is given once. -/
  predicate : Once reader.text (Field.predicate.values members) definition.predicate
  /-- The successor when the predicate holds is given at most once; there is none otherwise. -/
  trueNext : AtMostOnce reader.next none (Field.trueNext.values members) definition.trueNext
  /-- The successor when the predicate fails is given at most once; there is none otherwise. -/
  falseNext : AtMostOnce reader.next none (Field.falseNext.values members) definition.falseNext

/-! ## Taking the members one by one -/

/-- What a field has after further values were given for it. -/
def collect (read : τ → Option α) (given : Option α) (values : List τ) : Option (Option α) :=
  values.foldlM (fun given value => once given (read value)) given

/-- The first value is taken before the others. -/
theorem collect_cons (read : τ → Option α) (given : Option α) (value : τ) (values : List τ) :
    collect read given (value :: values) =
      (once given (read value)).bind fun given => collect read given values :=
  List.foldlM_cons

/-- A field that has a value takes no other. -/
theorem collect_some (read : τ → Option α) (held : α) (values : List τ) :
    collect read (some held) values = if values.isEmpty then some (some held) else none := by
  cases values with
  | nil => rfl
  | cons value values => rfl

/-- A field that had nothing has the one value that it is given. -/
theorem collect_none {read : τ → Option α} {values : List τ} {given : Option α} :
    collect read none values = some given ↔
      values = [] ∧ given = none ∨ ∃ result, given = some result ∧ Once read values result := by
  cases values with
  | nil => simp [collect, Once, eq_comm]
  | cons value values =>
    rw [collect_cons]
    cases held : read value with
    | none => simp [once, Once, held]
    | some result =>
      cases values with
      | nil => simp [once, Once, held, collect_some, eq_comm]
      | cons second values => simp [once, Once, collect_some]

/-- A draft takes members by taking for each field the values that they give it. -/
theorem Draft.takeAll_eq_some_iff {reader : FieldReader τ} {members : List (String × τ)}
    {draft later : Draft} :
    members.foldlM (fun (draft : Draft) (member : String × τ) =>
        draft.take reader member.1 member.2) draft = some later ↔
      collect reader.id draft.id (Field.id.values members) = some later.id ∧
      collect reader.text draft.title (Field.title.values members) = some later.title ∧
      collect reader.text draft.predicate (Field.predicate.values members) =
        some later.predicate ∧
      collect reader.next draft.trueNext (Field.trueNext.values members) = some later.trueNext ∧
      collect reader.next draft.falseNext (Field.falseNext.values members) =
        some later.falseNext := by
  induction members generalizing draft with
  | nil =>
    cases draft
    cases later
    simp [Field.values, collect]
  | cons member members ih =>
    rw [List.foldlM_cons, Draft.take]
    simp only [Field.values_cons]
    cases named : Field.ofKey? member.1 with
    | none => simpa using ih
    | some field =>
      cases field with
      | id =>
        cases taken : once draft.id (reader.id member.2) <;> simp [collect_cons, taken, ih]
      | title =>
        cases taken : once draft.title (reader.text member.2) <;> simp [collect_cons, taken, ih]
      | predicate =>
        cases taken : once draft.predicate (reader.text member.2) <;> simp [collect_cons, taken, ih]
      | trueNext =>
        cases taken : once draft.trueNext (reader.next member.2) <;> simp [collect_cons, taken, ih]
      | falseNext =>
        cases taken : once draft.falseNext (reader.next member.2) <;> simp [collect_cons, taken, ih]

/-- A draft with an id and a predicate is a definition, in which what is missing has its default. -/
theorem Draft.finish_eq_some_iff {draft : Draft} {definition : RuleDefinition} :
    draft.finish = some definition ↔
      draft.id = some definition.id ∧ draft.title.getD "" = definition.title ∧
      draft.predicate = some definition.predicate ∧
      draft.trueNext.getD none = definition.trueNext ∧
      draft.falseNext.getD none = definition.falseNext := by
  constructor
  · intro finished
    obtain ⟨id, given, finished⟩ := Option.bind_eq_some_iff.mp finished
    obtain ⟨predicate, written, finished⟩ := Option.bind_eq_some_iff.mp finished
    cases finished
    exact ⟨given, rfl, written, rfl, rfl⟩
  · rintro ⟨id, title, predicate, trueNext, falseNext⟩
    rw [finish, id, predicate, title, trueNext, falseNext]
    rfl

/-- A field that has to be given. -/
theorem once_iff_collect {read : τ → Option α} {values : List τ} {result : α} :
    Once read values result ↔ collect read none values = some (some result) := by
  simp [collect_none]

/-- A field that may be left out. -/
theorem atMostOnce_iff_collect {read : τ → Option α} {absent : α} {values : List τ}
    {result : α} :
    AtMostOnce read absent values result ↔
      ∃ given, collect read none values = some given ∧ given.getD absent = result := by
  simp only [collect_none]
  constructor
  · rintro (⟨none_given, rfl⟩ | once)
    · exact ⟨none, .inl ⟨none_given, rfl⟩, rfl⟩
    · exact ⟨some result, .inr ⟨result, rfl, once⟩, rfl⟩
  · rintro ⟨given, ⟨none_given, rfl⟩ | ⟨result, rfl, once⟩, rfl⟩
    · exact .inl ⟨none_given, rfl⟩
    · exact .inr once

/-- Members are a definition exactly when they give its fields. -/
theorem ofMembers?_eq_some_iff {reader : FieldReader τ} {members : List (String × τ)}
    {definition : RuleDefinition} :
    ofMembers? reader members = some definition ↔ GivenBy reader members definition := by
  constructor
  · intro read
    obtain ⟨draft, taken, finished⟩ := Option.bind_eq_some_iff.mp read
    obtain ⟨id, title, predicate, trueNext, falseNext⟩ := Draft.takeAll_eq_some_iff.mp taken
    obtain ⟨idHeld, titleHeld, predicateHeld, trueHeld, falseHeld⟩ :=
      Draft.finish_eq_some_iff.mp finished
    exact {
      id := once_iff_collect.mpr (idHeld ▸ id)
      title := atMostOnce_iff_collect.mpr ⟨draft.title, title, titleHeld⟩
      predicate := once_iff_collect.mpr (predicateHeld ▸ predicate)
      trueNext := atMostOnce_iff_collect.mpr ⟨draft.trueNext, trueNext, trueHeld⟩
      falseNext := atMostOnce_iff_collect.mpr ⟨draft.falseNext, falseNext, falseHeld⟩ }
  · intro given
    obtain ⟨title, titleTaken, titleHeld⟩ := atMostOnce_iff_collect.mp given.title
    obtain ⟨trueNext, trueTaken, trueHeld⟩ := atMostOnce_iff_collect.mp given.trueNext
    obtain ⟨falseNext, falseTaken, falseHeld⟩ := atMostOnce_iff_collect.mp given.falseNext
    refine Option.bind_eq_some_iff.mpr
      ⟨⟨some definition.id, title, some definition.predicate, trueNext, falseNext⟩, ?_, ?_⟩
    · exact Draft.takeAll_eq_some_iff.mpr ⟨once_iff_collect.mp given.id, titleTaken,
        once_iff_collect.mp given.predicate, trueTaken, falseTaken⟩
    · exact Draft.finish_eq_some_iff.mpr ⟨rfl, titleHeld, rfl, trueHeld, falseHeld⟩

/-! ## The order of the members -/

/-- One value is one value in any order. -/
theorem Once.of_perm {read : τ → Option α} {values others : List τ} {result : α}
    (once : Once read values result) (order : values.Perm others) : Once read others result := by
  obtain ⟨value, rfl, held⟩ := once
  exact ⟨value, List.perm_singleton.mp order.symm, held⟩

/-- At most one value is at most one value in any order. -/
theorem AtMostOnce.of_perm {read : τ → Option α} {absent : α} {values others : List τ} {result : α}
    (once : AtMostOnce read absent values result) (order : values.Perm others) :
    AtMostOnce read absent others result := by
  rcases once with ⟨rfl, held⟩ | once
  · exact .inl ⟨List.nil_perm.mp order, held⟩
  · exact .inr (once.of_perm order)

/-- Members that give each field the same values, in any order, give the same definition. -/
theorem GivenBy.of_perm {reader : FieldReader τ} {members others : List (String × τ)}
    {definition : RuleDefinition} (given : GivenBy reader members definition)
    (order : ∀ field : Field, (field.values members).Perm (field.values others)) :
    GivenBy reader others definition where
  id := given.id.of_perm (order .id)
  title := given.title.of_perm (order .title)
  predicate := given.predicate.of_perm (order .predicate)
  trueNext := given.trueNext.of_perm (order .trueNext)
  falseNext := given.falseNext.of_perm (order .falseNext)

/-- A definition, or that there is none, depends only on the values that each field is given. -/
theorem ofMembers?_eq_of_perm (reader : FieldReader τ) {members others : List (String × τ)}
    (order : ∀ field : Field, (field.values members).Perm (field.values others)) :
    ofMembers? reader members = ofMembers? reader others := by
  ext definition
  rw [ofMembers?_eq_some_iff, ofMembers?_eq_some_iff]
  exact ⟨fun given => given.of_perm order, fun given => given.of_perm fun field =>
    (order field).symm⟩

/-! ## Objects -/

/-- A JSON tree that can be an id: an integer of 64 bits, or a text. -/
def IsId (tree : Json) : Prop :=
  (∃ value : Int64, tree = .int value.toInt) ∨ ∃ text, tree = .string text

/-- What can be an id means one. -/
theorem isId_iff {tree : Json} : IsId tree ↔ ∃ id, RuleId.ofJson? tree = some id := by
  constructor
  · rintro (⟨value, rfl⟩ | ⟨text, rfl⟩)
    · exact ⟨.int value, by rw [RuleId.ofJson?, Number.int64?_toInt, Option.map_some]⟩
    · exact ⟨RuleId.ofText text, rfl⟩
  · rintro ⟨id, read⟩
    unfold RuleId.ofJson? at read
    split at read
    · obtain ⟨value, fits, _⟩ := Option.map_eq_some_iff.mp read
      exact .inl ⟨value, congrArg Json.int (Number.int64?_eq_some_iff.mp fits).symm⟩
    · exact .inr ⟨_, rfl⟩
    · contradiction

/-- A text is read from itself only. -/
theorem textOfJson?_eq_some_iff {tree : Json} {text : String} :
    textOfJson? tree = some text ↔ tree = .string text := by
  cases tree <;> simp [textOfJson?]

/-- A successor is given by null or by what can be an id. -/
theorem exists_next_iff {tree : Json} :
    (∃ next, nextOfJson? tree = some next) ↔ tree = .null ∨ IsId tree := by
  rw [isId_iff]
  cases tree with
  | null => simp [nextOfJson?]
  | _ =>
    simp only [nextOfJson?, Option.map_eq_some_iff, reduceCtorEq, false_or]
    exact ⟨fun ⟨_, id, read, _⟩ => ⟨id, read⟩, fun ⟨id, read⟩ => ⟨some id, id, read, rfl⟩⟩

/-- There is a definition when each field can be read on its own. -/
theorem exists_givenBy_iff {reader : FieldReader τ} {members : List (String × τ)} :
    (∃ definition, GivenBy reader members definition) ↔
      (∃ id, Once reader.id (Field.id.values members) id) ∧
      (∃ predicate, Once reader.text (Field.predicate.values members) predicate) ∧
      (∃ title, AtMostOnce reader.text "" (Field.title.values members) title) ∧
      (∃ next, AtMostOnce reader.next none (Field.trueNext.values members) next) ∧
      ∃ next, AtMostOnce reader.next none (Field.falseNext.values members) next := by
  constructor
  · rintro ⟨definition, given⟩
    exact ⟨⟨_, given.id⟩, ⟨_, given.predicate⟩, ⟨_, given.title⟩, ⟨_, given.trueNext⟩,
      ⟨_, given.falseNext⟩⟩
  · rintro ⟨⟨id, idGiven⟩, ⟨predicate, predicateGiven⟩, ⟨title, titleGiven⟩,
      ⟨trueNext, trueGiven⟩, ⟨falseNext, falseGiven⟩⟩
    exact ⟨⟨id, title, predicate, trueNext, falseNext⟩, idGiven, titleGiven, predicateGiven,
      trueGiven, falseGiven⟩

/-- A value that is given once can be read when it is of the right form. -/
theorem exists_once_iff {read : τ → Option α} {values : List τ} :
    (∃ result, Once read values result) ↔
      ∃ value, values = [value] ∧ ∃ result, read value = some result := by
  simp only [Once]
  rw [exists_comm]
  simp only [exists_and_left]

/-- A value that may be left out can be read when it is, or when it is of the right form. -/
theorem exists_atMostOnce_iff {read : τ → Option α} {absent : α} {values : List τ} :
    (∃ result, AtMostOnce read absent values result) ↔
      values = [] ∨ ∃ value, values = [value] ∧ ∃ result, read value = some result := by
  simp only [AtMostOnce, exists_or, exists_once_iff, exists_and_left, exists_eq, and_true]

/-- An object is a definition when it gives the id and the predicate once and the title and the
successors at most once, each as a value of its kind, and the definition is that of these values.
Neither the order of the members matters, nor the spellings of their keys, nor what other keys there
are. -/
theorem ofJson?_object (members : List (String × Json)) :
    ((∃ definition, ofJson? (.object members) = some definition) ↔
      (∃ value, Field.id.values members = [value] ∧ IsId value) ∧
      (∃ text, Field.predicate.values members = [.string text]) ∧
      (Field.title.values members = [] ∨ ∃ text, Field.title.values members = [.string text]) ∧
      ∀ field ∈ [Field.trueNext, .falseNext], field.values members = [] ∨
        ∃ value, field.values members = [value] ∧ (value = .null ∨ IsId value)) ∧
    (∀ definition, ofJson? (.object members) = some definition ↔
      GivenBy jsonFields members definition) ∧
    (∀ others : List (String × Json),
      (∀ field : Field, (field.values members).Perm (field.values others)) →
        ofJson? (.object members) = ofJson? (.object others)) ∧
    ∀ others : List (String × Json), members.Perm others →
      ofJson? (.object members) = ofJson? (.object others) := by
  refine ⟨?_, fun definition => ofMembers?_eq_some_iff, fun others order =>
    ofMembers?_eq_of_perm jsonFields order, fun others order =>
    ofMembers?_eq_of_perm jsonFields fun field => field.values_perm order⟩
  have text (values : List Json) : (∃ value, values = [value] ∧ ∃ text, value = .string text) ↔
      ∃ text, values = [.string text] :=
    ⟨fun ⟨_, one, text, same⟩ => ⟨text, same ▸ one⟩, fun ⟨text, one⟩ => ⟨_, one, text, rfl⟩⟩
  simp only [ofJson?, ofMembers?_eq_some_iff, exists_givenBy_iff, exists_once_iff,
    exists_atMostOnce_iff, jsonFields, ← isId_iff, textOfJson?_eq_some_iff, exists_next_iff, text,
    List.mem_cons, List.not_mem_nil, or_false, forall_eq_or_imp, forall_eq]

/-- A definition is read from its members in either order, under old or new keys and beside a key
that names no field; a successor that is given under two keys makes it none. -/
theorem ofJson?_object_aliases :
    let members : List (String × Json) := [("id", .int 3), ("title", .string "Rule 3"),
      ("method", .string "return obj.color == 'green'"), ("trueId", .string "2"),
      ("falseId", .null)]
    let others : List (String × Json) := [("falseNextId", .null), ("true_next", .string "2"),
      ("note", .bool true), ("predicate", .string "return obj.color == 'green'"),
      ("title", .string "Rule 3"), ("id", .int 3)]
    (∀ field : Field, (field.values members).Perm (field.values others)) ∧
      ofJson? (.object members) = ofJson? (.object others) ∧
      ofJson? (.object others) =
        some ⟨.int 3, "Rule 3", "return obj.color == 'green'", some (.int 2), none⟩ ∧
      ¬ ∃ definition, ofJson? (.object (("trueNextId", .null) :: members)) = some definition := by
  intro members others
  have order (field : Field) : (field.values members).Perm (field.values others) := by
    cases field <;> exact .refl _
  refine ⟨order, (ofJson?_object members).2.2.1 others order, by decide, ?_⟩
  rw [(ofJson?_object (("trueNextId", .null) :: members)).1]
  rintro ⟨-, -, -, nexts⟩
  have both : Field.trueNext.values (("trueNextId", .null) :: members) = [.null, .string "2"] := rfl
  have given := nexts .trueNext List.mem_cons_self
  rw [both] at given
  rcases given with nothing | ⟨value, one, -⟩
  · contradiction
  · nomatch one

end DecisionFlow.RuleDefinition
