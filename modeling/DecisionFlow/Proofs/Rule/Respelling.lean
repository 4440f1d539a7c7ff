import DecisionFlow.Proofs.Rule.RoundTrip
import DecisionFlow.Proofs.Yaml.Equality

/-!
# Spellings of ids

An integer can be given as an id by itself or by any text that reads as it once it is trimmed, and
every way to give an id takes both to the same id. So the id of a text is a normal form: its text
and its JSON tree give it back, and normal forms with one text are one. Flows that differ only in
how the integers among their ids and successors are spelt have the same definitions
(`readFlow_respelt`, `readList?_respelt`). Main statement: all of this (`RuleId.normal_forms`).
-/
namespace DecisionFlow

/-! ## Integers as texts and trees -/

/-- A text that reads as an integer once it is trimmed. -/
def Text.SpellsInteger (text : String) (value : Int64) : Prop :=
  readInt64 (trim text.toList) = .ok value

/-- A JSON tree that is an integer or a text that reads as it. -/
def Json.SpellsInteger : Json → Int64 → Prop
  | .int whole, value => whole = value.toInt
  | .string text, value => Text.SpellsInteger text value
  | _, _ => False

/-- A YAML tree that is an integer or a text that reads as it. -/
def Yaml.Tree.SpellsInteger : Yaml.Tree → Int64 → Prop
  | .int whole, value => whole = value.toInt
  | .string text, value => Text.SpellsInteger text value
  | _, _ => False

/-- A text means an integer exactly when it reads as it once it is trimmed. -/
theorem RuleId.ofText_eq_int_iff {text : String} {value : Int64} :
    ofText text = .int value ↔ Text.SpellsInteger text value := by
  rw [ofText, Text.SpellsInteger]
  cases Text.readInt64 (Text.trim text.toList) <;> simp

/-- A JSON tree that spells an integer means it. -/
theorem Json.SpellsInteger.ruleId {tree : Json} {value : Int64}
    (spells : tree.SpellsInteger value) : RuleId.ofJson? tree = some (.int value) := by
  cases tree with
  | int whole =>
    obtain rfl : whole = value.toInt := spells
    rw [RuleId.ofJson?, Number.int64?_toInt, Option.map_some]
  | string text => exact congrArg some (RuleId.ofText_eq_int_iff.mpr spells)
  | _ => contradiction

/-- A YAML tree that spells an integer means it. -/
theorem Yaml.Tree.SpellsInteger.ruleId {tree : Yaml.Tree} {value : Int64}
    (spells : tree.SpellsInteger value) : tree.ruleId? = some (.int value) := by
  cases tree with
  | int whole =>
    obtain rfl : whole = value.toInt := spells
    rw [ruleId?, Number.int64?_toInt, Option.map_some]
  | string text => exact congrArg some (RuleId.ofText_eq_int_iff.mpr spells)
  | _ => contradiction

/-! ## Members and items -/

section Lists

variable {α β γ δ : Type} {related : α → β → Prop}

/-- Item by item the same results, or none, give the same results of all items, or none. -/
theorem mapM_eq_of_forall₂ {image : α → Option γ} {other : β → Option γ} {items : List α}
    {others : List β} (each : ∀ a b, related a b → image a = other b)
    (rows : List.Forall₂ related items others) : items.mapM image = others.mapM other := by
  induction rows with
  | nil => rfl
  | cons first _ ih => rw [List.mapM_cons, List.mapM_cons, each _ _ first, ih]

/-- Item by item related results, or none, give related results of all items, or none. -/
theorem rel_mapM {further : γ → δ → Prop} {image : α → Option γ} {other : β → Option δ}
    {items : List α} {others : List β}
    (each : ∀ a b, related a b → Option.Rel further (image a) (other b))
    (rows : List.Forall₂ related items others) :
    Option.Rel (List.Forall₂ further) (items.mapM image) (others.mapM other) := by
  induction rows with
  | nil => exact .some .nil
  | cons first _ ih =>
    rw [List.mapM_cons, List.mapM_cons]
    have head := each _ _ first
    generalize image _ = result at head ⊢
    generalize other _ = counterpart at head ⊢
    generalize List.mapM image _ = results at ih ⊢
    generalize List.mapM other _ = counterparts at ih ⊢
    cases head with
    | none => exact .none
    | some here =>
      cases ih with
      | none => exact .none
      | some rest => exact .some (.cons here rest)

end Lists

/-- One value, or two that spell one integer. -/
def Respelt {τ : Type} (spells : τ → Int64 → Prop) (first second : τ) : Prop :=
  first = second ∨ ∃ value, spells first value ∧ spells second value

/-- What takes spelt integers to their meaning does not tell respelt values apart. -/
theorem Respelt.image_eq {τ α : Type} {spells : τ → Int64 → Prop} {first second : τ}
    {image : τ → α} {meaning : Int64 → α} (respelt : Respelt spells first second)
    (reads : ∀ {tree value}, spells tree value → image tree = meaning value) :
    image first = image second := by
  rcases respelt with rfl | ⟨value, here, there⟩
  · rfl
  · rw [reads here, reads there]

namespace RuleDefinition

/-- The fields that hold ids. -/
def Field.HoldsId (field : Field) : Prop := field ∈ [Field.id, .trueNext, .falseNext]

section Members

variable {τ : Type} {spells : τ → Int64 → Prop} {reader : FieldReader τ}

/-- One member, or two of one key with related values. -/
def MemberRelated (related : String → τ → τ → Prop) (first second : String × τ) : Prop :=
  first = second ∨ first.1 = second.1 ∧ related first.1 first.2 second.2

/-- Members that are chosen by their keys are related when all members are. -/
theorem MemberRelated.filter {related : String → τ → τ → Prop} (chosen : String → Bool)
    {members others : List (String × τ)}
    (rows : List.Forall₂ (MemberRelated related) members others) :
    List.Forall₂ (MemberRelated related) (members.filter fun member => chosen member.1)
      (others.filter fun member => chosen member.1) := by
  induction rows with
  | nil => exact .nil
  | @cons first second _ _ row _ ih =>
    have key : first.1 = second.1 := row.elim (congrArg Prod.fst) And.left
    rw [List.filter_cons, List.filter_cons, key]
    split
    · exact .cons row ih
    · exact ih

/-- Respelt values of a key that names a field for ids. -/
def ValueRespelt (spells : τ → Int64 → Prop) (key : String) (first second : τ) : Prop :=
  (∃ field : Field, field.HoldsId ∧ key ∈ field.keys) ∧ Respelt spells first second

/-- A reader of fields that reads spelt integers as themselves. -/
structure FieldReader.ReadsIntegers (reader : FieldReader τ) (spells : τ → Int64 → Prop) :
    Prop where
  /-- What spells an integer is the id. -/
  id : ∀ {tree value}, spells tree value → reader.id tree = some (.int value)
  /-- What spells an integer is the successor. -/
  next : ∀ {tree value}, spells tree value → reader.next tree = some (some (.int value))

/-- A draft takes respelt members alike. -/
theorem Draft.take_respelt (reads : reader.ReadsIntegers spells) {first second : String × τ}
    (respelt : MemberRelated (ValueRespelt spells) first second) (draft : Draft) :
    draft.take reader first.1 first.2 = draft.take reader second.1 second.2 := by
  obtain ⟨key, value⟩ := first
  obtain ⟨other, counterpart⟩ := second
  rcases respelt with same | ⟨rfl, ⟨field, holds, spelt⟩, same | ⟨integer, here, there⟩⟩
  · cases same
    rfl
  · cases same
    rfl
  · dsimp only at spelt here there ⊢
    have named := Field.ofKey?_eq_some_iff.mpr spelt
    simp only [Field.HoldsId, List.mem_cons, List.not_mem_nil, or_false] at holds
    rcases holds with rfl | rfl | rfl <;>
      simp only [take, named, reads.id here, reads.id there, reads.next here, reads.next there]

/-- Respelt members give one definition, or none. -/
theorem ofMembers?_respelt (reads : reader.ReadsIntegers spells)
    {members others : List (String × τ)}
    (rows : List.Forall₂ (MemberRelated (ValueRespelt spells)) members others) :
    ofMembers? reader members = ofMembers? reader others := by
  have taken (draft : Draft) :
      members.foldlM (fun (draft : Draft) (member : String × τ) =>
          draft.take reader member.1 member.2) draft =
        others.foldlM (fun (draft : Draft) (member : String × τ) =>
          draft.take reader member.1 member.2) draft := by
    induction rows generalizing draft with
    | nil => rfl
    | cons first _ ih =>
      rw [List.foldlM_cons, List.foldlM_cons, draft.take_respelt reads first]
      exact congrArg _ (funext ih)
  rw [ofMembers?, ofMembers?, taken]

end Members

end RuleDefinition

/-! ## JSON documents -/

/-- Successors in JSON trees read spelt integers. -/
theorem Json.SpellsInteger.next {tree : Json} {value : Int64} (spells : tree.SpellsInteger value) :
    RuleDefinition.nextOfJson? tree = some (some (.int value)) := by
  have id := spells.ruleId
  cases tree with
  | null => contradiction
  | _ => exact congrArg (Option.map some) id

namespace RuleDefinition

/-- JSON trees of definitions that differ at most in how the integers among their ids and
successors are spelt. -/
inductive JsonRespelt : Json → Json → Prop where
  /-- One tree. -/
  | refl (tree : Json) : JsonRespelt tree tree
  /-- Objects with respelt members. -/
  | object {members others : List (String × Json)}
    (rows : List.Forall₂ (MemberRelated (ValueRespelt Json.SpellsInteger)) members others) :
    JsonRespelt (.object members) (.object others)
  /-- Arrays with respelt ids and successors. -/
  | array {id other title predicate : Json} {nexts others : List Json}
    (respelt : Respelt Json.SpellsInteger id other)
    (rows : List.Forall₂ (Respelt Json.SpellsInteger) nexts others) :
    JsonRespelt (.array (id :: title :: predicate :: nexts))
      (.array (other :: title :: predicate :: others))

/-- The fields in JSON trees read spelt integers. -/
theorem jsonFields_readsIntegers : jsonFields.ReadsIntegers Json.SpellsInteger :=
  ⟨Json.SpellsInteger.ruleId, Json.SpellsInteger.next⟩

/-- Respelt JSON trees are one definition, or none. -/
theorem JsonRespelt.ofJson? {tree other : Json} (respelt : JsonRespelt tree other) :
    RuleDefinition.ofJson? tree = RuleDefinition.ofJson? other := by
  cases respelt with
  | refl => rfl
  | object rows => exact ofMembers?_respelt jsonFields_readsIntegers rows
  | array respelt rows =>
    have next {first second : Json} (respelt : Respelt Json.SpellsInteger first second) :
        nextOfJson? first = nextOfJson? second := respelt.image_eq Json.SpellsInteger.next
    simp only [RuleDefinition.ofJson?, ofItems?, respelt.image_eq Json.SpellsInteger.ruleId]
    -- An array is read by the number of its successors.
    cases rows with
    | nil => rfl
    | cons first rows =>
      cases rows with
      | nil => simp only [next first]
      | cons second rows =>
        cases rows with
        | nil => simp only [next first, next second]
        | cons => rfl

/-- JSON trees of documents with respelt definitions. -/
def JsonListRespelt (tree other : Json) : Prop :=
  tree = other ∨ ∃ items others, tree = .array items ∧ other = .array others ∧
    List.Forall₂ JsonRespelt items others

/-- JSON texts with respelt definitions have the same definitions, or none. -/
theorem readList?_respelt {first second : String} {tree other : Json}
    (read : Json.read? first = some tree) (readOther : Json.read? second = some other)
    (respelt : JsonListRespelt tree other) : readList? first = readList? second := by
  rw [readList?, readList?, read, readOther]
  rcases respelt with rfl | ⟨items, others, rfl, rfl, rows⟩
  · rfl
  · exact mapM_eq_of_forall₂ (fun _ _ respelt => respelt.ofJson?) rows

end RuleDefinition

/-! ## YAML documents -/

namespace Yaml.Tree

/-- Successors in YAML trees read spelt integers. -/
theorem SpellsInteger.next {tree : Tree} {value : Int64} (spells : tree.SpellsInteger value) :
    tree.next? = some (some (.int value)) := by
  have id := spells.ruleId
  cases tree with
  | null => contradiction
  | _ => exact congrArg (Option.map some) id

/-- The fields in YAML trees read spelt integers. -/
theorem fields_readsIntegers : fields.ReadsIntegers SpellsInteger :=
  ⟨SpellsInteger.ruleId, SpellsInteger.next⟩

/-- One entry, or two of one key, a text, with related values. -/
def EntryRelated (related : String → Tree → Tree → Prop) (first second : Tree × Tree) : Prop :=
  first = second ∨ first.1 = second.1 ∧ ∃ key, first.1.text? = some key ∧
    related key first.2 second.2

/-- Trees of definitions that differ at most in how the integers among their ids and successors
are spelt. -/
inductive DefinitionRespelt : Tree → Tree → Prop where
  /-- One tree. -/
  | refl (tree : Tree) : DefinitionRespelt tree tree
  /-- Trees below one tag. -/
  | tagged (tag : String) {tree other : Tree} (respelt : DefinitionRespelt tree other) :
    DefinitionRespelt (.tagged tag tree) (.tagged tag other)
  /-- Mappings with respelt entries. -/
  | mapping {entries others : List (Tree × Tree)}
    (rows : List.Forall₂ (EntryRelated (RuleDefinition.ValueRespelt SpellsInteger))
      entries others) :
    DefinitionRespelt (.mapping entries) (.mapping others)

/-- Trees of lists of definitions that differ at most in how ids and successors are spelt. -/
inductive ListRespelt : Tree → Tree → Prop where
  /-- One tree. -/
  | refl (tree : Tree) : ListRespelt tree tree
  /-- Trees below one tag. -/
  | tagged (tag : String) {tree other : Tree} (respelt : ListRespelt tree other) :
    ListRespelt (.tagged tag tree) (.tagged tag other)
  /-- Sequences of respelt definitions. -/
  | sequence {items others : List Tree} (rows : List.Forall₂ DefinitionRespelt items others) :
    ListRespelt (.sequence items) (.sequence others)

/-- Respelt lists of definitions under `rules`. -/
def SectionRespelt (key : String) (first second : Tree) : Prop :=
  key = "rules" ∧ ListRespelt first second

/-- Trees of flow documents that differ at most in how the integers among the ids and successors
of their definitions are spelt. -/
inductive FlowRespelt : Tree → Tree → Prop where
  /-- Lists of definitions. -/
  | list {items others : List Tree} (rows : List.Forall₂ DefinitionRespelt items others) :
    FlowRespelt (.sequence items) (.sequence others)
  /-- Mappings with lists of definitions under `rules`. -/
  | rules {entries others : List (Tree × Tree)}
    (rows : List.Forall₂ (EntryRelated SectionRespelt) entries others) :
    FlowRespelt (.mapping entries) (.mapping others)

/-- A tag is looked through for the members of a definition. -/
theorem members?_tagged (tag : String) (tree : Tree) :
    (Tree.tagged tag tree).members? = tree.members? := by
  rw [members?, untagged, members?]

/-- A tag is looked through for the items of a list. -/
theorem items?_tagged (tag : String) (tree : Tree) :
    (Tree.tagged tag tree).items? = tree.items? := by
  rw [items?, untagged, items?]

/-- Entries with related values give members with related values. -/
theorem rel_members? {related : String → Tree → Tree → Prop} {entries others : List (Tree × Tree)}
    (rows : List.Forall₂ (EntryRelated related) entries others) :
    Option.Rel (List.Forall₂ (RuleDefinition.MemberRelated related))
      (members? (.mapping entries)) (members? (.mapping others)) := by
  refine rel_mapM ?_ rows
  rintro ⟨key, value⟩ ⟨other, counterpart⟩ row
  dsimp only [EntryRelated] at row ⊢
  rcases row with same | ⟨rfl, text, read, values⟩
  · cases same
    cases key.text? with
    | none => exact .none
    | some text => exact .some (.inl rfl)
  · rw [read]
    exact .some (.inr ⟨rfl, values⟩)

/-- Respelt trees are one definition, or none. -/
theorem DefinitionRespelt.definition? {tree other : Tree} (respelt : DefinitionRespelt tree other) :
    tree.definition? = other.definition? := by
  induction respelt with
  | refl => rfl
  | tagged tag _ ih =>
    rw [Tree.definition?, Tree.definition?, members?_tagged, members?_tagged]
    exact ih
  | mapping rows =>
    have members := rel_members? rows
    rw [Tree.definition?, Tree.definition?]
    generalize members? _ = found at members ⊢
    generalize members? _ = foundOther at members ⊢
    cases members with
    | none => rfl
    | some rows => exact RuleDefinition.ofMembers?_respelt fields_readsIntegers rows

/-- Respelt trees are one list of definitions, or none. -/
theorem ListRespelt.definitions? {tree other : Tree} (respelt : ListRespelt tree other) :
    tree.definitions? = other.definitions? := by
  induction respelt with
  | refl => rfl
  | tagged tag _ ih =>
    rw [Tree.definitions?, Tree.definitions?, items?_tagged, items?_tagged]
    exact ih
  | sequence rows => exact mapM_eq_of_forall₂ (fun _ _ respelt => respelt.definition?) rows

/-- Respelt mappings have one list of definitions under `rules`, or none. -/
theorem ruleList?_respelt {entries others : List (Tree × Tree)}
    (rows : List.Forall₂ (EntryRelated SectionRespelt) entries others) :
    ruleList? (.mapping entries) = ruleList? (.mapping others) := by
  have members := rel_members? rows
  rw [Tree.ruleList?, Tree.ruleList?]
  generalize members? _ = found at members ⊢
  generalize members? _ = foundOther at members ⊢
  cases members with
  | none => rfl
  | some rows =>
    have listed := RuleDefinition.MemberRelated.filter (· == "rules") rows
    simp only [Option.bind_eq_bind, Option.bind_some]
    generalize List.filter _ _ = sections at listed ⊢
    generalize List.filter _ _ = sectionsOther at listed ⊢
    -- The list is read when there is just one section of the name.
    cases listed with
    | nil => rfl
    | cons first rest =>
      cases rest with
      | cons => rfl
      | nil =>
        rcases first with same | ⟨_, _, respelt⟩
        · cases same
          rfl
        · exact respelt.definitions?

end Yaml.Tree

/-- Texts of flow documents with respelt definitions have the same definitions, or the same
error. -/
theorem readFlow_respelt {first second : String} {tree other : Yaml.Tree}
    (read : Yaml.Tree.read? first = some tree) (readOther : Yaml.Tree.read? second = some other)
    (respelt : tree.FlowRespelt other) : readFlow first = readFlow second := by
  rw [readFlow, readFlow, read, readOther]
  cases respelt with
  | list rows =>
    exact congrArg (Option.elim · _ _) (Yaml.Tree.ListRespelt.sequence rows).definitions?
  | rules rows => exact congrArg (Option.elim · _ _) (Yaml.Tree.ruleList?_respelt rows)

/-! ## Normal forms -/

namespace RuleId

/-- The text of a canonical id is read back from JSON. -/
theorem Canonical.read?_compact {id : RuleId} (canonical : id.Canonical) :
    (Json.read? id.toJson.compact).bind ofJson? = some id := by
  have fits : 0 + id.toJson.nesting ≤ Json.nestingLimit := by
    rw [nesting_toJson]
    exact Nat.zero_le _
  rw [id.written_toJson.read?_compact, id.written_toJson.capped_of_fits fits]
  exact ofJson?_toJson_iff.mpr canonical

/-- The id of a text is given back by its text and by its JSON text. Ids that are made in any way
are told apart by their texts. Documents in which ids and successors are integers in one place and
texts that read as these integers in the other have the same definitions, and so the same registry
and the same walks. -/
theorem normal_forms :
    (∀ text : String, ofText (ofText text).toText = ofText text ∧
      (Json.read? (ofText text).toJson.compact).bind ofJson? = some (ofText text)) ∧
    (∀ id other : RuleId, id.Made → other.Made → id.toText = other.toText → id = other) ∧
    (∀ (first second : String) (tree other : Yaml.Tree), Yaml.Tree.read? first = some tree →
      Yaml.Tree.read? second = some other → tree.FlowRespelt other →
        readFlow first = readFlow second) ∧
    ∀ (first second : String) (tree other : Json), Json.read? first = some tree →
      Json.read? second = some other → RuleDefinition.JsonListRespelt tree other →
        RuleDefinition.readList? first = RuleDefinition.readList? second :=
  ⟨fun text => ⟨canonical_ofText text, (canonical_ofText text).read?_compact⟩,
    fun _ _ made other => made.canonical.eq_of_toText other.canonical,
    fun _ _ _ _ => readFlow_respelt, fun _ _ _ _ => RuleDefinition.readList?_respelt⟩

/-- An integer and a text with a sign and a zero are one id, and so they are in a flow document and
in a JSON text. -/
theorem normal_forms_spellings :
    let flow (id next : Yaml.Tree) : Yaml.Tree := .sequence [.mapping
      [(.string "id", id), (.string "predicate", .string "x"), (.string "trueId", next)]]
    let list (id : Json) : Json := .array [.array [id, .string "", .string "x"]]
    ((int 1).Made ∧ (ofText " +01").Made ∧ (int 1).toText = (ofText " +01").toText ∧
      int 1 = ofText " +01") ∧
    (Yaml.Tree.read? "[\x7bid: 1, predicate: x, trueId: 2\x7d]" = some (flow (.int 1) (.int 2)) ∧
      Yaml.Tree.read? "[\x7bid: ' +01', predicate: x, trueId: \"2\"\x7d]" =
        some (flow (.string " +01") (.string "2")) ∧
      (flow (.int 1) (.int 2)).FlowRespelt (flow (.string " +01") (.string "2")) ∧
      readFlow "[\x7bid: 1, predicate: x, trueId: 2\x7d]" =
        readFlow "[\x7bid: ' +01', predicate: x, trueId: \"2\"\x7d]") ∧
    Json.read? "[[1,\"\",\"x\"]]" = some (list (.int 1)) ∧
      Json.read? "[[\"1\\n\",\"\",\"x\"]]" = some (list (.string "1\n")) ∧
      RuleDefinition.JsonListRespelt (list (.int 1)) (list (.string "1\n")) ∧
      RuleDefinition.readList? "[[1,\"\",\"x\"]]" =
        RuleDefinition.readList? "[[\"1\\n\",\"\",\"x\"]]" := by
  intro flow list
  have made : (ofText " +01").Made := .given (.text _)
  have same : (int 1).toText = (ofText " +01").toText := by decide
  have readIntegers : Yaml.Tree.read? "[\x7bid: 1, predicate: x, trueId: 2\x7d]" =
      some (flow (.int 1) (.int 2)) := by decide +kernel
  have readTexts : Yaml.Tree.read? "[\x7bid: ' +01', predicate: x, trueId: \"2\"\x7d]" =
      some (flow (.string " +01") (.string "2")) := by decide +kernel
  have written {id : Json} (written : id.Written) : (list id).Written := by
    have items : ∀ item ∈ [id, .string "", .string "x"], item.Written := by
      simp [written, Json.Written.string]
    exact .array (List.forall_mem_singleton.mpr (.array items))
  have integer : (list (.int 1)).compact = "[[1,\"\",\"x\"]]" := by decide +kernel
  have text : (list (.string "1\n")).compact = "[[\"1\\n\",\"\",\"x\"]]" := by decide +kernel
  have readInteger : Json.read? "[[1,\"\",\"x\"]]" = some (list (.int 1)) :=
    integer ▸ (written (.int (by decide) (by decide))).read?_compact
  have readText : Json.read? "[[\"1\\n\",\"\",\"x\"]]" = some (list (.string "1\n")) :=
    text ▸ (written (.string "1\n")).read?_compact
  have id : ∃ field : RuleDefinition.Field, field.HoldsId ∧ "id" ∈ field.keys :=
    ⟨.id, .head _, .head _⟩
  have edge : ∃ field : RuleDefinition.Field, field.HoldsId ∧ "trueId" ∈ field.keys :=
    ⟨.trueNext, .tail _ (.head _), by decide⟩
  have respeltFlow : (flow (.int 1) (.int 2)).FlowRespelt (flow (.string " +01") (.string "2")) :=
    .list (.cons (.mapping (.cons (.inr ⟨rfl, "id", rfl, id, .inr ⟨1, rfl, rfl⟩⟩) (.cons (.inl rfl)
      (.cons (.inr ⟨rfl, "trueId", rfl, edge, .inr ⟨2, rfl, rfl⟩⟩) .nil)))) .nil)
  have respeltList : RuleDefinition.JsonListRespelt (list (.int 1)) (list (.string "1\n")) :=
    .inr ⟨_, _, rfl, rfl, .cons (.array (.inr ⟨1, rfl, rfl⟩) .nil) .nil⟩
  obtain ⟨-, apart, flows, lists⟩ := normal_forms
  exact ⟨⟨.integer 1, made, same, apart _ _ (.integer 1) made same⟩,
    ⟨readIntegers, readTexts, respeltFlow, flows _ _ _ _ readIntegers readTexts respeltFlow⟩,
    readInteger, readText, respeltList, lists _ _ _ _ readInteger readText respeltList⟩

end RuleId

end DecisionFlow
