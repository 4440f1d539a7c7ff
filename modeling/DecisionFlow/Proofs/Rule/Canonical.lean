import DecisionFlow.Flow.Document
import DecisionFlow.Proofs.Rule.LastDefinition
import DecisionFlow.Settings.Basic
import DecisionFlow.Text.Property

/-!
# Canonical ids

Integers and names share one space of texts. An id is canonical when its text means it again, so
canonical ids with one text are one id (`RuleId.Canonical.eq_of_toText`). Every id that is read
is canonical, from a text or from a document (`RuleId.Given.canonical`), and so are the ids in
definitions that are read and the successors of the rules compiled from them.
-/
namespace DecisionFlow

/-! ## Trimmed texts -/

namespace Text

/-- A text without white space at its ends is trimmed already. -/
theorem trim_eq_self {text : List Char} (first : ∀ c ∈ text.head?, isWhiteSpace c = false)
    (last : ∀ c ∈ text.getLast?, isWhiteSpace c = false) : trim text = text := by
  have start {chars : List Char} (visible : ∀ c ∈ chars.head?, isWhiteSpace c = false) :
      chars.dropWhile isWhiteSpace = chars := by
    cases chars with
    | nil => rfl
    | cons c chars => rw [List.dropWhile_cons, visible c rfl, if_neg Bool.false_ne_true]
  rw [← List.head?_reverse] at last
  rw [trim, trimStart, start first, trimEnd, start last, List.reverse_reverse]

/-- A trimmed text has no white space at its end. -/
theorem getLast?_trim {text : List Char} : ∀ c ∈ (trim text).getLast?, isWhiteSpace c = false := by
  intro c last
  have stops := List.head?_dropWhile_not isWhiteSpace (trimStart text).reverse
  rw [trim, trimEnd, List.getLast?_reverse] at last
  rw [Option.mem_def.mp last] at stops
  simpa using stops

/-- A trimmed text has no white space at its start. -/
theorem head?_trim {text : List Char} : ∀ c ∈ (trim text).head?, isWhiteSpace c = false := by
  intro c first
  have shorter : trim text <+: trimStart text := by
    have suffix := List.dropWhile_suffix isWhiteSpace (l := (trimStart text).reverse)
    rw [← List.reverse_prefix, List.reverse_reverse] at suffix
    exact suffix
  obtain ⟨rest, same⟩ := shorter
  have stops := List.head?_dropWhile_not isWhiteSpace text
  rw [← trimStart, ← same, List.head?_append, Option.mem_def.mp first] at stops
  simpa using stops

/-- Trimming twice is trimming once. -/
theorem trim_trim (text : List Char) : trim (trim text) = trim text :=
  trim_eq_self head?_trim getLast?_trim

/-- The text of an integer has no white space. -/
theorem isWhiteSpace_of_mem_writeInt {value : Int} {c : Char} (member : c ∈ writeInt value) :
    isWhiteSpace c = false := by
  have visible {n : Nat} (digit : c ∈ writeNat n) : isWhiteSpace c = false := by
    have range := isDigit_iff.mp (isDigit_of_mem_writeNat digit)
    simp [isWhiteSpace]
    omega
  unfold writeInt at member
  split at member
  · cases member with
    | head => decide
    | tail _ digit => exact visible digit
  · exact visible member

end Text

namespace RuleId

open Text

/-- An id that its text means. -/
def Canonical (id : RuleId) : Prop := ofText id.toText = id

/-- Canonical ids are told apart by their texts. -/
theorem Canonical.eq_of_toText {id other : RuleId} (canonical : id.Canonical)
    (otherCanonical : other.Canonical) (same : id.toText = other.toText) : id = other := by
  rw [← canonical, ← otherCanonical, same]

/-- Integers are canonical. -/
theorem canonical_int (value : Int64) : (RuleId.int value).Canonical := by
  have trimmed : trim (writeInt64 value) = writeInt64 value :=
    trim_eq_self (fun c first => isWhiteSpace_of_mem_writeInt (List.mem_of_mem_head? first))
      (fun c last => isWhiteSpace_of_mem_writeInt (List.mem_of_mem_getLast? last))
  rw [Canonical, toText, ofText, integerText, String.toList_ofList, trimmed]
  simp only [readInt64_writeInt64]

/-- What a text means is canonical. -/
theorem canonical_ofText (text : String) : (ofText text).Canonical := by
  cases read : readInt64 (trim text.toList) with
  | ok value =>
    have same : ofText text = .int value := by rw [ofText]; simp only [read]
    rw [same]
    exact canonical_int value
  | error cause =>
    have same : ofText text = .name (String.ofList (trim text.toList)) := by
      rw [ofText]; simp only [read]
    rw [same, Canonical, toText, ofText, String.toList_ofList, trim_trim]
    simp only [read]

/-- An integer in range is canonical. -/
theorem canonical_of_int64? {value : Int} {id : RuleId}
    (read : (Number.int64? value).map RuleId.int = some id) : id.Canonical := by
  obtain ⟨value, -, rfl⟩ := Option.map_eq_some_iff.mp read
  exact canonical_int value

/-- What a JSON tree means is canonical. -/
theorem canonical_ofJson? {tree : Json} {id : RuleId} (read : ofJson? tree = some id) :
    id.Canonical := by
  unfold ofJson? at read
  split at read
  · exact canonical_of_int64? read
  · cases read
    exact canonical_ofText _
  · contradiction

end RuleId

/-- What a YAML tree means is canonical. -/
theorem Yaml.Tree.canonical_ruleId? {tree : Yaml.Tree} {id : RuleId}
    (read : tree.ruleId? = some id) : id.Canonical := by
  unfold ruleId? at read
  split at read
  · exact RuleId.canonical_of_int64? read
  · cases read
    exact RuleId.canonical_ofText _
  · contradiction

/-- What a value in settings means is canonical. -/
theorem Settings.Value.canonical_ruleId? {value : Settings.Value} {id : RuleId}
    (read : value.ruleId? = some id) : id.Canonical := by
  unfold ruleId? at read
  split at read
  · cases read
    exact RuleId.canonical_int _
  · cases read
    exact RuleId.canonical_ofText _
  · contradiction

/-- The ids that are given as a text or in a document. -/
inductive RuleId.Given : RuleId → Prop where
  /-- What a text means. -/
  | text (text : String) : Given (ofText text)
  /-- What a JSON tree means. -/
  | json {tree : Json} {id : RuleId} (read : ofJson? tree = some id) : Given id
  /-- What a YAML tree means. -/
  | yaml {tree : Yaml.Tree} {id : RuleId} (read : tree.ruleId? = some id) : Given id
  /-- What a value in settings means. -/
  | settings {value : Settings.Value} {id : RuleId} (read : value.ruleId? = some id) : Given id

/-- Given ids are canonical. -/
theorem RuleId.Given.canonical {id : RuleId} (given : id.Given) : id.Canonical := by
  cases given with
  | text text => exact canonical_ofText text
  | json read => exact canonical_ofJson? read
  | yaml read => exact Yaml.Tree.canonical_ruleId? read
  | settings read => exact Settings.Value.canonical_ruleId? read

/-! ## Definitions -/

namespace RuleDefinition

/-- A definition whose ids are canonical. -/
structure Canonical (definition : RuleDefinition) : Prop where
  /-- The id is canonical. -/
  id : definition.id.Canonical
  /-- The successor when the predicate holds is canonical. -/
  trueNext : ∀ id ∈ definition.trueNext, id.Canonical
  /-- The successor when the predicate fails is canonical. -/
  falseNext : ∀ id ∈ definition.falseNext, id.Canonical

/-- A reader of fields that reads canonical ids. -/
structure FieldReader.Canonical {τ : Type} (reader : FieldReader τ) : Prop where
  /-- An id that is read is canonical. -/
  id : ∀ {tree id}, reader.id tree = some id → id.Canonical
  /-- A successor that is read is canonical. -/
  next : ∀ {tree id}, reader.next tree = some (some id) → id.Canonical

/-- A draft whose ids so far are canonical. -/
structure Draft.Canonical (draft : Draft) : Prop where
  /-- The id is canonical. -/
  id : ∀ id ∈ draft.id, id.Canonical
  /-- The successor when the predicate holds is canonical. -/
  trueNext : ∀ id, draft.trueNext = some (some id) → id.Canonical
  /-- The successor when the predicate fails is canonical. -/
  falseNext : ∀ id, draft.falseNext = some (some id) → id.Canonical

/-- What is taken once is the value that was read. -/
theorem once_eq_some {α : Type} {given value : Option α} {result : Option α}
    (taken : once given value = some result) : value = result := by
  unfold once at taken
  split at taken
  · exact Option.some.inj taken
  · contradiction

/-- Taking a key with its value keeps a draft canonical. -/
theorem Draft.Canonical.take {τ : Type} {reader : FieldReader τ} (reads : reader.Canonical)
    {draft later : Draft} (canonical : draft.Canonical) {key : String} {value : τ}
    (taken : draft.take reader key value = some later) : later.Canonical := by
  unfold Draft.take at taken
  split at taken
  · cases taken
    exact canonical
  · obtain ⟨given, once, rfl⟩ := Option.map_eq_some_iff.mp taken
    exact { canonical with id := fun id same => reads.id ((once_eq_some once).trans same) }
  · obtain ⟨given, once, rfl⟩ := Option.map_eq_some_iff.mp taken
    exact ⟨canonical.id, canonical.trueNext, canonical.falseNext⟩
  · obtain ⟨given, once, rfl⟩ := Option.map_eq_some_iff.mp taken
    exact ⟨canonical.id, canonical.trueNext, canonical.falseNext⟩
  · obtain ⟨given, once, rfl⟩ := Option.map_eq_some_iff.mp taken
    exact { canonical with trueNext := fun id same => reads.next ((once_eq_some once).trans same) }
  · obtain ⟨given, once, rfl⟩ := Option.map_eq_some_iff.mp taken
    exact { canonical with falseNext := fun id same => reads.next ((once_eq_some once).trans same) }

/-- The definition of a canonical draft is canonical. -/
theorem Draft.Canonical.finish {draft : Draft} (canonical : draft.Canonical)
    {definition : RuleDefinition} (finished : draft.finish = some definition) :
    definition.Canonical := by
  obtain ⟨id, given, finished⟩ := Option.bind_eq_some_iff.mp finished
  obtain ⟨predicate, _, finished⟩ := Option.bind_eq_some_iff.mp finished
  cases finished
  have next {given : Option (Option RuleId)} {id : RuleId} (member : id ∈ given.getD none) :
      given = some (some id) := by
    cases given with
    | none => contradiction
    | some next => exact congrArg some member
  exact ⟨canonical.id id given, fun id member => canonical.trueNext id (next member),
    fun id member => canonical.falseNext id (next member)⟩

/-- Taking keys with their values keeps a draft canonical. -/
theorem Draft.Canonical.takeAll {τ : Type} {reader : FieldReader τ} (reads : reader.Canonical)
    {members : List (String × τ)} {draft later : Draft} (canonical : draft.Canonical)
    (taken : members.foldlM
      (fun (draft : Draft) (member : String × τ) => draft.take reader member.1 member.2) draft =
        some later) : later.Canonical := by
  induction members generalizing draft with
  | nil =>
    cases taken
    exact canonical
  | cons member members ih =>
    rw [List.foldlM_cons] at taken
    obtain ⟨next, first, others⟩ := Option.bind_eq_some_iff.mp taken
    exact ih (canonical.take reads first) others

/-- A definition given by keys with values is canonical. -/
theorem canonical_ofMembers? {τ : Type} {reader : FieldReader τ} (reads : reader.Canonical)
    {members : List (String × τ)} {definition : RuleDefinition}
    (read : ofMembers? reader members = some definition) : definition.Canonical := by
  obtain ⟨draft, taken, finished⟩ := Option.bind_eq_some_iff.mp read
  have start : ({} : Draft).Canonical := ⟨nofun, nofun, nofun⟩
  exact (start.takeAll reads taken).finish finished

/-- A successor in a JSON tree is canonical. -/
theorem canonical_nextOfJson? {tree : Json} {next : Option RuleId}
    (read : nextOfJson? tree = some next) : ∀ id ∈ next, id.Canonical := by
  rintro id rfl
  unfold nextOfJson? at read
  split at read
  · cases read
  · obtain ⟨_, meant, same⟩ := Option.map_eq_some_iff.mp read
    cases same
    exact RuleId.canonical_ofJson? meant

/-- Ids in JSON trees are canonical. -/
theorem canonical_jsonFields : jsonFields.Canonical where
  id read := RuleId.canonical_ofJson? read
  next read := canonical_nextOfJson? read _ rfl

/-- Ids in YAML trees are canonical. -/
theorem canonical_yamlFields : Yaml.Tree.fields.Canonical where
  id read := Yaml.Tree.canonical_ruleId? read
  next {tree id} read := by
    change tree.next? = _ at read
    unfold Yaml.Tree.next? at read
    split at read
    · cases read
    · obtain ⟨_, meant, same⟩ := Option.map_eq_some_iff.mp read
      cases same
      exact Yaml.Tree.canonical_ruleId? meant

/-- A definition given by an array is canonical. -/
theorem canonical_ofItems? {items : List Json} {definition : RuleDefinition}
    (read : ofItems? items = some definition) : definition.Canonical := by
  unfold ofItems? at read
  split at read
  · obtain ⟨id, idRead, read⟩ := Option.bind_eq_some_iff.mp read
    obtain ⟨title, _, read⟩ := Option.bind_eq_some_iff.mp read
    obtain ⟨predicate, _, read⟩ := Option.bind_eq_some_iff.mp read
    have idCanonical := RuleId.canonical_ofJson? idRead
    split at read
    · cases read
      exact ⟨idCanonical, nofun, nofun⟩
    · obtain ⟨trueNext, trueRead, read⟩ := Option.bind_eq_some_iff.mp read
      cases read
      exact ⟨idCanonical, canonical_nextOfJson? trueRead, nofun⟩
    · obtain ⟨trueNext, trueRead, read⟩ := Option.bind_eq_some_iff.mp read
      obtain ⟨falseNext, falseRead, read⟩ := Option.bind_eq_some_iff.mp read
      cases read
      exact ⟨idCanonical, canonical_nextOfJson? trueRead, canonical_nextOfJson? falseRead⟩
    · contradiction
  · contradiction

/-- A definition given by a JSON tree is canonical. -/
theorem canonical_ofJson? {tree : Json} {definition : RuleDefinition}
    (read : ofJson? tree = some definition) : definition.Canonical := by
  unfold ofJson? at read
  split at read
  · exact canonical_ofMembers? canonical_jsonFields read
  · exact canonical_ofItems? read
  · contradiction

/-- What is read item by item has a property that every item that is read has. -/
theorem forall_of_mapM {α β : Type} {p : β → Prop} {image : α → Option β}
    (each : ∀ {item result}, image item = some result → p result) {items : List α}
    {results : List β} (read : items.mapM image = some results) : ∀ result ∈ results, p result := by
  induction items generalizing results with
  | nil =>
    cases read
    exact List.forall_mem_nil p
  | cons item items ih =>
    rw [List.mapM_cons] at read
    obtain ⟨first, here, read⟩ := Option.bind_eq_some_iff.mp read
    obtain ⟨others, later, read⟩ := Option.bind_eq_some_iff.mp read
    cases read
    exact List.forall_mem_cons.mpr ⟨each here, ih later⟩

/-- Definitions that are read from a flow document or from a JSON text. -/
inductive Given : List RuleDefinition → Prop where
  /-- The definitions of a flow document. -/
  | flow {text : String} {definitions : List RuleDefinition}
    (read : readFlow text = .ok definitions) : Given definitions
  /-- The definitions in a JSON text. -/
  | json {text : String} {definitions : List RuleDefinition}
    (read : readList? text = some definitions) : Given definitions

/-- The definitions of a YAML tree are canonical. -/
theorem canonical_definitions? {tree : Yaml.Tree} {definitions : List RuleDefinition}
    (read : tree.definitions? = some definitions) :
    ∀ definition ∈ definitions, definition.Canonical := by
  obtain ⟨items, _, read⟩ := Option.bind_eq_some_iff.mp read
  refine forall_of_mapM (fun {item definition} read => ?_) read
  obtain ⟨members, _, read⟩ := Option.bind_eq_some_iff.mp read
  exact canonical_ofMembers? canonical_yamlFields read

/-- The definitions of a flow document are canonical. -/
theorem canonical_readFlow {text : String} {definitions : List RuleDefinition}
    (read : readFlow text = .ok definitions) :
    ∀ definition ∈ definitions, definition.Canonical := by
  have found {read? : Option (List RuleDefinition)}
      (read : read?.elim (.error .malformed) .ok = (.ok definitions : Except FlowError _)) :
      read? = some definitions := by
    cases read? with
    | none => contradiction
    | some others => exact congrArg some (Except.ok.inj read)
  unfold readFlow at read
  split at read
  · contradiction
  · split at read
    · exact canonical_definitions? (found read)
    · obtain ⟨members, _, read⟩ := Option.bind_eq_some_iff.mp (found read)
      split at read
      · exact canonical_definitions? read
      · contradiction
    · contradiction

/-- Given definitions are canonical. -/
theorem Given.canonical {definitions : List RuleDefinition} (given : Given definitions) :
    ∀ definition ∈ definitions, definition.Canonical := by
  cases given with
  | flow read => exact canonical_readFlow read
  | json read =>
    obtain ⟨tree, _, read⟩ := Option.bind_eq_some_iff.mp read
    unfold listOfJson? at read
    split at read
    · exact forall_of_mapM canonical_ofJson? read
    · contradiction

end RuleDefinition

/-- The rules compiled from canonical definitions have canonical successors. -/
theorem Registry.canonical_next {ε : Type} {compiler : String → Except ε Predicate}
    {definitions : List RuleDefinition} {registry : Registry}
    (compiled : Registry.compile compiler definitions = .ok registry)
    (canonical : ∀ definition ∈ definitions, definition.Canonical) {id target : RuleId}
    {rule : Rule} {outcome : Bool} (found : registry.get? id = some rule)
    (next : rule.next outcome = some target) : target.Canonical := by
  have result := Registry.get?_of_compile compiled id
  rw [found, Option.map_some] at result
  obtain ⟨definition, last, compiledHere⟩ := Option.map_eq_some_iff.mp result.symm
  have listed : definition ∈ definitions :=
    List.mem_of_mem_filter (List.mem_of_mem_getLast? last)
  have each := canonical definition listed
  unfold Rule.compile at compiledHere
  split at compiledHere
  · contradiction
  · cases compiledHere
    unfold Rule.next at next
    split at next
    · exact each.trueNext target next
    · exact each.falseNext target next

end DecisionFlow
