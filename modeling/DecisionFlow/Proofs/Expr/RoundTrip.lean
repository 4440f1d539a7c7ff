import DecisionFlow.Expr.Json
import DecisionFlow.Proofs.Expr.Depth
import DecisionFlow.Proofs.Json.RoundTrip
import DecisionFlow.Proofs.Source.Printing

/-!
# Keeping expressions as JSON

The JSON tree of an expression gives the expression back when its doubles are finite, and nothing
otherwise (`exists_ofJson?_toJson_iff`). Its text gives the expression back when in addition the
tree does not nest past the limit of JSON text (`read?_write`). The form spends two or three levels
of nesting on one level of the expression, so compiled expressions within their own limit of depth
can be past it (`read?_write_deep`).
-/
namespace DecisionFlow

/-- A prefix operator is found by its tag. -/
theorem UnaryOp.ofJson?_tag (op : UnaryOp) : UnaryOp.ofJson? (.string op.tag) = some op := by
  cases op <;> rfl

/-- An operator is found by its tag. -/
theorem BinaryOp.ofJson?_tag (op : BinaryOp) : BinaryOp.ofJson? (.string op.tag) = some op := by
  cases op <;> rfl

namespace Number

/-- A finite double is equal to itself. -/
theorem beq_self_of_isFinite {x : Float} (finite : x.isFinite = true) : (x == x) = true := by
  change (x.toModel.unpack.compare x.toModel.unpack == some .eq) = true
  change x.toModel.unpack.isFinite = true at finite
  have ordered (exponent : Int) (mantissa : Nat) :
      (compare exponent exponent).then (compare mantissa mantissa) = .eq := by
    rw [Std.compare_self, Std.compare_self]
    rfl
  cases unpacked : x.toModel.unpack with
  | infinity | notANumber =>
    rw [unpacked] at finite
    contradiction
  | zero sign => rfl
  | finite sign mantissa exponent =>
    cases sign with
    | positive => exact congrArg (some · == some Ordering.eq) (ordered exponent mantissa)
    | negative =>
      exact congrArg (some ·.swap == some Ordering.eq) (ordered exponent mantissa)

end Number

namespace Expr

mutual

/-- The double literals of an expression. -/
def doubles : Expr → List Float
  | .float value => [value]
  | .field base _ => doubles base
  | .unary _ operand => doubles operand
  | .index base key => doubles base ++ doubles key
  | .binary _ left right => doubles left ++ doubles right
  | .ternary condition yes no => doubles condition ++ doubles yes ++ doubles no
  | .list items => itemsDoubles items
  | .call _ arguments => itemsDoubles arguments
  | .map entries => entriesDoubles entries
  | _ => []

/-- The double literals of some expressions. -/
def itemsDoubles : List Expr → List Float
  | [] => []
  | item :: rest => doubles item ++ itemsDoubles rest

/-- The double literals of the expressions under some keys. -/
def entriesDoubles : List (String × Expr) → List Float
  | [] => []
  | (_, value) :: rest => doubles value ++ entriesDoubles rest

end

/-- Whether all doubles of an expression are finite. -/
def finite (expr : Expr) : Bool := expr.doubles.all Float.isFinite

/-- The JSON forms of expressions one by one. -/
theorem itemsToJson_eq (items : List Expr) : itemsToJson items = items.map toJson :=
  eq_map_of_cons _ (by rw [itemsToJson]) (fun _ _ => by rw [itemsToJson]) items

/-- The JSON forms of keys with expressions one by one. -/
theorem entriesToJson_eq (entries : List (String × Expr)) :
    entriesToJson entries =
      entries.map fun entry => .array [.string entry.1, entry.2.toJson] :=
  eq_map_of_cons _ (by rw [entriesToJson]) (fun _ _ => by rw [entriesToJson]) entries

/-- Expressions that are read back by themselves are read back in a row. -/
theorem itemsOfJson?_map {items : List Expr}
    (each : ∀ item ∈ items, ofJson? item.toJson = if item.finite then some item else none) :
    itemsOfJson? (items.map toJson) =
      if (itemsDoubles items).all Float.isFinite then some items else none := by
  induction items with
  | nil => rfl
  | cons item items ih =>
    obtain ⟨first, others⟩ := List.forall_mem_cons.mp each
    rw [List.map_cons, itemsOfJson?, first, ih others, itemsDoubles, List.all_append, ← finite]
    cases item.finite <;> cases (itemsDoubles items).all Float.isFinite <;> rfl

/-- Keys with expressions that are read back by themselves are read back in a row. -/
theorem entriesOfJson?_map {entries : List (String × Expr)}
    (each : ∀ entry ∈ entries,
      ofJson? entry.2.toJson = if entry.2.finite then some entry.2 else none) :
    entriesOfJson? (entries.map fun entry => .array [.string entry.1, entry.2.toJson]) =
      if (entriesDoubles entries).all Float.isFinite then some entries else none := by
  induction entries with
  | nil => rfl
  | cons entry entries ih =>
    obtain ⟨first, others⟩ := List.forall_mem_cons.mp each
    rw [List.map_cons, entriesOfJson?, first, ih others, entriesDoubles, List.all_append, ← finite]
    cases entry.2.finite <;> cases (entriesDoubles entries).all Float.isFinite <;> rfl

/-- The JSON tree of an expression gives the expression back when its doubles are finite. -/
theorem ofJson?_toJson (expr : Expr) :
    ofJson? expr.toJson = if expr.finite then some expr else none := by
  induction expr with
  | null => rfl
  | bool value => rfl
  | int value =>
    change (Number.int64? value.toInt).map int = _
    rw [Number.int64?_toInt]
    rfl
  | float value =>
    rw [finite, doubles, List.all_cons, List.all_nil, Bool.and_true, toJson]
    cases value.isFinite <;> rfl
  | string value => rfl
  | list items ih =>
    rw [toJson, itemsToJson_eq, finite, doubles]
    change (itemsOfJson? (items.map toJson)).map list = _
    rw [itemsOfJson?_map ih]
    split <;> rfl
  | map entries ih =>
    rw [toJson, entriesToJson_eq, finite, doubles]
    change (entriesOfJson? _).map map = _
    rw [entriesOfJson?_map ih]
    split <;> rfl
  | ident name => rfl
  | field base name ih =>
    rw [toJson, finite, doubles, ← finite]
    change (ofJson? base.toJson).map (field · name) = _
    rw [ih]
    split <;> rfl
  | index base key ihBase ihKey =>
    rw [toJson, finite, doubles, List.all_append, ← finite, ← finite]
    change (ofJson? base.toJson).bind (fun base => (ofJson? key.toJson).bind fun key =>
      some (index base key)) = _
    rw [ihBase, ihKey]
    cases base.finite <;> cases key.finite <;> rfl
  | unary op operand ih =>
    rw [toJson, finite, doubles, ← finite]
    change (UnaryOp.ofJson? (.string op.tag)).bind (fun op =>
      (ofJson? operand.toJson).bind fun operand => some (unary op operand)) = _
    rw [UnaryOp.ofJson?_tag, ih]
    cases operand.finite <;> rfl
  | binary op left right ihLeft ihRight =>
    rw [toJson, finite, doubles, List.all_append, ← finite, ← finite]
    change (BinaryOp.ofJson? (.string op.tag)).bind (fun op =>
      (ofJson? left.toJson).bind fun left => (ofJson? right.toJson).bind fun right =>
        some (binary op left right)) = _
    rw [BinaryOp.ofJson?_tag, ihLeft, ihRight]
    cases left.finite <;> cases right.finite <;> rfl
  | ternary condition yes no ihCondition ihYes ihNo =>
    rw [toJson, finite, doubles, List.all_append, List.all_append, ← finite, ← finite, ← finite]
    change (ofJson? condition.toJson).bind (fun condition => (ofJson? yes.toJson).bind fun yes =>
      (ofJson? no.toJson).bind fun no => some (ternary condition yes no)) = _
    rw [ihCondition, ihYes, ihNo]
    cases condition.finite <;> cases yes.finite <;> cases no.finite <;> rfl
  | call name arguments ih =>
    rw [toJson, itemsToJson_eq, finite, doubles]
    change (itemsOfJson? (arguments.map toJson)).map (call name) = _
    rw [itemsOfJson?_map ih]
    split <;> rfl

/-- Expressions that are equal to themselves are so in a row. -/
theorem sameItems_self {items : List Expr}
    (each : ∀ item ∈ items, item.finite = true → item.same item = true)
    (finite : (itemsDoubles items).all Float.isFinite = true) : sameItems items items = true := by
  induction items with
  | nil => rfl
  | cons item items ih =>
    obtain ⟨first, others⟩ := List.forall_mem_cons.mp each
    rw [itemsDoubles, List.all_append, ← Expr.finite, Bool.and_eq_true] at finite
    rw [sameItems, first finite.1, ih others finite.2, Bool.and_self]

/-- Keys with expressions that are equal to themselves are so in a row. -/
theorem sameEntries_self {entries : List (String × Expr)}
    (each : ∀ entry ∈ entries, entry.2.finite = true → entry.2.same entry.2 = true)
    (finite : (entriesDoubles entries).all Float.isFinite = true) :
    sameEntries entries entries = true := by
  induction entries with
  | nil => rfl
  | cons entry entries ih =>
    obtain ⟨first, others⟩ := List.forall_mem_cons.mp each
    rw [entriesDoubles, List.all_append, ← Expr.finite, Bool.and_eq_true] at finite
    rw [sameEntries, first finite.1, ih others finite.2, beq_self_eq_true, Bool.and_self,
      Bool.and_self]

/-- An expression without other doubles than finite ones is equal to itself. -/
theorem same_self {expr : Expr} (finite : expr.finite = true) : expr.same expr = true := by
  induction expr with
  | null => rfl
  | bool | int | string | ident => rw [same, beq_self_eq_true]
  | float value =>
    rw [Expr.finite, doubles, List.all_cons, List.all_nil, Bool.and_true] at finite
    rw [same, Number.beq_self_of_isFinite finite]
  | list items ih =>
    rw [same]
    exact sameItems_self ih finite
  | map entries ih =>
    rw [same]
    exact sameEntries_self ih finite
  | field base name ih => rw [same, ih finite, beq_self_eq_true, Bool.and_self]
  | index base key ihBase ihKey =>
    rw [Expr.finite, doubles, List.all_append, Bool.and_eq_true] at finite
    rw [same, ihBase finite.1, ihKey finite.2, Bool.and_self]
  | unary op operand ih => rw [same, ih finite, beq_self_eq_true, Bool.and_self]
  | binary op left right ihLeft ihRight =>
    rw [Expr.finite, doubles, List.all_append, Bool.and_eq_true] at finite
    rw [same, ihLeft finite.1, ihRight finite.2, beq_self_eq_true, Bool.and_self, Bool.and_self]
  | ternary condition yes no ihCondition ihYes ihNo =>
    rw [Expr.finite, doubles, List.all_append, List.all_append, Bool.and_eq_true,
      Bool.and_eq_true] at finite
    rw [same, ihCondition finite.1.1, ihYes finite.1.2, ihNo finite.2, Bool.and_self,
      Bool.and_self]
  | call name arguments ih =>
    rw [same, beq_self_eq_true, Bool.true_and]
    exact sameItems_self ih finite

/-- The JSON tree of an expression gives an equal expression when every double literal in it is
finite, and only then. What it gives is the expression itself: an expression with another double
is not taken for a different one, its tree gives nothing. -/
theorem exists_ofJson?_toJson_iff (expr : Expr) :
    ((∃ back, ofJson? expr.toJson = some back ∧ expr.same back = true) ↔
        ∀ x ∈ expr.doubles, x.isFinite = true) ∧
      (∀ back, ofJson? expr.toJson = some back → back = expr) ∧
      (ofJson? expr.toJson = none ↔ ∃ x ∈ expr.doubles, x.isFinite = false) := by
  have all : expr.finite = true ↔ ∀ x ∈ expr.doubles, x.isFinite = true := List.all_eq_true
  have some : expr.finite = false ↔ ∃ x ∈ expr.doubles, x.isFinite = false := by
    rw [Expr.finite, List.all_eq_false]
    simp only [Bool.not_eq_true]
  rw [← all, ← some, ofJson?_toJson]
  cases found : expr.finite with
  | false => simp
  | true => simp [same_self found]

/-- The doubles of some expressions are those of each. -/
theorem mem_itemsDoubles {items : List Expr} {x : Float} :
    x ∈ itemsDoubles items ↔ ∃ item ∈ items, x ∈ item.doubles := by
  induction items with
  | nil => simp [itemsDoubles]
  | cons item items ih => simp [itemsDoubles, ih]

/-- The doubles under some keys are those of the expressions there. -/
theorem entriesDoubles_eq (entries : List (String × Expr)) :
    entriesDoubles entries = itemsDoubles (entries.map (·.2)) :=
  eq_values_of_cons entriesDoubles itemsDoubles rfl (fun _ _ => rfl) (fun _ _ => rfl) entries

/-- A node is written without loss when its content is. -/
theorem written_tagged {tag : String} {content : Json} (written : content.Written) :
    (tagged tag content).Written :=
  .object (List.forall_mem_singleton.mpr written)

/-- A node with parts is written without loss when its parts are. -/
theorem written_parts {tag : String} {parts : List Json} (written : ∀ part ∈ parts, part.Written) :
    (tagged tag (.array parts)).Written :=
  written_tagged (.array written)

/-- The JSON tree of an expression is written without loss when its finite doubles are. -/
theorem written_toJson {expr : Expr}
    (faithful : ∀ x ∈ expr.doubles, x.isFinite = true → Json.ReadsBack x) :
    expr.toJson.Written := by
  induction expr with
  | null => exact .string "Null"
  | bool value => exact written_tagged (.bool value)
  | int value =>
    have low := value.le_toInt
    have high := value.toInt_lt
    exact written_tagged (.int (by omega) (by omega))
  | float value =>
    rw [toJson]
    split
    · rename_i finite
      exact written_tagged (.float finite (faithful value (List.mem_singleton_self value) finite))
    · exact written_tagged .null
  | string value => exact written_tagged (.string value)
  | list items ih =>
    rw [toJson, itemsToJson_eq]
    refine written_parts (List.forall_mem_map.mpr fun item listed => ?_)
    exact ih item listed fun x inside => faithful x (mem_itemsDoubles.mpr ⟨item, listed, inside⟩)
  | map entries ih =>
    rw [toJson, entriesToJson_eq]
    refine written_parts (List.forall_mem_map.mpr fun entry listed => ?_)
    have value : entry.2.toJson.Written := ih entry listed fun x inside => by
      refine faithful x ?_
      rw [doubles, entriesDoubles_eq]
      exact mem_itemsDoubles.mpr ⟨entry.2, List.mem_map_of_mem listed, inside⟩
    exact .array (List.forall_mem_cons.mpr ⟨.string entry.1, List.forall_mem_singleton.mpr value⟩)
  | ident name => exact written_tagged (.string name)
  | field base name ih =>
    have parts : ∀ part ∈ [base.toJson, .string name], part.Written := by
      simpa using ⟨ih faithful, .string name⟩
    exact written_parts parts
  | index base key ihBase ihKey =>
    simp only [doubles, List.forall_mem_append] at faithful
    have parts : ∀ part ∈ [base.toJson, key.toJson], part.Written := by
      simpa using ⟨ihBase faithful.1, ihKey faithful.2⟩
    exact written_parts parts
  | unary op operand ih =>
    have parts : ∀ part ∈ [.string op.tag, operand.toJson], part.Written := by
      simpa using ⟨.string op.tag, ih faithful⟩
    exact written_parts parts
  | binary op left right ihLeft ihRight =>
    simp only [doubles, List.forall_mem_append] at faithful
    have parts : ∀ part ∈ [.string op.tag, left.toJson, right.toJson], part.Written := by
      simpa using ⟨.string op.tag, ihLeft faithful.1, ihRight faithful.2⟩
    exact written_parts parts
  | ternary condition yes no ihCondition ihYes ihNo =>
    simp only [doubles, List.forall_mem_append] at faithful
    have parts : ∀ part ∈ [condition.toJson, yes.toJson, no.toJson], part.Written := by
      simpa using ⟨ihCondition faithful.1.1, ihYes faithful.1.2, ihNo faithful.2⟩
    exact written_parts parts
  | call name arguments ih =>
    have each : ∀ argument ∈ arguments.map toJson, argument.Written :=
      List.forall_mem_map.mpr fun argument listed => ih argument listed fun x inside =>
        faithful x (mem_itemsDoubles.mpr ⟨argument, listed, inside⟩)
    have parts : ∀ part ∈ [Json.string name, .array (arguments.map toJson)], part.Written := by
      simpa using ⟨.string name, .array each⟩
    rw [toJson, itemsToJson_eq]
    exact written_parts parts

/-- A node with parts nests two levels deeper than its parts. -/
theorem nesting_parts_le {tag : String} {parts : List Json} {bound : Nat} (room : 2 ≤ bound)
    (within : ∀ part ∈ parts, part.nesting + 2 ≤ bound) :
    (tagged tag (.array parts)).nesting ≤ bound := by
  have inside : Json.itemsNesting parts ≤ bound - 2 := Json.itemsNesting_le.mpr fun part listed =>
    Nat.le_sub_of_add_le (within part listed)
  rw [tagged, Json.nesting, Json.membersNesting, Json.membersNesting, Nat.max_zero, Json.nesting]
  omega

/-- The JSON trees of some expressions nest within three times their height. -/
theorem nesting_items_le {items : List Expr}
    (each : ∀ item ∈ items, item.toJson.nesting ≤ 3 * item.height) :
    ∀ part ∈ items.map toJson, part.nesting ≤ 3 * itemsHeight items := by
  refine List.forall_mem_map.mpr fun item listed => ?_
  have nesting := each item listed
  have height := itemsHeight_le.mp (Nat.le_refl (itemsHeight items)) item listed
  omega

/-- The JSON tree of an expression nests at most three times as deep as the expression. -/
theorem nesting_toJson_le (expr : Expr) : expr.toJson.nesting ≤ 3 * expr.height := by
  induction expr with
  | null | bool | int | string | ident => exact Nat.le_of_ble_eq_true rfl
  | float value =>
    rw [toJson]
    split <;> exact Nat.le_of_ble_eq_true rfl
  | list items ih =>
    rw [toJson, itemsToJson_eq, height]
    refine nesting_parts_le (by omega) fun part listed => ?_
    have nesting := nesting_items_le ih part listed
    omega
  | map entries ih =>
    rw [toJson, entriesToJson_eq, height, entriesHeight_eq]
    refine nesting_parts_le (by omega) (List.forall_mem_map.mpr fun entry listed => ?_)
    have nesting := ih entry listed
    have within := itemsHeight_le.mp (Nat.le_refl (itemsHeight (entries.map (·.2)))) entry.2
      (List.mem_map_of_mem listed)
    simp only [Json.nesting, Json.itemsNesting]
    omega
  | field base name ih =>
    rw [toJson, height]
    refine nesting_parts_le (by omega) ?_
    simp only [List.forall_mem_cons, Json.nesting]
    exact ⟨by omega, by omega, List.forall_mem_nil _⟩
  | index base key ihBase ihKey =>
    rw [toJson, height]
    refine nesting_parts_le (by omega) ?_
    simp only [List.forall_mem_cons]
    exact ⟨by omega, by omega, List.forall_mem_nil _⟩
  | unary op operand ih =>
    rw [toJson, height]
    refine nesting_parts_le (by omega) ?_
    simp only [List.forall_mem_cons, Json.nesting]
    exact ⟨by omega, by omega, List.forall_mem_nil _⟩
  | binary op left right ihLeft ihRight =>
    rw [toJson, height]
    refine nesting_parts_le (by omega) ?_
    simp only [List.forall_mem_cons, Json.nesting]
    exact ⟨by omega, by omega, by omega, List.forall_mem_nil _⟩
  | ternary condition yes no ihCondition ihYes ihNo =>
    rw [toJson, height]
    refine nesting_parts_le (by omega) ?_
    simp only [List.forall_mem_cons]
    exact ⟨by omega, by omega, by omega, List.forall_mem_nil _⟩
  | call name arguments ih =>
    have inside := Json.itemsNesting_le.mpr (nesting_items_le ih)
    rw [toJson, itemsToJson_eq, height]
    refine nesting_parts_le (by omega) ?_
    simp only [List.forall_mem_cons, Json.nesting]
    exact ⟨by omega, by omega, List.forall_mem_nil _⟩

/-- The text of an expression that is written without loss reads back as the expression when its
doubles are finite and its JSON tree nests within the limit. -/
theorem read?_write_of_written {expr : Expr} (written : expr.toJson.Written) :
    read? expr.write =
      if expr.finite ∧ expr.toJson.nesting ≤ Json.nestingLimit then some expr else none := by
  rw [read?, write, written.readWhole?_compact]
  by_cases fits : expr.toJson.nesting ≤ Json.nestingLimit
  · rw [if_pos fits]
    change ofJson? expr.toJson = _
    rw [ofJson?_toJson]
    simp only [fits, and_true]
  · rw [if_neg fits, if_neg fun both => fits both.2]
    rfl

/-- An expression kept as JSON reads back when its doubles are finite and its JSON tree nests
within the limit of JSON text, and only then; trees of a third of that depth always do. Assumed
is that the text of every finite double in it spells the double. -/
theorem read?_write {expr : Expr}
    (faithful : ∀ x ∈ expr.doubles, x.isFinite = true → Json.ReadsBack x) :
    read? expr.write =
        (if expr.finite ∧ expr.toJson.nesting ≤ Json.nestingLimit then some expr else none) ∧
      (3 * expr.depth ≤ Json.nestingLimit → expr.toJson.nesting ≤ Json.nestingLimit) := by
  refine ⟨read?_write_of_written (written_toJson faithful), fun shallow => ?_⟩
  have height : expr.height ≤ expr.depth := depth_le_iff.mp (Nat.le_refl _)
  have nesting := nesting_toJson_le expr
  omega

/-- A sum with a double reads back. -/
theorem read?_write_sum :
    let expr : Expr := .binary .add (.ident "x") (.float 1.5)
    (∀ x ∈ expr.doubles, x.isFinite = true → Json.ReadsBack x) ∧
      read? expr.write = some expr ∧ expr.toJson.nesting ≤ Json.nestingLimit := by
  intro expr
  have faithful : ∀ x ∈ expr.doubles, x.isFinite = true → Json.ReadsBack x := by
    intro x listed _
    cases List.mem_singleton.mp listed
    have text : Number.Layout.json.write 1.5 = ['1', '.', '5'] := by decide +kernel
    exact ⟨⟨false, ['1'], ['5'], none⟩, text ▸ rfl, rfl⟩
  have finite : expr.finite = true := by decide +kernel
  have nesting : expr.toJson.nesting ≤ Json.nestingLimit := by decide +kernel
  have read := (read?_write faithful).1
  rw [if_pos ⟨finite, nesting⟩] at read
  exact ⟨faithful, read, nesting⟩

/-- A source of sixty-four minus signs before a name compiles to a tree within the limit of depth
and without doubles that does not read back: each minus sign takes two levels of nesting. -/
theorem read?_write_deep :
    let source := String.ofList (List.replicate 64 '-' ++ ['x'])
    ∃ expr, ({} : Compiler).compile source = .ok expr ∧ expr.depth ≤ depthLimit ∧
      expr.doubles = [] ∧ read? expr.write = none := by
  intro source
  let expr : Expr := Nat.repeat (unary .neg) 64 (ident "x")
  have statement : Source.Statement (List.replicate 64 '-' ++ ['x']) :=
    .of_ends (List.replicate 63 '-') rfl rfl (by decide)
  have allowed : Source.nestingAllowed (List.replicate 64 '-' ++ ['x']) = true := by
    decide +kernel
  have read : Source.unbounded (List.replicate 64 '-' ++ ['x']) = .ok (expr, []) := rfl
  have shallow : expr.depth ≤ depthLimit := depth_le_iff.mpr (by decide +kernel)
  have compiled : ({} : Compiler).compile source = .ok expr := by
    rw [Compiler.compile, statement.parse_eq allowed read shallow]
    rfl
  have plain : expr.doubles = [] := rfl
  have written : expr.toJson.Written := written_toJson (by rw [plain]; exact nofun)
  have deep : ¬(expr.finite ∧ expr.toJson.nesting ≤ Json.nestingLimit) := by decide +kernel
  exact ⟨expr, compiled, shallow, plain, (read?_write_of_written written).trans (if_neg deep)⟩

end Expr

end DecisionFlow
