import DecisionFlow.Json.Reader
import DecisionFlow.Json.Writer

/-!
# Strings in JSON text

A string reads back as it was written, in front of any rest (`readString_append`). The reader
first splits the text into units, one for each written character, and then puts the units
together. Only control characters are written by code, so no surrogate halves occur.
-/
namespace DecisionFlow.Json

/-- The characters with short escapes. -/
def shortEscaped : List Char := ['"', '\\', '\n', '\r', '\t', '\x08', '\x0c']

/-- The unit as which a character is read back: a control without a short escape is read by its
code. -/
def unitOf (c : Char) : StringUnit :=
  if c.toNat < 0x20 ∧ c ∉ shortEscaped then .code c.toNat else .char c

/-- Four hexadecimal digits have the code that they were written for. -/
theorem hexQuad?_control {code : Nat} (control : code < 0x20) :
    hexQuad? '0' '0' (Nat.digitChar (code / 16)) (Nat.digitChar (code % 16)) = some code := by
  decide +revert

/-- A written character is read as its unit. -/
theorem readUnits_writeChar (c : Char) (rest : List Char) :
    readUnits (writeChar c ++ rest) =
      (readUnits rest).bind fun (units, rest) => some (unitOf c :: units, rest) := by
  by_cases short : c ∈ shortEscaped
  · simp only [shortEscaped, List.mem_cons, List.not_mem_nil, or_false] at short
    rcases short with rfl | rfl | rfl | rfl | rfl | rfl | rfl <;> rfl
  · obtain ⟨quote, backslash, newline, carriage, tab, backspace, feed⟩ :
        c ≠ '"' ∧ c ≠ '\\' ∧ c ≠ '\n' ∧ c ≠ '\r' ∧ c ≠ '\t' ∧ c ≠ '\x08' ∧ c ≠ '\x0c' := by
      simpa [shortEscaped] using short
    simp only [writeChar, quote, backslash, newline, carriage, tab, backspace, feed, ↓reduceIte]
    by_cases control : c.toNat < 0x20
    · have coded : unitOf c = .code c.toNat := if_pos ⟨control, short⟩
      simp only [control, ↓reduceIte, coded, controlEscape, List.cons_append, List.nil_append,
        readUnits, hexQuad?_control control]
      rfl
    · have kept : unitOf c = .char c := if_neg fun both => control both.1
      rw [if_neg control, kept, List.singleton_append, readUnits.eq_def]
      -- The other equations of the reader are for quotes and backslashes.
      split
      · contradiction
      · rename_i same; cases same; contradiction
      · rename_i same; cases same; contradiction
      · rename_i same; cases same; contradiction
      · rename_i same
        cases same
        rw [if_neg (by simp [control, backslash])]
        rfl

/-- A written text is read as its units, up to the closing quote. -/
theorem readUnits_append (text rest : List Char) :
    readUnits (text.flatMap writeChar ++ '"' :: rest) = some (text.map unitOf, rest) := by
  induction text with
  | nil => rfl
  | cons c text ih =>
    rw [List.flatMap_cons, List.append_assoc, readUnits_writeChar, ih]
    rfl

/-- A code below the surrogates stands for a character by itself. -/
theorem charsOfUnits_code {value : Nat} (below : value < 0xd800) (units : List StringUnit) :
    charsOfUnits (.code value :: units) =
      (charsOfUnits units).map (Char.ofNat value :: ·) := by
  have high : ¬(0xd800 ≤ value ∧ value < 0xdc00) := by omega
  have low : ¬(0xdc00 ≤ value ∧ value < 0xe000) := by omega
  have surrogate : ¬(0xd800 ≤ value ∧ value < 0xe000) := by omega
  cases units with
  | nil => simp only [charsOfUnits, surrogate, ↓reduceIte]
  | cons unit units =>
    cases unit with
    | char c => simp only [charsOfUnits, surrogate, ↓reduceIte]
    | code next => rw [charsOfUnits, if_neg high, if_neg low]

/-- The units of a text are put together to the text. -/
theorem charsOfUnits_map (text : List Char) : charsOfUnits (text.map unitOf) = some text := by
  induction text with
  | nil => rfl
  | cons c text ih =>
    rw [List.map_cons, unitOf]
    split
    · rename_i control
      have below : c.toNat < 0xd800 := Nat.lt_trans control.1 (by decide)
      rw [charsOfUnits_code below, ih, Option.map_some, Char.ofNat_toNat]
    · rw [charsOfUnits, ih, Option.map_some]

/-- The characters of a written string. -/
theorem toList_writeString (text : String) :
    (writeString text).toList = '"' :: text.toList.flatMap writeChar ++ ['"'] :=
  String.toList_ofList

/-- A string is read back, from the text after its opening quote up to any rest. -/
theorem readString_append (text : String) (rest : List Char) :
    readString (text.toList.flatMap writeChar ++ '"' :: rest) = some (some text, rest) := by
  rw [readString, readUnits_append]
  simp only [Option.bind_eq_bind, Option.bind_some, charsOfUnits_map, Option.map_some,
    String.ofList_toList, Option.pure_def]

end DecisionFlow.Json
