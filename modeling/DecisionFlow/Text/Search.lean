/-!
# Searching in texts

Whether one text occurs in another, at its start, at its end or anywhere.
-/
namespace DecisionFlow.Text

/-- Whether a text occurs somewhere in another; the empty text occurs everywhere. -/
def occursIn (needle : List Char) : List Char → Bool
  | [] => needle.isEmpty
  | c :: rest => needle.isPrefixOf (c :: rest) || occursIn needle rest

/-- A text occurs in another exactly when the other is the text with something before and
after it. -/
theorem occursIn_iff {needle text : List Char} :
    occursIn needle text = true ↔ needle <:+: text := by
  induction text with
  | nil => simp [occursIn]
  | cons c rest ih => simp [occursIn, ih, List.infix_cons_iff]

/-- Whether a string contains another. -/
def contains (text needle : String) : Bool := occursIn needle.toList text.toList

/-- Whether a string starts with another. -/
def startsWith (text start : String) : Bool := start.toList.isPrefixOf text.toList

/-- Whether a string ends with another. -/
def endsWith (text ending : String) : Bool := ending.toList.isSuffixOf text.toList

end DecisionFlow.Text
