/-!
# Pattern errors

Why a text is not a pattern. The causes follow the parts of a pattern: groups, repetitions,
bracketed sets, escapes and limits.
-/
namespace DecisionFlow.Regex

/-- Why a text is not a pattern. -/
inductive Error where
  /-- A group has no closing parenthesis. -/
  | unclosedGroup
  /-- A closing parenthesis closes nothing. -/
  | unopenedGroup
  /-- Looking ahead or behind is not supported. -/
  | lookAround
  /-- The name of a group is missing, malformed or taken. -/
  | groupName
  /-- A list of flags is malformed. -/
  | flags
  /-- A repetition has nothing to repeat. -/
  | missingOperand
  /-- A counted repetition is malformed. -/
  | repetitionCount
  /-- A bracketed set has no closing bracket. -/
  | unclosedSet
  /-- A range of characters is reversed or bounded by no character. -/
  | setRange
  /-- An escape has no meaning inside a bracketed set. -/
  | setEscape
  /-- References back to groups are not supported. -/
  | backReference
  /-- An escape is unknown or malformed. -/
  | escape
  /-- A character property is unknown. -/
  | property
  /-- A pattern without Unicode support needs it. -/
  | notUnicode
  /-- A pattern could match a part of a character. -/
  | bytes
  /-- A pattern nests too deeply. -/
  | tooNested
  /-- A pattern is too large. -/
  | tooLarge
deriving DecidableEq, Repr

/-- The wording of a pattern error. -/
def Error.message : Error → String
  | .unclosedGroup => "unclosed group"
  | .unopenedGroup => "unopened group"
  | .lookAround => "look-around is not supported"
  | .groupName => "malformed or repeated group name"
  | .flags => "malformed flags"
  | .missingOperand => "repetition without operand"
  | .repetitionCount => "malformed repetition count"
  | .unclosedSet => "unclosed character set"
  | .setRange => "malformed character range"
  | .setEscape => "escape not allowed in a character set"
  | .backReference => "back-references are not supported"
  | .escape => "unknown or malformed escape"
  | .property => "unknown character property"
  | .notUnicode => "Unicode support is needed here"
  | .bytes => "pattern can match a part of a character"
  | .tooNested => "pattern nests too deeply"
  | .tooLarge => "pattern is too large"

end DecisionFlow.Regex
