import DecisionFlow.Text.Property

/-!
# Quoted text

Texts inside messages and nested values are shown in double quotes. Quotes, backslashes and the
usual controls are escaped by a letter; every other character that is not printable, or that
extends the grapheme before it, is escaped by its code point in hexadecimal.
-/
namespace DecisionFlow.Text

/-- The escape of a character by its code point. -/
def codeEscape (c : Char) : List Char :=
  "\\u\x7b".toList ++ Nat.toDigits 16 c.toNat ++ ['\x7d']

/-- A character between the quotes. -/
def quotedChar (c : Char) : List Char :=
  if c = '"' then ['\\', '"']
  else if c = '\\' then ['\\', '\\']
  else if c = '\n' then ['\\', 'n']
  else if c = '\r' then ['\\', 'r']
  else if c = '\t' then ['\\', 't']
  else if c = '\x00' then ['\\', '0']
  else if isPrintable c && !isGraphemeExtend c then [c]
  else codeEscape c

/-- A text in double quotes. -/
def quoted (text : List Char) : List Char := '"' :: text.flatMap quotedChar ++ ['"']

/-- A string in double quotes. -/
def quotedString (text : String) : String := String.ofList (quoted text.toList)

end DecisionFlow.Text
