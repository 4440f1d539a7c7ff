import DecisionFlow.Text.Digits
import DecisionFlow.Yaml.Cursor
import DecisionFlow.Yaml.Token

/-!
# Tags and directives in YAML text

A tag is written in full between angle brackets or with a handle before a suffix. Octets that
have no place in a tag are written as a percent sign and two hexadecimal digits, which must spell
whole characters of UTF-8. A directive before a document gives the version of the language or the
meaning of a tag handle.
-/
namespace DecisionFlow.Yaml

/-- A character of a name: an ASCII letter or digit, a hyphen or an underscore. -/
def isNameChar (c : Char) : Bool := c.isAlphanum || c == '-' || c == '_'

/-- A character of a tag. Commas and brackets count only where a tag is written in full. -/
def isTagChar (full : Bool) (c : Char) : Bool :=
  isNameChar c || ";/?:@&=+$.%!~*'()".toList.contains c || (full && ",[]".toList.contains c)

namespace Scan

/-- Take an octet written in hexadecimal. -/
def takeOctet : Scan Nat := do
  expect '%'
  let octet ← Text.ofDigits? 16 [← (← get).peek 0, ← (← get).peek 1]
  skip 2
  return octet

/-- How many octets a character of UTF-8 takes, by its first octet. -/
def encodedLength? (octet : Nat) : Option Nat :=
  if octet < 0x80 then some 1
  else if octet < 0xc0 then none
  else if octet < 0xe0 then some 2
  else if octet < 0xf0 then some 3
  else if octet < 0xf8 then some 4
  else none

/-- Take some octets that continue a character. -/
def takeContinuation : Nat → Scan (List UInt8)
  | 0 => return []
  | count + 1 => do
    let octet ← takeOctet
    guard (0x80 ≤ octet && octet < 0xc0)
    return UInt8.ofNat octet :: (← takeContinuation count)

/-- Take a character written as octets in hexadecimal. -/
def takeEncoded : Scan (List UInt8) := do
  let octet ← takeOctet
  let length ← encodedLength? octet
  return UInt8.ofNat octet :: (← takeContinuation (length - 1))

/-- Take the characters of a tag. -/
def takeTagText (full : Bool) : Nat → Scan (List UInt8)
  | 0 => failure
  | steps + 1 => do
    match (← get).rest.head? with
    | none => return []
    | some c =>
      if !isTagChar full c then return []
      else if c == '%' then
        let octets ← takeEncoded
        return octets ++ (← takeTagText full steps)
      else
        skip 1
        return UInt8.ofNat c.toNat :: (← takeTagText full steps)

/-- Take a nonempty run of characters of a tag. -/
def takeTagPart (full : Bool) : Scan (List UInt8) := do
  let octets ← takeTagText full ((← get).rest.length + 1)
  guard !octets.isEmpty
  return octets

/-- Take a handle: a name after an exclamation mark, and the one that closes it. -/
def takeHandle : Scan (List Char × Bool) := do
  expect '!'
  let name ← takeWhile isNameChar
  let closed ← accept '!'
  return ('!' :: name ++ (if closed then ['!'] else []), closed)

/-- Take a tag. The exclamation mark alone is a tag too. -/
def takeTag (flow : Bool) : Scan WrittenTag := do
  let tag ←
    if (← get).peek 1 == some '<' then do
      skip 2
      let suffix ← takeTagPart true
      expect '>'
      pure (⟨[], suffix⟩ : WrittenTag)
    else do
      let (handle, closed) ← takeHandle
      if closed then pure ⟨handle, ← takeTagPart false⟩
      else
        let further ← takeTagText false ((← get).rest.length + 1)
        let suffix := (handle.drop 1).map (fun c => UInt8.ofNat c.toNat) ++ further
        if suffix.isEmpty then pure ⟨[], ['!'.toUInt8]⟩ else pure ⟨['!'], suffix⟩
  let cursor ← get
  guard ((flow && cursor.sees ',') || cursor.wordEnds 0)
  return tag

/-- Take a number of a version: at most nine digits. -/
def takeVersionPart : Scan Nat := do
  let digits ← takeWhile Char.isDigit
  guard (!digits.isEmpty && digits.length ≤ 9)
  return digits.foldl (fun value c => value * 10 + (c.toNat - '0'.toNat)) 0

/-- Take a directive with the rest of its line. -/
def takeDirective : Scan Token := do
  skip 1
  let name ← takeWhile isNameChar
  guard (!name.isEmpty && (← get).wordEnds 0)
  skipGap
  let token ←
    if name == "YAML".toList then do
      let major ← takeVersionPart
      expect '.'
      pure (Token.version major (← takeVersionPart))
    else if name == "TAG".toList then do
      let (handle, closed) ← takeHandle
      guard (closed || handle == ['!'])
      guard (← get).atGap
      skipGap
      let meaning ← takeTagPart true
      guard ((← get).wordEnds 0)
      pure (Token.handle handle meaning)
    else failure
  endLine
  return token

end Scan

end DecisionFlow.Yaml
