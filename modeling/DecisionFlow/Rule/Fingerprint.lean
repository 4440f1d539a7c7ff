import DecisionFlow.Rule.Registry

/-!
# Fingerprints

The fingerprint of a registry covers the ids, titles, sources and successors of its rules in
order. It is taken of a stream of bytes: a choice is written as a fixed-width tag before what was
chosen, an integer as eight bytes, and a text as its UTF-8 bytes and a byte that UTF-8 never
uses. The stream of two registries is the same only if they agree on all that is covered.
-/
namespace DecisionFlow

namespace Fingerprint

/-- A natural number as eight bytes, the least significant first. -/
def word (n : Nat) : List UInt8 := (List.range 8).map fun i => UInt8.ofNat (n >>> (8 * i))

/-- A text: its UTF-8 bytes and a closing byte. -/
def text (value : String) : List UInt8 := value.toUTF8.toList ++ [0xff]

/-- An id: its sort and its content. -/
def id : RuleId → List UInt8
  | .int value => word 0 ++ word value.toUInt64.toNat
  | .name value => word 1 ++ text value

/-- A successor: whether there is one, and its id. -/
def next : Option RuleId → List UInt8
  | none => word 0
  | some target => word 1 ++ id target

/-- What the fingerprint covers of a rule. -/
def rule (rule : Rule) : List UInt8 :=
  id rule.id ++ text rule.title ++ text rule.source ++ next rule.trueNext ++ next rule.falseNext

end Fingerprint

/-- What the fingerprint covers of a registry. -/
def Registry.stream (registry : Registry) : List UInt8 :=
  registry.rules.flatMap Fingerprint.rule

/-- The fingerprint of a registry: the stream reduced to 64 bits by multiplying and mixing in one
byte after another. -/
def Registry.fingerprint (registry : Registry) : UInt64 :=
  registry.stream.foldl (fun hash byte => (hash ^^^ byte.toUInt64) * 1099511628211)
    14695981039346656037

end DecisionFlow
