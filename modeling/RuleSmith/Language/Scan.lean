import RuleSmith.Language.Toolchain

namespace RuleSmith.Language

def lowerByte (byte : UInt8) : UInt8 := if 0x41 ≤ byte ∧ byte ≤ 0x5A then byte + 0x20 else byte

def Pattern.standsAt (pattern : Pattern) (bytes : List UInt8) : Bool :=
  if pattern.ignoreCase then
    (bytes.take pattern.content.length).map lowerByte = pattern.content.map lowerByte
  else pattern.content.isPrefixOf bytes

def Pattern.find? (pattern : Pattern) : List UInt8 → Option (List UInt8)
  | [] => if Pattern.standsAt pattern [] then some [] else none
  | byte :: rest =>
    if Pattern.standsAt pattern (byte :: rest) then
      some ((byte :: rest).take pattern.content.length)
    else find? pattern rest

def applies (bytes : List UInt8) (rule : CompiledRule) : Bool :=
  rule.condition.holds (rule.patterns.map fun pattern => (Pattern.find? pattern bytes).isSome)
    bytes.length

def sight (bytes : List UInt8) (rule : CompiledRule) : Sighting where
  name := rule.name
  scope := rule.scope
  tags := rule.tags
  metadata := rule.metadata
  hits := rule.patterns.map fun pattern => (pattern.name, (Pattern.find? pattern bytes).toList)

def sightings (rules : RuleSet) (bytes : List UInt8) : List Sighting × List Sighting :=
  ((rules.rules.filter (applies bytes)).map (sight bytes),
    (rules.rules.filter fun rule => !applies bytes rule).map (sight bytes))

end RuleSmith.Language
