import RuleSmith.Codec
import RuleSmith.RuleSet.Basic

namespace RuleSmith

def Relation.codec : Codec Relation :=
  Codec.nat.map
    (fun number => match number with
      | 0 => .equal | 1 => .notEqual | 2 => .less | 3 => .atMost | 4 => .greater | _ => .atLeast)
    (fun relation => match relation with
      | .equal => 0 | .notEqual => 1 | .less => 2 | .atMost => 3 | .greater => 4 | .atLeast => 5)
    (fun relation => by cases relation <;> rfl)

def intCodec : Codec Int :=
  (Codec.sum Codec.nat Codec.nat).map
    (fun value => match value with
      | .inl size => .ofNat size
      | .inr size => .negSucc size)
    (fun value => match value with
      | .ofNat size => .inl size
      | .negSucc size => .inr size)
    (fun value => by cases value <;> rfl)

def Operand.codec : Codec Operand :=
  (Codec.sum Codec.unit (Codec.sum intCodec (Codec.sum Codec.word Codec.bytes))).map
    (fun value => match value with
      | .inl () => .fileSize
      | .inr (.inl value) => .integer value
      | .inr (.inr (.inl bits)) => .real bits
      | .inr (.inr (.inr value)) => .bytes value)
    (fun operand => match operand with
      | .fileSize => .inl ()
      | .integer value => .inr (.inl value)
      | .real bits => .inr (.inr (.inl bits))
      | .bytes value => .inr (.inr (.inr value)))
    (fun operand => by cases operand <;> rfl)

def ConditionStep.codec : Codec ConditionStep :=
  (Codec.sum (Codec.sum Codec.truth Codec.nat)
      (Codec.sum (Codec.pair Relation.codec (Codec.pair Operand.codec Operand.codec))
        Codec.nat)).map
    (fun value => match value with
      | .inl (.inl value) => .constant value
      | .inl (.inr position) => .pattern position
      | .inr (.inl (relation, left, right)) => .compare relation left right
      | .inr (.inr 0) => .anyPattern
      | .inr (.inr 1) => .allPatterns
      | .inr (.inr 2) => .not
      | .inr (.inr 3) => .both
      | .inr (.inr _) => .either)
    (fun step => match step with
      | .constant value => .inl (.inl value)
      | .pattern position => .inl (.inr position)
      | .compare relation left right => .inr (.inl (relation, left, right))
      | .anyPattern => .inr (.inr 0)
      | .allPatterns => .inr (.inr 1)
      | .not => .inr (.inr 2)
      | .both => .inr (.inr 3)
      | .either => .inr (.inr 4))
    (fun step => by cases step <;> rfl)

def Condition.codec : Codec Condition :=
  (Codec.list ConditionStep.codec).map
    (fun steps => (Condition.ofSteps steps []).getD default)
    Condition.toSteps
    (fun condition => by simp [Condition.ofSteps_toSteps])

def MetaValue.codec : Codec MetaValue :=
  (Codec.sum (Codec.sum Codec.int64 Codec.word) (Codec.sum Codec.truth Codec.bytes)).map
    (fun value => match value with
      | .inl (.inl value) => .integer value
      | .inl (.inr bits) => .real bits
      | .inr (.inl value) => .truth value
      | .inr (.inr value) => .bytes value)
    (fun value => match value with
      | .integer value => .inl (.inl value)
      | .real bits => .inl (.inr bits)
      | .truth value => .inr (.inl value)
      | .bytes value => .inr (.inr value))
    (fun value => by cases value <;> rfl)

def Pattern.codec : Codec Pattern :=
  (Codec.pair Codec.text (Codec.pair Codec.bytes Codec.truth)).map
    (fun (name, content, ignoreCase) => ⟨name, content, ignoreCase⟩)
    (fun pattern => (pattern.name, pattern.content, pattern.ignoreCase))
    (fun _ => rfl)

def CompiledRule.codec : Codec CompiledRule :=
  (Codec.pair Codec.text (Codec.pair Codec.text (Codec.pair (Codec.list Codec.text)
      (Codec.pair (Codec.list (Codec.pair Codec.text MetaValue.codec))
        (Codec.pair (Codec.list Pattern.codec) Condition.codec))))).map
    (fun (name, scope, tags, metadata, patterns, condition) =>
      ⟨name, scope, tags, metadata, patterns, condition⟩)
    (fun rule => (rule.name, rule.scope, rule.tags, rule.metadata, rule.patterns, rule.condition))
    (fun _ => rfl)

namespace RuleSet

/-- The mark at the front of a compiled file; its last byte occurs in no text. -/
def mark : List UInt8 := [0x59, 0x41, 0x52, 0x41, 0x2D, 0x58, 0xFF]

def toBytes (rules : RuleSet) : List UInt8 :=
  mark ++ (Codec.list CompiledRule.codec).encode rules.rules

def ofBytes? (bytes : List UInt8) : Option RuleSet :=
  if mark.isPrefixOf bytes then
    match (Codec.list CompiledRule.codec).decode (bytes.drop mark.length) with
    | some (rules, []) => some ⟨rules⟩
    | _ => none
  else none

theorem ofBytes?_toBytes (rules : RuleSet) : ofBytes? rules.toBytes = some rules := by
  have read := (Codec.list CompiledRule.codec).decode_encode rules.rules []
  rw [List.append_nil] at read
  simp [ofBytes?, toBytes, read]

def unreadable : String := "not a YARA-X compiled rules file"

instance : Storable RuleSet where
  toBytes rules := .ok rules.toBytes
  ofBytes bytes :=
    match ofBytes? bytes with
    | some rules => .ok rules
    | none => .error unreadable

@[simp]
theorem storable_toBytes (rules : RuleSet) : Storable.toBytes rules = .ok rules.toBytes := rfl

@[simp]
theorem storable_ofBytes_toBytes (rules : RuleSet) : Storable.ofBytes rules.toBytes = .ok rules := by
  simp only [Storable.ofBytes, ofBytes?_toBytes]

theorem roundTrips : Storable.RoundTrips RuleSet := by
  intro rules bytes written
  cases written
  exact storable_ofBytes_toBytes rules

end RuleSet
end RuleSmith
