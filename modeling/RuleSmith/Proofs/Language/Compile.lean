import RuleSmith.Language.Compile
import RuleSmith.Proofs.Language.Declaration

namespace RuleSmith.Language
variable {setup : CompilerSetup}

theorem bind_eq_ok {ε α β : Type} {first : Except ε α} {next : α → Except ε β} {result : β}
    (h : (first >>= next) = .ok result) :
    ∃ value, first = .ok value ∧ next value = .ok result := by
  cases first with
  | error problem => cases h
  | ok value => exact ⟨value, rfl, h⟩

theorem compile_parts {source : String} {rules : RuleSet} {warnings : List Warning}
    (h : compile source setup = .ok (rules, warnings)) :
    ∃ declared compiled, declarations? source.toList = some declared ∧
      compileRules setup [] declared = .ok compiled ∧ rules = ⟨compiled.map Prod.fst⟩ := by
  unfold compile at h
  cases declares : declarations? source.toList with
  | none =>
    rw [declares] at h
    cases h
  | some declared =>
    rw [declares] at h
    obtain ⟨compiled, compiles, h⟩ := bind_eq_ok h
    cases h
    exact ⟨declared, compiled, rfl, compiles, rfl⟩

theorem compileRule_parts {earlier : List (Located String)} {rule : RuleDeclaration}
    {compiled : CompiledRule} {warnings : List Warning}
    (h : compileRule setup earlier rule = .ok (compiled, warnings)) :
    compiled.name = rule.name.value ∧ compiled.tags = rule.tags.map Located.value ∧
      compiled.metadata = rule.metadata ∧
      rule.patterns.mapM (compilePattern setup.relaxedPatterns) = .ok compiled.patterns := by
  unfold compileRule at h
  obtain ⟨_, -, h⟩ := bind_eq_ok h
  simp only at h
  split at h
  · cases h
  split at h
  · cases h
  obtain ⟨patterns, compiles, h⟩ := bind_eq_ok h
  obtain ⟨condition, -, h⟩ := bind_eq_ok h
  split at h
  · cases h
  split at h
  · split at h
    · cases h
    · cases h
      exact ⟨rfl, rfl, rfl, compiles⟩
  · cases h
    exact ⟨rfl, rfl, rfl, compiles⟩

theorem compileRules_parts {earlier : List (Located String)} {rule : RuleDeclaration}
    {others : List RuleDeclaration} {compiled : List (CompiledRule × List Warning)}
    (h : compileRules setup earlier (rule :: others) = .ok compiled) :
    ∃ first rest, compileRule setup earlier rule = .ok first ∧ compiled = first :: rest := by
  rw [compileRules] at h
  obtain ⟨first, compiles, h⟩ := bind_eq_ok h
  obtain ⟨rest, -, h⟩ := bind_eq_ok h
  cases h
  exact ⟨first, rest, compiles, rfl⟩

theorem compilePattern_literal {pattern : PatternDeclaration} {compiled : Pattern} {relaxed : Bool}
    {bytes : List UInt8} {ignoreCase : Bool} (body : pattern.body.value = .literal bytes ignoreCase)
    (h : compilePattern relaxed pattern = .ok compiled) :
    compiled = ⟨pattern.name.value, bytes, ignoreCase⟩ := by
  unfold compilePattern at h
  rw [body] at h
  simp only at h
  obtain ⟨_, same, h⟩ := bind_eq_ok h
  cases same
  split at h
  · cases h
  · cases h
    rfl

theorem compilePatterns_literals {declared : List PatternDeclaration} {compiled : List Pattern}
    {relaxed : Bool} {strings : List (String × List UInt8)}
    (literals : (declared.map fun pattern => (pattern.name.value, pattern.body.value)) =
      strings.map fun entry => (entry.1, .literal entry.2 false))
    (h : declared.mapM (compilePattern relaxed) = .ok compiled) :
    compiled = strings.map fun entry => ⟨entry.1, entry.2, false⟩ := by
  induction declared generalizing strings compiled with
  | nil =>
    rw [List.map_nil, eq_comm, List.map_eq_nil_iff] at literals
    subst literals
    cases h
    rfl
  | cons pattern declared ih =>
    rw [List.map_cons, eq_comm, List.map_eq_cons_iff] at literals
    obtain ⟨entry, entries, rfl, first, others⟩ := literals
    rw [List.mapM_cons] at h
    obtain ⟨compiledFirst, compiles, h⟩ := bind_eq_ok h
    obtain ⟨compiledOthers, compilesOthers, h⟩ := bind_eq_ok h
    cases h
    obtain ⟨name, body⟩ := Prod.ext_iff.mp first
    rw [compilePattern_literal body.symm compiles, ih others.symm compilesOthers, List.map_cons]
    simp only at name
    rw [name]

structure Carries (rule : CompiledRule) (name : String) (tags : List String)
    (metadata strings : List (String × List UInt8)) : Prop where
  name : rule.name = name
  tags : rule.tags = tags
  metadata : rule.metadata = metadata.map fun entry => (entry.1, .bytes entry.2)
  patterns : rule.patterns = strings.map fun entry => ⟨entry.1, entry.2, false⟩

/-- Whether the engine passes over the first rule of a source, as the parts of its condition lie too
deep below it. -/
def passesOver (source : String) : Bool :=
  match Token.scanAll source.toList with
  | none => false
  | some lexemes =>
    match readRules lexemes.length lexemes with
    | some (rule :: _) => maxDepth < rule.condition.value.depth
    | _ => false

theorem carries_front {source name : String} {tags : List String}
    {metadata strings : List (String × List UInt8)} {rest : List Char} {rules : RuleSet}
    {warnings : List Warning}
    (begins : Begins rest (frontTokens name tags metadata strings) source.toList)
    (kept : passesOver source = false) (h : compile source setup = .ok (rules, warnings)) :
    ∃ first others, rules.rules = first :: others ∧ Carries first name tags metadata strings := by
  obtain ⟨declared, compiled, declares, compiles, rfl⟩ := compile_parts h
  unfold declarations? at declares
  split at declares
  · cases declares
  · rename_i lexemes scanned
    obtain ⟨read, reads, same⟩ := Option.map_eq_some_iff.mp declares
    obtain ⟨frontLexemes, back, values, -, rfl⟩ := begins.reads lexemes scanned
    obtain ⟨rule, others, rfl, declaresRule⟩ := declares_front values reads
    -- The filter on depth keeps the first rule, as it is not passed over.
    have shallow : rule.condition.value.depth ≤ maxDepth := by
      rw [passesOver, scanned] at kept
      simpa only [reads, decide_eq_false_iff_not, Nat.not_lt] using kept
    rw [List.filter_cons_of_pos (by simpa using shallow)] at same
    subst same
    obtain ⟨⟨first, firstWarnings⟩, rest, compilesFirst, rfl⟩ := compileRules_parts compiles
    obtain ⟨sameName, sameTags, sameMeta, compilesPatterns⟩ := compileRule_parts compilesFirst
    refine ⟨first, rest.map Prod.fst, rfl, ?_⟩
    exact ⟨sameName.trans declaresRule.name, sameTags.trans declaresRule.tags,
      sameMeta.trans declaresRule.metadata,
      compilePatterns_literals declaresRule.patterns compilesPatterns⟩

end RuleSmith.Language
