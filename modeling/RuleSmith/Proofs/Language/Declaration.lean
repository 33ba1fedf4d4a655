import RuleSmith.Language.Declaration
import RuleSmith.Proofs.Language.Front

namespace RuleSmith.Language

variable {lexemes rest after : List Lexeme} {place : Place}

structure Declares (rule : RuleDeclaration) (name : String) (tags : List String)
    (metadata patterns : List (String × List UInt8)) : Prop where
  name : rule.name.value = name
  tags : rule.tags.map Located.value = tags
  metadata : rule.metadata = metadata.map fun entry => (entry.1, .bytes entry.2)
  patterns : (rule.patterns.map fun pattern => (pattern.name.value, pattern.body.value)) =
    patterns.map fun entry => (entry.1, .literal entry.2 false)

theorem exists_of_values {token : Token} {tokens : List Token}
    (values : lexemes.map Located.value = token :: tokens) :
    ∃ place others, lexemes = ⟨token, place⟩ :: others ∧ others.map Located.value = tokens := by
  obtain ⟨⟨_, place⟩, others, rfl, rfl, same⟩ := List.map_eq_cons_iff.mp values
  exact ⟨place, others, rfl, same⟩

theorem readNames_words {names : List String}
    (values : lexemes.map Located.value = names.map .word) (rest : List Lexeme) :
    (∃ found, readNames (lexemes ++ rest) = (found ++ (readNames rest).1, (readNames rest).2) ∧
        found.map Located.value = names) ∨
      ∃ word place more, (readNames (lexemes ++ rest)).2 = ⟨.word word, place⟩ :: more := by
  induction names generalizing lexemes with
  | nil =>
    rw [List.map_nil, List.map_eq_nil_iff] at values
    subst values
    exact Or.inl ⟨[], rfl, rfl⟩
  | cons name names ih =>
    obtain ⟨place, others, rfl, words⟩ := exists_of_values values
    simp only [List.cons_append, readNames]
    split
    · rcases ih words with ⟨found, eq, same⟩ | ⟨word, place, more, eq⟩
      · exact Or.inl ⟨⟨name, place⟩ :: found, by simp [eq], by simp [same]⟩
      · exact Or.inr ⟨word, place, more, eq⟩
    · exact Or.inr ⟨_, _, _, rfl⟩

theorem readTags_front {tags : List String} {found : List (Located String)} {place' : Place}
    (values : lexemes.map Located.value = tagTokens tags)
    (read : readTags (lexemes ++ ⟨.symbol .openBrace, place⟩ :: rest) =
      some (found, ⟨.symbol .openBrace, place'⟩ :: after)) :
    found.map Located.value = tags ∧ after = rest := by
  cases tags with
  | nil =>
    rw [tagTokens, List.map_eq_nil_iff] at values
    subst values
    cases read
    exact ⟨rfl, rfl⟩
  | cons tag tags =>
    obtain ⟨colon, names, rfl, words⟩ := exists_of_values values
    simp only [List.cons_append, readTags] at read
    split at read
    · cases read
    · rcases readNames_words words (⟨.symbol .openBrace, place⟩ :: rest) with
        ⟨found, eq, same⟩ | ⟨word, place, more, eq⟩
      · rw [eq] at read
        simp only [readNames, List.append_nil, Option.some.injEq, Prod.mk.injEq, List.cons.injEq]
          at read
        exact ⟨read.1 ▸ same, read.2.2.symm⟩
      · rw [Option.some.injEq, Prod.ext_iff, eq] at read
        cases read.2

theorem readMetaValue_text (bytes : List UInt8) (rest : List Lexeme) :
    readMetaValue (⟨.text bytes, place⟩ :: rest) = some (.bytes bytes, rest) := by
  simp [readMetaValue]

theorem readMetadata_entries {entries : List (String × List UInt8)} {found : List (String × MetaValue)}
    (values : lexemes.map Located.value = entryTokens .word entries)
    (stop : readMetadata rest = some ([], rest))
    (read : readMetadata (lexemes ++ rest) = some (found, after)) :
    found = entries.map (fun entry => (entry.1, .bytes entry.2)) ∧ after = rest := by
  induction entries generalizing lexemes found with
  | nil =>
    rw [entryTokens, List.flatMap_nil, List.map_eq_nil_iff] at values
    subst values
    cases stop.symm.trans read
    exact ⟨rfl, rfl⟩
  | cons entry entries ih =>
    obtain ⟨key, _, rfl, values₁⟩ := exists_of_values values
    obtain ⟨assign, _, rfl, values₂⟩ := exists_of_values values₁
    obtain ⟨body, others, rfl, values₃⟩ := exists_of_values values₂
    rw [List.cons_append, List.cons_append, List.cons_append, readMetadata, readMetaValue_text] at read
    split at read
    · obtain ⟨⟨more, left⟩, readOthers, same⟩ := Option.map_eq_some_iff.mp read
      cases same
      obtain ⟨rfl, rfl⟩ := ih values₃ readOthers
      exact ⟨rfl, rfl⟩
    · cases read

theorem readPatterns_literal {name : String} {bytes : List UInt8} {place assign body : Place}
    (plain : ∀ last others, rest ≠ ⟨.word "nocase", last⟩ :: others) :
    readPatterns (⟨.pattern name, place⟩ :: ⟨.symbol .assign, assign⟩ :: ⟨.text bytes, body⟩ :: rest) =
      (readPatterns rest).map fun (others, rest) =>
        (⟨⟨name, place⟩, .literal bytes false, body⟩ :: others, rest) := by
  rw [readPatterns]
  intro last others same
  exact plain last others same

theorem readPatterns_entries {entries : List (String × List UInt8)} {found : List PatternDeclaration}
    (values : lexemes.map Located.value = entryTokens .pattern entries)
    (read : readPatterns (lexemes ++ ⟨.word "condition", place⟩ :: rest) = some (found, after)) :
    (found.map fun pattern => (pattern.name.value, pattern.body.value)) =
        entries.map (fun entry => (entry.1, .literal entry.2 false)) ∧
      after = ⟨.word "condition", place⟩ :: rest := by
  induction entries generalizing lexemes found with
  | nil =>
    rw [entryTokens, List.flatMap_nil, List.map_eq_nil_iff] at values
    subst values
    cases read
    exact ⟨rfl, rfl⟩
  | cons entry entries ih =>
    obtain ⟨key, _, rfl, values₁⟩ := exists_of_values values
    obtain ⟨assign, _, rfl, values₂⟩ := exists_of_values values₁
    obtain ⟨body, others, rfl, (values₃ : _ = entryTokens .pattern entries)⟩ :=
      exists_of_values values₂
    -- What stands behind an entry is the next pattern or the title, so it is no modifier.
    have plain : ∀ last more,
        others ++ ⟨.word "condition", place⟩ :: rest ≠ ⟨.word "nocase", last⟩ :: more := by
      cases entries with
      | nil =>
        rw [entryTokens, List.flatMap_nil, List.map_eq_nil_iff] at values₃
        simp [values₃]
      | cons second entries =>
        obtain ⟨key, _, rfl, _⟩ := exists_of_values values₃
        simp
    rw [List.cons_append, List.cons_append, List.cons_append, readPatterns_literal plain] at read
    obtain ⟨⟨more, left⟩, readOthers, same⟩ := Option.map_eq_some_iff.mp read
    cases same
    obtain ⟨others, rfl⟩ := ih values₃ readOthers
    exact ⟨by simp [others], rfl⟩

theorem readSection_other {α : Type} {title : String}
    {reader : List Lexeme → Option (List α × List Lexeme)} {word : String} (other : word ≠ title) :
    readSection title reader (⟨.word word, place⟩ :: rest) =
      some ([], ⟨.word word, place⟩ :: rest) := by
  unfold readSection
  split
  · rename_i same
    cases same
    rw [if_neg other]
  · rfl

theorem readSection_front {α : Type} {title : String} {key : String → Token}
    {entries : List (String × List UInt8)} {reader : List Lexeme → Option (List α × List Lexeme)}
    {found : List α} {word : String} (other : word ≠ title)
    (values : lexemes.map Located.value = sectionTokens title key entries)
    (read : readSection title reader (lexemes ++ ⟨.word word, place⟩ :: rest) = some (found, after)) :
    (entries = [] ∧ found = [] ∧ after = ⟨.word word, place⟩ :: rest) ∨
      ∃ others, others.map Located.value = entryTokens key entries ∧
        reader (others ++ ⟨.word word, place⟩ :: rest) = some (found, after) := by
  unfold sectionTokens at values
  split at values
  · rename_i none
    rw [List.map_eq_nil_iff] at values
    subst values
    left
    rw [List.nil_append, readSection_other other] at read
    cases read
    exact ⟨by simpa using none, rfl, rfl⟩
  · right
    obtain ⟨head, _, rfl, values₁⟩ := exists_of_values values
    obtain ⟨colon, others, rfl, values₂⟩ := exists_of_values values₁
    refine ⟨others, values₂, ?_⟩
    simp only [List.cons_append, readSection, if_true] at read
    split at read
    · cases read
    · split at read
      · cases read
      · cases read
        assumption

theorem readMetadata_section (word : String) (place colon : Place) (rest : List Lexeme) :
    readMetadata (⟨.word word, place⟩ :: ⟨.symbol .colon, colon⟩ :: rest) =
      some ([], ⟨.word word, place⟩ :: ⟨.symbol .colon, colon⟩ :: rest) := by
  rw [readMetadata]
  simp

theorem readRule_parts {name : Located String} {tokens : List Lexeme} {rule : RuleDeclaration}
    (read : readRule name tokens = some (rule, after)) :
    ∃ tags brace inner metadata inner' patterns inner'' condition,
      readTags tokens = some (tags, ⟨.symbol .openBrace, brace⟩ :: inner) ∧
      readSection "meta" readMetadata inner = some (metadata, inner') ∧
      readSection "strings" readPatterns inner' = some (patterns, inner'') ∧
      readCondition inner'' = some (condition, after) ∧
      rule = ⟨name, tags, metadata, patterns, condition⟩ := by
  unfold readRule at read
  obtain ⟨⟨tags, behindTags⟩, readsTags, read⟩ := Option.bind_eq_some_iff.mp read
  simp only at read
  split at read
  · rename_i brace inner
    obtain ⟨⟨metadata, inner'⟩, readsMetadata, read⟩ := Option.bind_eq_some_iff.mp read
    obtain ⟨⟨patterns, inner''⟩, readsPatterns, read⟩ := Option.bind_eq_some_iff.mp read
    obtain ⟨⟨condition, last⟩, readsCondition, read⟩ := Option.bind_eq_some_iff.mp read
    cases read
    exact ⟨_, _, _, _, _, _, _, _, readsTags, readsMetadata, readsPatterns, readsCondition, rfl⟩
  · cases read

theorem next_section {strings : List (String × List UInt8)}
    (values : lexemes.map Located.value = sectionTokens "strings" .pattern strings)
    (condition colon : Place) (rest : List Lexeme) :
    ∃ word place colon' more, word ≠ "meta" ∧
      lexemes ++ ⟨.word "condition", condition⟩ :: ⟨.symbol .colon, colon⟩ :: rest =
        ⟨.word word, place⟩ :: ⟨.symbol .colon, colon'⟩ :: more := by
  unfold sectionTokens at values
  split at values
  · rw [List.map_eq_nil_iff] at values
    subst values
    exact ⟨"condition", _, _, _, by decide, rfl⟩
  · obtain ⟨head, _, rfl, values₁⟩ := exists_of_values values
    obtain ⟨colon', others, rfl, -⟩ := exists_of_values values₁
    exact ⟨"strings", _, _, _, by decide, rfl⟩

theorem readSections_front {metadata strings : List (String × List UInt8)}
    {metaLexemes stringLexemes inner inner' : List Lexeme} {condition colon : Place}
    {foundMeta : List (String × MetaValue)} {foundPatterns : List PatternDeclaration}
    (metaValues : metaLexemes.map Located.value = sectionTokens "meta" .word metadata)
    (stringValues : stringLexemes.map Located.value = sectionTokens "strings" .pattern strings)
    (readsMeta : readSection "meta" readMetadata (metaLexemes ++ (stringLexemes ++
      ⟨.word "condition", condition⟩ :: ⟨.symbol .colon, colon⟩ :: rest)) = some (foundMeta, inner))
    (readsPatterns : readSection "strings" readPatterns inner = some (foundPatterns, inner')) :
    foundMeta = metadata.map (fun entry => (entry.1, .bytes entry.2)) ∧
      (foundPatterns.map fun pattern => (pattern.name.value, pattern.body.value)) =
        strings.map fun entry => (entry.1, .literal entry.2 false) := by
  obtain ⟨word, place, colon', more, other, next⟩ :=
    next_section stringValues condition colon rest
  have sameMeta : foundMeta = metadata.map (fun entry => (entry.1, .bytes entry.2)) ∧
      inner = ⟨.word word, place⟩ :: ⟨.symbol .colon, colon'⟩ :: more := by
    rw [next] at readsMeta
    rcases readSection_front other metaValues readsMeta with
      ⟨rfl, rfl, rfl⟩ | ⟨entries, entryValues, readsEntries⟩
    · exact ⟨rfl, rfl⟩
    · exact readMetadata_entries entryValues (readMetadata_section _ _ _ _) readsEntries
  rw [sameMeta.2, ← next] at readsPatterns
  refine ⟨sameMeta.1, ?_⟩
  rcases readSection_front (by decide) stringValues readsPatterns with
    ⟨rfl, rfl, -⟩ | ⟨entries, entryValues, readsEntries⟩
  · rfl
  · exact (readPatterns_entries entryValues readsEntries).1

theorem declares_front {name : String} {tags : List String} {metadata strings : List (String × List UInt8)}
    {fuel : Nat} {rules : List RuleDeclaration}
    (values : lexemes.map Located.value = frontTokens name tags metadata strings)
    (read : readRules fuel (lexemes ++ rest) = some rules) :
    ∃ rule others, rules = rule :: others ∧ Declares rule name tags metadata strings := by
  obtain ⟨_, _, rfl, values₁⟩ := exists_of_values values
  obtain ⟨namePlace, _, rfl, values₂⟩ := exists_of_values values₁
  obtain ⟨tagLexemes, _, rfl, tagValues, values₃⟩ := List.map_eq_append_iff.mp values₂
  obtain ⟨brace, _, rfl, values₄⟩ := exists_of_values values₃
  obtain ⟨metaLexemes, _, rfl, metaValues, values₅⟩ := List.map_eq_append_iff.mp values₄
  obtain ⟨stringLexemes, _, rfl, stringValues, values₆⟩ := List.map_eq_append_iff.mp values₅
  obtain ⟨condition, _, rfl, values₇⟩ := exists_of_values values₆
  obtain ⟨colon, last, rfl, -⟩ := exists_of_values values₇
  cases fuel with
  | zero => simp [readRules] at read
  | succ fuel =>
    simp only [List.cons_append, List.append_assoc, readRules] at read
    split at read
    · split at read
      · cases read
      · rename_i rule after readsRule
        obtain ⟨others, -, rfl⟩ := Option.map_eq_some_iff.mp read
        refine ⟨rule, others, rfl, ?_⟩
        obtain ⟨foundTags, _, _, foundMeta, _, foundPatterns, _, _, readsTags, readsMeta,
          readsPatterns, -, rfl⟩ := readRule_parts readsRule
        obtain ⟨sameTags, rfl⟩ := readTags_front tagValues readsTags
        obtain ⟨sameMeta, samePatterns⟩ :=
          readSections_front metaValues stringValues readsMeta readsPatterns
        exact ⟨rfl, sameTags, sameMeta, samePatterns⟩
    · cases read

end RuleSmith.Language
