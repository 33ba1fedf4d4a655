import RuleSmith.Proofs.Language.Compile

namespace RuleSmith.Language
open Source Token

def negations : Nat → String → String
  | 0, inner => inner
  | count + 1, inner => "not (" ++ negations count inner ++ ")"

def negationTokens : Nat → List Token → List Token
  | 0, inner => inner
  | count + 1, inner =>
    .word "not" :: .symbol .openParenthesis ::
      (negationTokens count inner ++ [.symbol .closeParenthesis])

variable {inner : String} {tokens others : List Token} {text rest : List Char}

theorem all_negations {count : Nat} {p : Char → Bool} (signs : "not ()".toList.all p = true)
    (within : inner.toList.all p = true) : (negations count inner).toList.all p = true := by
  induction count with
  | zero => exact within
  | succ count ih =>
    rw [negations, String.toList_append, String.toList_append, List.all_append, List.all_append, ih]
    simpa [and_assoc] using signs

theorem isWord_not : IsWord "not" := ⟨'n', "ot".toList, rfl, rfl, rfl⟩

theorem begins_negation {count : Nat}
    (inside : Begins rest (negationTokens count tokens ++ .symbol .closeParenthesis :: others)
      ((negations count inner).toList ++ ')' :: text)) :
    Begins rest (negationTokens (count + 1) tokens ++ others)
      ((negations (count + 1) inner).toList ++ text) := by
  rw [negations, negationTokens, String.append_assoc, String.toList_append, String.toList_append,
    List.append_assoc, List.append_assoc, List.cons_append, List.cons_append, List.append_assoc]
  exact .word isWord_not (by decide) (.blank (by decide) (.symbol (by decide) inside))

theorem begins_negations (count : Nat)
    (spelled : ∀ {others text}, Begins rest others (')' :: text) →
      Begins rest (tokens ++ others) (inner.toList ++ ')' :: text))
    (begins : Begins rest others text) :
    Begins rest (negationTokens (count + 1) tokens ++ others)
      ((negations (count + 1) inner).toList ++ text) := by
  induction count generalizing others text with
  | zero => exact begins_negation (spelled (.symbol (by decide) begins))
  | succ count ih => exact begins_negation (ih (.symbol (by decide) begins))

theorem readEither_of_readNot {lexemes after : List Lexeme} {found : Located Expression}
    {sign : Symbol} {place : Place} {shorter : _}
    (h : readNot lexemes = some (found, ⟨⟨.symbol sign, place⟩ :: after, shorter⟩)) :
    readEither lexemes = some (found, ⟨⟨.symbol sign, place⟩ :: after, shorter⟩) := by
  have both : readBoth lexemes = some (found, ⟨⟨.symbol sign, place⟩ :: after, shorter⟩) := by
    rw [readBoth, h]
  rw [readEither, both]

theorem readNot_negations (count : Nat)
    (reads : ∀ (lexemes : List Lexeme) after, lexemes.map Located.value = tokens →
      ∃ found shorter, readNot (lexemes ++ after) = some (found, ⟨after, shorter⟩))
    {lexemes : List Lexeme} (values : lexemes.map Located.value = negationTokens count tokens)
    (after : List Lexeme) :
    ∃ found shorter, readNot (lexemes ++ after) = some (found, ⟨after, shorter⟩) ∧
      3 * count ≤ found.value.depth := by
  induction count generalizing lexemes after with
  | zero =>
    obtain ⟨found, shorter, eq⟩ := reads lexemes after values
    exact ⟨found, shorter, eq, by simp⟩
  | succ count ih =>
    obtain ⟨negation, _, rfl, values₁⟩ := exists_of_values values
    obtain ⟨opening, _, rfl, values₂⟩ := exists_of_values values₁
    obtain ⟨within, _, rfl, values₃, values₄⟩ := List.map_eq_append_iff.mp values₂
    obtain ⟨closing, last, rfl, values₅⟩ := exists_of_values values₄
    rw [List.map_eq_nil_iff] at values₅
    subst values₅
    -- For the inner condition, the closing parenthesis belongs to what stands behind it.
    obtain ⟨found, shorter, eq, deep⟩ := ih values₃ (⟨.symbol .closeParenthesis, closing⟩ :: after)
    have group : ∃ shorter, readNot (⟨.symbol .openParenthesis, opening⟩ :: (within ++
        ⟨.symbol .closeParenthesis, closing⟩ :: after)) =
        some (⟨.group found.value, found.place⟩, ⟨after, shorter⟩) := by
      refine ⟨by simp only [List.length_cons, List.length_append]; omega, ?_⟩
      rw [readNot, readEither_of_readNot eq]
    obtain ⟨_, group⟩ := group
    have whole : ∃ shorter, readNot (⟨.word "not", negation⟩ :: ⟨.symbol .openParenthesis, opening⟩ ::
        (within ++ ⟨.symbol .closeParenthesis, closing⟩ :: after)) =
        some (⟨.not (.group found.value), negation.through found.place⟩, ⟨after, shorter⟩) := by
      refine ⟨by simp only [List.length_cons, List.length_append]; omega, ?_⟩
      rw [readNot, group]
    obtain ⟨_, whole⟩ := whole
    have deeper : 3 * (count + 1) ≤ (Expression.not (.group found.value)).depth := by
      simp only [Expression.depth]
      omega
    have layout : ⟨.word "not", negation⟩ :: ⟨.symbol .openParenthesis, opening⟩ ::
        (within ++ [⟨.symbol .closeParenthesis, closing⟩]) ++ after =
        ⟨.word "not", negation⟩ :: ⟨.symbol .openParenthesis, opening⟩ ::
          (within ++ ⟨.symbol .closeParenthesis, closing⟩ :: after) := by simp
    rw [layout]
    exact ⟨_, _, whole, deeper⟩

theorem reads_true {lexemes : List Lexeme} (values : lexemes.map Located.value = [.word "true"])
    (after : List Lexeme) :
    ∃ found shorter, readNot (lexemes ++ after) = some (found, ⟨after, shorter⟩) := by
  obtain ⟨place, _, rfl, values₁⟩ := exists_of_values values
  rw [List.map_eq_nil_iff] at values₁
  subst values₁
  have shorter : after.length < ([⟨.word "true", place⟩] ++ after : List Lexeme).length := by
    simp only [List.length_append, List.length_cons, List.length_nil]
    omega
  refine ⟨⟨.constant true, place⟩, shorter, ?_⟩
  unfold readNot
  rfl

theorem readRule_negations {lexemes : List Lexeme} (name : Located String) (count : Nat)
    (values : lexemes.map Located.value = negationTokens count [.word "true"])
    (opening title colon closing : Place) (after : List Lexeme) :
    ∃ condition : Located Expression, 3 * count ≤ condition.value.depth ∧
      readRule name (⟨.symbol .openBrace, opening⟩ :: ⟨.word "condition", title⟩ ::
        ⟨.symbol .colon, colon⟩ :: (lexemes ++ ⟨.symbol .closeBrace, closing⟩ :: after)) =
        some (⟨name, [], [], [], condition⟩, after) := by
  obtain ⟨found, _, eq, deep⟩ := readNot_negations count (fun _ after values => reads_true values after)
    values (⟨.symbol .closeBrace, closing⟩ :: after)
  refine ⟨found, deep, ?_⟩
  simp [readRule, readTags, readSection, readCondition, readEither_of_readNot eq]

theorem readRules_mono {fuel more : Nat} {lexemes : List Lexeme} {rules : List RuleDeclaration}
    (read : readRules fuel lexemes = some rules) (le : fuel ≤ more) :
    readRules more lexemes = some rules := by
  induction fuel generalizing more lexemes rules with
  | zero =>
    cases lexemes with
    | nil => simpa [readRules] using read
    | cons => simp [readRules] at read
  | succ fuel ih =>
    obtain ⟨more, rfl⟩ := Nat.exists_eq_add_of_le' (Nat.le_trans (Nat.succ_le_succ fuel.zero_le) le)
    unfold readRules at read ⊢
    split at read
    · exact read
    · rename_i same
      cases same
      split at read
      · rw [if_pos ‹_›]
        split at read
        · cases read
        · obtain ⟨others, readOthers, rfl⟩ := Option.map_eq_some_iff.mp read
          simp only [ih readOthers (Nat.le_of_succ_le_succ le), Option.map_some]
      · cases read
    · cases read

def negationsBefore (count : Nat) (behind : String) : String :=
  negations (count + 1) "true" ++ "\n\x7d\n" ++ behind

theorem all_negationsBefore {count : Nat} {behind : String} {p : Char → Bool}
    (signs : "not (true)\n\x7d".toList.all p = true) (others : behind.toList.all p = true) :
    (negationsBefore count behind).toList.all p = true := by
  have within : (negations (count + 1) "true").toList.all p = true := by
    apply all_negations <;> simp_all
  rw [negationsBefore, String.toList_append, String.toList_append, List.all_append, List.all_append,
    within, others]
  simp_all

theorem layout_negationsBefore (head : String) (count : Nat) (behind : String) :
    (layout head [] [] (negationsBefore count behind)).toList =
      front head [] [] ++ ((negations (count + 1) "true").toList ++ "\n\x7d\n".toList) ++
        (behind ++ "\n\x7d").toList := by
  rw [front_append, negationsBefore]
  simp only [String.toList_append, List.append_assoc]

theorem begins_negationsBefore {name : String} (word : IsWord name) (count : Nat)
    (rest : List Char) :
    Begins rest
      (frontTokens name [] [] [] ++
        (negationTokens (count + 1) [.word "true"] ++ [.symbol .closeBrace]))
      (front ("rule " ++ name) [] [] ++
        ((negations (count + 1) "true").toList ++ "\n\x7d\n".toList) ++ rest) := by
  have closing : Begins rest [.symbol .closeBrace] ("\n\x7d\n".toList ++ rest) :=
    .blank (by decide) (.symbol (by decide) (.blank (by decide) .done))
  have negated : Begins rest (negationTokens (count + 1) [.word "true"] ++ [.symbol .closeBrace])
      ((negations (count + 1) "true").toList ++ ("\n\x7d\n".toList ++ rest)) :=
    begins_negations count (fun begins =>
      .word ⟨'t', "rue".toList, rfl, rfl, rfl⟩ (by decide) begins) closing
  have first (more : List Char) : Begins more (frontTokens name [] [] [])
      (front ("rule " ++ name) [] [] ++ more) :=
    @begins_front ⟨name, none, none, none, ""⟩ [] [] word (by simp) (by simp) (by simp) (by simp)
      (by simp) more
  rw [List.append_assoc, List.append_assoc]
  exact (first _).append negated

theorem plain_negationTokens {name : String} (count : Nat)
    (plain : .pattern name ∉ tokens) : .pattern name ∉ negationTokens count tokens := by
  induction count with
  | zero => exact plain
  | succ count ih => simpa [negationTokens] using ih

theorem readRules_negationsBefore {name : String} (named : isName name = true) {count fuel : Nat}
    {lexemes back : List Lexeme} {rules : List RuleDeclaration}
    (values : lexemes.map Located.value = frontTokens name [] [] [] ++
      (negationTokens count [.word "true"] ++ [.symbol .closeBrace]))
    (reads : readRules fuel back = some rules) :
    ∃ rule : RuleDeclaration, 3 * count ≤ rule.condition.value.depth ∧
      readRules (fuel + 1) (lexemes ++ back) = some (rule :: rules) := by
  have front : frontTokens name [] [] [] = [.word "rule", .word name, .symbol .openBrace,
      .word "condition", .symbol .colon] := rfl
  rw [front] at values
  simp only [List.cons_append, List.nil_append] at values
  obtain ⟨_, _, rfl, values₁⟩ := exists_of_values values
  obtain ⟨place, _, rfl, values₂⟩ := exists_of_values values₁
  obtain ⟨opening, _, rfl, values₃⟩ := exists_of_values values₂
  obtain ⟨title, _, rfl, values₄⟩ := exists_of_values values₃
  obtain ⟨colon, _, rfl, values₅⟩ := exists_of_values values₄
  obtain ⟨within, _, rfl, values₆, values₇⟩ := List.map_eq_append_iff.mp values₅
  obtain ⟨closing, last, rfl, values₈⟩ := exists_of_values values₇
  rw [List.map_eq_nil_iff] at values₈
  subst values₈
  obtain ⟨condition, deep, eq⟩ := readRule_negations ⟨name, place⟩ count values₆
    opening title colon closing back
  refine ⟨⟨⟨name, place⟩, [], [], [], condition⟩, deep, ?_⟩
  simp only [List.cons_append, List.append_assoc, List.nil_append, readRules, if_pos named, eq, reads,
    Option.map_some]

/-- A rule whose condition goes too deep is passed over: its source declares what stands behind it. -/
theorem declarations?_negationsBefore {name behind : String} {count : Nat}
    {rules : List RuleDeclaration} (word : IsWord name) (named : isName name = true)
    (deep : maxDepth < 3 * (count + 1))
    (declares : declarations? (behind ++ "\n\x7d").toList = some rules) :
    declarations? (layout ("rule " ++ name) [] [] (negationsBefore count behind)).toList =
      some rules := by
  unfold declarations? at declares ⊢
  split at declares
  · cases declares
  rename_i back scanned
  obtain ⟨read, reads, rfl⟩ := Option.map_eq_some_iff.mp declares
  obtain ⟨lexemes, values, scans⟩ :=
    (begins_negationsBefore word count (behind ++ "\n\x7d").toList).scans fun named => by
      simp [frontTokens, tagTokens, sectionTokens, plain_negationTokens]
  obtain ⟨rule, deeper, readsAll⟩ := readRules_negationsBefore named values reads
  rw [layout_negationsBefore, scans, scanned, Option.map_some]
  have enough : back.length + 1 ≤ (lexemes ++ back).length := by
    have := congrArg List.length values
    simp only [List.length_map, List.length_append, List.length_cons, List.length_nil] at this ⊢
    omega
  simp only [readRules_mono readsAll enough, Option.map_some]
  rw [List.filter_cons_of_neg (by simp only [decide_eq_true_eq]; omega)]

theorem compile_negationsBefore {name behind : String} {count : Nat} {rules : RuleSet}
    {warnings : List Warning} {setup : CompilerSetup} (word : IsWord name)
    (named : isName name = true) (deep : maxDepth < 3 * (count + 1))
    (compiles : compile (behind ++ "\n\x7d") setup = .ok (rules, warnings)) :
    compile (layout ("rule " ++ name) [] [] (negationsBefore count behind)) setup =
      .ok (rules, warnings) := by
  obtain ⟨declared, -, declares, -, -⟩ := compile_parts compiles
  have same := declarations?_negationsBefore word named deep declares
  unfold compile at compiles ⊢
  rw [declares] at compiles
  rw [same]
  exact compiles

end RuleSmith.Language
