import RuleSmith.Proofs.Language.Token
import RuleSmith.Proofs.Rule.Rendering

namespace RuleSmith.Language
open Text Literal Source

def tagTokens : List String → List Token
  | [] => []
  | tags => .symbol .colon :: tags.map .word

def entryTokens (key : String → Token) (entries : List (String × List UInt8)) : List Token :=
  entries.flatMap fun entry => [key entry.1, .symbol .assign, .text entry.2]

def sectionTokens (title : String) (key : String → Token) (entries : List (String × List UInt8)) :
    List Token :=
  if entries.isEmpty then [] else .word title :: .symbol .colon :: entryTokens key entries

/-- The tokens of a rule up to its condition; its entries have the bytes that their literals denote. -/
def frontTokens (name : String) (tags : List String)
    (metadata strings : List (String × List UInt8)) : List Token :=
  .word "rule" :: .word name :: (tagTokens tags ++ .symbol .openBrace ::
    (sectionTokens "meta" .word metadata ++ (sectionTokens "strings" .pattern strings ++
      [.word "condition", .symbol .colon])))

def denotedEntries (entries : List (String × String)) : List (String × List UInt8) :=
  entries.map fun entry => (entry.1, denoted entry.2)

def front (head : String) (metadata strings : List (String × String)) : List Char :=
  head.toList ++ ("\n\x7b\n".toList ++ ((block "meta" metadata).toList ++
    ((block "strings" strings).toList ++ "    condition:\n        ".toList)))

theorem front_append (head : String) (metadata strings : List (String × String))
    (condition : String) :
    (layout head metadata strings condition).toList =
      front head metadata strings ++ (condition.toList ++ "\n\x7d".toList) := by
  simp [layout, front]

variable {rest text : List Char} {tokens : List Token} {next : Char}

theorem isWord_rule : IsWord "rule" := ⟨'r', "ule".toList, rfl, rfl, rfl⟩

theorem isWord_condition : IsWord "condition" := ⟨'c', "ondition".toList, rfl, rfl, rfl⟩

theorem isWord_meta : IsWord "meta" := ⟨'m', "eta".toList, rfl, rfl, rfl⟩

theorem isWord_strings : IsWord "strings" := ⟨'s', "trings".toList, rfl, rfl, rfl⟩

theorem begins_tags {tags : List String} (words : ∀ tag ∈ tags, IsWord tag)
    (ends : isWordChar next = false) (begins : Begins rest tokens (next :: text)) :
    Begins rest (tags.map .word ++ tokens) ((" ".intercalate tags).toList ++ next :: text) := by
  induction tags with
  | nil => exact begins
  | cons tag tags ih =>
    have first := words tag List.mem_cons_self
    cases tags with
    | nil => simpa using begins.word first ends
    | cons second tags =>
      have others := ih fun tag member => words tag (List.mem_cons_of_mem _ member)
      rw [String.intercalate_cons_cons, String.append_assoc, String.toList_append,
        String.toList_append, List.append_assoc, List.append_assoc]
      exact .word first (by decide) (.blank (by decide) others)

theorem begins_headLine {source : Source} (name : IsWord source.rule)
    (tags : ∀ tag ∈ source.tags.getD [], IsWord tag)
    (begins : Begins rest tokens ('\n' :: text)) :
    Begins rest (.word "rule" :: .word source.rule :: (tagTokens (source.tags.getD []) ++ tokens))
      (source.headLine.toList ++ '\n' :: text) := by
  unfold headLine tagTokens
  cases eq : source.tags.getD [] with
  | nil =>
    rw [String.toList_append, List.append_assoc]
    exact .word isWord_rule (by decide)
      (.blank (by decide) (.word name (by decide) begins))
  | cons tag others =>
    rw [eq] at tags
    have tagged := begins_tags tags (by decide) begins
    simp only [String.append_assoc, String.toList_append, List.append_assoc]
    exact .word isWord_rule (by decide) (.blank (by decide)
      (.word name (by decide) (.symbol (by decide) (.blank (by decide) tagged))))

theorem begins_entryLine {key body : String} {token : Token}
    (begins_key : ∀ {tokens text}, Begins rest tokens (' ' :: text) →
      Begins rest (token :: tokens) (key.toList ++ ' ' :: text))
    (isBody : IsBody body) (begins : Begins rest tokens text) :
    Begins rest (token :: .symbol .assign :: .text (denoted body) :: tokens)
      ((entryLine (key, body)).toList ++ text) := by
  have spelled : (entryLine (key, body)).toList ++ text =
      "\n        ".toList ++ (key.toList ++ ' ' :: '=' :: ' ' :: '"' ::
        (body.toList ++ '"' :: text)) := by
    simp [entryLine]
  rw [spelled]
  exact (begins_key (.blank (by decide) (.assign (by decide) (.blank (by decide)
    (.literal isBody begins))))).blanks _ (by decide)

theorem begins_entries {key : String → Token} {entries : List (String × String)}
    (keys : ∀ entry ∈ entries, ∀ {tokens text}, Begins rest tokens (' ' :: text) →
      Begins rest (key entry.1 :: tokens) (entry.1.toList ++ ' ' :: text))
    (bodies : ∀ entry ∈ entries, IsBody entry.2) (begins : Begins rest tokens text) :
    Begins rest (entryTokens key (denotedEntries entries) ++ tokens)
      ((String.join (entries.map entryLine)).toList ++ text) := by
  rw [String.toList_join]
  induction entries with
  | nil => exact begins
  | cons entry entries ih =>
    have others := ih (fun other member => keys other (List.mem_cons_of_mem _ member))
      fun other member => bodies other (List.mem_cons_of_mem _ member)
    rw [List.map_cons, List.flatMap_cons, List.append_assoc]
    exact begins_entryLine (keys entry List.mem_cons_self) (bodies entry List.mem_cons_self) others

theorem begins_block {title : String} {key : String → Token} {entries : List (String × String)}
    (word : IsWord title)
    (keys : ∀ entry ∈ entries, ∀ {tokens text}, Begins rest tokens (' ' :: text) →
      Begins rest (key entry.1 :: tokens) (entry.1.toList ++ ' ' :: text))
    (bodies : ∀ entry ∈ entries, IsBody entry.2) (begins : Begins rest tokens text) :
    Begins rest (sectionTokens title key (denotedEntries entries) ++ tokens)
      ((block title entries).toList ++ text) := by
  unfold block sectionTokens
  rw [denotedEntries, List.isEmpty_map]
  split
  · exact begins
  · simp only [String.append_assoc, String.toList_append, List.append_assoc]
    refine Begins.blanks _ (by decide) (.word word (by decide) (.symbol (by decide) ?_))
    exact begins_entries keys bodies (begins.blanks _ (by decide))

theorem begins_front {source : Source} {metadata strings : List (String × String)}
    (name : IsWord source.rule) (tags : ∀ tag ∈ source.tags.getD [], IsWord tag)
    (keys : ∀ entry ∈ metadata, IsWord entry.1) (bodies : ∀ entry ∈ metadata, IsBody entry.2)
    (references : ∀ entry ∈ strings, ∃ text, entry.1.toList = '$' :: text ∧ text.all isWord = true)
    (bodies' : ∀ entry ∈ strings, IsBody entry.2) (rest : List Char) :
    Begins rest (frontTokens source.rule (source.tags.getD []) (denotedEntries metadata)
        (denotedEntries strings)) (front source.headLine metadata strings ++ rest) := by
  have title : Begins rest [.word "condition", .symbol .colon]
      ("    condition:\n        ".toList ++ rest) :=
    .blanks "    ".toList (by decide) (.word isWord_condition (by decide)
      (.symbol (by decide) (.blanks "\n        ".toList (by decide) .done)))
  have patterns := begins_block isWord_strings (fun entry member => by
    obtain ⟨text, spelled, word⟩ := references entry member
    intro tokens behind begins
    have whole : String.ofList ('$' :: text) = entry.1 := by rw [← spelled, String.ofList_toList]
    rw [spelled, ← whole]
    exact .pattern word (by decide) begins) bodies' title
  have metadata := begins_block isWord_meta (fun entry member {_ _} begins =>
    .word (keys entry member) (by decide) begins) bodies patterns
  simp only [front, List.append_assoc]
  exact begins_headLine name tags (.blank (by decide) (.symbol (by decide)
    (.blank (by decide) metadata)))

end RuleSmith.Language
