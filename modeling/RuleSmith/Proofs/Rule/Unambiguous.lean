import Mathlib.Data.List.Basic
import RuleSmith.Proofs.Rule.Rendering

/-!
# The text of a rule tells its parts

A text in which no part hides where it ends can be read back from the front: the first line up to its
end, each entry up to the end of its line, a block up to its empty line, and a block that is left out
is missed at the first letter of the next title. What stands behind the last title is the condition,
so that may hold anything.
-/

namespace RuleSmith.Source

theorem eq_of_append_cons {c : Char} {front front' back back' : List Char} (first : c ∉ front)
    (first' : c ∉ front') (same : front ++ c :: back = front' ++ c :: back') :
    front = front' ∧ back = back' := by
  induction front generalizing front' with
  | nil =>
    cases front' with
    | nil => exact ⟨rfl, List.tail_eq_of_cons_eq same⟩
    | cons d rest' =>
      obtain ⟨rfl, -⟩ := List.cons.inj same
      exact absurd List.mem_cons_self first'
  | cons d rest ih =>
    cases front' with
    | nil =>
      obtain ⟨rfl, -⟩ := List.cons.inj same
      exact absurd List.mem_cons_self first
    | cons d' rest' =>
      obtain ⟨rfl, others⟩ := List.cons.inj same
      obtain ⟨rfl, eq⟩ := ih (fun member => first (List.mem_cons_of_mem _ member))
        (fun member => first' (List.mem_cons_of_mem _ member)) others
      exact ⟨rfl, eq⟩

/-! ## The first line -/

theorem toList_headLine (source : Source) :
    source.headLine.toList = "rule ".toList ++ (source.rule.toList ++
      match source.tags.getD [] with
      | [] => []
      | tags => ':' :: ' ' :: (" ".intercalate tags).toList) := by
  unfold headLine
  cases source.tags.getD [] with
  | nil => simp
  | cons tag others => simp [String.toList_append]

theorem tags_injective {tags tags' : List String} (nonempty : tags ≠ []) (nonempty' : tags' ≠ [])
    (plain : ∀ tag ∈ tags, ' ' ∉ tag.toList) (plain' : ∀ tag ∈ tags', ' ' ∉ tag.toList)
    (same : " ".intercalate tags = " ".intercalate tags') : tags = tags' := by
  have read : ∀ names : List String, names ≠ [] → (∀ name ∈ names, ' ' ∉ name.toList) →
      (" ".intercalate names).toList.splitOn ' ' = names.map String.toList := by
    intro names some plain
    rw [String.toList_intercalate]
    exact List.splitOn_intercalate ' ' (by simpa using plain) (by simpa using some)
  have spelled : tags.map String.toList = tags'.map String.toList := by
    rw [← read tags nonempty plain, same, read tags' nonempty' plain']
  exact List.map_injective_iff.mpr (fun _ _ => String.toList_inj.mp) spelled

theorem headLine_injective {left right : Source} (rule : ':' ∉ left.rule.toList)
    (rule' : ':' ∉ right.rule.toList) (tags : ∀ tag ∈ left.tags.getD [], ' ' ∉ tag.toList)
    (tags' : ∀ tag ∈ right.tags.getD [], ' ' ∉ tag.toList)
    (same : left.headLine = right.headLine) :
    left.rule = right.rule ∧ left.tags.getD [] = right.tags.getD [] := by
  have spelled := congrArg String.toList same
  rw [toList_headLine, toList_headLine, List.append_cancel_left_eq] at spelled
  -- A colon behind the name tells whether there are tags.
  rcases eq : left.tags.getD [] with _ | ⟨tag, others⟩ <;>
    rcases eq' : right.tags.getD [] with _ | ⟨tag', others'⟩ <;>
    simp only [eq, eq', List.append_nil] at spelled
  · exact ⟨String.toList_inj.mp spelled, rfl⟩
  · rw [spelled] at rule
    simp at rule
  · rw [← spelled] at rule'
    simp at rule'
  · obtain ⟨name, joined⟩ := eq_of_append_cons rule rule' spelled
    rw [eq] at tags
    rw [eq'] at tags'
    exact ⟨String.toList_inj.mp name, tags_injective (by simp) (by simp) tags tags'
      (String.toList_inj.mp (List.tail_eq_of_cons_eq joined))⟩

theorem newline_not_mem_headLine {source : Source} (rule : '\n' ∉ source.rule.toList)
    (tags : ∀ tag ∈ source.tags.getD [], '\n' ∉ tag.toList) :
    '\n' ∉ source.headLine.toList := by
  have joined : ∀ names : List String, (∀ name ∈ names, '\n' ∉ name.toList) →
      '\n' ∉ (" ".intercalate names).toList := by
    intro names plain
    induction names with
    | nil => simp
    | cons name others ih =>
      have first := plain name List.mem_cons_self
      cases others with
      | nil => simpa using first
      | cons second others =>
        have rest := ih fun other member => plain other (List.mem_cons_of_mem _ member)
        rw [String.intercalate_cons_cons, String.toList_append, String.toList_append, List.mem_append,
          List.mem_append]
        exact not_or_intro (not_or_intro first (by decide)) rest
  rw [toList_headLine, List.mem_append, List.mem_append]
  refine not_or_intro (by decide) (not_or_intro rule ?_)
  cases eq : source.tags.getD [] with
  | nil => simp
  | cons tag others =>
    have rest := joined (tag :: others) (eq ▸ tags)
    simp only [List.mem_cons, rest, or_false]
    decide

/-! ## Entries -/

def entryText (entry : String × String) : List Char :=
  List.replicate 8 ' ' ++ (entry.1.toList ++ ' ' :: '=' :: ' ' :: '"' :: (entry.2.toList ++ ['"']))

theorem toList_entryLine (entry : String × String) :
    (entryLine entry).toList = '\n' :: entryText entry := by
  simp [entryLine, entryText, List.replicate]

theorem entryText_injective {entry entry' : String × String} (key : ' ' ∉ entry.1.toList)
    (key' : ' ' ∉ entry'.1.toList) (same : entryText entry = entryText entry') : entry = entry' := by
  unfold entryText at same
  obtain ⟨keys, rest⟩ := eq_of_append_cons key key' (List.append_cancel_left same)
  have values : entry.2.toList = entry'.2.toList := by simpa using rest
  exact Prod.ext (String.toList_inj.mp keys) (String.toList_inj.mp values)

def IsPlainEntry (entry : String × String) : Prop :=
  ' ' ∉ entry.1.toList ∧ '\n' ∉ entry.1.toList ∧ '\n' ∉ entry.2.toList

theorem newline_not_mem_entryText {entry : String × String} (plain : IsPlainEntry entry) :
    '\n' ∉ entryText entry := by
  simp [entryText, plain.2.1, plain.2.2]

def entryLines (entries : List (String × String)) : List Char :=
  entries.flatMap fun entry => entryText entry ++ ['\n']

theorem toList_entryLine_append (entries : List (String × String)) (rest : List Char) :
    (String.join (entries.map entryLine)).toList ++ '\n' :: rest =
      '\n' :: (entryLines entries ++ rest) := by
  rw [String.toList_join]
  induction entries with
  | nil => rfl
  | cons entry others ih =>
    rw [List.map_cons, List.flatMap_cons, List.append_assoc, ih]
    simp [toList_entryLine, entryLines]

theorem entryLines_injective {entries entries' : List (String × String)} {rest rest' : List Char}
    (plain : ∀ entry ∈ entries, IsPlainEntry entry) (plain' : ∀ entry ∈ entries', IsPlainEntry entry)
    (same : entryLines entries ++ '\n' :: rest = entryLines entries' ++ '\n' :: rest') :
    entries = entries' ∧ rest = rest' := by
  -- A line that begins with a blank is one more entry, an empty one ends them.
  induction entries generalizing entries' with
  | nil =>
    cases entries' with
    | nil => exact ⟨rfl, List.tail_eq_of_cons_eq same⟩
    | cons entry' others' => simp [entryLines, entryText] at same
  | cons entry others ih =>
    cases entries' with
    | nil => simp [entryLines, entryText] at same
    | cons entry' others' =>
      simp only [entryLines, List.flatMap_cons, List.append_assoc, List.singleton_append] at same
      obtain ⟨line, lines⟩ := eq_of_append_cons
        (newline_not_mem_entryText (plain entry List.mem_cons_self))
        (newline_not_mem_entryText (plain' entry' List.mem_cons_self)) same
      obtain ⟨rfl, eq⟩ := ih (fun other member => plain other (List.mem_cons_of_mem _ member))
        (fun other member => plain' other (List.mem_cons_of_mem _ member)) lines
      rw [entryText_injective (plain entry List.mem_cons_self).1
        (plain' entry' List.mem_cons_self).1 line]
      exact ⟨rfl, eq⟩

/-! ## Blocks -/

theorem toList_block_cons (title : String) (entry : String × String)
    (others : List (String × String)) (rest : List Char) :
    (block title (entry :: others)).toList ++ rest =
      "    ".toList ++ (title.toList ++ ':' :: '\n' :: (entryLines (entry :: others) ++ '\n' :: rest)) := by
  have rotated := toList_entryLine_append (entry :: others) ('\n' :: rest)
  simp only [block, List.isEmpty_cons, Bool.false_eq_true, if_false, String.toList_append,
    List.append_assoc]
  refine congrArg _ (congrArg _ ?_)
  exact congrArg (':' :: ·) rotated

theorem getElem?_title {title : List Char} {c : Char} (titled : title.head? = some c)
    (rest : List Char) : ("    ".toList ++ (title ++ rest))[4]? = some c := by
  cases title with
  | nil => cases titled
  | cons d others =>
    rw [List.head?_cons] at titled
    exact titled

theorem block_injective {title : String} {c : Char} {entries entries' : List (String × String)}
    {rest rest' : List Char} (titled : title.toList.head? = some c) (other : rest[4]? ≠ some c)
    (other' : rest'[4]? ≠ some c) (plain : ∀ entry ∈ entries, IsPlainEntry entry)
    (plain' : ∀ entry ∈ entries', IsPlainEntry entry)
    (same : (block title entries).toList ++ rest = (block title entries').toList ++ rest') :
    entries = entries' ∧ rest = rest' := by
  rcases entries with _ | ⟨entry, others⟩ <;> rcases entries' with _ | ⟨entry', others'⟩
  · exact ⟨rfl, same⟩
  · rw [toList_block_cons] at same
    exact absurd ((congrArg (·[4]?) same).trans (getElem?_title titled _)) other
  · rw [toList_block_cons] at same
    exact absurd ((congrArg (·[4]?) same.symm).trans (getElem?_title titled _)) other'
  · rw [toList_block_cons, toList_block_cons] at same
    have lines := List.append_cancel_left (List.append_cancel_left same)
    exact entryLines_injective plain plain'
      (List.tail_eq_of_cons_eq (List.tail_eq_of_cons_eq lines))

theorem getElem?_block_strings (strings : List (String × String)) (condition : List Char) :
    ((block "strings" strings).toList ++ ("    condition:\n        ".toList ++ condition))[4]? ≠
      some 'm' := by
  cases strings with
  | nil => simp [block]
  | cons entry others =>
    rw [toList_block_cons, getElem?_title rfl]
    decide

/-! ## Texts -/

theorem toList_layout (head : String) (metadata strings : List (String × String))
    (condition : String) :
    (layout head metadata strings condition).toList =
      head.toList ++ '\n' :: '\x7b' :: '\n' :: ((block "meta" metadata).toList ++
        ((block "strings" strings).toList ++
          ("    condition:\n        ".toList ++ (condition.toList ++ "\n\x7d".toList)))) := by
  simp [layout]

theorem layout_injective {head head' condition condition' : String}
    {metadata metadata' strings strings' : List (String × String)} (line : '\n' ∉ head.toList)
    (line' : '\n' ∉ head'.toList) (plainMetadata : ∀ entry ∈ metadata, IsPlainEntry entry)
    (plainMetadata' : ∀ entry ∈ metadata', IsPlainEntry entry)
    (plainStrings : ∀ entry ∈ strings, IsPlainEntry entry)
    (plainStrings' : ∀ entry ∈ strings', IsPlainEntry entry)
    (same : layout head metadata strings condition = layout head' metadata' strings' condition') :
    head = head' ∧ metadata = metadata' ∧ strings = strings' ∧ condition = condition' := by
  have text := congrArg String.toList same
  rw [toList_layout, toList_layout] at text
  obtain ⟨heads, body⟩ := eq_of_append_cons line line' text
  obtain ⟨rfl, behind⟩ := block_injective (c := 'm') rfl (getElem?_block_strings _ _)
    (getElem?_block_strings _ _) plainMetadata plainMetadata'
    (List.tail_eq_of_cons_eq (List.tail_eq_of_cons_eq body))
  obtain ⟨rfl, last⟩ := block_injective (c := 's') rfl (by simp) (by simp) plainStrings plainStrings'
    behind
  exact ⟨String.toList_inj.mp heads, rfl, rfl,
    String.toList_inj.mp (List.append_cancel_right (List.append_cancel_left last))⟩

/-! ## Sources -/

/-- Whether no part of a source but the condition hides where it ends in the text. -/
structure IsPlain (source : Source) : Prop where
  rule : ':' ∉ source.rule.toList ∧ '\n' ∉ source.rule.toList
  tags : ∀ tag ∈ source.tags.getD [], ' ' ∉ tag.toList ∧ '\n' ∉ tag.toList
  keys : ∀ entry ∈ (source.metadata.getD .empty).toList,
    ' ' ∉ entry.1.toList ∧ '\n' ∉ entry.1.toList
  metadata : ∀ entry ∈ (source.metadata.getD .empty).toList, '\n' ∉ entry.2.toList
  strings : ∀ entry ∈ source.referencedStrings.toList, '\n' ∉ entry.2.toList

theorem IsPlain.metadataEntries {source : Source} (plain : source.IsPlain) :
    ∀ entry ∈ (source.metadata.getD .empty).toList, IsPlainEntry entry := by
  intro entry member
  exact ⟨(plain.keys entry member).1, (plain.keys entry member).2, plain.metadata entry member⟩

theorem IsPlain.stringEntries {source : Source} (plain : source.IsPlain) :
    ∀ entry ∈ source.referencedStrings.toList, IsPlainEntry entry := by
  intro entry member
  obtain ⟨text, spelled, words⟩ :=
    Reference.spelled_of_mem_scan (Reference.mem_scan_of_mem_filter member)
  have absent : ∀ c, c ≠ '$' → Text.isWord c = false → c ∉ entry.1.toList := by
    intro c other noWord among
    rw [spelled] at among
    have word := List.all_eq_true.mp words c (List.mem_of_ne_of_mem other among)
    rw [noWord] at word
    cases word
  exact ⟨absent ' ' (by decide) (by decide +kernel), absent '\n' (by decide) (by decide +kernel),
    plain.strings entry member⟩

/-- Sources that are written down as the same text have the same name, condition, tags, meta data and
referenced strings, as far as no part but the condition hides where it ends. -/
theorem parts_of_render_eq {left right : Source} (plain : left.IsPlain) (plain' : right.IsPlain)
    (same : left.render = right.render) :
    left.rule = right.rule ∧ left.condition = right.condition ∧
      left.tags.getD [] = right.tags.getD [] ∧
      left.metadata.getD .empty = right.metadata.getD .empty ∧
      left.referencedStrings = right.referencedStrings := by
  rw [render_eq, render_eq] at same
  obtain ⟨heads, metadata, strings, condition⟩ := layout_injective
    (newline_not_mem_headLine plain.rule.2 fun tag member => (plain.tags tag member).2)
    (newline_not_mem_headLine plain'.rule.2 fun tag member => (plain'.tags tag member).2)
    plain.metadataEntries plain'.metadataEntries plain.stringEntries plain'.stringEntries same
  obtain ⟨rule, tags⟩ := headLine_injective plain.rule.1 plain'.rule.1
    (fun tag member => (plain.tags tag member).1) (fun tag member => (plain'.tags tag member).1) heads
  exact ⟨rule, condition, tags, InsertionMap.ext metadata, InsertionMap.ext strings⟩

namespace Sample

def bare : Source where
  rule := "a"
  tags := none
  metadata := none
  strings := some (.ofList [("$idle", "x\ny"), ("$a", "evil")])
  condition := "$a\n\x7d\nrule b\n\x7b\n    meta:\n        k = \"v\""

def filled : Source where
  rule := "a"
  tags := some []
  metadata := some .empty
  strings := some (.ofList [("$a", "evil")])
  condition := "$a\n\x7d\nrule b\n\x7b\n    meta:\n        k = \"v\""

end Sample

theorem parts_of_render_eq_sample :
    Sample.bare.IsPlain ∧ Sample.filled.IsPlain ∧ Sample.bare.render = Sample.filled.render ∧
      Sample.bare.condition = Sample.filled.condition ∧
      Sample.bare.referencedStrings = Sample.filled.referencedStrings := by
  have plain : Sample.bare.IsPlain := by
    constructor <;> decide +kernel
  have plain' : Sample.filled.IsPlain := by
    constructor <;> decide +kernel
  have same : Sample.bare.render = Sample.filled.render := by decide +kernel
  obtain ⟨-, condition, -, -, strings⟩ := parts_of_render_eq plain plain' same
  exact ⟨plain, plain', same, condition, strings⟩

end RuleSmith.Source
