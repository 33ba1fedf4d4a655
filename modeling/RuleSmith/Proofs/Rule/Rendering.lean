import RuleSmith.Proofs.Rule.Reference
import RuleSmith.Rule.Rendering

namespace RuleSmith.Source

def block (title : String) (entries : List (String × String)) : String :=
  if entries.isEmpty then ""
  else "    " ++ title ++ ":" ++ String.join (entries.map entryLine) ++ "\n\n"

def layout (head : String) (metadata strings : List (String × String)) (condition : String) : String :=
  head ++ "\n\x7b\n" ++ block "meta" metadata ++ block "strings" strings
    ++ "    condition:\n        " ++ condition ++ "\n\x7d"

theorem render_eq (source : Source) :
    source.render = layout source.headLine (source.metadata.getD .empty).toList
      source.referencedStrings.toList source.condition := by
  unfold render layout sections block section?
  rw [← String.toList_inj]
  split <;> split <;> simp

theorem render_ne {left right : Source}
    (sized : left.headLine.toList.length = right.headLine.toList.length)
    (other : left.headLine ≠ right.headLine) : left.render ≠ right.render := by
  intro same
  have written := congrArg String.toList same
  simp only [render, String.append_assoc, String.toList_append] at written
  exact other (String.toList_inj.mp (List.append_inj_left written sized))

theorem render_congr (left right : Source) (rule : left.rule = right.rule)
    (tags : left.tags.getD [] = right.tags.getD [])
    (metadata : left.metadata.getD .empty = right.metadata.getD .empty)
    (condition : left.condition = right.condition)
    (strings : ∀ reference ∈ Reference.scan right.condition,
      (left.strings.getD .empty).get? reference = (right.strings.getD .empty).get? reference) :
    left.render = right.render := by
  have head : left.headLine = right.headLine := by
    rw [headLine, headLine, rule, tags]
  have referenced : left.referencedStrings = right.referencedStrings := by
    rw [referencedStrings, referencedStrings, condition]
    exact Reference.filter_congr strings
  rw [render_eq, render_eq, head, metadata, referenced, condition]

theorem block_eq_empty_iff {title : String} {entries : List (String × String)} :
    block title entries = "" ↔ entries = [] := by
  cases entries with
  | nil => simp [block]
  | cons entry rest => simp [block, ← String.toList_inj]

end RuleSmith.Source
