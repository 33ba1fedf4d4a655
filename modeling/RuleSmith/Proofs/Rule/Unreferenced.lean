import Mathlib.Logic.Relation
import RuleSmith.Proofs.Rule.Rendering

namespace RuleSmith.Reference

variable {condition : String} {candidates others : Patterns}

theorem keys_filter (condition : String) (candidates : Patterns) :
    (filter condition candidates).keys = (scan condition).eraseDups.filter candidates.contains := by
  rw [InsertionMap.keys, toList_filter, List.map_filterMap, ← List.filterMap_eq_filter]
  apply List.filterMap_congr
  intro reference _
  cases found : candidates.get? reference <;>
    simp [candidate?, found, InsertionMap.contains, Option.guard]

theorem filter_filter (condition : String) (candidates : Patterns) :
    filter condition (filter condition candidates) = filter condition candidates := by
  apply filter_congr
  intro reference member
  rw [get?_filter, if_pos member]

/-- A change of candidates that touches none that a condition refers to, but for their order. -/
inductive Edit (condition : String) : Patterns → Patterns → Prop
  | reorder {candidates others : Patterns} (same : candidates.toList.Perm others.toList) :
      Edit condition candidates others
  | insert (candidates : Patterns) {key : String} (unseen : key ∉ scan condition) (value : String) :
      Edit condition candidates (candidates.insert key value)
  | erase (candidates : Patterns) {key : String} (unseen : key ∉ scan condition) :
      Edit condition candidates (candidates.erase key)

theorem Edit.get? (edit : Edit condition candidates others) {reference : String}
    (member : reference ∈ scan condition) : others.get? reference = candidates.get? reference := by
  cases edit with
  | reorder same => exact (InsertionMap.get?_of_perm same reference).symm
  | insert unseen value =>
    rw [InsertionMap.get?_insert, if_neg]
    rintro rfl
    exact unseen member
  | erase unseen =>
    rw [InsertionMap.get?_erase, if_neg]
    rintro rfl
    exact unseen member

theorem get?_of_edits (edits : Relation.ReflTransGen (Edit condition) candidates others)
    {reference : String} (member : reference ∈ scan condition) :
    others.get? reference = candidates.get? reference := by
  induction edits with
  | refl => rfl
  | tail _ last ih => exact (last.get? member).trans ih

theorem filter_of_edits (edits : Relation.ReflTransGen (Edit condition) candidates others) :
    filter condition others = filter condition candidates :=
  filter_congr fun _ member => get?_of_edits edits member

/-- Whether two sources are alike but for edits of strings that their condition does not refer to and
for parts that are absent in one and empty in the other. -/
structure Alike (left right : Source) : Prop where
  rule : left.rule = right.rule
  tags : left.tags.getD [] = right.tags.getD []
  metadata : left.metadata.getD .empty = right.metadata.getD .empty
  condition : left.condition = right.condition
  strings : Relation.ReflTransGen (Edit right.condition) (right.strings.getD .empty)
    (left.strings.getD .empty)

theorem Alike.render_eq {left right : Source} (alike : Alike left right) :
    left.render = right.render :=
  Source.render_congr left right alike.rule alike.tags alike.metadata alike.condition
    fun _ member => get?_of_edits alike.strings member

/-- Filtering keeps the candidates that the condition refers to, each where it is first referred to and
with its value. Whatever is done to the order of the candidates or to those that are not referred to
changes nothing of that, nor of the text of a rule, and filtering once more changes nothing. -/
theorem filter_exact (condition : String) (candidates : Patterns) :
    ((filter condition candidates).keys = (scan condition).eraseDups.filter candidates.contains ∧
      ∀ key ∈ (filter condition candidates).keys,
        (filter condition candidates).get? key = candidates.get? key) ∧
    (∀ others, Relation.ReflTransGen (Edit condition) candidates others →
      filter condition others = filter condition candidates) ∧
    filter condition (filter condition candidates) = filter condition candidates ∧
    ∀ left right, Alike left right → left.render = right.render := by
  refine ⟨⟨keys_filter condition candidates, fun key kept => ?_⟩, fun others => filter_of_edits,
    filter_filter condition candidates, fun left right => Alike.render_eq⟩
  rw [keys_filter, List.mem_filter, List.mem_eraseDups] at kept
  rw [get?_filter, if_pos kept.1]

def sampleSource : Source where
  rule := "r"
  tags := none
  metadata := none
  strings := some (.ofList [("$b", "2"), ("$x", "9"), ("$a", "1")])
  condition := "$a or $b or $a"

def sampleVariant : Source :=
  { sampleSource with
    tags := some []
    strings := some (((InsertionMap.ofList [("$a", "1"), ("$b", "2"), ("$x", "9")]).erase "$x").insert
      "$ab" "0") }

theorem filter_exact_sample : Alike sampleVariant sampleSource ∧
    sampleVariant.render = sampleSource.render ∧
    (filter "$a or $b or $a" (.ofList [("$b", "2"), ("$x", "9"), ("$a", "1")])).keys = ["$a", "$b"] := by
  have scanned : scan sampleSource.condition = ["$a", "$b", "$a"] := by decide +kernel
  have alike : Alike sampleVariant sampleSource := by
    have erased : "$x" ∉ scan sampleSource.condition := by
      rw [scanned]
      decide
    have inserted : "$ab" ∉ scan sampleSource.condition := by
      rw [scanned]
      decide
    refine ⟨rfl, rfl, rfl, rfl, ?_⟩
    refine ((Relation.ReflTransGen.single (.reorder ?_)).tail (.erase _ erased)).tail
      (.insert _ inserted "0")
    decide +kernel
  obtain ⟨⟨kept, -⟩, -, -, written⟩ :=
    filter_exact "$a or $b or $a" (.ofList [("$b", "2"), ("$x", "9"), ("$a", "1")])
  refine ⟨alike, written _ _ alike, ?_⟩
  rw [kept]
  decide +kernel

end RuleSmith.Reference
