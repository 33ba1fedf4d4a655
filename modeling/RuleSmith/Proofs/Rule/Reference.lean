import Mathlib.Data.List.Basic
import RuleSmith.Proofs.InsertionMap
import RuleSmith.Reference

namespace RuleSmith.Reference

theorem collect_append (candidates : Patterns) (front back : List String) (confirmed : Patterns) :
    collect candidates (front ++ back) confirmed =
      collect candidates back (collect candidates front confirmed) := by
  induction front generalizing confirmed with
  | nil => rfl
  | cons reference rest ih =>
    simp only [List.cons_append, collect]
    split
    · exact ih _
    · split <;> exact ih _

def candidate? (candidates : Patterns) (reference : String) : Option (String × String) :=
  (candidates.get? reference).map (reference, ·)

theorem get?_of_toList_eq {candidates taken : Patterns} {references : List String}
    (same : taken.toList = references.eraseDups.filterMap (candidate? candidates)) (key : String) :
    taken.get? key = if key ∈ references then candidates.get? key else none := by
  ext value
  rw [InsertionMap.get?_eq_some_iff, same]
  simp only [List.mem_filterMap, List.mem_eraseDups, candidate?, Option.map_eq_some_iff,
    Prod.mk.injEq]
  constructor
  · rintro ⟨reference, member, found, eq, rfl, rfl⟩
    rw [if_pos member, eq]
  · intro eq
    split at eq
    · exact ⟨key, ‹_›, value, eq, rfl, rfl⟩
    · cases eq

theorem toList_collect (candidates : Patterns) (references : List String) :
    (collect candidates references .empty).toList =
      references.eraseDups.filterMap (candidate? candidates) := by
  induction references using List.reverseRecOn with
  | nil => rfl
  | append_singleton references last ih =>
    rw [collect_append, eraseDups_concat]
    -- A reference is taken up already exactly if it occurred before and has a candidate.
    have taken := get?_of_toList_eq ih last
    simp only [collect, InsertionMap.contains, taken]
    by_cases before : last ∈ references
    · cases candidates.get? last <;> simp [before, ih]
    · cases found : candidates.get? last with
      | none => simp [before, found, ih, candidate?]
      | some value =>
        have absent : (collect candidates references .empty).get? last = none := by
          rw [taken, if_neg before]
        simp [before, found, ih, candidate?, InsertionMap.toList_insert_of_absent absent]

theorem toList_filter (condition : String) (candidates : Patterns) :
    (filter condition candidates).toList =
      (scan condition).eraseDups.filterMap (candidate? candidates) :=
  toList_collect candidates (scan condition)

theorem get?_filter (condition : String) (candidates : Patterns) (key : String) :
    (filter condition candidates).get? key =
      if key ∈ scan condition then candidates.get? key else none :=
  get?_of_toList_eq (toList_filter condition candidates) key

theorem filter_congr {condition : String} {left right : Patterns}
    (same : ∀ reference ∈ scan condition, left.get? reference = right.get? reference) :
    filter condition left = filter condition right := by
  apply InsertionMap.ext
  rw [toList_filter, toList_filter]
  apply List.filterMap_congr
  intro reference member
  rw [candidate?, candidate?, same reference (List.mem_eraseDups.mp member)]

theorem missing_eq (condition : String) (present : Patterns) :
    missing condition present =
      (scan condition).eraseDups.filter fun reference => !present.contains reference := by
  unfold missing
  induction scan condition using List.reverseRecOn with
  | nil => rfl
  | append_singleton references last ih =>
    rw [List.foldl_append, ih, eraseDups_concat]
    by_cases before : last ∈ references <;> cases found : present.contains last <;>
      simp [before, found]

theorem missing_isEmpty_iff {condition : String} {present : Patterns} :
    (missing condition present).isEmpty = true ↔
      ∀ reference ∈ scan condition, ∃ value, present.get? reference = some value := by
  rw [missing_eq, List.isEmpty_iff, List.filter_eq_nil_iff]
  simp [InsertionMap.contains_iff]

theorem get?_of_mem_filter {condition : String} {candidates : Patterns} {entry : String × String}
    (member : entry ∈ (filter condition candidates).toList) :
    candidates.get? entry.1 = some entry.2 := by
  rw [toList_filter, List.mem_filterMap] at member
  obtain ⟨reference, -, taken⟩ := member
  obtain ⟨value, found, rfl⟩ := Option.map_eq_some_iff.mp taken
  exact found

theorem spelled_of_mem_scan {condition reference : String} (member : reference ∈ scan condition) :
    ∃ text, reference.toList = '$' :: text ∧ text.all Text.isWord = true := by
  have spelled : ∀ input, ∀ found ∈ scanChars input, ∃ text, found = '$' :: text ∧
      text.all Text.isWord = true := by
    intro input
    fun_induction scanChars input with
    | case1 => simp
    | case2 rest none ih => exact ih
    | case3 rest first others taken ih =>
      intro found member
      rcases List.mem_cons.mp member with rfl | later
      · refine ⟨first :: others, rfl, ?_⟩
        rw [← taken]
        exact List.all_takeWhile
      · exact ih found later
    | case4 c rest other ih => exact ih
  obtain ⟨found, scanned, rfl⟩ := List.mem_map.mp member
  rw [String.toList_ofList]
  exact spelled _ found scanned

theorem scan_eq_nil {condition : String} (none : '$' ∉ condition.toList) : scan condition = [] := by
  have unfound : ∀ input, '$' ∉ input → scanChars input = [] := by
    intro input
    induction input with
    | nil => intro _; rfl
    | cons c rest ih =>
      intro absent
      rw [List.mem_cons, not_or] at absent
      rw [scanChars, if_neg (Ne.symm absent.1), ih absent.2]
  rw [scan, unfound _ none, List.map_nil]

theorem mem_scan_of_mem_filter {condition : String} {candidates : Patterns} {entry : String × String}
    (member : entry ∈ (filter condition candidates).toList) : entry.1 ∈ scan condition := by
  rw [toList_filter, List.mem_filterMap] at member
  obtain ⟨reference, among, taken⟩ := member
  obtain ⟨value, found, rfl⟩ := Option.map_eq_some_iff.mp taken
  exact List.mem_eraseDups.mp among

theorem map_fst_filter {condition : String} {candidates : Patterns}
    (complete : (missing condition candidates).isEmpty = true) :
    (filter condition candidates).toList.map Prod.fst = (scan condition).eraseDups := by
  rw [missing_isEmpty_iff] at complete
  rw [toList_filter, List.map_filterMap]
  calc (scan condition).eraseDups.filterMap
        (fun reference => (candidate? candidates reference).map Prod.fst)
      = (scan condition).eraseDups.filterMap some := by
        apply List.filterMap_congr
        intro reference member
        obtain ⟨value, found⟩ := complete reference (List.mem_eraseDups.mp member)
        simp [candidate?, found]
    _ = (scan condition).eraseDups := List.filterMap_some

end RuleSmith.Reference
