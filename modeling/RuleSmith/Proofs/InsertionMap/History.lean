import Mathlib.Data.List.Basic
import RuleSmith.Proofs.InsertionMap
import RuleSmith.Proofs.Json.Members

/-!
# Maps and the insertions they arose from

However a map came about, it is the map of the insertions since it was last built: each key stands once,
where it was first inserted, with the value that was inserted last. Collecting entries and reading an
object text build a map anew by inserting one by one.
-/

namespace RuleSmith.InsertionMap

section Insertions

variable {κ α : Type} [DecidableEq κ]

theorem keys_ofList (entries : List (κ × α)) :
    (ofList entries).keys = (entries.map Prod.fst).eraseDups := by
  induction entries using List.reverseRecOn with
  | nil => rfl
  | append_singleton entries entry ih =>
    rw [ofList_concat, keys_insert, ih, List.map_append, List.map_singleton, eraseDups_concat]
    simp only [List.mem_eraseDups]

theorem get?_ofList (entries : List (κ × α)) (key : κ) :
    (ofList entries).get? key = lookup key entries.reverse := by
  induction entries using List.reverseRecOn with
  | nil => rfl
  | append_singleton entries entry ih =>
    rw [ofList_concat, get?_insert, ih, List.reverse_append, List.reverse_singleton,
      List.singleton_append, lookup]

def settle (entries : List (κ × α)) : List (κ × α) :=
  (entries.map Prod.fst).eraseDups.filterMap fun key => (lookup key entries.reverse).map (key, ·)

theorem toList_eq_filterMap (m : InsertionMap κ α) :
    m.toList = m.keys.filterMap fun key => (m.get? key).map (key, ·) := by
  rw [keys, List.filterMap_map]
  refine (List.filterMap_some.symm.trans (List.filterMap_congr fun entry member => ?_))
  rw [Function.comp_apply, get?_eq_some_iff.mpr member, Option.map_some]

theorem toList_ofList_eq (entries : List (κ × α)) : (ofList entries).toList = settle entries := by
  rw [toList_eq_filterMap, keys_ofList, settle]
  simp only [get?_ofList]

example : settle [("b", 1), ("a", 2), ("b", 3)] = [("b", 3), ("a", 2)] := by decide

theorem get?_eq_none_iff {m : InsertionMap κ α} {key : κ} : m.get? key = none ↔ key ∉ m.keys :=
  lookup_eq_none_iff

theorem contains_eq (m : InsertionMap κ α) (key : κ) : m.contains key = decide (key ∈ m.keys) := by
  rw [Bool.eq_iff_iff, decide_eq_true_iff, contains, Option.isSome_iff_ne_none, ne_eq,
    get?_eq_none_iff, not_not]

theorem getElem?_exchangeIn {key other : κ} (apart : other ≠ key) (value kept : α)
    (entries : List (κ × α)) (index : Nat) :
    (exchangeIn key value entries).2[index]? = some (other, kept) ↔
      entries[index]? = some (other, kept) := by
  induction entries generalizing index with
  | nil => cases index <;> simp [exchangeIn, Ne.symm apart]
  | cons entry rest ih =>
    obtain ⟨k, v⟩ := entry
    by_cases here : k = key
    · cases index <;> simp [exchangeIn, here, Ne.symm apart]
    · cases index <;> simp [exchangeIn, here, ih]

theorem getElem?_insert {key other : κ} (apart : other ≠ key) (m : InsertionMap κ α)
    (value kept : α) (index : Nat) :
    (m.insert key value).toList[index]? = some (other, kept) ↔
      m.toList[index]? = some (other, kept) :=
  getElem?_exchangeIn apart value kept m.toList index

end Insertions

variable {α : Type} {item : Json.Reader α}

/-- What can be done to a map; reading a text that is no object leaves it as it is. -/
inductive Step (α : Type)
  | insert (key : String) (value : α)
  | collect (entries : List (String × α))
  | clear
  | read (text : Json.Input)

def Step.apply (item : Json.Reader α) (m : InsertionMap String α) : Step α → InsertionMap String α
  | .insert key value => m.insert key value
  | .collect entries => .ofList entries
  | .clear => .empty
  | .read text =>
    match (Json.map item).parse text with
    | .ok parsed => parsed
    | .error _ => m

def run (item : Json.Reader α) (steps : List (Step α)) : InsertionMap String α :=
  steps.foldl (Step.apply item) .empty

theorem run_concat (item : Json.Reader α) (steps : List (Step α)) (step : Step α) :
    run item (steps ++ [step]) = step.apply item (run item steps) := by
  rw [run, List.foldl_append, List.foldl_cons, List.foldl_nil, run]

/-- The insertions of a run since it last built the map. -/
inductive Since (item : Json.Reader α) : List (Step α) → List (String × α) → Prop
  | start : Since item [] []
  | insert {steps : List (Step α)} {entries : List (String × α)} (since : Since item steps entries)
      (key : String) (value : α) :
      Since item (steps ++ [.insert key value]) (entries ++ [(key, value)])
  | collect (steps : List (Step α)) (entries : List (String × α)) :
      Since item (steps ++ [.collect entries]) entries
  | clear (steps : List (Step α)) : Since item (steps ++ [.clear]) []
  | read (steps : List (Step α)) {text : Json.Input} {entries : List (String × α)}
      (object : Json.ObjectOf item text entries) : Since item (steps ++ [.read text]) entries
  | refused {steps : List (Step α)} {entries : List (String × α)} {text : Json.Input}
      (since : Since item steps entries)
      (none : ∀ members, ¬ Json.ObjectOf item text members) :
      Since item (steps ++ [.read text]) entries

theorem exists_since (item : Json.Reader α) (steps : List (Step α)) :
    ∃ entries, Since item steps entries := by
  induction steps using List.reverseRecOn with
  | nil => exact ⟨[], .start⟩
  | append_singleton steps step ih =>
    obtain ⟨entries, since⟩ := ih
    cases step with
    | insert key value => exact ⟨_, since.insert key value⟩
    | collect entries => exact ⟨entries, .collect steps entries⟩
    | clear => exact ⟨[], .clear steps⟩
    | read text =>
      by_cases object : ∃ members, Json.ObjectOf item text members
      · obtain ⟨members, object⟩ := object
        exact ⟨members, .read steps object⟩
      · exact ⟨entries, since.refused fun members is => object ⟨members, is⟩⟩

theorem run_eq_ofList {steps : List (Step α)} {entries : List (String × α)}
    (since : Since item steps entries) : run item steps = .ofList entries := by
  induction since with
  | start => rfl
  | insert since key value ih => rw [run_concat, ih, ofList_concat, Step.apply]
  | collect steps entries => rw [run_concat, Step.apply]
  | clear steps =>
    rw [run_concat, Step.apply]
    rfl
  | read steps object =>
    rw [run_concat, Step.apply, Json.map_parse_iff.mpr ⟨_, object, rfl⟩]
  | @refused steps entries text since none ih =>
    rw [run_concat, Step.apply, ih]
    cases parsed : (Json.map item).parse text with
    | error fault => rfl
    | ok m =>
      obtain ⟨members, object, -⟩ := Json.map_parse_iff.mp parsed
      exact absurd object (none members)

/-- After any run the keys of a map stand once, in the order of their first insertion since the map was
last built, and a look-up gives what was inserted last. An insertion hands back what a look-up would
have given and leaves every other key in its place with its value. All else that a map tells agrees
with its one list of entries, and a map is read exactly from an object, by inserting its members one by
one in the order of the text. -/
theorem run_agrees (item : Json.Reader α) :
    (∀ steps, ∃ entries, Since item steps entries) ∧
    (∀ steps entries, Since item steps entries →
      let m := run item steps
      (m.keys.Nodup ∧ m.keys = (entries.map Prod.fst).eraseDups) ∧
      (∀ key, m.get? key = lookup key entries.reverse ∧
        (m.get? key = none ↔ key ∉ entries.map Prod.fst)) ∧
      (∀ key value, (m.exchange key value).1 = m.get? key ∧
        (m.exchange key value).2.get? key = some value ∧
        ∀ (other : String) (kept : α) (index : Nat), other ≠ key →
          ((m.exchange key value).2.toList[index]? = some (other, kept) ↔
            m.toList[index]? = some (other, kept))) ∧
      (m.toList = settle entries ∧ m.keys = (settle entries).map Prod.fst ∧
        m.size = (settle entries).length ∧ m.isEmpty = (settle entries).isEmpty ∧
        ∀ key, m.contains key = decide (key ∈ (settle entries).map Prod.fst))) ∧
    ∀ text m, (Json.map item).parse text = .ok m ↔ ∃ members, Json.ObjectOf item text members ∧
      m = members.foldl (fun m entry => m.insert entry.1 entry.2) .empty := by
  refine ⟨exists_since item, fun steps entries since => ?_, fun text m => Json.map_parse_iff⟩
  dsimp only
  rw [run_eq_ofList since]
  have listed := toList_ofList_eq entries
  refine ⟨⟨(ofList entries).nodup_keys, keys_ofList entries⟩, fun key => ⟨get?_ofList entries key, ?_⟩,
    fun key value => ⟨exchange_fst _ key value, get?_insert_self _ key value,
      fun other kept index apart => getElem?_insert apart _ value kept index⟩, listed, ?_, ?_, ?_,
    fun key => ?_⟩
  · rw [get?_eq_none_iff, keys_ofList, List.mem_eraseDups]
  · rw [← listed, keys]
  · rw [← listed, size]
  · rw [← listed, isEmpty]
  · rw [contains_eq, ← listed, keys]

end RuleSmith.InsertionMap
