import Mathlib.Data.List.Induction
import RuleSmith.InsertionMap

namespace RuleSmith

theorem eraseDups_concat {α : Type} [BEq α] [LawfulBEq α] (items : List α) (last : α)
    [Decidable (last ∈ items)] :
    (items ++ [last]).eraseDups =
      if last ∈ items then items.eraseDups else items.eraseDups ++ [last] := by
  rw [List.eraseDups_append]
  split <;> rename_i present <;> simp [List.removeAll, present, List.eraseDups_cons]

namespace InsertionMap

variable {κ α β : Type}

def mapValues (change : α → β) (m : InsertionMap κ α) : InsertionMap κ β where
  toList := m.toList.map fun entry => (entry.1, change entry.2)
  nodup_keys := by
    have same : (m.toList.map fun entry => (entry.1, change entry.2)).map Prod.fst =
        m.toList.map Prod.fst := by
      rw [List.map_map]
      rfl
    rw [same]
    exact m.nodup_keys

theorem mapValues_eq_self {change : α → α} {m : InsertionMap κ α}
    (same : ∀ entry ∈ m.toList, change entry.2 = entry.2) : m.mapValues change = m := by
  apply ext
  calc m.toList.map (fun entry => (entry.1, change entry.2))
      = m.toList.map id := List.map_congr_left fun entry member => by rw [same entry member, id]
    _ = m.toList := List.map_id _

variable [DecidableEq κ]

theorem lookup_eq_none_iff {key : κ} {entries : List (κ × α)} :
    lookup key entries = none ↔ key ∉ entries.map Prod.fst := by
  induction entries with
  | nil => simp [lookup]
  | cons entry rest ih =>
    obtain ⟨k, v⟩ := entry
    by_cases here : k = key
    · simp [lookup, here]
    · simp [lookup, here, ih, Ne.symm here]

theorem lookup_eq_some_iff {key : κ} {value : α} {entries : List (κ × α)}
    (nodup : (entries.map Prod.fst).Nodup) :
    lookup key entries = some value ↔ (key, value) ∈ entries := by
  induction entries with
  | nil => simp [lookup]
  | cons entry rest ih =>
    obtain ⟨k, v⟩ := entry
    rw [List.map_cons, List.nodup_cons] at nodup
    by_cases here : k = key
    · subst here
      have absent : (k, value) ∉ rest := fun member =>
        nodup.1 (List.mem_map.mpr ⟨_, member, rfl⟩)
      simp [lookup, absent, eq_comm]
    · simp [lookup, here, ih nodup.2, Ne.symm here]

theorem get?_eq_some_iff {m : InsertionMap κ α} {key : κ} {value : α} :
    m.get? key = some value ↔ (key, value) ∈ m.toList :=
  lookup_eq_some_iff m.nodup_keys

theorem get?_of_perm {m n : InsertionMap κ α} (same : m.toList.Perm n.toList) (key : κ) :
    m.get? key = n.get? key := by
  ext value
  rw [get?_eq_some_iff, get?_eq_some_iff, same.mem_iff]

theorem get?_erase (m : InsertionMap κ α) (key other : κ) :
    (m.erase key).get? other = if key = other then none else m.get? other := by
  ext value
  rw [get?_eq_some_iff]
  by_cases same : key = other
  · simp [erase, same]
  · simp [erase, same, Ne.symm same, get?_eq_some_iff]

theorem contains_iff {m : InsertionMap κ α} {key : κ} :
    m.contains key = true ↔ ∃ value, m.get? key = some value := by
  simp [contains, Option.isSome_iff_exists]

theorem exchangeIn_of_absent {key : κ} {entries : List (κ × α)} (absent : lookup key entries = none)
    (value : α) : (exchangeIn key value entries).2 = entries ++ [(key, value)] := by
  induction entries with
  | nil => rfl
  | cons entry rest ih =>
    obtain ⟨k, v⟩ := entry
    by_cases here : k = key
    · simp [lookup, here] at absent
    · simp only [lookup, if_neg here] at absent
      simp [exchangeIn, here, ih absent]

theorem toList_insert_of_absent {m : InsertionMap κ α} {key : κ} (absent : m.get? key = none)
    (value : α) : (m.insert key value).toList = m.toList ++ [(key, value)] :=
  exchangeIn_of_absent absent value

theorem ofList_concat (entries : List (κ × α)) (entry : κ × α) :
    ofList (entries ++ [entry]) = (ofList entries).insert entry.1 entry.2 := by
  simp [ofList, insertMany]

theorem mem_of_get?_ofList {entries : List (κ × α)} {key : κ} {value : α}
    (found : (ofList entries).get? key = some value) : (key, value) ∈ entries := by
  induction entries using List.reverseRecOn with
  | nil => cases found
  | append_singleton entries entry ih =>
    rw [ofList_concat, get?_insert] at found
    split at found
    · cases found
      subst key
      simp
    · exact List.mem_append_left _ (ih found)

theorem toList_ofList {entries : List (κ × α)} (nodup : (entries.map Prod.fst).Nodup) :
    (ofList entries).toList = entries := by
  induction entries using List.reverseRecOn with
  | nil => rfl
  | append_singleton entries entry ih =>
    rw [List.map_append, List.nodup_append] at nodup
    have same := ih nodup.1
    have absent : (ofList entries).get? entry.1 = none := by
      rw [get?, same, lookup_eq_none_iff]
      intro member
      exact nodup.2.2 _ member _ (by simp) rfl
    rw [ofList_concat, toList_insert_of_absent absent, same]

@[simp] theorem ofList_toList (m : InsertionMap κ α) : ofList m.toList = m :=
  ext (toList_ofList m.nodup_keys)

theorem lookup_map (change : α → β) (key : κ) (entries : List (κ × α)) :
    lookup key (entries.map fun entry => (entry.1, change entry.2)) =
      (lookup key entries).map change := by
  induction entries with
  | nil => rfl
  | cons entry rest ih =>
    by_cases here : entry.1 = key <;> simp [lookup, here, ih]

theorem get?_mapValues (change : α → β) (m : InsertionMap κ α) (key : κ) :
    (m.mapValues change).get? key = (m.get? key).map change :=
  lookup_map change key m.toList

end InsertionMap
end RuleSmith
