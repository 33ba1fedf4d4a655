/-!
# Maps that remember the order of insertion

An `InsertionMap` holds each key once, in the order in which the keys first came in; giving a key a
new value leaves it where it stands.
-/

namespace RuleSmith

/-- A finite map whose entries stand in the order in which their keys first came in. -/
structure InsertionMap (κ α : Type) where
  toList : List (κ × α)
  nodup_keys : (toList.map Prod.fst).Nodup

namespace InsertionMap

variable {κ α : Type}

@[ext] theorem ext {m n : InsertionMap κ α} (same : m.toList = n.toList) : m = n := by
  cases m; cases n; cases same; rfl

instance [DecidableEq κ] [DecidableEq α] : DecidableEq (InsertionMap κ α) := fun m n =>
  decidable_of_iff (m.toList = n.toList) ⟨ext, fun same => same ▸ rfl⟩

def empty : InsertionMap κ α := ⟨[], List.nodup_nil⟩

instance : Inhabited (InsertionMap κ α) := ⟨empty⟩

instance : EmptyCollection (InsertionMap κ α) := ⟨empty⟩

def keys (m : InsertionMap κ α) : List κ := m.toList.map Prod.fst

def size (m : InsertionMap κ α) : Nat := m.toList.length

def isEmpty (m : InsertionMap κ α) : Bool := m.toList.isEmpty

variable [DecidableEq κ]

def lookup (key : κ) : List (κ × α) → Option α
  | [] => none
  | (k, v) :: rest => if k = key then some v else lookup key rest

def exchangeIn (key : κ) (value : α) : List (κ × α) → Option α × List (κ × α)
  | [] => (none, [(key, value)])
  | (k, v) :: rest =>
    if k = key then (some v, (k, value) :: rest)
    else
      let (old, rest) := exchangeIn key value rest
      (old, (k, v) :: rest)

theorem map_fst_exchangeIn (key : κ) (value : α) (entries : List (κ × α)) :
    (exchangeIn key value entries).2.map Prod.fst =
      if key ∈ entries.map Prod.fst then entries.map Prod.fst
      else entries.map Prod.fst ++ [key] := by
  induction entries with
  | nil => rfl
  | cons entry rest ih =>
    obtain ⟨k, v⟩ := entry
    by_cases here : k = key
    · simp [exchangeIn, here]
    · have other : key ≠ k := fun same => here same.symm
      simp only [exchangeIn, if_neg here, List.map_cons, ih, List.mem_cons, other, false_or]
      split <;> rfl

theorem nodup_exchangeIn (key : κ) (value : α) {entries : List (κ × α)}
    (nodup : (entries.map Prod.fst).Nodup) :
    ((exchangeIn key value entries).2.map Prod.fst).Nodup := by
  rw [map_fst_exchangeIn]
  split
  · exact nodup
  · next absent =>
    rw [List.nodup_append]
    refine ⟨nodup, by simp, ?_⟩
    intro a member b last same
    simp only [List.mem_singleton] at last
    exact absent (last ▸ same ▸ member)

def get? (m : InsertionMap κ α) (key : κ) : Option α := lookup key m.toList

def contains (m : InsertionMap κ α) (key : κ) : Bool := (m.get? key).isSome

def exchange (m : InsertionMap κ α) (key : κ) (value : α) : Option α × InsertionMap κ α :=
  ((exchangeIn key value m.toList).1,
    ⟨(exchangeIn key value m.toList).2, nodup_exchangeIn key value m.nodup_keys⟩)

def insert (m : InsertionMap κ α) (key : κ) (value : α) : InsertionMap κ α :=
  (m.exchange key value).2

def erase (m : InsertionMap κ α) (key : κ) : InsertionMap κ α :=
  ⟨m.toList.filter fun entry => entry.1 ≠ key,
    m.nodup_keys.sublist (List.filter_sublist.map Prod.fst)⟩

def insertMany (m : InsertionMap κ α) (entries : List (κ × α)) : InsertionMap κ α :=
  entries.foldl (fun m entry => m.insert entry.1 entry.2) m

def ofList (entries : List (κ × α)) : InsertionMap κ α := empty.insertMany entries

theorem exchangeIn_fst (key : κ) (value : α) (entries : List (κ × α)) :
    (exchangeIn key value entries).1 = lookup key entries := by
  induction entries with
  | nil => rfl
  | cons entry rest ih =>
    obtain ⟨k, v⟩ := entry
    by_cases here : k = key <;> simp [exchangeIn, lookup, here, ih]

theorem lookup_exchangeIn (key other : κ) (value : α) (entries : List (κ × α)) :
    lookup other (exchangeIn key value entries).2 =
      if key = other then some value else lookup other entries := by
  induction entries with
  | nil => rfl
  | cons entry rest ih =>
    obtain ⟨k, v⟩ := entry
    by_cases here : k = key
    · subst here
      by_cases same : k = other <;> simp [exchangeIn, lookup, same]
    · by_cases same : k = other
      · subst same
        have apart : key ≠ k := fun again => here again.symm
        simp [exchangeIn, lookup, here, apart]
      · simp [exchangeIn, lookup, here, same, ih]

@[simp] theorem exchange_fst (m : InsertionMap κ α) (key : κ) (value : α) :
    (m.exchange key value).1 = m.get? key := exchangeIn_fst key value m.toList

@[simp] theorem get?_empty (key : κ) : (empty : InsertionMap κ α).get? key = none := rfl

theorem get?_insert (m : InsertionMap κ α) (key other : κ) (value : α) :
    (m.insert key value).get? other = if key = other then some value else m.get? other :=
  lookup_exchangeIn key other value m.toList

@[simp] theorem get?_insert_self (m : InsertionMap κ α) (key : κ) (value : α) :
    (m.insert key value).get? key = some value := by simp [get?_insert]

theorem keys_insert (m : InsertionMap κ α) (key : κ) (value : α) :
    (m.insert key value).keys = if key ∈ m.keys then m.keys else m.keys ++ [key] :=
  map_fst_exchangeIn key value m.toList

end InsertionMap
end RuleSmith
