import RuleSmith.Proofs.Identifier

namespace RuleSmith.Identifier
open Text

variable {name : String} {c : Char}

def startsWithDigit (name : String) : Bool := name.toList.head?.any isDigit

structure IsClean (name : String) : Prop where
  classes : ∀ c ∈ name.toList, isWord c = true ∨ isBlank c = true
  start : startsWithDigit name = false

theorem isDigit_underscore : isDigit '_' = false := by decide +kernel

theorem isWord_of_isDigit (digit : isDigit c = true) : isWord c = true :=
  Ranges.contains_of_covers (by decide +kernel) digit

theorem cleanChar_of_class (known : isWord c = true ∨ isBlank c = true) : cleanChar c = c :=
  if_pos (by rwa [Bool.or_eq_true])

theorem isDigit_cleanChar (c : Char) : isDigit (cleanChar c) = isDigit c := by
  cases digit : isDigit c with
  | true => rw [cleanChar_of_class (.inl (isWord_of_isDigit digit)), digit]
  | false =>
    unfold cleanChar
    split
    · exact digit
    · exact isDigit_underscore

theorem guardDigit_eq (name : String) :
    guardDigit name.toList = (if startsWithDigit name then ['_'] else []) ++ name.toList := by
  unfold startsWithDigit
  cases name.toList with
  | nil => rfl
  | cons c rest => by_cases digit : isDigit c = true <;> simp [guardDigit, digit]

theorem toList_sanitize (raw : String) :
    (sanitize raw).toList =
      (if startsWithDigit raw then ['_'] else []) ++ raw.toList.map cleanChar := by
  rw [sanitize, String.toList_ofList, guardDigit_eq, List.map_append]
  split
  · rw [List.map_singleton, cleanChar_of_class (.inl isWord_underscore)]
  · rfl

theorem startsWithDigit_sanitize (raw : String) : startsWithDigit (sanitize raw) = false := by
  rw [startsWithDigit, toList_sanitize]
  by_cases digit : startsWithDigit raw = true
  · simp [digit, isDigit_underscore]
  · rw [if_neg digit, List.nil_append, List.head?_map, Option.any_map]
    simpa [Function.comp_def, isDigit_cleanChar, startsWithDigit] using digit

theorem isClean_sanitize (raw : String) : IsClean (sanitize raw) where
  classes c member := by
    rw [← Bool.or_eq_true]
    exact class_of_mem_sanitize member
  start := startsWithDigit_sanitize raw

theorem sanitize_of_isClean (clean : IsClean name) : sanitize name = name := by
  apply String.toList_injective
  rw [toList_sanitize, clean.start, List.map_congr_left fun c member =>
    cleanChar_of_class (clean.classes c member)]
  simp

/-- Cleaning puts an underscore for every character that is neither a word character nor a blank, and one
more in front exactly if the name begins with a digit. What comes out is clean; just the clean names stay
as they are, and just they come out. Nothing is blank that was not blank before, and the other way round. -/
theorem sanitize_image (raw : String) :
    (sanitize raw).toList = (if startsWithDigit raw then ['_'] else []) ++
      raw.toList.map (fun c => if isWord c = true ∨ isBlank c = true then c else '_') ∧
    IsClean (sanitize raw) ∧
    (sanitize raw).length = raw.length + (if startsWithDigit raw then 1 else 0) ∧
    sanitize (sanitize raw) = sanitize raw ∧
    (sanitize raw = raw ↔ IsClean raw) ∧
    ((∃ other, sanitize other = raw) ↔ IsClean raw) ∧
    ((∀ c ∈ (sanitize raw).toList, isBlank c = true) ↔ ∀ c ∈ raw.toList, isBlank c = true) := by
  have clean := isClean_sanitize raw
  refine ⟨?_, clean, ?_, sanitize_of_isClean clean, ⟨fun same => same ▸ clean, sanitize_of_isClean⟩,
    ⟨?_, fun clean => ⟨raw, sanitize_of_isClean clean⟩⟩, ?_⟩
  · rw [toList_sanitize]
    congr 2
    funext c
    simp [cleanChar]
  · rw [← String.length_toList, toList_sanitize, List.length_append, List.length_map,
      String.length_toList, Nat.add_comm]
    split <;> rfl
  · rintro ⟨other, rfl⟩
    exact isClean_sanitize other
  · have blank := isBlankName_sanitize raw
    rw [isBlankName, isBlankName, Bool.eq_iff_iff, List.all_eq_true, List.all_eq_true] at blank
    exact blank

end RuleSmith.Identifier
