import RuleSmith.Identifier
import RuleSmith.Proofs.Store

namespace RuleSmith.Identifier
open Text

theorem isWord_underscore : isWord '_' = true := by decide +kernel

theorem class_cleanChar (c : Char) : (isWord (cleanChar c) || isBlank (cleanChar c)) = true := by
  unfold cleanChar
  split
  · assumption
  · rw [isWord_underscore]
    rfl

theorem class_of_mem_sanitize {raw : String} {c : Char} (member : c ∈ (sanitize raw).toList) :
    (isWord c || isBlank c) = true := by
  rw [sanitize, String.toList_ofList] at member
  obtain ⟨before, -, rfl⟩ := List.mem_map.mp member
  exact class_cleanChar before

theorem not_mem_sanitize {raw : String} {c : Char} (other : (isWord c || isBlank c) = false) :
    c ∉ (sanitize raw).toList := by
  intro member
  rw [class_of_mem_sanitize member] at other
  cases other

theorem not_isBlank_of_isDigit {c : Char} (digit : isDigit c = true) : isBlank c = false :=
  Ranges.not_contains_of_apart (by decide +kernel) digit

theorem not_isBlank_underscore : isBlank '_' = false := by decide +kernel

theorem isBlank_cleanChar (c : Char) : isBlank (cleanChar c) = isBlank c := by
  unfold cleanChar
  split
  · rfl
  · rename_i other
    rw [not_isBlank_underscore]
    cases blank : isBlank c with
    | false => rfl
    | true => exact absurd (by rw [blank, Bool.or_true]) other

theorem isBlankName_sanitize (raw : String) : isBlankName (sanitize raw) = isBlankName raw := by
  have cleaned (cs : List Char) : (cs.map cleanChar).all isBlank = cs.all isBlank := by
    rw [List.all_map]
    exact congrArg cs.all (funext isBlank_cleanChar)
  rw [isBlankName, isBlankName, sanitize, String.toList_ofList, cleaned]
  cases raw.toList with
  | nil => rfl
  | cons c rest =>
    rw [guardDigit]
    split
    · rename_i digit
      -- The underscore in front is no blank, and neither is the digit behind it.
      rw [List.all_cons, List.all_cons, not_isBlank_of_isDigit digit, not_isBlank_underscore]
      rfl
    · rfl

theorem isFileName_sanitize {raw : String} (h : isBlankName (sanitize raw) = false) :
    Store.isFileName (sanitize raw) = true := by
  have dot : '.' ∉ (sanitize raw).toList := not_mem_sanitize (by decide +kernel)
  rw [Store.isFileName_iff]
  refine ⟨?_, not_mem_sanitize (by decide +kernel), not_mem_sanitize (by decide +kernel), ?_, ?_⟩
  · intro empty
    rw [isBlankName, empty] at h
    cases h
  · intro eq
    exact dot (by simp [eq])
  · intro eq
    exact dot (by simp [eq])

end RuleSmith.Identifier
