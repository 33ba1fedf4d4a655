namespace RuleSmith.Text

abbrev Ranges := List (Nat × Nat)

def Ranges.contains (ranges : Ranges) (code : Nat) : Bool :=
  ranges.any fun range => range.1 ≤ code && code ≤ range.2

def Ranges.covers (outer inner : Ranges) : Bool :=
  inner.all fun range => outer.any fun wider => wider.1 ≤ range.1 && range.2 ≤ wider.2

theorem Ranges.contains_of_covers {outer inner : Ranges} (covered : outer.covers inner = true)
    {code : Nat} (member : inner.contains code = true) : outer.contains code = true := by
  simp only [Ranges.contains, Ranges.covers, List.any_eq_true, List.all_eq_true,
    Bool.and_eq_true, decide_eq_true_eq] at covered member ⊢
  obtain ⟨range, inside, low, high⟩ := member
  obtain ⟨wider, found, lower, upper⟩ := covered range inside
  exact ⟨wider, found, Nat.le_trans lower low, Nat.le_trans high upper⟩

theorem Ranges.not_contains_of_apart {left right : Ranges}
    (apart : ∀ range ∈ left, ∀ other ∈ right, range.2 < other.1 ∨ other.2 < range.1) {code : Nat}
    (member : left.contains code = true) : right.contains code = false := by
  rw [← Bool.not_eq_true]
  intro member'
  simp only [Ranges.contains, List.any_eq_true, Bool.and_eq_true, decide_eq_true_eq] at member member'
  obtain ⟨range, inside, low, high⟩ := member
  obtain ⟨other, inside', low', high'⟩ := member'
  have := apart range inside other inside'
  omega

end RuleSmith.Text
