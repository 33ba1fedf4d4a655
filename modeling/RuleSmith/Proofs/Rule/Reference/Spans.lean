import Mathlib.Data.List.TakeWhile
import RuleSmith.Proofs.Text.Regex
import RuleSmith.Reference

/-!
# Where the references of a condition stand

A reference stands where a dollar sign is followed by word characters, and goes on to the last of them.
The references of a condition are those places in order. They are also what a search for `\$\w*\b` finds:
the repetition never has to give anything back, and where it takes nothing there is no end of a word.
-/

namespace RuleSmith.Reference
open Text

/-- Whether a reference stands between two places of a text. -/
def StandsBetween (text : List Char) (start stop : Nat) : Prop :=
  ∃ front word back, text = front ++ '$' :: (word ++ back) ∧ word ≠ [] ∧
    (∀ c ∈ word, isWord c = true) ∧ (∀ c ∈ back.head?, isWord c = false) ∧
    start = front.length ∧ stop = start + 1 + word.length

def between (text : List Char) (span : Nat × Nat) : List Char :=
  (text.drop span.1).take (span.2 - span.1)

def expression : Regex :=
  .concat (.one fun c => c = '$') (.concat (.star (.one isWord)) .boundary)

def spansFrom (start : Nat) : List Char → List (Nat × Nat)
  | [] => []
  | c :: rest =>
    if c = '$' ∧ rest.takeWhile isWord ≠ [] then
      (start, start + 1 + (rest.takeWhile isWord).length) :: spansFrom (start + 1) rest
    else spansFrom (start + 1) rest

theorem isWord_dollar : isWord '$' = false := by decide +kernel

theorem takeWhile_eq_nil_of_head {back : List Char} (ends : ∀ c ∈ back.head?, isWord c = false) :
    back.takeWhile isWord = [] := by
  cases back with
  | nil => rfl
  | cons c rest => simp [ends c rfl]

theorem takeWhile_append_of_head {back : List Char} (front : List Char)
    (ends : ∀ c ∈ back.head?, isWord c = false) :
    (front ++ back).takeWhile isWord = front.takeWhile isWord := by
  rw [List.takeWhile_append, takeWhile_eq_nil_of_head ends, List.append_nil]
  split
  · rename_i whole
    exact ((List.takeWhile_prefix isWord).eq_of_length whole).symm
  · rfl

/-! ## Matches -/

theorem head?_ends_inWord {before : List Char} (inside : before.head?.any isWord = true)
    (after : List Char) :
    ((Regex.ends (.star (.one isWord)) ⟨before, after⟩).flatMap (Regex.ends .boundary)).head? =
      some ⟨(after.takeWhile isWord).reverse ++ before, after.dropWhile isWord⟩ := by
  induction after generalizing before with
  | nil => simp [Cursor.isBoundary, inside]
  | cons c rest ih =>
    rw [Regex.ends_star_one_cons, List.flatMap_append, List.head?_append]
    by_cases word : isWord c = true
    · rw [if_pos word, ih (by simpa using word)]
      simp [word]
    · simp [Cursor.isBoundary, inside, word]

theorem head?_ends_expression (before rest : List Char) :
    (expression.ends ⟨before, '$' :: rest⟩).head? =
      if rest.takeWhile isWord = [] then none
      else some ⟨(rest.takeWhile isWord).reverse ++ '$' :: before, rest.dropWhile isWord⟩ := by
  have behind : (expression.ends ⟨before, '$' :: rest⟩) =
      (Regex.ends (.star (.one isWord)) ⟨'$' :: before, rest⟩).flatMap (Regex.ends .boundary) := by
    simp [expression]
  -- Where no word character follows the dollar sign, there is no boundary behind it.
  rw [behind]
  cases rest with
  | nil => simp [Cursor.isBoundary, isWord_dollar]
  | cons c rest =>
    rw [Regex.ends_star_one_cons, List.flatMap_append, List.head?_append]
    by_cases word : isWord c = true
    · rw [if_pos word, head?_ends_inWord (by simpa using word)]
      simp [word]
    · simp [Cursor.isBoundary, isWord_dollar, word]

theorem ends_expression_of_ne {before rest : List Char} {c : Char} (other : c ≠ '$') :
    expression.ends ⟨before, c :: rest⟩ = [] := by
  simp [expression, other]

theorem spansFrom_append {word : List Char} (all : ∀ c ∈ word, isWord c = true) (start : Nat)
    (back : List Char) : spansFrom start (word ++ back) = spansFrom (start + word.length) back := by
  induction word generalizing start with
  | nil => rfl
  | cons c rest ih =>
    have other : c ≠ '$' := by
      rintro rfl
      exact Bool.false_ne_true (isWord_dollar.symm.trans (all _ List.mem_cons_self))
    rw [List.cons_append, spansFrom, if_neg fun here => other here.1,
      ih fun d member => all d (List.mem_cons_of_mem c member), List.length_cons]
    congr 1
    omega

theorem spansFrom_takeWhile (start : Nat) (rest : List Char) :
    spansFrom start rest =
      spansFrom (start + (rest.takeWhile isWord).length) (rest.dropWhile isWord) := by
  have parts := List.takeWhile_append_dropWhile (p := isWord) (l := rest)
  rw [← spansFrom_append (fun c member => List.mem_takeWhile_imp member), parts]

theorem findFrom_eq (behind : Bool) (before after : List Char) :
    Regex.findFrom expression behind ⟨before, after⟩ = spansFrom before.length after := by
  induction size : after.length using Nat.strong_induction_on generalizing behind before after with
  | _ size ih =>
    subst size
    cases after with
    | nil =>
      rw [Regex.findFrom]
      simp [expression, spansFrom]
    | cons c rest =>
      have onward := ih rest.length (Nat.lt_succ_self _) false (c :: before) rest rfl
      rw [Regex.findFrom, spansFrom]
      by_cases dollar : c = '$'
      · subst dollar
        rw [head?_ends_expression]
        by_cases none : rest.takeWhile isWord = []
        · simpa [none] using onward
        · have short : (rest.dropWhile isWord).length < ('$' :: rest).length :=
            Nat.lt_succ_of_le (List.length_dropWhile_le _ _)
          have later := ih _ short true ((rest.takeWhile isWord).reverse ++ '$' :: before) _ rfl
          have place : ((rest.takeWhile isWord).reverse ++ '$' :: before).length =
              before.length + 1 + (rest.takeWhile isWord).length := by
            rw [List.length_append, List.length_reverse, List.length_cons]
            omega
          have here : '$' = '$' ∧ rest.takeWhile isWord ≠ [] := ⟨rfl, none⟩
          -- The search goes on behind the match; the characters that it jumps over begin no reference.
          rw [if_neg none, if_pos here, spansFrom_takeWhile (before.length + 1)]
          simp only
          rw [if_pos short, later, place]
      · simpa [ends_expression_of_ne dollar, dollar] using onward

theorem findAll_eq (text : List Char) : Regex.findAll expression text = spansFrom 0 text :=
  findFrom_eq false [] text

/-! ## Places -/

theorem between_append (front word back : List Char) {stop : Nat}
    (size : stop = front.length + word.length) :
    between (front ++ (word ++ back)) (front.length, stop) = word := by
  simp [between, size]

theorem standsBetween_length_iff {before rest : List Char} {c : Char} {stop : Nat} :
    StandsBetween (before ++ c :: rest) before.length stop ↔
      (c = '$' ∧ rest.takeWhile isWord ≠ []) ∧
        stop = before.length + 1 + (rest.takeWhile isWord).length := by
  constructor
  · rintro ⟨front, word, back, same, nonempty, all, ends, start, rfl⟩
    obtain ⟨rfl, split⟩ := List.append_inj same start
    obtain ⟨rfl, rfl⟩ := List.cons.inj split
    have taken : (word ++ back).takeWhile isWord = word := by
      rw [takeWhile_append_of_head word ends, List.takeWhile_eq_self_iff.mpr all]
    rw [taken]
    exact ⟨⟨rfl, nonempty⟩, rfl⟩
  · rintro ⟨⟨rfl, nonempty⟩, rfl⟩
    refine ⟨before, rest.takeWhile isWord, rest.dropWhile isWord, ?_, nonempty,
      fun c member => List.mem_takeWhile_imp member, fun c first => ?_, rfl, rfl⟩
    · rw [List.takeWhile_append_dropWhile]
    · have other := List.head?_dropWhile_not isWord rest
      rw [Option.mem_def.mp first] at other
      simpa using other

theorem mem_spansFrom_iff (before after : List Char) (start stop : Nat) :
    (start, stop) ∈ spansFrom before.length after ↔
      before.length ≤ start ∧ StandsBetween (before ++ after) start stop := by
  induction after generalizing before with
  | nil =>
    rw [List.append_nil]
    refine iff_of_false List.not_mem_nil ?_
    rintro ⟨far, front, word, back, rfl, -, -, -, rfl, -⟩
    rw [List.length_append, List.length_cons] at far
    omega
  | cons c rest ih =>
    have later : (start, stop) ∈ spansFrom (before.length + 1) rest ↔
        before.length + 1 ≤ start ∧ StandsBetween (before ++ c :: rest) start stop := by
      simpa using ih (before ++ [c])
    -- A reference at this place ends where its word does; any other one begins further behind.
    by_cases here : start = before.length
    · subst here
      rw [standsBetween_length_iff, spansFrom]
      have none : ¬ (before.length, stop) ∈ spansFrom (before.length + 1) rest := fun member =>
        absurd (later.mp member).1 (Nat.not_succ_le_self _)
      split <;> rename_i begins
      · simp [begins, none]
      · exact iff_of_false none fun found => begins found.2.1
    · have far : before.length + 1 ≤ start ↔ before.length ≤ start := by omega
      rw [spansFrom]
      split <;> simp [later, here, far]

theorem le_of_mem_spansFrom {start : Nat} {text : List Char} {span : Nat × Nat}
    (member : span ∈ spansFrom start text) : start ≤ span.1 := by
  induction text generalizing start with
  | nil => exact absurd member List.not_mem_nil
  | cons c rest ih =>
    rw [spansFrom] at member
    split at member
    · rcases List.mem_cons.mp member with rfl | later
      · exact le_rfl
      · exact Nat.le_of_succ_le (ih later)
    · exact Nat.le_of_succ_le (ih member)

theorem spansFrom_pairwise (start : Nat) (text : List Char) :
    (spansFrom start text).Pairwise fun span next => span.2 ≤ next.1 := by
  induction text generalizing start with
  | nil => exact List.Pairwise.nil
  | cons c rest ih =>
    rw [spansFrom]
    split
    · refine List.pairwise_cons.mpr ⟨fun next member => ?_, ih (start + 1)⟩
      rw [spansFrom_takeWhile] at member
      exact le_of_mem_spansFrom member
    · exact ih (start + 1)

theorem scanChars_eq (before after : List Char) :
    scanChars after = (spansFrom before.length after).map (between (before ++ after)) := by
  induction after generalizing before with
  | nil => rfl
  | cons c rest ih =>
    have later : scanChars rest =
        (spansFrom (before.length + 1) rest).map (between (before ++ c :: rest)) := by
      simpa using ih (before ++ [c])
    rw [scanChars, spansFrom, later]
    by_cases dollar : c = '$'
    · subst dollar
      have parts := List.takeWhile_append_dropWhile (p := isWord) (l := rest)
      cases taken : rest.takeWhile isWord with
      | nil => simp
      | cons first others =>
        have size : before.length + 1 + (first :: others).length =
            before.length + ('$' :: first :: others).length := by
          simp only [List.length_cons]
          omega
        have whole := between_append before ('$' :: first :: others) (rest.dropWhile isWord) size
        rw [taken] at parts
        rw [List.cons_append, parts] at whole
        rw [if_pos rfl, if_pos ⟨rfl, List.cons_ne_nil _ _⟩, List.map_cons, whole]
    · simp [dollar]

theorem scanChars_append {back : List Char} (ends : ∀ c ∈ back.head?, isWord c = false)
    (front : List Char) : scanChars (front ++ back) = scanChars front ++ scanChars back := by
  induction front with
  | nil => rfl
  | cons c rest ih =>
    rw [List.cons_append, scanChars, scanChars, takeWhile_append_of_head rest ends, ih]
    split
    · split <;> rfl
    · rfl

/-! ## References -/

theorem exists_standsBetween_iff {text : List Char} {start : Nat} :
    (∃ stop, StandsBetween text start stop) ↔
      text[start]? = some '$' ∧ ∃ c, text[start + 1]? = some c ∧ isWord c = true := by
  constructor
  · rintro ⟨stop, front, word, back, rfl, nonempty, all, -, rfl, -⟩
    obtain ⟨first, others, rfl⟩ := List.exists_cons_of_ne_nil nonempty
    exact ⟨by simp, first, by simp, all first List.mem_cons_self⟩
  · rintro ⟨dollar, c, next, word⟩
    obtain ⟨short, dollar⟩ := List.getElem?_eq_some_iff.mp dollar
    have parts : text = text.take start ++ '$' :: text.drop (start + 1) := by
      rw [← dollar, ← List.drop_eq_getElem_cons short, List.take_append_drop]
    have size : (text.take start).length = start := List.length_take_of_le (Nat.le_of_lt short)
    have first : (text.drop (start + 1)).head? = some c := by rw [List.head?_drop, next]
    obtain ⟨others, rest⟩ := List.head?_eq_some_iff.mp first
    have nonempty : (text.drop (start + 1)).takeWhile isWord ≠ [] := by simp [rest, word]
    have stands : StandsBetween (text.take start ++ '$' :: text.drop (start + 1))
        (text.take start).length _ := standsBetween_length_iff.mpr ⟨⟨rfl, nonempty⟩, rfl⟩
    rw [← parts, size] at stands
    exact ⟨_, stands⟩

/-- The references of a condition are the texts that `\$\w*\b` matches, in order and none inside of
another: one for each dollar sign that a word character follows, with all word characters behind it.
Where a condition goes on with something else than a word character, its references are not touched. -/
theorem scan_matches (condition : String) :
    let text := condition.toList
    let found := Regex.findAll expression text
    (scan condition = found.map fun span => String.ofList (between text span)) ∧
    (found.Pairwise fun span next => span.2 ≤ next.1) ∧
    (∀ start stop, (start, stop) ∈ found ↔ StandsBetween text start stop) ∧
    (∀ start, (∃ stop, (start, stop) ∈ found) ↔
      text[start]? = some '$' ∧ ∃ c, text[start + 1]? = some c ∧ isWord c = true) ∧
    ∀ more : String, (∀ c ∈ more.toList.head?, isWord c = false) →
      scan (condition ++ more) = scan condition ++ scan more := by
  dsimp only
  rw [findAll_eq]
  have placed (start stop : Nat) : (start, stop) ∈ spansFrom 0 condition.toList ↔
      StandsBetween condition.toList start stop := by
    simpa using mem_spansFrom_iff [] condition.toList start stop
  refine ⟨?_, spansFrom_pairwise 0 _, placed, fun start => ?_, fun more ends => ?_⟩
  · rw [scan, scanChars_eq [] condition.toList, List.map_map]
    rfl
  · simp only [placed, exists_standsBetween_iff]
  · rw [scan, String.toList_append, scanChars_append ends, List.map_append, scan, scan]

theorem scan_matches_sample : (∀ c ∈ " and $é$".toList.head?, isWord c = false) ∧
    scan ("$$a_1" ++ " and $é$") = ["$a_1", "$é"] ∧
    Regex.findAll expression "$ $é$".toList = [(2, 4)] := by
  obtain ⟨-, -, -, -, put⟩ := scan_matches "$$a_1"
  have ends : ∀ c ∈ " and $é$".toList.head?, isWord c = false := by
    have head : " and $é$".toList.head? = some ' ' := by decide +kernel
    intro c first
    rw [head] at first
    cases first
    decide +kernel
  refine ⟨ends, ?_, ?_⟩
  · rw [put _ ends]
    decide +kernel
  · rw [findAll_eq]
    decide +kernel

end RuleSmith.Reference
