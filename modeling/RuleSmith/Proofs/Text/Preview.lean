import Mathlib.Data.List.DropRight
import Mathlib.Data.List.Infix
import RuleSmith.Text.Preview

/-!
# What a preview shows

A preview is a text on one line, cut after so many characters: its words with single spaces between them,
and an ellipsis where the line would go on. The reader has neither the words nor the line at hand. It knows
how much room is left and whether blanks came last, and from every place of the text on it shows what is
ahead of the line there, cut to that room.
-/

namespace RuleSmith.Text

variable {c : Char} {cs front back line : List Char}

def words (cs : List Char) : List (List Char) :=
  (cs.splitOnP isBlank).filter (!·.isEmpty)

def oneLine (cs : List Char) : List Char := [' '].intercalate (words cs)

def cut (limit : Nat) (line : List Char) : List Char :=
  if line.length ≤ limit then line else line.take limit ++ ['…']

def lineEnds : List Char := ['\n', '\x0b', '\x0c', '\r', '\u0085', '\u2028', '\u2029']

structure IsOneLine (line : List Char) : Prop where
  blanks : ∀ c ∈ line, isBlank c = true → c = ' '
  start : line.head? ≠ some ' '
  single : ¬ [' ', ' '] <:+: line

@[simp] theorem words_nil : words [] = [] := by
  simp [words]

theorem words_append_cons (blank : isBlank c = true) (front back : List Char) :
    words (front ++ c :: back) = words front ++ words back := by
  rw [words, List.splitOnP_append_cons front back blank, List.filter_append]
  rfl

theorem words_cons_of_blank (blank : isBlank c = true) (cs : List Char) :
    words (c :: cs) = words cs := by
  simpa using words_append_cons blank [] cs

theorem words_of_no_blank (some : cs ≠ []) (solid : ∀ c ∈ cs, isBlank c = false) :
    words cs = [cs] := by
  rw [words, List.splitOnP_eq_singleton solid]
  simp [some]

theorem solid_of_mem_takeWhile (solid : isBlank c = false) (cs : List Char) :
    ∀ d ∈ c :: cs.takeWhile (!isBlank ·), isBlank d = false := by
  intro d member
  rcases List.mem_cons.mp member with rfl | member
  · exact solid
  · simpa using List.mem_takeWhile_imp member

theorem words_cons_of_not_blank (solid : isBlank c = false) (cs : List Char) :
    words (c :: cs) =
      (c :: cs.takeWhile (!isBlank ·)) :: words (cs.dropWhile (!isBlank ·)) := by
  have word := solid_of_mem_takeWhile solid cs
  have parts := List.takeWhile_append_dropWhile (p := (!isBlank ·)) (l := cs)
  cases ends : cs.dropWhile (!isBlank ·) with
  | nil =>
    rw [ends, List.append_nil] at parts
    rw [parts] at word ⊢
    exact words_of_no_blank (List.cons_ne_nil c cs) word
  | cons b rest =>
    have blank : isBlank b = true := by
      have stops := List.head?_dropWhile_not (!isBlank ·) cs
      simpa [ends] using stops
    have split := words_append_cons blank (c :: cs.takeWhile (!isBlank ·)) rest
    rw [words_of_no_blank (List.cons_ne_nil _ _) word, List.cons_append, ← ends, parts] at split
    rw [split, words_cons_of_blank blank, List.singleton_append]

theorem words_dropWhile_isBlank (cs : List Char) : words (cs.dropWhile isBlank) = words cs := by
  induction cs with
  | nil => rfl
  | cons c rest ih =>
    by_cases blank : isBlank c = true
    · rw [List.dropWhile_cons_of_pos blank, ih, words_cons_of_blank blank]
    · rw [List.dropWhile_cons_of_neg blank]

theorem words_rdropWhile_isBlank (cs : List Char) : words (cs.rdropWhile isBlank) = words cs := by
  induction cs using List.reverseRecOn with
  | nil => rfl
  | append_singleton front c ih =>
    by_cases blank : isBlank c = true
    · rw [List.rdropWhile_concat_pos _ _ _ blank, ih, words_append_cons blank, words_nil,
        List.append_nil]
    · rw [List.rdropWhile_concat_neg _ _ _ blank]

theorem words_trim (cs : List Char) : words (trim cs) = words cs :=
  (words_rdropWhile_isBlank _).trans (words_dropWhile_isBlank cs)

theorem head_trim {rest : List Char} (trimmed : trim cs = c :: rest) : isBlank c = false := by
  have front : trim cs <+: cs.dropWhile isBlank := List.rdropWhile_prefix isBlank _
  obtain ⟨dropped, whole⟩ := trimmed ▸ front
  have stops := List.head?_dropWhile_not isBlank cs
  rwa [← whole] at stops

theorem ne_nil_of_mem_words {word : List Char} (member : word ∈ words cs) : word ≠ [] := by
  simpa using (List.mem_filter.mp member).2

theorem not_isBlank_of_mem_words {word : List Char} (member : word ∈ words cs) (inside : c ∈ word) :
    isBlank c = false := by
  induction size : cs.length using Nat.strong_induction_on generalizing cs with
  | _ size ih =>
    subst size
    cases cs with
    | nil => simp at member
    | cons d rest =>
      by_cases blank : isBlank d = true
      · rw [words_cons_of_blank blank] at member
        exact ih rest.length (Nat.lt_succ_self _) member rfl
      · have solid : isBlank d = false := eq_false_of_ne_true blank
        rw [words_cons_of_not_blank solid] at member
        rcases List.mem_cons.mp member with rfl | later
        · exact solid_of_mem_takeWhile solid rest c inside
        · have shorter := (List.dropWhile_sublist (!isBlank ·) (l := rest)).length_le
          exact ih _ (Nat.lt_succ_of_le shorter) later rfl

/-- What is still to come of a line at a place of its text. Inside of a word that is what is left of the
word, and then, as after blanks, each word that follows with a space in front. -/
def ahead (gap : Bool) (cs : List Char) : List Char :=
  if gap then (words cs).flatMap (' ' :: ·)
  else cs.takeWhile (!isBlank ·) ++ (words (cs.dropWhile (!isBlank ·))).flatMap (' ' :: ·)

theorem ahead_nil (gap : Bool) : ahead gap [] = [] := by
  cases gap <;> rfl

theorem ahead_cons_of_blank (blank : isBlank c = true) (gap : Bool) (cs : List Char) :
    ahead gap (c :: cs) = ahead true cs := by
  cases gap <;> simp [ahead, blank, words_cons_of_blank blank]

theorem ahead_cons_of_not_blank (solid : ¬ isBlank c = true) (gap : Bool) (cs : List Char) :
    ahead gap (c :: cs) = (if gap then [' '] else []) ++ c :: ahead false cs := by
  rw [Bool.not_eq_true] at solid
  cases gap <;> simp [ahead, solid, words_cons_of_not_blank solid]

theorem cut_nil (limit : Nat) : cut limit [] = [] :=
  if_pos (Nat.zero_le limit)

theorem cut_zero_cons (c : Char) (line : List Char) : cut 0 (c :: line) = ['…'] := by
  simp [cut]

theorem cut_succ_cons (limit : Nat) (c : Char) (line : List Char) :
    cut (limit + 1) (c :: line) = c :: cut limit line := by
  by_cases fits : line.length ≤ limit <;> simp [cut, fits]

theorem previewFrom_eq (room : Nat) (gap : Bool) (cs : List Char) :
    previewFrom room gap cs = cut room (ahead gap cs) := by
  fun_induction previewFrom room gap cs with
  | case1 room gap => rw [ahead_nil, cut_nil]
  | case2 room gap c rest blank ih => rw [ih, ahead_cons_of_blank blank]
  | case3 gap c rest solid => cases gap <;> simp [ahead_cons_of_not_blank solid, cut_zero_cons]
  | case4 c rest solid =>
    -- The space takes the last of the room, and the word behind it has none left.
    simp [ahead_cons_of_not_blank solid, cut_succ_cons, cut_zero_cons]
  | case5 c rest solid room ih => simp [ahead_cons_of_not_blank solid, cut_succ_cons, ih]
  | case6 c rest solid room ih => simp [ahead_cons_of_not_blank solid, cut_succ_cons, ih]

theorem intercalate_cons (word : List Char) (others : List (List Char)) :
    [' '].intercalate (word :: others) = word ++ others.flatMap (' ' :: ·) := by
  induction others generalizing word with
  | nil => simp
  | cons next others ih => simp [List.intercalate_cons_cons, ih]

theorem ahead_trim (cs : List Char) : ahead false (trim cs) = oneLine cs := by
  rw [oneLine, ← words_trim]
  cases trimmed : trim cs with
  | nil => rfl
  | cons c rest =>
    have solid := head_trim trimmed
    simp [ahead, solid, words_cons_of_not_blank solid, intercalate_cons]

theorem toList_preview (text : String) (limit : Nat) :
    (preview text limit).toList = cut limit (oneLine text.toList) := by
  rw [preview, String.toList_ofList, previewFrom_eq, ahead_trim]

theorem space_of_mem_oneLine (member : c ∈ oneLine cs) (blank : isBlank c = true) : c = ' ' := by
  rw [oneLine] at member
  cases pieces : words cs with
  | nil => simp [pieces] at member
  | cons word others =>
    have solid (piece : List Char) (found : piece ∈ word :: others) : c ∉ piece := fun inside =>
      Bool.false_ne_true ((not_isBlank_of_mem_words (pieces ▸ found) inside).symm.trans blank)
    rw [pieces, intercalate_cons, List.mem_append, List.mem_flatMap] at member
    rcases member with inside | ⟨piece, found, inside⟩
    · exact absurd inside (solid word List.mem_cons_self)
    · exact (List.mem_cons.mp inside).resolve_right (solid piece (List.mem_cons_of_mem _ found))

theorem words_eq_of_oneLine_eq (parts : oneLine cs = front ++ ' ' :: back) :
    words cs = front.splitOn ' ' ++ back.splitOn ' ' := by
  have some : words cs ≠ [] := by
    intro empty
    simp [oneLine, empty] at parts
  have solid : ∀ word ∈ words cs, ' ' ∉ word := by
    intro word member inside
    have blank := not_isBlank_of_mem_words member inside
    exact absurd blank (by decide)
  rw [← List.splitOn_append_cons_self, ← parts, oneLine, List.splitOn_intercalate ' ' solid some]

theorem isOneLine_oneLine (cs : List Char) : IsOneLine (oneLine cs) where
  blanks _ member := space_of_mem_oneLine member
  -- A space in front, or right behind another one, would part an empty word from the others.
  start := by
    intro first
    obtain ⟨back, parts⟩ := List.head?_eq_some_iff.mp first
    have parted : oneLine cs = [] ++ ' ' :: back := parts
    have pieces : words cs = [] :: back.splitOn ' ' := words_eq_of_oneLine_eq parted
    exact ne_nil_of_mem_words (pieces ▸ List.mem_cons_self) rfl
  single := by
    rintro ⟨front, back, parts⟩
    have pieces : words cs = front.splitOn ' ' ++ [] :: back.splitOn ' ' := by
      rw [words_eq_of_oneLine_eq (by rw [← parts, List.append_assoc]; rfl)]
      exact congrArg _ (List.splitOn_append_cons_self [] back)
    exact ne_nil_of_mem_words (pieces ▸ List.mem_append_right _ List.mem_cons_self) rfl

theorem IsOneLine.take (shape : IsOneLine line) (limit : Nat) : IsOneLine (line.take limit) where
  blanks c member := shape.blanks c (List.mem_of_mem_take member)
  start := by
    rw [List.head?_take]
    split
    · simp
    · exact shape.start
  single doubled := shape.single (doubled.trans (List.take_prefix limit line).isInfix)

theorem IsOneLine.concat (shape : IsOneLine line) (solid : isBlank c = false) :
    IsOneLine (line ++ [c]) := by
  have other : c ≠ ' ' := by
    rintro rfl
    exact absurd solid (by decide)
  constructor
  case blanks =>
    intro d member blank
    rcases List.mem_append.mp member with inside | last
    · exact shape.blanks d inside blank
    · rw [List.mem_singleton.mp last, solid] at blank
      cases blank
  case start =>
    cases line with
    | nil => simpa using other
    | cons d rest => exact shape.start
  case single =>
    intro doubled
    rcases List.infix_concat_iff.mp doubled with last | inside
    · rcases List.suffix_concat_iff.mp last with empty | ⟨front, split, -⟩
      · cases empty
      · exact other (by simpa using congrArg List.getLast? split.symm)
    · exact shape.single inside

theorem IsOneLine.cut (shape : IsOneLine line) (limit : Nat) : IsOneLine (cut limit line) := by
  unfold Text.cut
  split
  · exact shape
  · exact (shape.take limit).concat (c := '…') (by decide)

theorem length_cut_le (limit : Nat) (line : List Char) : (cut limit line).length ≤ limit + 1 := by
  unfold cut
  split
  · omega
  · rw [List.length_append, List.length_take, List.length_singleton]
    omega

theorem IsOneLine.disjoint_lineEnds (shape : IsOneLine line) : lineEnds.Disjoint line := by
  intro c ends member
  have kinds : lineEnds.all (fun c => isBlank c && c != ' ') = true := by decide
  obtain ⟨blank, other⟩ := Bool.and_eq_true_iff.mp (List.all_eq_true.mp kinds c ends)
  exact bne_iff_ne.mp other (shape.blanks c member blank)

/-- A preview is the words of a text with single spaces between them, whole if that is no more than
`limit` characters, and otherwise the first `limit` of them and an ellipsis. So it stands on one line, has
no space in front and no two in a row, and at most one character more than asked for. -/
theorem preview_exact (text : String) (limit : Nat) :
    (preview text limit).toList =
      (if (oneLine text.toList).length ≤ limit then oneLine text.toList
        else (oneLine text.toList).take limit ++ ['…']) ∧
    lineEnds.Disjoint (preview text limit).toList ∧
    IsOneLine (preview text limit).toList ∧
    (preview text limit).length ≤ limit + 1 := by
  have shown := toList_preview text limit
  have shape : IsOneLine (preview text limit).toList :=
    shown ▸ (isOneLine_oneLine text.toList).cut limit
  refine ⟨shown, shape.disjoint_lineEnds, shape, ?_⟩
  rw [← String.length_toList, shown]
  exact length_cut_le limit _

-- Where the room ends behind a space, the space is still shown.
example : preview " rule\n\x7b" 5 = "rule …" := by decide

end RuleSmith.Text
