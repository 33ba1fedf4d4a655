import RuleSmith.Text.Class

namespace RuleSmith.Text

structure Cursor where
  before : List Char
  after : List Char
deriving DecidableEq

def Cursor.isBoundary (cursor : Cursor) : Bool :=
  cursor.before.head?.any isWord != cursor.after.head?.any isWord

inductive Regex
  | one (accepts : Char → Bool)
  | concat (left right : Regex)
  | star (inner : Regex)
  | boundary

namespace Regex

/-- Where the matches from a place on end, in the order in which they are tried. A repetition is not
tried once more where it would match nothing. -/
def ends : Regex → Cursor → List Cursor
  | one accepts, cursor =>
    match cursor.after with
    | [] => []
    | c :: rest => if accepts c then [⟨c :: cursor.before, rest⟩] else []
  | concat left right, cursor => (ends left cursor).flatMap (ends right)
  | star inner, cursor =>
    (ends inner cursor).flatMap (fun next =>
      if next.after.length < cursor.after.length then ends (star inner) next else []) ++ [cursor]
  | boundary, cursor => if cursor.isBoundary then [cursor] else []
termination_by expression cursor => (sizeOf expression, cursor.after.length)

/-- The places between which an expression matches, from a place on. Right behind a match, an empty
match does not count. -/
def findFrom (expression : Regex) (behind : Bool) (cursor : Cursor) : List (Nat × Nat) :=
  let onward :=
    match _h : cursor.after with
    | [] => []
    | c :: rest => findFrom expression false ⟨c :: cursor.before, rest⟩
  match (expression.ends cursor).head? with
  | none => onward
  | some stop =>
    if stop.after.length < cursor.after.length then
      (cursor.before.length, stop.before.length) :: findFrom expression true stop
    else if behind then onward
    else (cursor.before.length, cursor.before.length) :: onward
termination_by cursor.after.length
decreasing_by
  all_goals simp_all

def findAll (expression : Regex) (text : List Char) : List (Nat × Nat) :=
  findFrom expression false ⟨[], text⟩

variable {accepts : Char → Bool} {before rest : List Char} {c : Char}

@[simp] theorem ends_one_nil : ends (one accepts) ⟨before, []⟩ = [] := by rw [ends]

@[simp] theorem ends_one_cons :
    ends (one accepts) ⟨before, c :: rest⟩ = if accepts c then [⟨c :: before, rest⟩] else [] := by
  rw [ends]

@[simp] theorem ends_concat (left right : Regex) (cursor : Cursor) :
    ends (concat left right) cursor = (ends left cursor).flatMap (ends right) := by rw [ends]

@[simp] theorem ends_boundary (cursor : Cursor) :
    ends boundary cursor = if cursor.isBoundary then [cursor] else [] := by rw [ends]

@[simp] theorem ends_star_one_nil :
    ends (star (one accepts)) ⟨before, []⟩ = [⟨before, []⟩] := by
  rw [ends, ends_one_nil]
  rfl

theorem ends_star_one_cons :
    ends (star (one accepts)) ⟨before, c :: rest⟩ =
      (if accepts c then ends (star (one accepts)) ⟨c :: before, rest⟩ else [])
        ++ [⟨before, c :: rest⟩] := by
  rw [ends, ends_one_cons]
  by_cases accepted : accepts c = true <;> simp [accepted]

end Regex
end RuleSmith.Text
