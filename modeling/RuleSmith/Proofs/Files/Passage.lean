import Mathlib.Data.List.Basic
import RuleSmith.Proofs.Files.Frame

namespace RuleSmith.Files.FileTree

variable {tree other : FileTree}

theorem walk_append (here : Location) (front back : List Step) :
    walk here (front ++ back) = walk (walk here front) back := by
  induction front generalizing here with
  | nil => rfl
  | cons step rest ih => cases step <;> exact ih _

/-- Whether a path goes through a location or ends there. -/
def OnPath (tree : FileTree) (path : Path) (location : Location) : Prop :=
  ∃ front, front <+: path.steps ∧ location = walk (tree.start path.absolute) front

theorem passage_prefix (path : Path) : path.passage <+: path.steps := by
  unfold Path.passage
  split
  · exact List.prefix_rfl
  · exact List.dropLast_prefix _

theorem steps_of_last? {path : Path} {name : String} (last : path.last? = some name) :
    path.steps = path.passage ++ [.name name] := by
  unfold Path.last? at last
  unfold Path.passage
  split at last
  · cases last
  · rename_i outside
    rw [if_neg outside]
    split at last
    · rename_i found
      cases last
      exact (List.dropLast_append_getLast? _ found).symm
    · cases last

theorem follow_onPath {path : Path} {location : Location} (followed : tree.follow path = .ok location) :
    tree.OnPath path location := by
  unfold follow at followed
  split at followed
  · cases followed
  · rename_i here entered
    obtain rfl := enter_eq_walk entered
    split at followed
    · cases followed
      exact ⟨_, passage_prefix path, rfl⟩
    · rename_i name last
      split at followed
      · cases followed
      · cases followed
        refine ⟨path.steps, List.prefix_rfl, ?_⟩
        rw [steps_of_last? last, walk_append]
        rfl

structure ChangesOn (path : Path) (tree other : FileTree) : Prop where
  workingDirectory : other.workingDirectory = tree.workingDirectory
  onPath : ∀ location, other.entryAt? location ≠ tree.entryAt? location → tree.OnPath path location

theorem ChangesOn.refl (path : Path) (tree : FileTree) : ChangesOn path tree tree :=
  ⟨rfl, fun _ changed => absurd rfl changed⟩

theorem onPath_congr {path : Path} {location : Location}
    (same : other.workingDirectory = tree.workingDirectory) :
    other.OnPath path location ↔ tree.OnPath path location := by
  unfold OnPath start
  rw [same]

theorem ChangesOn.trans {path : Path} {third : FileTree} (h : ChangesOn path tree other)
    (h' : ChangesOn path other third) : ChangesOn path tree third := by
  refine ⟨h'.workingDirectory.trans h.workingDirectory, fun location changed => ?_⟩
  by_cases same : other.entryAt? location = tree.entryAt? location
  · exact (onPath_congr h.workingDirectory).mp (h'.onPath location (same ▸ changed))
  · exact h.onPath location same

theorem makeDirectory_onPath {path above : Path} (same : above.absolute = path.absolute)
    (front : above.steps <+: path.steps) (made : tree.makeDirectory above = .ok other) :
    ChangesOn path tree other := by
  unfold makeDirectory at made
  split at made
  · cases made
  · rename_i location followed
    split_ifs at made with taken
    cases made
    refine ⟨rfl, fun place changed => ?_⟩
    rw [entryAt?_put fun stands => taken (by simp [stands])] at changed
    split at changed
    · rename_i here
      obtain ⟨steps, inside, led⟩ := follow_onPath followed
      exact ⟨steps, inside.trans front, here.trans (same ▸ led)⟩
    · exact absurd rfl changed

theorem prefix_of_mem_withAncestors {path above : Path} (member : above ∈ path.withAncestors) :
    above.absolute = path.absolute ∧ above.steps <+: path.steps := by
  rcases List.mem_cons.mp member with rfl | later
  · exact ⟨rfl, List.prefix_rfl⟩
  · obtain ⟨steps, among, rfl⟩ := List.mem_map.mp later
    obtain ⟨size, -, rfl⟩ := List.mem_map.mp (List.mem_filter.mp among).1
    exact ⟨rfl, List.take_prefix size path.steps⟩

theorem makeDirectories_onPath (tree : FileTree) (text : String) :
    ChangesOn (.ofString text) tree (tree.makeDirectories text).2 := by
  unfold makeDirectories
  split
  · exact .refl _ tree
  · split
    · exact .refl _ tree
    · refine makePath_closed (.refl _) .trans (fun member made => ?_) tree
      obtain ⟨same, front⟩ := prefix_of_mem_withAncestors member
      exact makeDirectory_onPath same front made

end RuleSmith.Files.FileTree
