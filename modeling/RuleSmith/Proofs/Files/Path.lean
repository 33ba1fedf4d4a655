import RuleSmith.Files.Path

namespace RuleSmith.Files

/-- Whether a text names a file in a directory: it has no slash, and it is neither empty nor a dot or
two. -/
structure NamesFile (file : String) : Prop where
  no_slash : '/' ∉ file.toList
  is_name : Step.ofSegment file.toList = some (.name file)

theorem NamesFile.of_ne {file : String} (slash : '/' ∉ file.toList) (empty : file.toList ≠ [])
    (dot : file.toList ≠ ['.']) (dots : file.toList ≠ ['.', '.']) : NamesFile file where
  no_slash := slash
  is_name := by simp [Step.ofSegment, empty, dot, dots]

theorem head_ne_slash {file : String} (slash : '/' ∉ file.toList) : file.toList.head? ≠ some '/' :=
  fun head => slash (List.mem_of_head? head)

theorem NamesFile.head_ne {file : String} (h : NamesFile file) : file.toList.head? ≠ some '/' :=
  head_ne_slash h.no_slash

theorem segments_plain {file : String} (slash : '/' ∉ file.toList) : segments file = [file.toList] :=
  List.splitOn_eq_singleton slash

theorem segments_join {inside : String} (relative : inside.toList.head? ≠ some '/')
    (directory : String) :
    ∃ parts, segments (join directory inside) = parts ++ segments inside ∧
      parts.filterMap Step.ofSegment = (Path.ofString directory).steps := by
  rw [join, if_neg relative]
  by_cases empty : directory.toList = []
  · refine ⟨[], ?_, ?_⟩
    · simp [segments, empty]
    · simp [Path.ofString, segments, empty, Step.ofSegment]
  by_cases closed : directory.toList.getLast? = some '/'
  · obtain ⟨front, eq⟩ := List.getLast?_eq_some_iff.mp closed
    refine ⟨front.splitOn '/', ?_, ?_⟩
    · rw [if_pos (Or.inr closed), segments, String.toList_append, eq, List.append_assoc,
        List.singleton_append, List.splitOn_append_cons_self, segments]
    · simp [Path.ofString, segments, eq, List.splitOn_append_cons_self, Step.ofSegment]
  · refine ⟨segments directory, ?_, rfl⟩
    rw [if_neg (by simp [empty, closed])]
    simp [segments, List.splitOn_append_cons_self]

theorem exists_join (directory : String) :
    ∃ front, ∀ file, NamesFile file → join directory file = front ++ file := by
  by_cases closed : directory.toList = [] ∨ directory.toList.getLast? = some '/'
  · exact ⟨directory, fun file h => by rw [join, if_neg h.head_ne, if_pos closed]⟩
  · exact ⟨directory ++ "/", fun file h => by rw [join, if_neg h.head_ne, if_neg closed]⟩

theorem head_join {inside : String} (relative : inside.toList.head? ≠ some '/') (directory : String) :
    ((join directory inside).toList.head? = some '/') ↔ (directory.toList.head? = some '/') := by
  have empty : (directory ++ inside).toList.head? = some '/' ↔ directory.toList.head? = some '/' := by
    cases eq : directory.toList with
    | nil => simp [eq, relative]
    | cons c rest => simp [eq]
  rw [join, if_neg relative]
  split
  · exact empty
  · cases eq : directory.toList with
    | nil => simp_all
    | cons c rest => simp [eq]

theorem Path.steps_join {inside : String} (relative : inside.toList.head? ≠ some '/')
    (directory : String) :
    (Path.ofString (join directory inside)).absolute = (Path.ofString directory).absolute ∧
      (Path.ofString (join directory inside)).steps =
        (Path.ofString directory).steps ++ (Path.ofString inside).steps := by
  obtain ⟨parts, eq, steps⟩ := segments_join relative directory
  refine ⟨decide_eq_decide.mpr (head_join relative directory), ?_⟩
  simp only [Path.ofString, eq, List.filterMap_append] at steps ⊢
  rw [steps]

theorem Path.ofString_join {file : String} (h : NamesFile file) (directory : String) :
    Path.ofString (join directory file) =
      { absolute := (Path.ofString directory).absolute
        steps := (Path.ofString directory).steps ++ [.name file]
        ending := .name } := by
  obtain ⟨parts, eq, -⟩ := segments_join h.head_ne directory
  rw [segments_plain h.no_slash] at eq
  obtain ⟨absolute, steps⟩ := Path.steps_join h.head_ne directory
  have last : Ending.ofSegments (parts ++ [file.toList]) = .name := by
    have is_name := h.is_name
    unfold Step.ofSegment at is_name
    split at is_name
    · cases is_name
    · split at is_name
      · cases is_name
      · simp_all [Ending.ofSegments]
  have own : (Path.ofString file).steps = [.name file] := by
    simp [Path.ofString, segments_plain h.no_slash, h.is_name]
  have ending : (Path.ofString (join directory file)).ending = .name := by
    rw [← last, ← eq]
    rfl
  rw [own] at steps
  rw [← absolute, ← steps, ← ending]

theorem NamesFile.of_ending {directory file : String} (slash : '/' ∉ file.toList)
    (ending : (Path.ofString (join directory file)).ending = .name) : NamesFile file := by
  obtain ⟨parts, eq, -⟩ := segments_join (head_ne_slash slash) directory
  rw [segments_plain slash] at eq
  have last : Ending.ofSegments (parts ++ [file.toList]) = .name := by
    rw [← eq]
    exact ending
  unfold Ending.ofSegments at last
  by_cases empty : file.toList = []
  · split at last
    · cases last
    · rw [List.getLast?_concat, empty, if_pos rfl] at last
      split at last <;> cases last
  · rw [List.reverse_concat, List.dropWhile_cons_of_neg (by simpa using empty)] at last
    simp only at last
    split at last
    · cases last
    · rename_i dots
      exact .of_ne slash empty (fun dot => dots (Or.inl dot)) fun dot => dots (Or.inr dot)

theorem Path.getLast_steps {text : String} (h : (Path.ofString text).ending ≠ .inside) :
    ∃ front name, (Path.ofString text).steps = front ++ [.name name] := by
  simp only [Path.ofString] at h ⊢
  generalize segments text = parts at h ⊢
  unfold Ending.ofSegments at h
  split at h
  · exact absurd rfl h
  · rename_i last front eq
    split at h
    · exact absurd rfl h
    · rename_i real
      have nonempty : last ≠ [] := by
        have := List.head?_dropWhile_not (fun part : List Char => decide (part = [])) parts.reverse
        simpa [eq] using this
      -- The empty parts behind the last slashes are no steps.
      have trailing : (parts.reverse.takeWhile (· = [])).reverse.filterMap Step.ofSegment = [] := by
        rw [List.filterMap_eq_nil_iff]
        intro part member
        have all := List.all_takeWhile (p := fun part : List Char => decide (part = [])) (l := parts.reverse)
        have empty := List.all_eq_true.mp all part (List.mem_reverse.mp member)
        simp [Step.ofSegment, of_decide_eq_true empty]
      have split : parts = front.reverse ++ last :: (parts.reverse.takeWhile (· = [])).reverse := by
        have := congrArg List.reverse
          (List.takeWhile_append_dropWhile (p := fun part : List Char => part = []) (l := parts.reverse))
        rw [eq] at this
        simpa using this.symm
      refine ⟨front.reverse.filterMap Step.ofSegment, String.ofList last, ?_⟩
      rw [split, List.filterMap_append, List.filterMap_cons, trailing]
      rw [not_or] at real
      simp [Step.ofSegment, nonempty, real]

end RuleSmith.Files
