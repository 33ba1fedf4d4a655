import RuleSmith.Proofs.Files.Tree

namespace RuleSmith.Files.FileTree

variable {tree other third : FileTree} {changed changed' : Location → Prop}

/-- Whether a tree differs from another in nothing but some places and further directories, and has
all its directories. -/
structure ChangesOnly (changed : Location → Prop) (tree other : FileTree) : Prop where
  directoriesIn : DirectoriesIn tree other
  entry : ∀ location, ¬ changed location → other.entryAt? location = tree.entryAt? location ∨
    (tree.entryAt? location = none ∧ other.entryAt? location = some .directory)

theorem AddsDirectories.changesOnly (h : AddsDirectories tree other) (changed : Location → Prop) :
    ChangesOnly changed tree other :=
  ⟨h.directoriesIn, fun location _ => h.entry location⟩

theorem ChangesOnly.mono (h : ChangesOnly changed tree other)
    (wider : ∀ location, changed location → changed' location) : ChangesOnly changed' tree other :=
  ⟨h.directoriesIn, fun location untouched => h.entry location fun touched =>
    untouched (wider location touched)⟩

theorem DirectoriesIn.refl (tree : FileTree) : DirectoriesIn tree tree := ⟨rfl, rfl, id⟩

theorem DirectoriesIn.trans (h : DirectoriesIn tree other) (h' : DirectoriesIn other third) :
    DirectoriesIn tree third :=
  ⟨h'.workingDirectory.trans h.workingDirectory, h'.guarded.trans h.guarded,
    fun directory => h'.directory (h.directory directory)⟩

theorem ChangesOnly.trans (h : ChangesOnly changed tree other) (h' : ChangesOnly changed other third) :
    ChangesOnly changed tree third := by
  refine ⟨h.directoriesIn.trans h'.directoriesIn, fun location untouched => ?_⟩
  rcases h.entry location untouched with same | ⟨free, made⟩ <;>
    rcases h'.entry location untouched with same' | ⟨free', made'⟩ <;> simp_all

theorem changesOnly_put {location : Location} (free : tree.entryAt? location ≠ some .directory)
    (content : List UInt8) : ChangesOnly (· = location) tree (tree.put location (.file content)) := by
  refine ⟨directoriesIn_put free _, fun place apart => Or.inl ?_⟩
  rw [entryAt?_put free, if_neg apart]

theorem ChangesOnly.content? (h : ChangesOnly changed tree other) {location : Location}
    (untouched : ¬ changed location) : other.content? location = tree.content? location := by
  unfold FileTree.content?
  rcases h.entry location untouched with same | ⟨free, made⟩
  · rw [same]
  · rw [free, made]

theorem content?_bare (workingDirectory location : Location) :
    (bare workingDirectory).content? location = none := by
  have nothing : (bare workingDirectory).entries.get? location = none := rfl
  rw [FileTree.content?, entryAt?, nothing]
  by_cases above : location.isPrefixOf (bare workingDirectory).workingDirectory = true
  · rw [if_pos above]
  · rw [if_neg above]

def walk (here : Location) : List Step → Location
  | [] => here
  | .up :: rest => walk here.dropLast rest
  | .name name :: rest => walk (here ++ [name]) rest

theorem enter_eq_walk {here location : Location} {steps : List Step}
    (entered : tree.enter here steps = .ok location) : location = walk here steps := by
  induction steps generalizing here with
  | nil => exact (Except.ok.inj entered).symm
  | cons step rest ih =>
    cases step with
    | up => exact ih entered
    | name name =>
      unfold enter at entered
      split at entered
      · cases entered
      · split at entered
        · cases entered
        · cases entered
        · exact ih entered

/-- Where a path leads is read off its spelling; the tree only lets it pass or not. -/
theorem enter_unique {here location location' : Location} {steps : List Step}
    (entered : tree.enter here steps = .ok location)
    (entered' : other.enter here steps = .ok location') : location = location' := by
  rw [enter_eq_walk entered, enter_eq_walk entered']

theorem leads_unique {text : String} {location location' : Location}
    (same : tree.workingDirectory = other.workingDirectory) (led : tree.leads text = .ok location)
    (led' : other.leads text = .ok location') : location = location' := by
  unfold leads start at led led'
  rw [← same] at led'
  exact enter_unique led led'

theorem content?_eq_some_iff {location : Location} {content : List UInt8} :
    tree.content? location = some content ↔ tree.entryAt? location = some (.file content) := by
  unfold FileTree.content?
  split <;> simp_all

theorem resolve_join_ok {directory file : String} {location : Location} (names : NamesFile file)
    (found : tree.resolve (join directory file) = .ok location) :
    ∃ home, tree.leads directory = .ok home ∧ joinFault directory file = none ∧
      location = home ++ [file] := by
  cases led : tree.leads directory with
  | error error =>
    unfold leads at led
    simp only [resolve, follow, Path.ofString_join names, Path.passage, reduceCtorEq, if_false,
      List.dropLast_concat, led] at found
    split at found <;> cases found
  | ok home =>
    rw [resolve_join names led] at found
    cases fault : joinFault directory file with
    | some error =>
      rw [fault] at found
      cases found
    | none =>
      rw [fault] at found
      exact ⟨home, rfl, rfl, (Except.ok.inj found).symm⟩

theorem read_join_ok {directory file : String} {content : List UInt8} (names : NamesFile file)
    (found : tree.read (join directory file) = .ok content) :
    ∃ home, tree.leads directory = .ok home ∧ joinFault directory file = none ∧
      tree.content? (home ++ [file]) = some content := by
  unfold read at found
  split at found
  · cases found
  · rename_i location resolved
    obtain ⟨home, led, fits, rfl⟩ := resolve_join_ok names resolved
    refine ⟨home, led, fits, content?_eq_some_iff.mpr ?_⟩
    rw [Path.ofString_join names] at found
    split at found <;> cases found
    assumption

theorem read_join_plain {directory file : String} {content : List UInt8} (slash : '/' ∉ file.toList)
    (found : tree.read (join directory file) = .ok content) :
    ∃ home, tree.leads directory = .ok home ∧ tree.content? (home ++ [file]) = some content := by
  have ending : (Path.ofString (join directory file)).ending = .name := by
    unfold read at found
    split at found
    · cases found
    · split at found
      · cases found
      · cases found
      · split at found
        · assumption
        · cases found
  obtain ⟨home, led, -, stands⟩ := read_join_ok (.of_ending slash ending) found
  exact ⟨home, led, stands⟩

theorem isFile_eq_isSome (tree : FileTree) (path : String) :
    tree.isFile path = (tree.read path).toOption.isSome := by
  unfold isFile read
  cases tree.resolve path with
  | error error => rfl
  | ok location =>
    rcases found : tree.entryAt? location with _ | _ | content <;> simp only [found]
    · rfl
    · rfl
    · by_cases ending : (Path.ofString path).ending = .name <;> simp [ending, Except.toOption]

theorem ChangesOnly.read_join (h : ChangesOnly changed tree other) {directory file : String}
    {content : List UInt8} (names : NamesFile file)
    (untouched : ∀ home, tree.leads directory = .ok home → ¬ changed (home ++ [file]))
    (found : tree.read (join directory file) = .ok content) :
    other.read (join directory file) = .ok content := by
  obtain ⟨home, led, fits, there⟩ := read_join_ok names found
  apply FileTree.read_join names (h.directoriesIn.leads led) fits
  rw [h.content? (untouched home led), there]

end RuleSmith.Files.FileTree
