import Mathlib.Tactic.SplitIfs
import RuleSmith.Files.Tree
import RuleSmith.Proofs.Files.Path

namespace RuleSmith.Files.FileTree

variable {tree other third : FileTree}

/-! ## Trees with the same directories and more -/

structure DirectoriesIn (tree other : FileTree) : Prop where
  workingDirectory : other.workingDirectory = tree.workingDirectory
  guarded : other.guarded = tree.guarded
  directory : ∀ {location}, tree.entryAt? location = some .directory →
    other.entryAt? location = some .directory

/-- Whether a tree differs from another in nothing but further directories. -/
structure AddsDirectories (tree other : FileTree) : Prop where
  workingDirectory : other.workingDirectory = tree.workingDirectory
  guarded : other.guarded = tree.guarded
  entry : ∀ location, other.entryAt? location = tree.entryAt? location ∨
    (tree.entryAt? location = none ∧ other.entryAt? location = some .directory)

theorem AddsDirectories.refl (tree : FileTree) : AddsDirectories tree tree :=
  ⟨rfl, rfl, fun _ => Or.inl rfl⟩

theorem AddsDirectories.trans (h : AddsDirectories tree other) (h' : AddsDirectories other third) :
    AddsDirectories tree third := by
  refine ⟨h'.workingDirectory.trans h.workingDirectory, h'.guarded.trans h.guarded,
    fun location => ?_⟩
  rcases h.entry location with same | ⟨free, made⟩ <;>
    rcases h'.entry location with same' | ⟨free', made'⟩ <;> simp_all

theorem AddsDirectories.directoriesIn (h : AddsDirectories tree other) : DirectoriesIn tree other := by
  refine ⟨h.workingDirectory, h.guarded, fun {location} directory => ?_⟩
  rcases h.entry location with same | ⟨free, made⟩
  · rw [same, directory]
  · exact made

theorem entryAt?_start {location : Location}
    (h : location.isPrefixOf tree.workingDirectory = true) :
    tree.entryAt? location = some .directory := by
  simp [entryAt?, h]

theorem entryAt?_put {location : Location} (free : tree.entryAt? location ≠ some .directory)
    (entry : Entry) (place : Location) :
    (tree.put location entry).entryAt? place =
      if place = location then some entry else tree.entryAt? place := by
  have apart : ¬ location.isPrefixOf tree.workingDirectory = true :=
    fun above => free (entryAt?_start above)
  by_cases same : place = location
  · subst same
    simp [entryAt?, put, apart]
  · simp [entryAt?, put, InsertionMap.get?_insert, same, Ne.symm same]

def content? (tree : FileTree) (location : Location) : Option (List UInt8) :=
  match tree.entryAt? location with
  | some (.file content) => some content
  | _ => none

theorem content?_put {location : Location} (free : tree.entryAt? location ≠ some .directory)
    (content : List UInt8) (place : Location) :
    (tree.put location (.file content)).content? place =
      if place = location then some content else tree.content? place := by
  unfold content?
  rw [entryAt?_put free]
  by_cases same : place = location
  · simp only [if_pos same]
  · simp only [if_neg same]

theorem AddsDirectories.content? (h : AddsDirectories tree other) (location : Location) :
    other.content? location = tree.content? location := by
  unfold FileTree.content?
  rcases h.entry location with same | ⟨free, made⟩
  · rw [same]
  · rw [free, made]

theorem directoriesIn_put {location : Location} (free : tree.entryAt? location ≠ some .directory)
    (entry : Entry) : DirectoriesIn tree (tree.put location entry) := by
  refine ⟨rfl, rfl, fun {place} directory => ?_⟩
  have apart : place ≠ location := by
    rintro rfl
    exact free directory
  rw [entryAt?_put free, if_neg apart, directory]

theorem addsDirectories_put {location : Location} (free : tree.entryAt? location = none) :
    AddsDirectories tree (tree.put location .directory) := by
  refine ⟨rfl, rfl, fun place => ?_⟩
  rw [entryAt?_put (by simp [free])]
  split
  · rename_i same
    exact Or.inr ⟨same ▸ free, rfl⟩
  · exact Or.inl rfl

/-! ## Following paths -/

theorem DirectoriesIn.start (h : DirectoriesIn tree other) (absolute : Bool) :
    other.start absolute = tree.start absolute := by
  simp [FileTree.start, h.workingDirectory]

theorem DirectoriesIn.enter (h : DirectoriesIn tree other) {here location : Location}
    {steps : List Step} (entered : tree.enter here steps = .ok location) :
    other.enter here steps = .ok location := by
  induction steps generalizing here with
  | nil => exact entered
  | cons step rest ih =>
    cases step with
    | up => exact ih entered
    | name name =>
      simp only [FileTree.enter] at entered ⊢
      split at entered
      · cases entered
      · rename_i short
        rw [if_neg short]
        split at entered
        · cases entered
        · cases entered
        · rename_i directory
          rw [h.directory directory]
          exact ih entered

theorem enter_append (here : Location) (front back : List Step) :
    tree.enter here (front ++ back) =
      match tree.enter here front with
      | .ok location => tree.enter location back
      | .error error => .error error := by
  induction front generalizing here with
  | nil => rfl
  | cons step rest ih =>
    cases step with
    | up => exact ih here.dropLast
    | name name =>
      simp only [List.cons_append, FileTree.enter]
      split
      · rfl
      · split
        · rfl
        · rfl
        · exact ih _

theorem DirectoriesIn.follow (h : DirectoriesIn tree other) {path : Path} {location : Location}
    (followed : tree.follow path = .ok location) : other.follow path = .ok location := by
  unfold FileTree.follow at followed ⊢
  split at followed
  · cases followed
  · rename_i here entered
    rw [h.start, h.enter entered]
    exact followed

def leads (tree : FileTree) (text : String) : Except FileError Location :=
  tree.enter (tree.start (Path.ofString text).absolute) (Path.ofString text).steps

theorem DirectoriesIn.leads (h : DirectoriesIn tree other) {text : String} {location : Location}
    (led : tree.leads text = .ok location) : other.leads text = .ok location := by
  rw [FileTree.leads, h.start]
  exact h.enter led

theorem hasDirectory_ofString {text : String} :
    tree.hasDirectory (.ofString text) = true ↔
      ∃ home, tree.leads text = .ok home ∧ tree.entryAt? home = some .directory := by
  unfold hasDirectory follow leads Path.passage Path.last?
  by_cases inside : (Path.ofString text).ending = .inside
  · simp only [inside, if_true]
    cases tree.enter (tree.start (Path.ofString text).absolute) (Path.ofString text).steps <;> simp
  · obtain ⟨front, name, steps⟩ := Path.getLast_steps inside
    simp only [inside, if_false, steps, List.dropLast_concat, List.getLast?_concat, enter_append]
    cases tree.enter (tree.start (Path.ofString text).absolute) front with
    | error error => simp
    | ok here =>
      simp only [enter]
      by_cases long : maxName < name.utf8ByteSize
      · simp [long]
      · simp only [long, if_false]
        rcases found : tree.entryAt? (here ++ [name]) with _ | _ | content <;> simp [found]

/-! ## Making directories -/

theorem makeDirectory_ok {path : Path} (made : tree.makeDirectory path = .ok other) :
    AddsDirectories tree other ∧ other.hasDirectory path = true := by
  unfold makeDirectory at made
  split at made
  · cases made
  · rename_i location followed
    split_ifs at made with taken
    · cases made
      have free : tree.entryAt? location = none := by simpa using taken
      have adds := addsDirectories_put free
      refine ⟨adds, ?_⟩
      rw [hasDirectory, adds.directoriesIn.follow followed]
      exact decide_eq_true (by rw [entryAt?_put (by simp [free]), if_pos rfl])

theorem makePath_closed {R : FileTree → FileTree → Prop} {paths : List Path}
    (refl : ∀ tree, R tree tree) (trans : ∀ {tree other third}, R tree other → R other third →
      R tree third)
    (step : ∀ {tree other path}, path ∈ paths → tree.makeDirectory path = .ok other → R tree other)
    (tree : FileTree) : R tree (tree.makePath paths).2 := by
  induction paths generalizing tree with
  | nil => exact refl tree
  | cons path above ih =>
    simp only [makePath]
    split
    · rename_i made
      exact step List.mem_cons_self made
    · have closed := ih (fun member => step (List.mem_cons_of_mem path member)) tree
      split
      · rename_i error left eq
        rwa [eq] at closed
      · rename_i done left eq
        rw [eq] at closed
        split
        · rename_i made
          exact trans closed (step List.mem_cons_self made)
        · split <;> exact closed
    · split <;> exact refl tree

theorem makePath_adds (tree : FileTree) (paths : List Path) :
    AddsDirectories tree (tree.makePath paths).2 :=
  makePath_closed .refl .trans (fun _ made => (makeDirectory_ok made).1) tree

theorem makePath_ok {path : Path} {above : List Path}
    (made : (tree.makePath (path :: above)).1 = .ok ()) :
    (tree.makePath (path :: above)).2.hasDirectory path = true := by
  simp only [makePath] at made ⊢
  split
  · rename_i found
    exact (makeDirectory_ok found).2
  · split
    · rename_i first _ error left eq
      simp [first, eq] at made
    · split
      · rename_i found
        exact (makeDirectory_ok found).2
      · split
        · assumption
        · simp_all
  · split
    · assumption
    · simp_all

theorem makeDirectories_adds (tree : FileTree) (text : String) :
    AddsDirectories tree (tree.makeDirectories text).2 := by
  unfold makeDirectories
  split
  · exact .refl tree
  · split
    · exact .refl tree
    · exact makePath_adds tree _

theorem makeDirectories_ok {text : String} (made : (tree.makeDirectories text).1 = .ok ()) :
    text.toList = [] ∨
      refusedSpelling text = none ∧
        (tree.makeDirectories text).2.hasDirectory (.ofString text) = true := by
  unfold makeDirectories at made ⊢
  split
  · exact Or.inl ‹_›
  · rename_i nonempty
    rw [if_neg nonempty] at made
    split
    · simp_all
    · rename_i spelled
      simp only [spelled] at made
      exact Or.inr ⟨spelled, makePath_ok made⟩

structure Writable (tree : FileTree) (location : Location) : Prop where
  free : tree.entryAt? location ≠ some .directory
  unguarded : tree.guarded.contains location = false

theorem Writable.put {location place : Location} (h : tree.Writable place)
    (free : tree.entryAt? location ≠ some .directory) (content : List UInt8) :
    (tree.put location (.file content)).Writable place := by
  refine ⟨?_, h.unguarded⟩
  rw [entryAt?_put free]
  split
  · simp
  · exact h.free

theorem write_ok {path : String} {content : List UInt8}
    (written : tree.write path content = .ok other) :
    ∃ location, other.resolve path = .ok location ∧ (Path.ofString path).ending = .name ∧
      tree.Writable location ∧ other = tree.put location (.file content) := by
  unfold write at written
  split at written
  · cases written
  · rename_i spelled
    simp only at written
    split at written
    · cases written
    · rename_i here entered
      split at written
      · rename_i name ending last
        split_ifs at written with long directory guard
        cases written
        have writable : tree.Writable (here ++ [name]) := ⟨directory, by simpa using guard⟩
        refine ⟨here ++ [name], ?_, ending, writable, rfl⟩
        have followed : tree.follow (.ofString path) = .ok (here ++ [name]) := by
          simp only [follow, entered, last, if_neg long]
        simp only [resolve, spelled, (directoriesIn_put writable.free _).follow followed]
      · cases written

theorem read_of_write {path : String} {content : List UInt8}
    (written : tree.write path content = .ok other) : other.read path = .ok content := by
  obtain ⟨location, resolved, ending, writable, rfl⟩ := write_ok written
  rw [read, resolved]
  simp only [entryAt?_put writable.free, if_true, ending]

/-! ## Files in a directory -/

def joinFault (directory file : String) : Option FileError :=
  (refusedSpelling (join directory file)).or
    (if maxName < file.utf8ByteSize then some .nameTooLong else none)

variable {directory file : String} {home : Location}

theorem resolve_join (names : NamesFile file) (led : tree.leads directory = .ok home) :
    tree.resolve (join directory file) =
      match joinFault directory file with
      | some error => .error error
      | none => .ok (home ++ [file]) := by
  unfold resolve joinFault
  cases refusedSpelling (join directory file) with
  | some error => rfl
  | none =>
    unfold leads at led
    simp only [follow, Path.ofString_join names, Path.passage, Path.last?, reduceCtorEq, if_false,
      List.dropLast_concat, List.getLast?_concat, led, Option.none_or]
    split <;> rfl

theorem write_join (names : NamesFile file) (led : tree.leads directory = .ok home)
    (content : List UInt8) :
    tree.write (join directory file) content =
      match joinFault directory file with
      | some error => .error error
      | none =>
        if tree.entryAt? (home ++ [file]) = some .directory then .error .isDirectory
        else if tree.guarded.contains (home ++ [file]) then .error .denied
        else .ok (tree.put (home ++ [file]) (.file content)) := by
  unfold write joinFault
  cases refusedSpelling (join directory file) with
  | some error => rfl
  | none =>
    unfold leads at led
    simp only [Path.ofString_join names, Path.passage, Path.last?, reduceCtorEq, if_false,
      List.dropLast_concat, List.getLast?_concat, led, Option.none_or]
    split <;> rfl

theorem write_join_ok (names : NamesFile file) (led : tree.leads directory = .ok home)
    {content : List UInt8} (written : tree.write (join directory file) content = .ok other) :
    joinFault directory file = none ∧ tree.Writable (home ++ [file]) ∧
      other = tree.put (home ++ [file]) (.file content) := by
  rw [write_join names led] at written
  cases fault : joinFault directory file with
  | some error =>
    rw [fault] at written
    cases written
  | none =>
    rw [fault] at written
    simp only at written
    split_ifs at written with directory guard
    cases written
    exact ⟨rfl, ⟨directory, by simpa using guard⟩, rfl⟩

theorem read_join (names : NamesFile file) (led : tree.leads directory = .ok home)
    (sound : joinFault directory file = none) {content : List UInt8}
    (stored : tree.content? (home ++ [file]) = some content) :
    tree.read (join directory file) = .ok content := by
  have there : tree.entryAt? (home ++ [file]) = some (.file content) := by
    unfold content? at stored
    split at stored
    · cases stored
      assumption
    · cases stored
  rw [read, resolve_join names led, Path.ofString_join names, sound]
  simp only [there, if_true]

end RuleSmith.Files.FileTree
