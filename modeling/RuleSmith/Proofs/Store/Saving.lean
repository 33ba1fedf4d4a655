import RuleSmith.Proofs.Files.Frame
import RuleSmith.Proofs.Store

namespace RuleSmith.Store
open Files Text FileTree

variable {ρ : Type} [Storable ρ] {store : Store} {files other : FileTree} {home location : Location}
  {name file path : String} {names : List String} {content : Except Failure (List UInt8)}

def Holds (store : Store) (files : FileTree) (names : List String) (location : Location) : Prop :=
  ∃ home, files.leads store.directory = .ok home ∧ ∃ file ∈ names, location = home ++ [file]

theorem Holds.mono {names' : List String} (h : store.Holds files names location)
    (kept : DirectoriesIn files other) (wider : names ⊆ names') : store.Holds other names' location := by
  obtain ⟨home, leads, file, member, same⟩ := h
  exact ⟨home, kept.leads leads, file, wider member, same⟩

theorem StandsAt.holds_iff (h : store.StandsAt files home) :
    store.Holds files names location ↔ ∃ file ∈ names, location = home ++ [file] := by
  constructor
  · rintro ⟨other, leads, found⟩
    rwa [Except.ok.inj (leads.symm.trans h.leads)] at found
  · exact fun found => ⟨home, h.leads, found⟩

/-- Whether the directory of a store leads to a location if there are directories all the way. -/
def LiesAt (store : Store) (files : FileTree) (home : Location) : Prop :=
  ∃ other : FileTree, other.workingDirectory = files.workingDirectory ∧
    other.leads store.directory = .ok home

theorem LiesAt.of_leads (led : files.leads store.directory = .ok home) : store.LiesAt files home :=
  ⟨files, rfl, led⟩

theorem LiesAt.mono (lies : store.LiesAt files home) (kept : DirectoriesIn files other) :
    store.LiesAt other home := by
  obtain ⟨tree, same, led⟩ := lies
  exact ⟨tree, same.trans kept.workingDirectory.symm, led⟩

theorem LiesAt.eq {home' : Location} (lies : store.LiesAt files home)
    (lies' : store.LiesAt files home') : home = home' := by
  obtain ⟨tree, same, led⟩ := lies
  obtain ⟨tree', same', led'⟩ := lies'
  exact leads_unique (same.trans same'.symm) led led'

/-- Whether no file stands directly where the directory of a store is or would be. -/
def IsEmpty (store : Store) (files : FileTree) : Prop :=
  ∀ home, store.LiesAt files home → ∀ file, files.content? (home ++ [file]) = none

theorem isEmpty_bare (store : Store) (workingDirectory : Location) :
    store.IsEmpty (.bare workingDirectory) := fun _ _ _ => content?_bare workingDirectory _

theorem isEmpty_of_leads (led : files.leads store.directory = .ok home)
    (empty : ∀ file, files.content? (home ++ [file]) = none) : store.IsEmpty files := by
  intro home' lies
  rw [lies.eq (.of_leads led)]
  exact empty

theorem save_refused (invalid : isFileName name = false) (path : String)
    (content : Except Failure (List UInt8)) (files : FileTree) :
    store.save name path content files = (.error (.invalid (.fileName name)), files) := by
  rw [save, if_neg (by simp [invalid])]

theorem save_error_cases {failure : Failure}
    (failed : store.save name path content files = (.error failure, other)) :
    other = files ∨ other = store.opened files := by
  unfold save at failed
  split at failed
  · refine Or.inr ?_
    split at failed <;> rename_i made <;> rw [opened, made]
    · cases failed
      rfl
    · split at failed
      · cases failed
        rfl
      · unfold writeFile at failed
        split at failed <;> cases failed
        rfl
  · cases failed
    exact Or.inl rfl

theorem save_error {failure : Failure}
    (failed : store.save name path content files = (.error failure, other)) :
    AddsDirectories files other := by
  rcases save_error_cases failed with rfl | rfl
  · exact .refl _
  · exact makeDirectory_adds store files

theorem save_stands_at {result : String} (names : NamesFile file)
    (saved : store.save name (join store.directory file) content files = (.ok result, other)) :
    ∃ home checked, store.StandsAt (store.opened files) home ∧ content = .ok checked ∧
      joinFault store.directory file = none ∧ (store.opened files).Writable (home ++ [file]) ∧
      other = (store.opened files).put (home ++ [file]) (.file checked) := by
  obtain ⟨-, made, checked, accepted, written⟩ := save_ok saved
  obtain ⟨home, stands⟩ := standsAt_makeDirectory made
  obtain ⟨fits, writable, same⟩ := write_join_ok names stands.leads written
  exact ⟨home, checked, stands, accepted, fits, writable, same⟩

theorem save_stands {result : String} (names : NamesFile file)
    (saved : store.save name (join store.directory file) content files = (.ok result, other)) :
    ∃ home, store.StandsAt other home ∧ ChangesOnly (· = home ++ [file]) files other := by
  obtain ⟨home, checked, stands, -, -, writable, rfl⟩ := save_stands_at names saved
  exact ⟨home, stands.put writable.free checked,
    ((makeDirectory_adds store files).changesOnly _).trans (changesOnly_put writable.free checked)⟩

theorem save_resolves {result : String}
    (saved : store.save name path content files = (.ok result, other)) :
    ∃ written, other.resolve path = .ok written ∧ ChangesOnly (· = written) files other := by
  obtain ⟨-, -, checked, -, written⟩ := save_ok saved
  obtain ⟨place, leads, -, writable, rfl⟩ := write_ok written
  exact ⟨place, leads,
    ((makeDirectory_adds store files).changesOnly _).trans (changesOnly_put writable.free checked)⟩

theorem LiesAt.content?_save (lies : store.LiesAt files home) {result : String}
    (names : NamesFile file)
    (saved : store.save name (join store.directory file) content files = (.ok result, other)) :
    ∃ checked, content = .ok checked ∧ files.guarded.contains (home ++ [file]) = false ∧
      ∀ place, other.content? place =
        if place = home ++ [file] then some checked else files.content? place := by
  obtain ⟨home', checked, stands, accepted, -, writable, rfl⟩ := save_stands_at names saved
  have adds := makeDirectory_adds store files
  obtain rfl : home = home' := (lies.mono adds.directoriesIn).eq (.of_leads stands.leads)
  have unguarded := writable.unguarded
  rw [Store.opened, adds.guarded] at unguarded
  refine ⟨checked, accepted, unguarded, fun place => ?_⟩
  rw [content?_put writable.free, Store.opened, adds.content?]

theorem StandsAt.content?_of_save_error {failure : Failure} {checked : List UInt8}
    (stands : store.StandsAt files home) (valid : isFileName name = true) (names : NamesFile file)
    (fits : joinFault store.directory file = none)
    (unguarded : files.guarded.contains (home ++ [file]) = false)
    (failed : store.save name (join store.directory file) (.ok checked) files =
      (.error failure, other)) :
    files.content? (home ++ [file]) = none := by
  rw [save_standsAt stands valid names] at failed
  simp only [fits, unguarded, Bool.false_eq_true, if_false] at failed
  split at failed
  · rename_i directory
    rw [FileTree.content?, directory]
  · cases failed

theorem save_changesOnly (names : NamesFile file)
    (saved : (store.save name (join store.directory file) content files).2 = other) :
    ChangesOnly (store.Holds other [file]) files other := by
  rcases result : store.save name (join store.directory file) content files with
    ⟨failure | path, left⟩ <;> rw [result] at saved <;> subst saved
  · exact (save_error result).changesOnly _
  · obtain ⟨home, stands, changes⟩ := save_stands names result
    apply changes.mono
    rintro place rfl
    exact stands.holds_iff.mpr ⟨file, List.mem_singleton_self _, rfl⟩

theorem read_of_save {result : String}
    (saved : store.save name path content files = (.ok result, other)) :
    ∃ checked, content = .ok checked ∧ other.read path = .ok checked := by
  obtain ⟨-, -, checked, accepted, written⟩ := save_ok saved
  exact ⟨checked, accepted, read_of_write written⟩

theorem read_of_saveSource {source : String} {result : String}
    (saved : store.saveSource name (utf8 source) files = (.ok result, other)) :
    other.read (store.sourcePath name) = .ok (utf8 source) := by
  obtain ⟨checked, accepted, found⟩ := read_of_save saved
  rw [found, checkSource_ok accepted]

theorem read_of_saveCompiled {rules : ρ} {result : String}
    (saved : store.saveCompiled name rules files = (.ok result, other)) :
    ∃ content, Storable.toBytes rules = .ok content ∧
      other.read (store.compiledPath name) = .ok content := by
  obtain ⟨content, accepted, found⟩ := read_of_save saved
  exact ⟨content, serialize_ok.mp accepted, found⟩

theorem saveCompiled_unwritable {rules : ρ} {message result : String}
    (saved : store.save name path content files = (.ok result, other))
    (unwritable : Storable.toBytes rules = .error message) :
    store.saveCompiled name rules other =
      (.error (.compiledFormat (.unwritable message)), other) := by
  obtain ⟨valid, made, checked, -, written⟩ := save_ok saved
  obtain ⟨home, stands⟩ := standsAt_makeDirectory made
  obtain ⟨place, -, -, writable, rfl⟩ := write_ok written
  have left : store.StandsAt ((store.opened files).put place (.file checked)) home :=
    stands.put writable.free checked
  rw [saveCompiled, save, if_pos valid, makeDirectory_standsAt left, serialize_error unwritable]

theorem loadCompiled_of_saveCompiled {rules : ρ} {result : String}
    (roundTrips : Storable.RoundTrips ρ)
    (saved : store.saveCompiled name rules files = (.ok result, other)) :
    store.loadCompiled name ρ other = .ok rules := by
  obtain ⟨content, written, found⟩ := read_of_saveCompiled saved
  exact loadCompiled_of_read found (roundTrips rules content written)

theorem read_source_of_saveCompiled {rules : ρ} {content : List UInt8}
    (valid : isFileName name = true) (plain : '/' ∉ store.sourceExtension.toList)
    (plain' : '/' ∉ store.compiledExtension.toList)
    (apart : store.sourceExtension ≠ store.compiledExtension)
    (stored : (store.saveCompiled name rules files).2 = other)
    (found : files.read (store.sourcePath name) = .ok content) :
    other.read (store.sourcePath name) = .ok content := by
  have changes := save_changesOnly (namesFile_append valid plain') stored
  apply changes.read_join (namesFile_append valid plain) _ found
  rintro home led ⟨home', led', file, member, same⟩
  obtain rfl : home' = home :=
    Except.ok.inj (led'.symm.trans (changes.directoriesIn.leads led))
  rw [List.mem_singleton.mp member] at same
  exact apart (by simpa using same)

theorem read_source_of_saves {source path : String} {rules : ρ} {between : FileTree}
    (plain : '/' ∉ store.sourceExtension.toList) (plain' : '/' ∉ store.compiledExtension.toList)
    (apart : store.sourceExtension ≠ store.compiledExtension)
    (saved : store.saveSource name (utf8 source) files = (.ok path, between))
    (stored : (store.saveCompiled name rules between).2 = other) :
    other.read (store.sourcePath name) = .ok (utf8 source) := by
  obtain ⟨valid, -⟩ := save_ok saved
  exact read_source_of_saveCompiled valid plain plain' apart stored (read_of_saveSource saved)

theorem loadSource_ok {source : String} (loads : store.loadSource name files = .ok source) :
    ∃ bytes, files.read (store.sourcePath name) = .ok bytes ∧ ofUtf8? bytes = some source := by
  unfold loadSource at loads
  simp only at loads
  split at loads
  · cases loads
  · rename_i bytes found
    split at loads <;> cases loads
    exact ⟨bytes, found, ‹_›⟩

theorem loadCompiled_ok {rules : ρ} (loads : store.loadCompiled name ρ files = .ok rules) :
    ∃ bytes, files.read (store.compiledPath name) = .ok bytes ∧
      Storable.ofBytes bytes = .ok rules := by
  unfold loadCompiled at loads
  simp only at loads
  split at loads
  · cases loads
  · rename_i bytes found
    split at loads <;> cases loads
    exact ⟨bytes, found, ‹_›⟩

/-- Whether nothing but further directories and files directly in the directory of a store tells two
trees apart, and the files have some of the given names. -/
def Confines (store : Store) (allowed : List String) (files other : FileTree) : Prop :=
  ∃ names ⊆ allowed, (∀ file ∈ names, NamesFile file) ∧
    ChangesOnly (store.Holds other names) files other

theorem confines_refl (store : Store) (allowed : List String) (files : FileTree) :
    store.Confines allowed files files :=
  ⟨[], List.nil_subset _, by simp, (AddsDirectories.refl files).changesOnly _⟩

theorem save_confined {extension : String} (plain : '/' ∉ extension.toList) (name : String)
    (content : Except Failure (List UInt8)) (files : FileTree) :
    store.Confines [name ++ extension] files
      (store.save name (join store.directory (name ++ extension)) content files).2 := by
  cases valid : isFileName name with
  | false =>
    rw [save_refused valid]
    exact confines_refl store _ files
  | true =>
    have names := namesFile_append valid plain
    exact ⟨_, List.Subset.refl _, by simpa using names, save_changesOnly names rfl⟩

theorem save_failure {failure : Failure}
    (failed : (store.save name path content files).1 = .error failure) :
    isFileName name = false ∧ failure = .invalid (.fileName name) ∨ content = .error failure ∨
      ∃ place error, failure = .storage place error := by
  unfold save at failed
  split at failed
  · split at failed
    · rename_i problem left made
      unfold makeDirectory at made
      split at made
      · cases made
      · split at made <;> cases made
        cases failed
        exact .inr (.inr ⟨_, _, rfl⟩)
    · split at failed
      · cases failed
        exact .inr (.inl rfl)
      · unfold writeFile at failed
        split at failed <;> cases failed
        exact .inr (.inr ⟨_, _, rfl⟩)
  · rename_i invalid
    cases failed
    exact .inl ⟨by simpa using invalid, rfl⟩

theorem save_not_fileName (valid : isFileName name = true) (path : String)
    (accepted : ∀ other, content ≠ .error (.invalid (.fileName other))) (files : FileTree)
    (other : String) :
    (store.save name path content files).1 ≠ .error (.invalid (.fileName other)) := by
  intro failed
  obtain ⟨invalid, -⟩ | unacceptable | ⟨place, error, same⟩ := save_failure failed
  · simp [valid] at invalid
  · exact accepted other unacceptable
  · cases same

end RuleSmith.Store
