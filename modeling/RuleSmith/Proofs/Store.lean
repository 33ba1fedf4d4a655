import Mathlib
import RuleSmith.Proofs.Files.Tree
import RuleSmith.Proofs.Text.Utf8
import RuleSmith.Store

namespace RuleSmith

namespace Store
open Files Text FileTree

variable {ρ : Type} [Storable ρ] {store : Store} {files other : FileTree} {home : Location}
  {name file : String}

structure StandsAt (store : Store) (files : FileTree) (home : Location) : Prop where
  spelled : store.directory.toList = [] ∨ refusedSpelling store.directory = none
  leads : files.leads store.directory = .ok home
  directory : files.entryAt? home = some .directory

theorem StandsAt.mono (h : store.StandsAt files home) (h' : DirectoriesIn files other) :
    store.StandsAt other home :=
  ⟨h.spelled, h'.leads h.leads, h'.directory h.directory⟩

theorem StandsAt.put (h : store.StandsAt files home) {location : Location}
    (free : files.entryAt? location ≠ some .directory) (content : List UInt8) :
    store.StandsAt (files.put location (.file content)) home :=
  h.mono (directoriesIn_put free _)

theorem makeDirectory_standsAt (h : store.StandsAt files home) :
    store.makeDirectory files = (.ok (), files) := by
  unfold makeDirectory
  split
  · rfl
  · rename_i absent
    rcases h.spelled with empty | spelled
    · simp [makeDirectories, empty]
    · have found := hasDirectory_ofString.mpr ⟨home, h.leads, h.directory⟩
      simp [isDirectory, spelled, found] at absent

theorem makeDirectory_adds (store : Store) (files : FileTree) :
    AddsDirectories files (store.makeDirectory files).2 := by
  have adds := makeDirectories_adds files store.directory
  unfold makeDirectory
  split
  · exact .refl files
  · split <;> rename_i eq <;> rwa [eq] at adds

theorem standsAt_makeDirectory (made : (store.makeDirectory files).1 = .ok ()) :
    ∃ home, store.StandsAt (store.makeDirectory files).2 home := by
  unfold makeDirectory at made ⊢
  split
  · rename_i found
    simp only [isDirectory, Bool.and_eq_true, Option.isNone_iff_eq_none] at found
    obtain ⟨home, leads, directory⟩ := hasDirectory_ofString.mp found.2
    exact ⟨home, Or.inr found.1, leads, directory⟩
  · rename_i absent
    rw [if_neg absent] at made
    cases eq : files.makeDirectories store.directory with
    | mk result left =>
      cases result with
      | error error => simp [eq] at made
      | ok =>
        simp only
        have ok := makeDirectories_ok
          (show (files.makeDirectories store.directory).1 = .ok () by rw [eq])
        rw [eq] at ok
        rcases ok with empty | ⟨spelled, found⟩
        · refine ⟨left.workingDirectory, Or.inl empty, ?_, ?_⟩
          · simp [leads, Path.ofString, segments, empty, Step.ofSegment, enter, FileTree.start]
          · exact entryAt?_start (List.isPrefixOf_iff_prefix.mpr (List.prefix_refl _))
        · obtain ⟨home, leads, directory⟩ := hasDirectory_ofString.mp found
          exact ⟨home, Or.inr spelled, leads, directory⟩

/-! ## Names of files -/

theorem isFileName_iff : isFileName name = true ↔
    name.toList ≠ [] ∧ '/' ∉ name.toList ∧ '\\' ∉ name.toList ∧ name.toList ≠ ['.'] ∧
      name.toList ≠ ['.', '.'] := by
  simp [isFileName, and_assoc]

theorem namesFile_append (valid : isFileName name = true) {extension : String}
    (plain : '/' ∉ extension.toList) : NamesFile (name ++ extension) := by
  obtain ⟨nonempty, slash, -, dot, dots⟩ := isFileName_iff.mp valid
  apply NamesFile.of_ne
  · simp [slash, plain]
  · simp [nonempty]
  · rw [String.toList_append]
    intro eq
    rcases List.append_eq_singleton_iff.mp eq with ⟨empty, -⟩ | ⟨only, -⟩
    · exact nonempty empty
    · exact dot only
  · rw [String.toList_append]
    intro eq
    rcases eq' : name.toList with _ | ⟨c, _ | ⟨d, rest⟩⟩
    · exact nonempty eq'
    · rw [eq'] at eq dot
      simp_all
    · rw [eq'] at eq dots
      simp_all

theorem joinFault_append (valid : isFileName name = true) {extension extension' : String}
    (plain : '/' ∉ extension.toList) (plain' : '/' ∉ extension'.toList)
    (nul : '\x00' ∉ extension.toList) (nul' : '\x00' ∉ extension'.toList)
    (size : extension.utf8ByteSize = extension'.utf8ByteSize) (directory : String) :
    joinFault directory (name ++ extension) = joinFault directory (name ++ extension') := by
  obtain ⟨front, eq⟩ := exists_join directory
  obtain ⟨nonempty, -⟩ := isFileName_iff.mp valid
  simp only [joinFault, eq _ (namesFile_append valid plain), eq _ (namesFile_append valid plain'),
    refusedSpelling]
  simp [size, nul, nul', nonempty]

/-! ## Saving and loading -/

def opened (store : Store) (files : FileTree) : FileTree := (store.makeDirectory files).2

theorem save_standsAt (h : store.StandsAt files home) (valid : isFileName name = true)
    (names : NamesFile file) (content : Except Failure (List UInt8)) :
    store.save name (join store.directory file) content files =
      match content with
      | .error failure => (.error failure, files)
      | .ok content =>
        match joinFault store.directory file with
        | some error => (.error (.storage (join store.directory file) error), files)
        | none =>
          if files.entryAt? (home ++ [file]) = some .directory then
            (.error (.storage (join store.directory file) .isDirectory), files)
          else if files.guarded.contains (home ++ [file]) then
            (.error (.storage (join store.directory file) .denied), files)
          else (.ok (join store.directory file), files.put (home ++ [file]) (.file content)) := by
  unfold save
  rw [if_pos valid, makeDirectory_standsAt h]
  cases content with
  | error failure => rfl
  | ok content =>
    simp only [writeFile, write_join names h.leads]
    cases joinFault store.directory file with
    | some error => rfl
    | none =>
      simp only
      split_ifs <;> rfl

theorem save_makeDirectory (made : (store.makeDirectory files).1 = .ok ()) (name path : String)
    (content : Except Failure (List UInt8)) (valid : isFileName name = true) :
    store.save name path content files =
      store.save name path content (store.makeDirectory files).2 := by
  obtain ⟨home, stands⟩ := standsAt_makeDirectory made
  unfold save
  rw [if_pos valid, if_pos valid, makeDirectory_standsAt stands]
  cases eq : store.makeDirectory files with
  | mk result left => simp_all

theorem save_ok {path : String} {content : Except Failure (List UInt8)}
    {result : String} (saved : store.save name path content files = (.ok result, other)) :
    isFileName name = true ∧ (store.makeDirectory files).1 = .ok () ∧
      ∃ checked, content = .ok checked ∧ (store.opened files).write path checked = .ok other := by
  unfold save at saved
  split at saved
  · rename_i valid
    split at saved
    · cases saved
    · rename_i opened made
      split at saved
      · cases saved
      · rename_i checked
        unfold writeFile at saved
        split at saved
        · rename_i written
          cases saved
          refine ⟨valid, by rw [made], checked, rfl, ?_⟩
          rw [Store.opened, made, written]
        · cases saved
  · cases saved

theorem serialize_ok {rules : ρ} {content : List UInt8} :
    serialize rules = .ok content ↔ Storable.toBytes rules = .ok content := by
  unfold serialize
  split <;> simp [*]

theorem serialize_error {rules : ρ} {message : String} (failed : Storable.toBytes rules = .error message) :
    serialize rules = .error (.compiledFormat (.unwritable message)) := by
  rw [serialize, failed]

theorem loadCompiled_of_read {content : List UInt8} {rules : ρ}
    (found : files.read (store.compiledPath name) = .ok content)
    (reads : Storable.ofBytes content = .ok rules) : store.loadCompiled name ρ files = .ok rules := by
  simp only [loadCompiled, found, reads]

theorem checkSource_utf8 (text : String) :
    checkSource (utf8 text) =
      if (utf8 text).contains 0 then .error (.invalid .sourceHasNul) else .ok (utf8 text) := by
  simp [checkSource, ofUtf8?_utf8]

theorem checkSource_ok {text : String} {content : List UInt8}
    (checked : checkSource (utf8 text) = .ok content) : content = utf8 text := by
  rw [checkSource_utf8] at checked
  split at checked <;> cases checked
  rfl

theorem StandsAt.opened (h : store.StandsAt files home) : store.opened files = files := by
  rw [Store.opened, makeDirectory_standsAt h]

/-! ## Usable stores -/

/-- Whether the directory of a store can be made, at a location, and the store can write its files
there. -/
structure Usable (store : Store) (files : FileTree) (home : Location) : Prop where
  made : (store.makeDirectory files).1 = .ok ()
  leads : (store.opened files).leads store.directory = .ok home
  source : ∀ name, isFileName name = true →
    (store.opened files).Writable (home ++ [name ++ store.sourceExtension])
  compiled : ∀ name, isFileName name = true →
    (store.opened files).Writable (home ++ [name ++ store.compiledExtension])

theorem usable_of_empty (made : (store.makeDirectory files).1 = .ok ())
    (leads : (store.opened files).leads store.directory = .ok home)
    (empty : ∀ file, (store.opened files).entryAt? (home ++ [file]) = none)
    (unguarded : files.guarded = []) : store.Usable files home := by
  have writable (file : String) : (store.opened files).Writable (home ++ [file]) := by
    refine ⟨by simp [empty], ?_⟩
    rw [Store.opened, (makeDirectory_adds store files).guarded, unguarded]
    rfl
  exact ⟨made, leads, fun _ _ => writable _, fun _ _ => writable _⟩

theorem Usable.standsAt (h : store.Usable files home) : store.StandsAt (store.opened files) home := by
  obtain ⟨other, stands⟩ := standsAt_makeDirectory h.made
  have same : other = home := Except.ok.inj (stands.leads.symm.trans h.leads)
  exact same ▸ stands

theorem StandsAt.usable (h : store.StandsAt files home)
    (source : ∀ name, isFileName name = true →
      files.Writable (home ++ [name ++ store.sourceExtension]))
    (compiled : ∀ name, isFileName name = true →
      files.Writable (home ++ [name ++ store.compiledExtension])) :
    store.Usable files home := by
  refine ⟨by rw [makeDirectory_standsAt h], ?_, ?_, ?_⟩
  · rw [h.opened, h.leads]
  · rwa [h.opened]
  · rwa [h.opened]

theorem Usable.opened (h : store.Usable files home) : store.Usable (store.opened files) home :=
  h.standsAt.usable h.source h.compiled

theorem Usable.put (h : store.Usable files home) {location : Location}
    (free : (store.opened files).entryAt? location ≠ some .directory) (content : List UInt8) :
    store.Usable ((store.opened files).put location (.file content)) home :=
  (h.standsAt.put free content).usable (fun name valid => (h.source name valid).put free content)
    fun name valid => (h.compiled name valid).put free content

def withSource (store : Store) (home : Location) (name source : String) (files : FileTree) :
    FileTree :=
  (store.opened files).put (home ++ [name ++ store.sourceExtension]) (.file (utf8 source))

def withCompiled (store : Store) (home : Location) (name : String) (content : List UInt8)
    (files : FileTree) : FileTree :=
  (store.opened files).put (home ++ [name ++ store.compiledExtension]) (.file content)

def sourceFault (store : Store) (name source : String) : Option Failure :=
  if (utf8 source).contains 0 then some (.invalid .sourceHasNul)
  else (joinFault store.directory (name ++ store.sourceExtension)).map
    (.storage (store.sourcePath name))

theorem Usable.saveSource (h : store.Usable files home) (valid : isFileName name = true)
    (plain : '/' ∉ store.sourceExtension.toList) (source : String) :
    store.saveSource name (utf8 source) files =
      match store.sourceFault name source with
      | some failure => (.error failure, store.opened files)
      | none => (.ok (store.sourcePath name), store.withSource home name source files) := by
  have saved := save_standsAt h.standsAt valid (namesFile_append valid plain)
    (checkSource (utf8 source))
  rw [Store.saveSource, save_makeDirectory h.made _ _ _ valid]
  refine saved.trans ?_
  rw [checkSource_utf8, sourceFault]
  by_cases nul : (utf8 source).contains 0 = true
  · simp only [if_pos nul]
  · simp only [if_neg nul]
    cases joinFault store.directory (name ++ store.sourceExtension) with
    | some error => rfl
    | none =>
      simp only [if_neg (h.source name valid).free, (h.source name valid).unguarded,
        Bool.false_eq_true, if_false]
      rfl

theorem Usable.saveCompiled (h : store.Usable files home) (valid : isFileName name = true)
    (plain : '/' ∉ store.compiledExtension.toList) (rules : ρ) :
    store.saveCompiled name rules files =
      match serialize rules with
      | .error failure => (.error failure, store.opened files)
      | .ok content =>
        match joinFault store.directory (name ++ store.compiledExtension) with
        | some error => (.error (.storage (store.compiledPath name) error), store.opened files)
        | none => (.ok (store.compiledPath name), store.withCompiled home name content files) := by
  have saved := save_standsAt h.standsAt valid (namesFile_append valid plain) (serialize rules)
  rw [Store.saveCompiled, save_makeDirectory h.made _ _ _ valid]
  refine saved.trans ?_
  simp only [if_neg (h.compiled name valid).free, (h.compiled name valid).unguarded,
    Bool.false_eq_true, if_false]
  rfl

theorem Usable.standsAt_withSource (h : store.Usable files home) (valid : isFileName name = true)
    (source : String) : store.StandsAt (store.withSource home name source files) home :=
  h.standsAt.put (h.source name valid).free _

theorem Usable.withSource (h : store.Usable files home) (valid : isFileName name = true)
    (source : String) : store.Usable (store.withSource home name source files) home :=
  h.put (h.source name valid).free _

theorem Usable.standsAt_withCompiled (h : store.Usable files home)
    (valid : isFileName name = true) (content : List UInt8) :
    store.StandsAt (store.withCompiled home name content files) home :=
  h.standsAt.put (h.compiled name valid).free _

theorem Usable.withCompiled (h : store.Usable files home) (valid : isFileName name = true)
    (content : List UInt8) : store.Usable (store.withCompiled home name content files) home :=
  h.put (h.compiled name valid).free _

theorem Usable.content?_withSource (h : store.Usable files home) (valid : isFileName name = true)
    (source : String) (location : Location) :
    (store.withSource home name source files).content? location =
      if location = home ++ [name ++ store.sourceExtension] then some (utf8 source)
      else files.content? location := by
  rw [Store.withSource, content?_put (h.source name valid).free, Store.opened,
    (makeDirectory_adds store files).content?]

theorem Usable.content?_withCompiled (h : store.Usable files home)
    (valid : isFileName name = true) (content : List UInt8) (location : Location) :
    (store.withCompiled home name content files).content? location =
      if location = home ++ [name ++ store.compiledExtension] then some content
      else files.content? location := by
  rw [Store.withCompiled, content?_put (h.compiled name valid).free, Store.opened,
    (makeDirectory_adds store files).content?]

end Store

namespace Sample
open Text

/-- Rules that are a text. One with a question mark cannot be written, and no text reads as rules. -/
structure Verbatim where
  text : String
deriving DecidableEq

instance : Storable Verbatim where
  toBytes rules :=
    if rules.text.toList.contains '?' then .error "unsupported" else .ok (0xFF :: utf8 rules.text)
  ofBytes
    | 0xFF :: bytes =>
      match ofUtf8? bytes with
      | some text => .ok ⟨text⟩
      | none => .error "not a text"
    | _ => .error "no mark"

theorem roundTrips_verbatim : Storable.RoundTrips Verbatim := by
  intro rules bytes written
  simp only [Storable.toBytes] at written
  split at written <;> cases written
  simp only [Storable.ofBytes, ofUtf8?_utf8]

end Sample
end RuleSmith
