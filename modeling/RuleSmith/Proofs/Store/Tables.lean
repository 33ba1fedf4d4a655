import RuleSmith.Proofs.Store.Saving

/-!
# The two tables of a store

A store is a table of sources and a table of compiled rules, each by the names of rules. Whatever was
saved in it, and whether it was accepted or not, a load gives what was saved last under the same name
in the same table. That the tables keep apart is due to the extensions: if neither ends with the
other, no two names share a file.
-/

namespace RuleSmith.Store
open Files Text FileTree

/-! ## Savings -/

inductive Table
  | sources
  | compiled
deriving DecidableEq

def Table.extension (store : Store) : Table → String
  | sources => store.sourceExtension
  | compiled => store.compiledExtension

structure Slot where
  table : Table
  name : String
deriving DecidableEq

def fileOf (store : Store) (slot : Slot) : String := slot.name ++ slot.table.extension store

inductive Saving (ρ : Type := RuleSet)
  | source (name : String) (content : List UInt8)
  | compiled (name : String) (rules : ρ)
  | compiledBytes (name : String) (content : List UInt8)
deriving DecidableEq

variable {ρ : Type}

namespace Saving

def slot : Saving ρ → Slot
  | source name _ => ⟨.sources, name⟩
  | compiled name _ => ⟨.compiled, name⟩
  | compiledBytes name _ => ⟨.compiled, name⟩

def text? : Saving ρ → Option String
  | source _ content => ofUtf8? content
  | _ => none

variable [Storable ρ]

def rules? : Saving ρ → Option ρ
  | source _ _ => none
  | compiled _ rules => some rules
  | compiledBytes _ content => (Storable.ofBytes content).toOption

def content : Saving ρ → Except Failure (List UInt8)
  | source _ content => checkSource content
  | compiled _ rules => serialize rules
  | compiledBytes _ content => checkCompiled ρ content

def perform (store : Store) (files : FileTree) : Saving ρ → Except Failure String × FileTree
  | source name content => store.saveSource name content files
  | compiled name rules => store.saveCompiled name rules files
  | compiledBytes name content => store.saveCompiledBytes name content ρ files

end Saving

def performAll [Storable ρ] (store : Store) : List (Saving ρ) → FileTree → FileTree
  | [], files => files
  | saving :: rest, files => performAll store rest (saving.perform store files).2

def accepted [Storable ρ] (store : Store) : List (Saving ρ) → FileTree → List (Saving ρ)
  | [], _ => []
  | saving :: rest, files =>
    match saving.perform store files with
    | (.ok _, files) => saving :: accepted store rest files
    | (.error _, files) => accepted store rest files

def lastInto (slot : Slot) (savings : List (Saving ρ)) : Option (Saving ρ) :=
  savings.reverse.find? fun saving => saving.slot = slot

/-! ## One file for each slot -/

variable {store : Store} {files other : FileTree} {home : Location} {slot : Slot}
  {saving : Saving ρ} {done savings : List (Saving ρ)} {name : String}

theorem suffix_or_suffix_of_append_eq {α : Type} {front front' back back' : List α}
    (same : front ++ back = front' ++ back') : back <:+ back' ∨ back' <:+ back :=
  List.suffix_or_suffix_of_suffix ⟨front, rfl⟩ ⟨front', same.symm⟩

theorem fileOf_injective (apart : ¬ store.sourceExtension.toList <:+ store.compiledExtension.toList)
    (apart' : ¬ store.compiledExtension.toList <:+ store.sourceExtension.toList) :
    Function.Injective store.fileOf := by
  rintro ⟨table, name⟩ ⟨table', name'⟩ same
  have spelled := congrArg String.toList same
  simp only [fileOf, String.toList_append] at spelled
  have related := suffix_or_suffix_of_append_eq spelled
  cases table <;> cases table' <;> simp only [Table.extension] at spelled related
  · rw [String.toList_injective (List.append_cancel_right spelled)]
  · exact absurd related (not_or.mpr ⟨apart, apart'⟩)
  · exact absurd related (not_or.mpr ⟨apart', apart⟩)
  · rw [String.toList_injective (List.append_cancel_right spelled)]

theorem lastInto_eq_find? (injective : Function.Injective store.fileOf) (slot : Slot)
    (savings : List (Saving ρ)) :
    savings.reverse.find? (fun saving => store.fileOf saving.slot = store.fileOf slot) =
      lastInto slot savings := by
  simp only [lastInto, injective.eq_iff]

theorem lastInto_concat_of_ne (apart : saving.slot ≠ slot) (savings : List (Saving ρ)) :
    lastInto slot (savings ++ [saving]) = lastInto slot savings := by
  simp [lastInto, apart]

/-! ## What the directory tells -/

theorem liesAt_iff (same : other.workingDirectory = files.workingDirectory) :
    store.LiesAt other home ↔ store.LiesAt files home := by
  simp only [LiesAt, same]

variable [Storable ρ]

theorem perform_eq (saving : Saving ρ) (store : Store) (files : FileTree) :
    saving.perform store files = store.save saving.slot.name
      (join store.directory (store.fileOf saving.slot)) saving.content files := by
  cases saving <;> rfl

/-- Whether the files in the directory of a store, wherever it lies, are those of some savings, each as
the last saving left it. -/
structure Follows (store : Store) (files : FileTree) (done : List (Saving ρ)) : Prop where
  content? : ∀ home, store.LiesAt files home → ∀ file, files.content? (home ++ [file]) =
    (done.reverse.find? fun saving => store.fileOf saving.slot = file).bind (·.content.toOption)
  stands : ∀ saving ∈ done, ∃ home, store.StandsAt files home
  fits : ∀ saving ∈ done, joinFault store.directory (store.fileOf saving.slot) = none
  checked : ∀ saving ∈ done, ∃ bytes, saving.content = .ok bytes

theorem follows_nil (empty : store.IsEmpty files) : Follows store files ([] : List (Saving ρ)) where
  content? home lies file := empty home lies file
  stands _ member := absurd member List.not_mem_nil
  fits _ member := absurd member List.not_mem_nil
  checked _ member := absurd member List.not_mem_nil

theorem Follows.refused {failure : Failure} (follows : Follows store files done)
    (failed : saving.perform store files = (.error failure, other)) :
    Follows store other done := by
  rw [perform_eq] at failed
  have adds := save_error failed
  refine ⟨fun home lies file => ?_, fun saving member => ?_, follows.fits, follows.checked⟩
  · rw [adds.content?]
    exact follows.content? home ((liesAt_iff adds.workingDirectory).mp lies) file
  · obtain ⟨home, stands⟩ := follows.stands saving member
    exact ⟨home, stands.mono adds.directoriesIn⟩

theorem Follows.saved {path : String} (follows : Follows store files done)
    (plain : ∀ table : Table, '/' ∉ (table.extension store).toList)
    (saved : saving.perform store files = (.ok path, other)) :
    Follows store other (done ++ [saving]) := by
  rw [perform_eq] at saved
  obtain ⟨valid, -⟩ := save_ok saved
  have names : NamesFile (store.fileOf saving.slot) := namesFile_append valid (plain _)
  obtain ⟨home, bytes, stands, checked, fits, free, same⟩ := save_stands_at names saved
  obtain ⟨_, stands', changes⟩ := save_stands names saved
  -- This save may be the one that makes the directory; its place was fixed before.
  have lies : store.LiesAt files home :=
    (liesAt_iff (makeDirectory_adds store files).workingDirectory).mp (.of_leads stands.leads)
  refine ⟨fun home' lies' file => ?_, fun _ _ => ⟨_, stands'⟩, fun each member => ?_,
    fun each member => ?_⟩
  · have before := (liesAt_iff changes.directoriesIn.workingDirectory).mp lies'
    obtain rfl := before.eq lies
    obtain ⟨_, checked', -, content?⟩ := before.content?_save names saved
    obtain rfl := Except.ok.inj (checked.symm.trans checked')
    rw [content?, List.reverse_append, List.reverse_singleton, List.singleton_append,
      List.find?_cons]
    -- The list is searched from its end, so the file that was written hides older ones.
    by_cases here : store.fileOf saving.slot = file
    · simp [here, checked, Except.toOption]
    · simp [here, Ne.symm here, follows.content? _ before file]
  · rcases List.mem_append.mp member with earlier | last
    · exact follows.fits each earlier
    · exact List.mem_singleton.mp last ▸ fits
  · rcases List.mem_append.mp member with earlier | last
    · exact follows.checked each earlier
    · exact List.mem_singleton.mp last ▸ ⟨bytes, checked⟩

theorem follows_performAll (plain : ∀ table : Table, '/' ∉ (table.extension store).toList)
    (follows : Follows store files done) (savings : List (Saving ρ)) :
    Follows store (store.performAll savings files) (done ++ store.accepted savings files) := by
  induction savings generalizing files done with
  | nil => simpa [performAll, accepted] using follows
  | cons saving rest ih =>
    rw [performAll, accepted]
    rcases performed : saving.perform store files with ⟨failure | path, other⟩
    · exact ih (follows.refused performed)
    · simpa using ih (follows.saved plain performed)

theorem Follows.read_of_last (follows : Follows store files done)
    (injective : Function.Injective store.fileOf) (names : NamesFile (store.fileOf slot))
    (last : lastInto slot done = some saving) : saving.slot = slot ∧
      ∃ bytes, saving.content = .ok bytes ∧
        files.read (join store.directory (store.fileOf slot)) = .ok bytes := by
  have member : saving ∈ done := List.mem_reverse.mp (List.mem_of_find?_eq_some last)
  have here : saving.slot = slot := by simpa using List.find?_some last
  obtain ⟨home, stands⟩ := follows.stands saving member
  obtain ⟨bytes, checked⟩ := follows.checked saving member
  have stored := follows.content? home (.of_leads stands.leads) (store.fileOf slot)
  rw [lastInto_eq_find? injective, last, Option.bind_some, checked] at stored
  exact ⟨here, bytes, checked, read_join names stands.leads (here ▸ follows.fits saving member) stored⟩

theorem Follows.read_of_none (follows : Follows store files done)
    (injective : Function.Injective store.fileOf) (names : NamesFile (store.fileOf slot))
    (none : lastInto slot done = none) :
    ∃ error, files.read (join store.directory (store.fileOf slot)) = .error error := by
  cases found : files.read (join store.directory (store.fileOf slot)) with
  | error error => exact ⟨error, rfl⟩
  | ok bytes =>
    obtain ⟨home, led, -, stored⟩ := read_join_ok names found
    rw [follows.content? home (.of_leads led), lastInto_eq_find? injective, none] at stored
    cases stored

theorem Follows.toOption_read (follows : Follows store files done)
    (injective : Function.Injective store.fileOf) (names : NamesFile (store.fileOf slot)) :
    (files.read (join store.directory (store.fileOf slot))).toOption =
      (lastInto slot done).bind (·.content.toOption) := by
  cases last : lastInto slot done with
  | some saving =>
    obtain ⟨-, bytes, checked, found⟩ := follows.read_of_last injective names last
    rw [found, Option.bind_some, checked]
    rfl
  | none =>
    obtain ⟨error, failed⟩ := follows.read_of_none injective names last
    rw [failed]
    rfl

/-! ## Loading -/

theorem toOption_loadSource (store : Store) (name : String) (files : FileTree) :
    (store.loadSource name files).toOption =
      (files.read (store.sourcePath name)).toOption.bind ofUtf8? := by
  rw [loadSource]
  cases files.read (store.sourcePath name) with
  | error error => rfl
  | ok content => cases text : ofUtf8? content <;> simp [Except.toOption, text]

theorem toOption_loadCompiled (store : Store) (name : String) (files : FileTree) :
    (store.loadCompiled name ρ files).toOption =
      (files.read (store.compiledPath name)).toOption.bind fun content =>
        (Storable.ofBytes content).toOption := by
  rw [loadCompiled]
  cases files.read (store.compiledPath name) with
  | error error => rfl
  | ok content =>
    rcases rules : (Storable.ofBytes content : Except String ρ) with _ | _ <;>
      simp [Except.toOption, rules]

theorem checkSource_eq_ok {content bytes : List UInt8} (checked : checkSource content = .ok bytes) :
    bytes = content ∧ ∃ text, ofUtf8? content = some text := by
  unfold checkSource at checked
  split at checked
  · cases checked
  · rename_i readable
    split at checked <;> cases checked
    exact ⟨rfl, Option.ne_none_iff_exists'.mp (by simpa using readable)⟩

theorem checkCompiled_eq_ok {content bytes : List UInt8}
    (checked : checkCompiled ρ content = .ok bytes) :
    bytes = content ∧ ∃ rules : ρ, Storable.ofBytes content = .ok rules := by
  unfold checkCompiled at checked
  split at checked <;> cases checked
  exact ⟨rfl, _, ‹_›⟩

theorem Saving.text?_of_checked {bytes : List UInt8} (table : saving.slot.table = .sources)
    (checked : saving.content = .ok bytes) :
    ∃ text, saving.text? = some text ∧ ofUtf8? bytes = some text := by
  cases saving with
  | source name given =>
    obtain ⟨rfl, text, readable⟩ := checkSource_eq_ok checked
    exact ⟨text, readable, readable⟩
  | compiled name rules => cases table
  | compiledBytes name given => cases table

theorem Saving.rules?_of_checked {bytes : List UInt8} (roundTrips : Storable.RoundTrips ρ)
    (table : saving.slot.table = .compiled)
    (checked : saving.content = .ok bytes) :
    ∃ rules, saving.rules? = some rules ∧ Storable.ofBytes bytes = .ok rules := by
  cases saving with
  | source name given => cases table
  | compiled name rules => exact ⟨rules, rfl, roundTrips rules bytes (serialize_ok.mp checked)⟩
  | compiledBytes name given =>
    obtain ⟨rfl, rules, readable⟩ := checkCompiled_eq_ok checked
    exact ⟨rules, congrArg Except.toOption readable, readable⟩

theorem Follows.loads {α : Type} {load : Except Failure α} {given : Saving ρ → Option α}
    (follows : Follows store files done) (injective : Function.Injective store.fileOf)
    (names : NamesFile (store.fileOf slot))
    (loaded : ∀ (saving : Saving ρ) (bytes : List UInt8), saving.slot = slot →
      saving.content = .ok bytes →
      files.read (join store.directory (store.fileOf slot)) = .ok bytes →
      ∃ value, given saving = some value ∧ load = .ok value)
    (unread : ∀ error, files.read (join store.directory (store.fileOf slot)) = .error error →
      load = .error (.storage (join store.directory (store.fileOf slot)) error)) :
    (∀ saving, lastInto slot done = some saving →
      ∃ value, given saving = some value ∧ load = .ok value ∧
        files.isFile (join store.directory (store.fileOf slot)) = true) ∧
    (lastInto slot done = none →
      ∃ error, load = .error (.storage (join store.directory (store.fileOf slot)) error) ∧
        files.isFile (join store.directory (store.fileOf slot)) = false) := by
  constructor
  · intro saving last
    obtain ⟨here, bytes, checked, found⟩ := follows.read_of_last injective names last
    obtain ⟨value, same, ok⟩ := loaded saving bytes here checked found
    refine ⟨value, same, ok, ?_⟩
    rw [isFile_eq_isSome, found]
    rfl
  · intro none
    obtain ⟨error, failed⟩ := follows.read_of_none injective names none
    refine ⟨error, unread error failed, ?_⟩
    rw [isFile_eq_isSome, failed]
    rfl

theorem Follows.loadSource (follows : Follows store files done)
    (injective : Function.Injective store.fileOf)
    (names : NamesFile (store.fileOf ⟨.sources, name⟩)) :
    (∀ saving, lastInto ⟨.sources, name⟩ done = some saving →
      ∃ text, saving.text? = some text ∧ store.loadSource name files = .ok text ∧
        store.hasSource name files = true) ∧
    (lastInto ⟨.sources, name⟩ done = none →
      ∃ error, store.loadSource name files = .error (.storage (store.sourcePath name) error) ∧
        store.hasSource name files = false) := by
  apply follows.loads injective names
  · intro saving bytes here checked found
    obtain ⟨text, given, readable⟩ := saving.text?_of_checked (by rw [here]) checked
    have path : files.read (store.sourcePath name) = .ok bytes := found
    exact ⟨text, given, by simp only [Store.loadSource, path, readable]⟩
  · intro error failed
    have path : files.read (store.sourcePath name) = .error error := failed
    rw [Store.loadSource, path]
    rfl

theorem Follows.loadCompiled (roundTrips : Storable.RoundTrips ρ)
    (follows : Follows store files done) (injective : Function.Injective store.fileOf)
    (names : NamesFile (store.fileOf ⟨.compiled, name⟩)) :
    (∀ saving, lastInto ⟨.compiled, name⟩ done = some saving →
      ∃ rules, saving.rules? = some rules ∧ store.loadCompiled name ρ files = .ok rules ∧
        store.hasCompiled name files = true) ∧
    (lastInto ⟨.compiled, name⟩ done = none →
      ∃ error, store.loadCompiled name ρ files = .error (.storage (store.compiledPath name) error) ∧
        store.hasCompiled name files = false) := by
  apply follows.loads injective names
  · intro saving bytes here checked found
    obtain ⟨rules, given, readable⟩  :=
      saving.rules?_of_checked roundTrips (by rw [here]) checked
    have path : files.read (store.compiledPath name) = .ok bytes := found
    exact ⟨rules, given, by simp only [Store.loadCompiled, path, readable]⟩
  · intro error failed
    have path : files.read (store.compiledPath name) = .error error := failed
    rw [Store.loadCompiled, path]
    rfl

theorem Follows.toOption_read_perform (follows : Follows store files done)
    (plain : ∀ table : Table, '/' ∉ (table.extension store).toList)
    (injective : Function.Injective store.fileOf) (names : NamesFile (store.fileOf slot))
    (apart : saving.slot ≠ slot) :
    ((saving.perform store files).2.read (join store.directory (store.fileOf slot))).toOption =
      (files.read (join store.directory (store.fileOf slot))).toOption := by
  rw [follows.toOption_read injective names]
  rcases performed : saving.perform store files with ⟨failure | path, other⟩
  · exact (follows.refused performed).toOption_read injective names
  · rw [(follows.saved plain performed).toOption_read injective names,
      lastInto_concat_of_ne apart]

/-- Any savings, accepted or refused, in a store whose directory has no files or is not there: a load
gives the text or the rules of the last accepted saving under the same name in the same table, and is a
storage error if there was none; what is there is told accordingly; and one more saving under
another name or into the other table changes nothing of what is loaded. -/
theorem load_performAll (roundTrips : Storable.RoundTrips ρ) (plain : '/' ∉ store.sourceExtension.toList)
    (plain' : '/' ∉ store.compiledExtension.toList)
    (apart : ¬ store.sourceExtension.toList <:+ store.compiledExtension.toList)
    (apart' : ¬ store.compiledExtension.toList <:+ store.sourceExtension.toList)
    (empty : store.IsEmpty files) (savings : List (Saving ρ)) (valid : isFileName name = true) :
    let left := store.performAll savings files
    let done := store.accepted savings files
    ((∀ saving, lastInto ⟨.sources, name⟩ done = some saving →
        ∃ text, saving.text? = some text ∧ store.loadSource name left = .ok text ∧
          store.hasSource name left = true) ∧
      (lastInto ⟨.sources, name⟩ done = none →
        ∃ error, store.loadSource name left = .error (.storage (store.sourcePath name) error) ∧
          store.hasSource name left = false)) ∧
    ((∀ saving, lastInto ⟨.compiled, name⟩ done = some saving →
        ∃ rules, saving.rules? = some rules ∧ store.loadCompiled name ρ left = .ok rules ∧
          store.hasCompiled name left = true) ∧
      (lastInto ⟨.compiled, name⟩ done = none →
        ∃ error, store.loadCompiled name ρ left = .error (.storage (store.compiledPath name) error) ∧
          store.hasCompiled name left = false)) ∧
    ∀ saving : Saving ρ,
      (saving.slot ≠ ⟨.sources, name⟩ →
        (store.loadSource name (saving.perform store left).2).toOption =
          (store.loadSource name left).toOption) ∧
      (saving.slot ≠ ⟨.compiled, name⟩ →
        (store.loadCompiled name ρ (saving.perform store left).2).toOption =
          (store.loadCompiled name ρ left).toOption) := by
  have plains : ∀ table : Table, '/' ∉ (table.extension store).toList
    | .sources => plain
    | .compiled => plain'
  have injective := fileOf_injective apart apart'
  have names (table : Table) : NamesFile (store.fileOf ⟨table, name⟩) :=
    namesFile_append valid (plains table)
  -- The directory follows the accepted savings; the rest is read off it, slot by slot.
  have follows := follows_performAll plains (follows_nil empty) savings
  rw [List.nil_append] at follows
  refine ⟨follows.loadSource injective (names _), follows.loadCompiled roundTrips injective (names _),
    fun saving => ⟨fun other => ?_, fun other => ?_⟩⟩
  · rw [toOption_loadSource, toOption_loadSource]
    exact congrArg (·.bind ofUtf8?)
      (follows.toOption_read_perform plains injective (names .sources) other)
  · rw [toOption_loadCompiled, toOption_loadCompiled]
    exact congrArg (·.bind fun content => (Storable.ofBytes content : Except String ρ).toOption)
      (follows.toOption_read_perform plains injective (names .compiled) other)

def sampleSavings : List (Saving Sample.Verbatim) := [
  .source "a" [0x78], .source "a" [0xFF], .compiled "a" ⟨"y"⟩, .compiled "a" ⟨"?"⟩,
  .source "a.bin" [0x79], .compiledBytes "a" [0x78], .source ".." [0x7A], .compiledBytes "a.yar" [0x78]]

theorem load_performAll_sampleSavings :
    let left := performAll {} sampleSavings (.bare [])
    ('/' ∉ ".yar".toList ∧ '/' ∉ ".bin".toList ∧ ¬ ".yar".toList <:+ ".bin".toList ∧
      ¬ ".bin".toList <:+ ".yar".toList ∧ IsEmpty {} (.bare []) ∧ isFileName "a" = true) ∧
    loadSource {} "a" left = .ok "x" ∧ loadCompiled {} "a" Sample.Verbatim left = .ok ⟨"y"⟩ ∧
    ∃ error, loadCompiled {} "a.yar" Sample.Verbatim left = .error (.storage "rules/a.yar.bin" error) := by
  have empty : IsEmpty {} (.bare []) := isEmpty_bare {} []
  have law (name : String) (valid : isFileName name = true) :=
    load_performAll Sample.roundTrips_verbatim (by decide) (by decide) (by decide) (by decide) empty
      sampleSavings valid
  obtain ⟨⟨source, -⟩, ⟨compiled, -⟩, -⟩ := law "a" (by decide)
  obtain ⟨-, ⟨-, absent⟩, -⟩ := law "a.yar" (by decide)
  obtain ⟨text, given, loaded, -⟩ := source (.source "a" [0x78]) (by decide +kernel)
  obtain ⟨rules, given', loaded', -⟩ := compiled (.compiled "a" ⟨"y"⟩) (by decide +kernel)
  obtain ⟨error, failed, -⟩ := absent (by decide +kernel)
  have same : text = "x" := Option.some.inj (given.symm.trans (by decide +kernel))
  refine ⟨⟨by decide, by decide, by decide, by decide, empty, by decide⟩, same ▸ loaded, ?_,
    error, failed⟩
  rw [loaded', Option.some.inj given']

end RuleSmith.Store
