import RuleSmith.Proofs.Effect
import RuleSmith.Proofs.RoundTrip

/-!
# Sources and the rules compiled from them

A generation writes two files, the source before the compiler has seen it and the rules after. Along
any run that begins in an empty store, the source that is loaded for a name is the last one that was
saved, and the rules are those of the last one that was also accepted and whose rules could be written.
The two belong together unless the source that stands there now is not such a one.
-/

namespace RuleSmith
open Files Text FileTree

variable {σ ρ : Type}

def Engine.CompilesAlike (engine : Engine σ ρ) : Prop :=
  ∀ source options world other,
    (engine.compile source options world).value = (engine.compile source options other).value

theorem Engine.Functional.compilesAlike {engine : Engine σ ρ} (h : engine.Functional) :
    engine.CompilesAlike := h.compile

variable [Storable ρ]

/-- Whether no text is read as compiled rules. -/
def Storable.TextsApart (ρ : Type) [Storable ρ] : Prop :=
  ∀ (text : String) (rules : ρ), Storable.ofBytes (utf8 text) ≠ .ok rules

namespace Generator
open Job Store

variable {generator : Generator σ ρ} {store : Store} {home : Location} {name saver : String}
  {files other : FileTree} {saved : List (String × String)} {stored : List (String × ρ)}

def callsOf (generator : Generator σ ρ) (requests : List Request) : List Call :=
  requests.map fun request => ⟨request, generator.options.errorOnWarning⟩

/-- Whether a run from an empty store, with a compiler that gives the same for the same source, leaves
for some name a source and rules that it is not compiled to. -/
structure Separates (generator : Generator σ ρ) (requests : List Request) (start : Session σ)
    (name : String) : Prop where
  alike : generator.engine.CompilesAlike
  empty : generator.store.IsEmpty start.world.files
  apart : ∃ source rules,
    let last := (generator.finish (generator.callsOf requests) start).world
    generator.store.loadSource name last.files = .ok source ∧
      generator.store.loadCompiled name ρ last.files = .ok rules ∧
        (generator.engine.compile source generator.options last).value ≠ .ok rules

def storedBy (generator : Generator σ ρ) (call : Call) (session : Session σ) : Option (String × ρ) :=
  (generator.compiledBy call session).filter fun entry => (Storable.toBytes entry.2).isOk

def storable (generator : Generator σ ρ) (turns : List (Turn σ)) : List (String × ρ) :=
  turns.filterMap fun turn => generator.storedBy turn.call turn.before

/-! ## One name -/

/-- Whether the files of a name say what was saved for it last and what that was compiled to last:
whatever is read as a source is the last of the sources, and whatever is read as compiled rules is the
last of the rules. Where nothing can be written, there is no file. -/
structure Follows (store : Store) (home : Location) (name : String) (files : FileTree)
    (saved : List (String × String)) (stored : List (String × ρ)) : Prop where
  source : ∀ bytes text, files.content? (home ++ [name ++ store.sourceExtension]) = some bytes →
    ofUtf8? bytes = some text → lastOf name saved = some text
  rules : joinFault store.directory (name ++ store.compiledExtension) = none →
    ∀ bytes rules, files.content? (home ++ [name ++ store.compiledExtension]) = some bytes →
      Storable.ofBytes bytes = .ok rules → lastOf name stored = some rules
  guarded : files.guarded.contains (home ++ [name ++ store.compiledExtension]) = true →
    files.content? (home ++ [name ++ store.compiledExtension]) = none

theorem lastOf_snoc {α : Type} (name other : String) (items : List (String × α)) (value : α) :
    lastOf name (items ++ [(other, value)]) =
      if other = name then some value else lastOf name items := by
  by_cases same : other = name <;> simp [lastOf_append, lastOf, same]

theorem follows_of_isEmpty (empty : store.IsEmpty files) (lies : store.LiesAt files home)
    (name : String) : Follows store home name files [] ([] : List (String × ρ)) := by
  constructor
  · intro bytes text found
    rw [empty home lies] at found
    cases found
  · intro fits bytes rules found
    rw [empty home lies] at found
    cases found
  · exact fun _ => empty home lies _

theorem Follows.of_addsDirectories (h : Follows store home name files saved stored)
    (adds : AddsDirectories files other) : Follows store home name other saved stored := by
  constructor
  · intro bytes text found
    exact h.source bytes text (by rw [← found, adds.content?])
  · intro fits bytes rules found
    exact h.rules fits bytes rules (by rw [← found, adds.content?])
  · rw [adds.guarded, adds.content?]
    exact h.guarded

theorem content?_of_written {file wanted : String} {written bytes : List UInt8}
    (left : ∀ place, other.content? place =
      if place = home ++ [file] then some written else files.content? place)
    (found : other.content? (home ++ [wanted]) = some bytes) :
    (file = wanted ∧ bytes = written) ∨
      (file ≠ wanted ∧ files.content? (home ++ [wanted]) = some bytes) := by
  rw [left] at found
  by_cases same : file = wanted
  · rw [if_pos (by rw [same])] at found
    cases found
    exact .inl ⟨same, rfl⟩
  · rw [if_neg (by simpa using Ne.symm same)] at found
    exact .inr ⟨same, found⟩

theorem Follows.write (h : Follows store home name files saved stored) {file : String}
    {written : List UInt8} {saved' : List (String × String)} {stored' : List (String × ρ)}
    (kept : other.guarded = files.guarded)
    (unguarded : files.guarded.contains (home ++ [file]) = false)
    (left : ∀ place, other.content? place =
      if place = home ++ [file] then some written else files.content? place)
    (source : ∀ text, file = name ++ store.sourceExtension ∧ ofUtf8? written = some text ∨
      file ≠ name ++ store.sourceExtension ∧ lastOf name saved = some text →
        lastOf name saved' = some text)
    (rules : ∀ rules, file = name ++ store.compiledExtension ∧ Storable.ofBytes written = .ok rules ∨
      file ≠ name ++ store.compiledExtension ∧ lastOf name stored = some rules →
        lastOf name stored' = some rules) :
    Follows store home name other saved' stored' := by
  constructor
  · intro bytes text found read
    apply source
    obtain ⟨same, rfl⟩ | ⟨apart, found⟩ := content?_of_written left found
    · exact .inl ⟨same, read⟩
    · exact .inr ⟨apart, h.source bytes text found read⟩
  · intro fits bytes ruleSet found read
    apply rules
    obtain ⟨same, rfl⟩ | ⟨apart, found⟩ := content?_of_written left found
    · exact .inl ⟨same, read⟩
    · exact .inr ⟨apart, h.rules fits bytes ruleSet found read⟩
  · intro barred
    rw [kept] at barred
    rw [left, if_neg, h.guarded barred]
    rintro same
    rw [same, unguarded] at barred
    cases barred

theorem not_rules (kinds : Storable.TextsApart ρ ∨ store.ExtensionsApart)
    (same : saver ++ store.sourceExtension = name ++ store.compiledExtension) (text : String)
    (rules : ρ) : Storable.ofBytes (utf8 text) ≠ .ok rules := by
  rcases kinds with texts | apart
  · exact texts text rules
  · exact absurd same (apart saver name)

theorem Follows.saveSource (h : Follows store home name files saved stored)
    (kinds : Storable.TextsApart ρ ∨ store.ExtensionsApart)
    (lies : store.LiesAt files home) (valid : isFileName saver = true)
    (plain : '/' ∉ store.sourceExtension.toList) {source path : String}
    (saves : store.saveSource saver (utf8 source) files = (.ok path, other)) :
    Follows store home name other (saved ++ [(saver, source)]) stored := by
  have names := namesFile_append valid plain
  obtain ⟨written, accepted, unguarded, left⟩ := lies.content?_save names saves
  obtain rfl := checkSource_ok accepted
  apply h.write (save_changesOnly names (congrArg Prod.snd saves)).directoriesIn.guarded unguarded left
  · rintro text (⟨same, read⟩ | ⟨apart, last⟩)
    · rw [ofUtf8?_utf8] at read
      rw [lastOf_snoc, if_pos (String.append_left_inj _ |>.mp same), read]
    · rwa [lastOf_snoc, if_neg fun same => apart (by rw [same])]
  · rintro rules (⟨same, read⟩ | ⟨-, last⟩)
    · exact absurd read (not_rules kinds same source rules)
    · exact last

theorem Follows.saveCompiled (h : Follows store home name files saved stored)
    (roundTrips : Storable.RoundTrips ρ) (kinds : Storable.TextsApart ρ ∨ store.ExtensionsApart)
    (lies : store.LiesAt files home) (valid : isFileName saver = true)
    (plain : '/' ∉ store.compiledExtension.toList) {rules : ρ} {path : String}
    (saves : store.saveCompiled saver rules files = (.ok path, other)) :
    Follows store home name other saved (stored ++ [(saver, rules)]) := by
  have names := namesFile_append valid plain
  obtain ⟨written, accepted, unguarded, left⟩ := lies.content?_save names saves
  have reads := roundTrips rules written (serialize_ok.mp accepted)
  apply h.write (save_changesOnly names (congrArg Prod.snd saves)).directoriesIn.guarded unguarded left
  · rintro text (⟨same, read⟩ | ⟨-, last⟩)
    · -- Rules that are read as a text would be a text that is read as rules.
      rw [ofUtf8?_eq_some read] at reads
      exact absurd reads (not_rules kinds same.symm text rules)
    · exact last
  · rintro ruleSet (⟨same, read⟩ | ⟨apart, last⟩)
    · obtain rfl := Except.ok.inj (reads.symm.trans read)
      rw [lastOf_snoc, if_pos (String.append_left_inj _ |>.mp same)]
    · rwa [lastOf_snoc, if_neg fun same => apart (by rw [same])]

theorem Follows.unsavedCompiled (h : Follows store home name files saved stored)
    (stands : store.StandsAt files home) (valid : isFileName saver = true)
    (plain : '/' ∉ store.compiledExtension.toList) {ruleSet : ρ} {content : List UInt8}
    {failure : Failure} (written : Storable.toBytes ruleSet = .ok content)
    (fails : store.saveCompiled saver ruleSet files = (.error failure, other)) :
    Follows store home name other saved (stored ++ [(saver, ruleSet)]) := by
  have kept := h.of_addsDirectories (save_error fails)
  refine ⟨kept.source, fun fits bytes rules found read => ?_, kept.guarded⟩
  rw [(save_error fails).content?] at found
  by_cases same : saver = name
  · subst same
    rw [Store.saveCompiled, serialize_ok.mpr written] at fails
    cases barred : files.guarded.contains (home ++ [saver ++ store.compiledExtension]) with
    | true =>
      rw [h.guarded barred] at found
      cases found
    | false =>
      rw [stands.content?_of_save_error valid (namesFile_append valid plain) fits barred fails] at found
      cases found
  · rw [lastOf_snoc, if_neg same]
    exact h.rules fits bytes rules found read

/-! ## One call -/

theorem savedBy_of_blank (generator : Generator σ ρ) {call : Call}
    (blank : Identifier.isBlankName call.request.rendered.name = true)
    (session : Session σ) :
    generator.savedBy call session = none ∧ generator.storedBy call session = none := by
  rw [savedBy, storedBy, compiledBy, start_render_of_blank blank]
  exact ⟨rfl, rfl⟩

theorem savedBy_of_named (generator : Generator σ ρ) {call : Call}
    (named : Identifier.isBlankName call.request.rendered.name = false) (session : Session σ) :
    generator.savedBy call session = generator.savedOf call.request.rendered session ∧
      generator.storedBy call session =
        (generator.compiledOf call.request.rendered call.errorOnWarning session).filter
          fun entry => (Storable.toBytes entry.2).isOk := by
  rw [savedBy, storedBy, compiledBy, start_render_of_named named]
  exact ⟨rfl, rfl⟩

theorem answer_of_blank {call : Call}
    (blank : Identifier.isBlankName call.request.rendered.name = true) (session : Session σ) :
    (generator.answer call session).2.world = session.world := by
  rw [answer, start_generateWith, start_render_of_blank blank]
  rfl

structure Steady (generator : Generator σ ρ) : Prop where
  keeps : generator.engine.KeepsFiles
  roundTrips : Storable.RoundTrips ρ
  kinds : Storable.TextsApart ρ ∨ generator.store.ExtensionsApart
  source : '/' ∉ generator.store.sourceExtension.toList
  compiled : '/' ∉ generator.store.compiledExtension.toList

theorem follows_answer (steady : generator.Steady) {session : Session σ}
    (lies : generator.store.LiesAt session.world.files home)
    (follows : Follows generator.store home name session.world.files saved stored) (call : Call) :
    Follows generator.store home name (generator.answer call session).2.world.files
      (saved ++ (generator.savedBy call session).toList)
      (stored ++ (generator.storedBy call session).toList) := by
  cases named : Identifier.isBlankName call.request.rendered.name with
  | true =>
    obtain ⟨nothing, nothing'⟩ := savedBy_of_blank generator named session
    rw [nothing, nothing', answer_of_blank named]
    simpa using follows
  | false =>
    have valid : isFileName call.request.rendered.name = true :=
      Identifier.isFileName_sanitize named
    obtain ⟨isSaved, isStored⟩ := savedBy_of_named generator named session
    rw [isSaved, isStored, savedOf, compiledOf]
    have course := course_generateWith steady.keeps named call.errorOnWarning session
    unfold answer
    generalize ((generator.generateWith call.request call.errorOnWarning).start session).1 = result
      at course
    generalize ((generator.generateWith call.request call.errorOnWarning).start
      session).2.world.files = after at course ⊢
    -- Each way of the generation appends to either list what it saved and what that compiled to.
    cases course with
    | unsaved saves =>
      simp only [saves, Option.toList_none, List.append_nil, Option.filter_none]
      exact follows.of_addsDirectories (save_error saves)
    | refused saves compiles =>
      simp only [saves, Session.withFiles, compiles, Option.toList_some, Option.toList_none,
        List.append_nil, Option.filter_none]
      exact follows.saveSource steady.kinds lies valid steady.source saves
    | @unstored _ _ rules _ _ saves compiles fails =>
      simp only [saves, Session.withFiles, compiles, Option.toList_some]
      have sourced := follows.saveSource steady.kinds lies valid steady.source saves
      cases written : Storable.toBytes rules with
      | error message =>
        -- Rules that cannot be written leave those of an earlier source where they are.
        simp only [Option.filter, written, Except.isOk, Except.toBool, Bool.false_eq_true, if_false,
          Option.toList_none, List.append_nil]
        exact sourced.of_addsDirectories (save_error fails)
      | ok content =>
        simp only [Option.filter, written, Except.isOk, Except.toBool, if_true, Option.toList_some]
        -- The source was saved, so the directory stands by now, where it was to stand.
        obtain ⟨home', stands, changes⟩ := save_stands (namesFile_append valid steady.source) saves
        obtain rfl : home' = home :=
          (LiesAt.of_leads stands.leads).eq (lies.mono changes.directoriesIn)
        exact sourced.unsavedCompiled stands valid steady.compiled written fails
    | stored saves compiles stores files =>
      obtain ⟨content, written, -⟩ := read_of_saveCompiled stores
      simp only [saves, Session.withFiles, compiles, Option.toList_some, Option.filter, written,
        Except.isOk, Except.toBool, if_true]
      have kept := (save_changesOnly (namesFile_append valid steady.source)
        (congrArg Prod.snd saves)).directoriesIn
      exact (follows.saveSource steady.kinds lies valid steady.source saves).saveCompiled
        steady.roundTrips steady.kinds (lies.mono kept) valid steady.compiled stores

/-! ## Runs -/

theorem directoriesIn_answer (steady : generator.Steady) (call : Call) (session : Session σ) :
    DirectoriesIn session.world.files (generator.answer call session).2.world.files := by
  cases named : Identifier.isBlankName call.request.rendered.name with
  | true =>
    rw [answer_of_blank named]
    exact .refl _
  | false =>
    have course := course_generateWith steady.keeps named call.errorOnWarning session
    rw [answer]
    exact (course.changesOnly (Identifier.isFileName_sanitize named) steady.source
      steady.compiled).directoriesIn

theorem storable_cons (turn : Turn σ) (turns : List (Turn σ)) :
    generator.storable (turn :: turns) =
      (generator.storedBy turn.call turn.before).toList ++ generator.storable turns :=
  filterMap_cons_toList _ _ _

theorem follows_finish (steady : generator.Steady) {session : Session σ}
    (lies : generator.store.LiesAt session.world.files home)
    (follows : Follows generator.store home name session.world.files saved stored)
    (calls : List Call) :
    Follows generator.store home name (generator.finish calls session).world.files
      (saved ++ generator.saved (generator.turns calls session))
      (stored ++ generator.storable (generator.turns calls session)) := by
  induction calls generalizing session saved stored with
  | nil => simpa [finish, turns, Generator.saved, storable] using follows
  | cons call calls ih =>
    rw [finish, turns, saved_cons, storable_cons, ← List.append_assoc, ← List.append_assoc]
    exact ih (lies.mono (directoriesIn_answer steady call session))
      (follows_answer steady lies follows call)

theorem directoriesIn_finish (steady : generator.Steady) (calls : List Call) (session : Session σ) :
    DirectoriesIn session.world.files (generator.finish calls session).world.files := by
  induction calls generalizing session with
  | nil => exact .refl _
  | cons call calls ih => exact (directoriesIn_answer steady call session).trans (ih _)

def rulesFor? (generator : Generator σ ρ) (options : CompileOptions) (world : World σ)
    (source : String) : Option ρ :=
  (generator.engine.compile source options world).value.toOption.filter
    fun rules => (Storable.toBytes rules).isOk

theorem storedBy_eq (alike : generator.engine.CompilesAlike)
    (call : Call) (session : Session σ) (world : World σ) :
    generator.storedBy call session = (generator.savedBy call session).bind fun entry =>
      (generator.rulesFor? (generator.optionsWith call.errorOnWarning) world entry.2).map
        (entry.1, ·) := by
  unfold storedBy compiledBy savedBy
  split
  · rfl
  · rename_i rendered later same
    unfold compiledOf savedOf
    split
    · rfl
    · rename_i path files saves
      rw [alike _ _ _ world]
      simp only [Option.bind_some, rulesFor?]
      cases (generator.engine.compile rendered.source
        (generator.optionsWith call.errorOnWarning) world).value with
      | error failure => rfl
      | ok rules =>
        simp only [Except.toOption, Option.filter]
        split <;> rfl

theorem storable_turns (alike : generator.engine.CompilesAlike)
    (requests : List Request) (session : Session σ) (world : World σ) :
    generator.storable (generator.turns (generator.callsOf requests) session) =
      (generator.saved (generator.turns (generator.callsOf requests) session)).filterMap fun entry =>
        (generator.rulesFor? generator.options world entry.2).map (entry.1, ·) := by
  induction requests generalizing session with
  | nil => rfl
  | cons request requests ih =>
    rw [callsOf, List.map_cons, turns, storable_cons, saved_cons, List.filterMap_append,
      storedBy_eq alike _ _ world]
    refine congrArg₂ (· ++ ·) ?_ (ih _)
    cases generator.savedBy ⟨request, generator.options.errorOnWarning⟩ session with
    | none => rfl
    | some entry =>
      simp only [Option.bind_some, Option.toList_some, filterMap_cons_toList, List.filterMap_nil,
        List.append_nil]
      rfl

theorem lastOf_filterMap_eq_none {α β : Type} {items : List (String × α)} {name : String}
    (nothing : lastOf name items = none) (f : α → Option β) :
    lastOf name (items.filterMap fun entry => (f entry.2).map (entry.1, ·)) = none := by
  induction items with
  | nil => rfl
  | cons entry rest ih =>
    obtain ⟨other, value⟩ := entry
    rw [lastOf, Option.or_eq_none_iff] at nothing
    obtain ⟨later, apart⟩ := nothing
    have differ : other ≠ name := by
      intro same
      rw [if_pos same] at apart
      cases apart
    rw [filterMap_cons_toList, lastOf_append, ih later]
    cases f value with
    | none => rfl
    | some result => simp [lastOf, differ]

theorem lastOf_filterMap {α β : Type} {items : List (String × α)} {name : String} {value : α}
    {f : α → Option β} {result : β} (last : lastOf name items = some value)
    (gives : f value = some result) :
    lastOf name (items.filterMap fun entry => (f entry.2).map (entry.1, ·)) = some result := by
  induction items with
  | nil => cases last
  | cons entry rest ih =>
    obtain ⟨other, first⟩ := entry
    rw [filterMap_cons_toList, lastOf_append]
    rw [lastOf, Option.or_eq_some_iff] at last
    rcases last with later | ⟨nothing, here⟩
    · rw [ih later]
      rfl
    · rw [lastOf_filterMap_eq_none nothing]
      split at here
      · rename_i same
        cases here
        simp [gives, lastOf, same]
      · cases here

/-- After any run that begins in an empty store, the source that is loaded for a name is the last one
that was saved for it, and the rules that are loaded are the last that a source saved for it was compiled
to and that can be written. So they were compiled from this source, unless the compiler refuses it or
gives rules for it that cannot be written. -/
theorem pair_of_finish (steady : generator.Steady) (alike : generator.engine.CompilesAlike)
    {start : Session σ} (empty : generator.store.IsEmpty start.world.files) (requests : List Request)
    (valid : isFileName name = true) {source : String} {rules : ρ}
    (loadsSource : generator.store.loadSource name
      (generator.finish (generator.callsOf requests) start).world.files = .ok source)
    (loadsRules : generator.store.loadCompiled name ρ
      (generator.finish (generator.callsOf requests) start).world.files = .ok rules) :
    lastOf name (generator.saved (generator.turns (generator.callsOf requests) start)) =
        some source ∧
      lastOf name (generator.storable (generator.turns (generator.callsOf requests) start)) =
        some rules ∧
      ∀ world, (generator.engine.compile source generator.options world).value = .ok rules ∨
        (∃ failure, (generator.engine.compile source generator.options world).value =
          .error failure) ∨
        ∃ unwritable message, (generator.engine.compile source generator.options world).value =
          .ok unwritable ∧ Storable.toBytes unwritable = .error message := by
  obtain ⟨bytes, found, text⟩ := loadSource_ok loadsSource
  obtain ⟨bytes', found', decoded⟩ := loadCompiled_ok loadsRules
  obtain ⟨home, led, -, there⟩ := read_join_ok (namesFile_append valid steady.source) found
  obtain ⟨home', led', fits, there'⟩ := read_join_ok (namesFile_append valid steady.compiled) found'
  obtain rfl : home = home' := Except.ok.inj (led.symm.trans led')
  -- Where the directory stands in the end is where it would have stood in the beginning.
  have kept := directoriesIn_finish steady (generator.callsOf requests) start
  have lies : generator.store.LiesAt start.world.files home := ⟨_, kept.workingDirectory, led⟩
  have follows := follows_finish steady lies (follows_of_isEmpty empty lies name)
    (generator.callsOf requests)
  have lastSource := follows.source bytes source there text
  have lastRules := follows.rules fits bytes' rules there' decoded
  refine ⟨lastSource, lastRules, fun world => ?_⟩
  cases compiles : (generator.engine.compile source generator.options world).value with
  | error failure => exact .inr (.inl ⟨failure, rfl⟩)
  | ok compiled =>
    cases written : Storable.toBytes compiled with
    | error message => exact .inr (.inr ⟨compiled, message, rfl, written⟩)
    | ok content =>
      have given : generator.rulesFor? generator.options world source = some compiled := by
        simp only [rulesFor?, compiles, Except.toOption, Option.filter, written, Except.isOk,
          Except.toBool, if_true]
      rw [List.nil_append] at lastSource lastRules
      rw [storable_turns alike requests start world, lastOf_filterMap lastSource given] at lastRules
      rw [Option.some.inj lastRules]
      exact .inl rfl

namespace Sample

def undeclared : Request := { Sample.request with condition := "$a and $b" }

def undeclaredSource : String :=
  "rule a_b: mal\n\x7b\n    meta:\n        author = \"me\"\n\n    strings:\n        $a = \"evil\"\n\n"
    ++ "    condition:\n        $a and $b\n\x7d"

def meddling : Generator Unit where
  store := {}
  engine :=
    { pickyEngine with
      scan := fun _ _ world => .ofRecords { world with
        files := world.files.put ["work", "rules", "a_b.yar"] (.file (utf8 "?")) } [] [record] }
  options := {}

def slashed : Generator Unit := ⟨⟨"n/../m/..", "/../x", ".bin"⟩, pickyEngine, {}⟩

structure Bare where
  text : String
deriving DecidableEq

instance : Storable Bare where
  toBytes rules := .ok (utf8 rules.text)
  ofBytes bytes :=
    match ofUtf8? bytes with
    | some text => .ok ⟨text⟩
    | none => .error "not a text"

def doubling : Generator Unit Bare where
  store := { sourceExtension := ".bin" }
  engine :=
    { compile := fun source _ world => ⟨.ok ⟨source ++ source⟩, world, []⟩
      scan := fun _ _ world => .ofRecords world [] [record] }
  options := {}

def directories : FileTree :=
  ((FileTree.bare ["work"]).put ["work", "rules"] .directory).put ["work", "other"] .directory

def besides : Session Unit :=
  ⟨⟨(directories.put ["work", "other", "x.yar"] (.file (utf8 "?"))).put ["work", "other", "x.bin"]
    (.file (RuleSet.toBytes ⟨[]⟩)), ()⟩, []⟩

end Sample

theorem Sample.refused_undeclared :
    Language.compile Sample.undeclaredSource ⟨false, false, none, []⟩ =
      .error (.unknownPattern ⟨"$b", "$b\n\x7d".toList, "\n\x7d".toList⟩) := by
  cbv

theorem Sample.value_undeclared : ∃ failure, ∀ world : World Unit,
    (Language.engine.compile Sample.undeclaredSource {} world).value = .error failure := by
  refine ⟨Language.refusal (Language.Problem.message Sample.undeclaredSource.toList
    (.unknownPattern ⟨"$b", "$b\n\x7d".toList, "\n\x7d".toList⟩)) Sample.undeclaredSource,
    fun world => ?_⟩
  simp only [Language.engine, Language.Toolchain.engine, Language.Toolchain.engineCompile,
    Language.Toolchain.build, Language.Toolchain.define, Language.Toolchain.language,
    Sample.refused_undeclared]

theorem Sample.value_plain (world : World Unit) :
    (Language.engine.compile Sample.plain.source.render {} world).value =
      .ok ⟨[Sample.compiled]⟩ := by
  have builds : Language.Toolchain.language.build Sample.plain.source.render {} =
      .ok (⟨[Sample.compiled]⟩, []) := build_plain true
  simp only [Language.engine, Language.Toolchain.engine, Language.Toolchain.engineCompile, builds,
    List.isEmpty_nil, if_true]

def Sample.twice : List Call := [⟨Sample.plain, true⟩, ⟨Sample.undeclared, true⟩]

theorem Sample.callsOf_twice :
    (ofLanguage {} : Generator Unit).callsOf [Sample.plain, Sample.undeclared] = Sample.twice := rfl

theorem Sample.regular_ofLanguage : (ofLanguage {} : Generator Unit).Regular :=
  ⟨Language.Toolchain.language.functional_engine, fun _ _ _ rules _ => ⟨rules.toBytes, rfl⟩,
    ⟨rfl, rfl⟩⟩

theorem Sample.steady_ofLanguage : (ofLanguage {} : Generator Unit).Steady where
  keeps := Language.Toolchain.language.keepsFiles_engine
  roundTrips := RuleSet.roundTrips
  kinds := .inr Sample.regular_ofLanguage.extensions.extensionsApart
  source := Sample.regular_ofLanguage.extensions.plain.1
  compiled := Sample.regular_ofLanguage.extensions.plain.2

theorem Sample.usable_ofLanguage :
    (ofLanguage {} : Generator Unit).store.Usable Sample.emptySession.world.files
      ["work", "rules"] := Sample.usable_emptySession

theorem Sample.lastOf_twice :
    lastOf "a_b" ((ofLanguage {} : Generator Unit).saved
      ((ofLanguage {}).turns Sample.twice Sample.emptySession)) = some Sample.undeclaredSource ∧
    lastOf "a_b" ((ofLanguage {} : Generator Unit).compiled
      ((ofLanguage {}).turns Sample.twice Sample.emptySession)) = some ⟨[Sample.compiled]⟩ := by
  have extensions := Sample.regular_ofLanguage.extensions
  have usable := Sample.usable_ofLanguage
  have usable' := (saves_answer Sample.regular_ofLanguage usable
    ⟨Sample.plain, true⟩).usable usable
  obtain ⟨name, -, sound, -⟩ := evaluated_plain
  obtain ⟨failure, refused⟩ := Sample.value_undeclared
  obtain ⟨saved, compiled⟩ := savedBy_usable extensions usable ⟨Sample.plain, true⟩ "a_b"
    Sample.plain.source.render name (by decide +kernel) (by rw [← name]; rfl) (by rw [← name]; exact sound)
    Sample.value_plain
  obtain ⟨saved', compiled'⟩ := savedBy_usable extensions usable' ⟨Sample.undeclared, true⟩ "a_b"
    Sample.undeclaredSource (by decide +kernel) (by decide +kernel) (by decide +kernel)
    (by decide +kernel) refused
  rw [Sample.twice, turns, turns, turns, saved_cons, saved_cons, compiled_cons, compiled_cons, saved,
    saved', compiled, compiled']
  exact ⟨rfl, rfl⟩

theorem Sample.loads_twice :
    let generator : Generator Unit := ofLanguage {}
    let last := generator.finish Sample.twice Sample.emptySession
    generator.store.loadSource "a_b" last.world.files = .ok Sample.undeclaredSource ∧
      generator.store.loadCompiled "a_b" RuleSet last.world.files = .ok ⟨[Sample.compiled]⟩ := by
  dsimp only
  have regular := Sample.regular_ofLanguage
  obtain ⟨lastSource, lastRules⟩ := Sample.lastOf_twice
  have source := read_source regular Sample.usable_ofLanguage Sample.twice lastSource
  obtain ⟨content, written, rules⟩ :=
    read_compiled regular Sample.usable_ofLanguage Sample.twice lastRules
  constructor
  · simp only [loadSource, source, ofUtf8?_utf8]
  · have reads := RuleSet.roundTrips _ _ written
    exact loadCompiled_of_read rules reads

theorem Sample.isEmpty_besides : Sample.pickyGenerator.store.IsEmpty Sample.besides.world.files := by
  have led : Sample.besides.world.files.leads Sample.pickyGenerator.store.directory =
      .ok ["work", "rules"] := by cbv
  have adds : AddsDirectories (.bare ["work"]) Sample.directories :=
    (addsDirectories_put (by decide)).trans (addsDirectories_put (by decide))
  apply isEmpty_of_leads led
  intro file
  rw [Sample.besides, content?_put (by decide), if_neg (by simp),
    content?_put (by decide), if_neg (by simp), adds.content?, content?_bare]

/-- What is loaded need not belong together. The compiler of the rule language may refuse a later source
for the same name, another compiler may give rules for it that cannot be written, an engine may write
over files, rules that are texts may take the place of their source if both have one extension, a source
may be stored under many names if its extension has a slash, and a name with slashes may be loaded from
anywhere. -/
theorem finish_separates :
    Separates (ofLanguage {}) [Sample.plain, Sample.undeclared] Sample.emptySession "a_b" ∧
    Separates Sample.verbatim [Sample.request, { Sample.request with condition := "?" }]
      Sample.emptySession "a_b" ∧
    Separates Sample.meddling [Sample.request] Sample.emptySession "a_b" ∧
    Separates Sample.doubling [Sample.request] Sample.emptySession "a_b" ∧
    Separates Sample.slashed
      [{ Sample.request with rule := "n" }, { Sample.request with rule := "m", condition := "?" }]
      Sample.emptySession "n" ∧
    Separates Sample.pickyGenerator [Sample.request] Sample.besides "../other/x" := by
  refine ⟨⟨?_, ?_, ?_⟩, ⟨?_, ?_, ?_⟩, ⟨?_, ?_, ?_⟩, ⟨?_, ?_, ?_⟩, ⟨?_, ?_, ?_⟩, ⟨?_, ?_, ?_⟩⟩
  · exact Sample.regular_ofLanguage.functional.compilesAlike
  · exact isEmpty_bare _ _
  · rw [Sample.callsOf_twice]
    refine ⟨_, _, Sample.loads_twice.1, Sample.loads_twice.2, fun same => ?_⟩
    obtain ⟨failure, refused⟩ := Sample.value_undeclared
    exact nomatch (refused _).symm.trans same
  · exact fun _ _ _ _ => rfl
  · exact isEmpty_bare _ _
  · exact ⟨Sample.refused, ⟨Sample.source⟩, by decide +kernel⟩
  · exact Sample.pickyEngine_functional.compilesAlike
  · exact isEmpty_bare _ _
  · exact ⟨"?", ⟨[]⟩, by decide +kernel⟩
  · exact fun _ _ _ _ => rfl
  · exact isEmpty_bare _ _
  · exact ⟨Sample.source ++ Sample.source, ⟨Sample.source ++ Sample.source⟩, by decide +kernel⟩
  · exact Sample.pickyEngine_functional.compilesAlike
  · exact isEmpty_bare _ _
  · exact ⟨"rule m: mal\n\x7b\n    meta:\n        author = \"me\"\n\n    condition:\n        ?\n\x7d",
      ⟨[]⟩, by decide +kernel⟩
  · exact Sample.pickyEngine_functional.compilesAlike
  · exact Sample.isEmpty_besides
  · exact ⟨"?", ⟨[]⟩, by decide +kernel⟩

theorem pair_of_finish_sample :
    let generator : Generator Unit := ofLanguage {}
    let turns := generator.turns Sample.twice Sample.emptySession
    lastOf "a_b" (generator.saved turns) = some Sample.undeclaredSource ∧
      lastOf "a_b" (generator.storable turns) = some ⟨[Sample.compiled]⟩ ∧
      ∀ world, (generator.engine.compile Sample.undeclaredSource generator.options world).value =
          .ok ⟨[Sample.compiled]⟩ ∨
        (∃ failure, (generator.engine.compile Sample.undeclaredSource generator.options world).value =
          .error failure) ∨
        ∃ unwritable message, (generator.engine.compile Sample.undeclaredSource generator.options
          world).value = .ok unwritable ∧ Storable.toBytes unwritable = .error message := by
  obtain ⟨source, rules⟩ := Sample.loads_twice
  rw [← Sample.callsOf_twice] at source rules
  have law := pair_of_finish Sample.steady_ofLanguage
    Sample.regular_ofLanguage.functional.compilesAlike (isEmpty_bare _ _)
    [Sample.plain, Sample.undeclared] (by decide +kernel) source rules
  rw [Sample.callsOf_twice] at law
  exact law

end Generator
end RuleSmith
