import Mathlib
import RuleSmith.Proofs.Generation
import RuleSmith.Proofs.Language.Depth
import RuleSmith.Proofs.Language.Scan
import RuleSmith.Proofs.Language.Toolchain
import RuleSmith.Proofs.Store.Saving

/-!
# From requests to sources and back

With a compiler and a scanner that report the rule a source begins with, a generation that succeeds
answers what it rendered, with every value written as the bytes that it denotes.
-/

namespace RuleSmith
open Files Text Literal RuleSmith.Language

def Source.normal (source : Source) : Source :=
  { source with
    metadata := source.metadata.map (·.mapValues Literal.normal)
    strings := source.strings.map (·.mapValues Literal.normal) }

/-- Whether the name, the tags and the keys of a request are words, and its values are bodies of
literals; of the strings only those that the condition refers to count. -/
structure Request.WellSpelled (request : Request) : Prop where
  name : IsWord (Identifier.sanitize request.rule)
  tags : ∀ tag ∈ request.tags, IsWord tag
  keys : ∀ entry ∈ request.metadata.toList, IsWord entry.1
  metadata : ∀ entry ∈ request.metadata.toList, IsBody entry.2
  strings : ∀ reference ∈ Reference.scan request.condition, ∀ value,
    request.patterns.get? reference = some value → IsBody value

structure Request.IsNormal (request : Request) : Prop where
  metadata : ∀ entry ∈ request.metadata.toList, ∃ bytes, entry.2 = escape bytes
  strings : ∀ reference ∈ Reference.scan request.condition, ∀ value,
    request.patterns.get? reference = some value → ∃ bytes, value = escape bytes

namespace Generator
open Job Store

variable {σ ρ : Type} {toolchain : Toolchain ρ} {settings : Settings} {request : Request}
  {errorOnWarning : Bool} {rendered : RenderedRule} {rules : ρ} {record : Record}
  {session before last : Session σ} {name condition out : String}

theorem begins_render (spelled : request.WellSpelled) :
    ∃ rest, Begins rest
      (frontTokens request.source.rule request.tags (denotedEntries request.metadata.toList)
        (denotedEntries (Reference.filter request.condition request.patterns).toList))
      request.source.render.toList := by
  rw [Source.render_eq, front_append]
  refine ⟨_, @begins_front request.source _ _ spelled.name spelled.tags spelled.keys
    spelled.metadata ?_ ?_ _⟩
  · intro entry member
    exact Reference.spelled_of_mem_scan (Reference.mem_scan_of_mem_filter member)
  · intro entry member
    exact spelled.strings _ (Reference.mem_scan_of_mem_filter member) _
      (Reference.get?_of_mem_filter member)

/-! ## The rules that are scanned -/

section
variable [Storable ρ] {generator : Generator σ ρ}

theorem Reaches.compiles
    (reaches : (ofSettings settings toolchain.engine).Reaches request errorOnWarning session rendered
      rules before) :
    ∃ setup warnings, toolchain.compile setup rendered.source = .ok (rules, warnings) := by
  cases reaches with
  | intro render saved compiled stored =>
    obtain ⟨warnings, builds⟩ := Toolchain.build_of_value compiled
    obtain ⟨setup, compiles⟩ := Toolchain.compile_of_build builds
    exact ⟨setup, warnings, compiles⟩

theorem Reaches.loads (roundTrips : Storable.RoundTrips ρ)
    (reaches : generator.Reaches request errorOnWarning session rendered rules before) :
    generator.rulesOf before.world.files (.stored rendered.name) = .ok rules := by
  cases reaches with
  | intro render saved compiled stored => exact Store.loadCompiled_of_saveCompiled roundTrips stored

theorem Reaches.read_source (functional : generator.engine.Functional)
    (plain : '/' ∉ generator.store.sourceExtension.toList)
    (plain' : '/' ∉ generator.store.compiledExtension.toList)
    (apart : generator.store.sourceExtension ≠ generator.store.compiledExtension)
    (reaches : generator.Reaches request errorOnWarning session rendered rules before) :
    before.world.files.read (generator.store.sourcePath rendered.name) =
      .ok (utf8 rendered.source) := by
  cases reaches with
  | intro render saved compiled stored =>
    rw [files_afterCompile functional] at stored
    exact Store.read_source_of_saves plain plain' apart saved (congrArg Prod.snd stored)

theorem reported_of_scans {compiled : Compiled ρ}
    (scans : (ofSettings settings toolchain.engine).Scans compiled before rules record) :
    ∃ bytes applying others, toolchain.scan rules bytes = .ok (applying, others) ∧
      candidateRecords applying others = [record] := by
  have told := scans.told
  simp only [ofSettings, Toolchain.engine, Toolchain.engineScan] at told
  split at told
  · cases told
  · split at told
    · cases told
    · rename_i applying others reported
      exact ⟨_, applying, others, reported, by simpa using told⟩

theorem tells_of_reaches {passesOver : String → Prop} (roundTrips : Storable.RoundTrips ρ)
    (reports : toolchain.Reports passesOver) (spelled : request.WellSpelled)
    (kept : ¬ passesOver request.source.render)
    (reaches : (ofSettings settings toolchain.engine).Reaches request errorOnWarning session rendered
      rules before) {loaded : ρ}
    (scans : (ofSettings settings toolchain.engine).Scans (.stored rendered.name) before loaded
      record) :
    ∃ sighting applies, record = sighting.record applies ∧
      Tells sighting request.source.rule request.tags (denotedEntries request.metadata.toList)
        (denotedEntries (Reference.filter request.condition request.patterns).toList) := by
  obtain rfl : rules = loaded := Except.ok.inj ((reaches.loads roundTrips).symm.trans scans.loaded)
  obtain ⟨setup, warnings, compiles⟩ := reaches.compiles
  obtain ⟨bytes, applying, others, reported, single⟩ := reported_of_scans scans
  obtain ⟨rest, begins⟩ := begins_render spelled
  rw [reaches.rendered_eq] at compiles
  -- The condition may close the rule and declare others, but its own rule is reported among them.
  obtain ⟨sighting, among, tells⟩ :=
    reports _ _ _ _ _ _ rest _ _ _ _ _ begins kept compiles reported
  obtain ⟨applies, same⟩ := record_of_mem single among
  exact ⟨sighting, applies, same, tells⟩

end

/-! ## The source that is answered -/

theorem patternName_reference {reference : String} (member : reference ∈ Reference.scan condition) :
    patternName reference = reference := by
  obtain ⟨text, spelled, -⟩ := Reference.spelled_of_mem_scan member
  simp [patternName, spelled]

theorem render_record {sighting : Sighting} {applies : Bool}
    (tells : Tells sighting request.source.rule request.tags (denotedEntries request.metadata.toList)
      (denotedEntries (Reference.filter request.condition request.patterns).toList))
    (complete :
      (Reference.missing request.condition (sighting.record applies).strings).isEmpty = true) :
    ((sighting.record applies).withCondition request.condition).toSource.render =
      request.source.normal.render := by
  apply Source.render_congr ((sighting.record applies).withCondition request.condition).toSource
    request.source.normal tells.name tells.tags _ rfl
  · intro reference member
    obtain ⟨value, found⟩ := Reference.missing_isEmpty_iff.mp complete reference member
    obtain ⟨entry, declared, same, rfl⟩ := get?_strings_record tells found
    -- The pattern that was found goes by the reference itself.
    have asked := Reference.mem_scan_of_mem_filter declared
    rw [patternName_reference asked] at same
    have stands := Reference.get?_of_mem_filter declared
    rw [← same] at stands
    refine found.trans ?_
    simp [Source.normal, Request.source, Request.toSource, InsertionMap.get?_mapValues, stands]
  · exact (metadata_record applies tells).trans
      (InsertionMap.ofList_toList (request.metadata.mapValues Literal.normal))

theorem render_normal (h : request.IsNormal) :
    request.source.normal.render = request.source.render := by
  apply Source.render_congr request.source.normal request.source rfl rfl _ rfl
  · intro reference member
    simp only [Source.normal, Request.source, Request.toSource, Option.map_some, Option.getD_some,
      InsertionMap.get?_mapValues]
    cases found : request.patterns.get? reference with
    | none => rfl
    | some value =>
      obtain ⟨bytes, rfl⟩ := h.strings reference member value found
      rw [Option.map_some, normal_escape]
  · apply InsertionMap.mapValues_eq_self
    intro entry member
    obtain ⟨bytes, eq⟩ := h.metadata entry member
    rw [eq, normal_escape]

/-! ## Sources of one rule -/

theorem generateWith_single [Storable ρ] (toolchain : Toolchain ρ) (settings : Settings)
    (request : Request) (session : Session σ) {home : Location} {content : List UInt8}
    {told : List Sighting × List Sighting} (roundTrips : Storable.RoundTrips ρ)
    (extensions : settings.store.UsualExtensions)
    (usable : settings.store.Usable session.world.files home)
    (named : Identifier.isBlankName request.rendered.name = false)
    (sound : settings.store.sourceFault request.rendered.name request.rendered.source = none)
    (builds : toolchain.build request.rendered.source { settings.options with errorOnWarning } =
      .ok (rules, []))
    (written : Storable.toBytes rules = .ok content)
    (reported : toolchain.scan rules (utf8 request.rendered.source) = .ok told)
    (single : candidateRecords told.1 told.2 = [record])
    (complete : (Reference.missing request.condition record.strings).isEmpty = true) :
    ∃ last, ((ofSettings settings toolchain.engine).generateWith request errorOnWarning).start
      session = (.ok (record.withCondition request.condition).toSource.render, last) := by
  have valid : isFileName request.rendered.name = true := Identifier.isFileName_sanitize named
  have replies (world : World σ) : (toolchain.engine.compile request.rendered.source
      { settings.options with errorOnWarning } world).value = .ok rules := by
    simp only [Toolchain.engine, Toolchain.engineCompile, builds, List.isEmpty_nil, if_true]
  have functional : (ofSettings settings toolchain.engine : Generator σ ρ).engine.Functional :=
    toolchain.functional_engine
  obtain ⟨before, reaches, files⟩ : ∃ before, (ofSettings settings toolchain.engine).Reaches request
      errorOnWarning session request.rendered rules before ∧
      before.world.files = settings.store.withCompiled home request.rendered.name content
        (settings.store.withSource home request.rendered.name request.rendered.source
          session.world.files) :=
    reaches_usable functional extensions usable named rfl sound written replies
  -- What is scanned is the text that was saved.
  have read : before.world.files.read (settings.store.sourcePath request.rendered.name) =
      .ok (utf8 request.rendered.source) :=
    (reads_withCompiled extensions usable valid sound content files).2
  have scanned : toolchain.engine.scan rules (settings.store.sourcePath request.rendered.name)
      before.world = .ofRecords before.world [] [record] := by
    rw [Toolchain.engineScan_of_read read reported, single]
  have scans : (ofSettings settings toolchain.engine).Scans (.stored request.rendered.name) before
      rules record := .of_record (reaches.loads roundTrips) scanned
  exact ⟨_, generateWith_ok_iff.mpr ⟨_, _, _, _, reaches, recoverSource_ok_iff.mpr
    ⟨_, _, scans, complete, rfl, rfl⟩, rfl⟩⟩

def ofLanguage (settings : Settings) : Generator σ := ofSettings settings Language.engine

namespace Sample

def plain : Request := { Sample.request with condition := "$a" }

def compiled : CompiledRule :=
  ⟨"a_b", "default", ["mal"], [("author", .bytes (utf8 "me"))], [⟨"$a", utf8 "evil", false⟩],
    .pattern 0⟩

end Sample

theorem evaluated_plain :
    Sample.plain.source.rule = "a_b" ∧
    Sample.plain.source.render =
      "rule a_b: mal\n\x7b\n    meta:\n        author = \"me\"\n\n    strings:\n        $a = \"evil\""
        ++ "\n\n    condition:\n        $a\n\x7d" ∧
    ({} : Settings).store.sourceFault Sample.plain.source.rule Sample.plain.source.render = none ∧
    Reference.scan Sample.plain.condition = ["$a"] ∧
    Sample.plain.patterns.get? "$a" = some "evil" ∧
    (IsBody "me" ∧ IsBody "evil") ∧ escape (utf8 "me") = "me" ∧ escape (utf8 "evil") = "evil" := by
  decide +kernel

theorem build_plain (errorOnWarning : Bool) :
    Toolchain.language.build Sample.plain.source.render { errorOnWarning } =
      .ok (⟨[Sample.compiled]⟩, []) := by
  rw [evaluated_plain.2.1]
  cbv

theorem passesOver_plain : passesOver Sample.plain.source.render = false := by
  rw [evaluated_plain.2.1]
  cbv

theorem wellSpelled_plain : Sample.plain.WellSpelled := by
  obtain ⟨name, -, -, scanned, found, ⟨isBody, isBody'⟩, -⟩ := evaluated_plain
  constructor
  · exact ⟨'a', "_b".toList, congrArg String.toList name, rfl, rfl⟩
  · intro tag member
    rw [List.mem_singleton.mp member]
    exact ⟨'m', "al".toList, rfl, rfl, rfl⟩
  · intro entry member
    rw [List.mem_singleton.mp member]
    exact ⟨'a', "uthor".toList, rfl, rfl, rfl⟩
  · intro entry member
    rw [List.mem_singleton.mp member]
    exact isBody
  · intro reference member value asked
    rw [scanned, List.mem_singleton] at member
    rw [member, found] at asked
    exact Option.some.inj asked ▸ isBody'

theorem isNormal_plain : Sample.plain.IsNormal := by
  obtain ⟨-, -, -, scanned, found, -, escaped, escaped'⟩ := evaluated_plain
  constructor
  · intro entry member
    rw [List.mem_singleton.mp member]
    exact ⟨_, escaped.symm⟩
  · intro reference member value asked
    rw [scanned, List.mem_singleton] at member
    rw [member, found] at asked
    exact ⟨_, (Option.some.inj asked).symm.trans escaped'.symm⟩

namespace Sample

def passedOver : Request where
  rule := "r"
  tags := []
  metadata := .empty
  artifacts := .empty
  condition := negationsBefore 999 "rule s\n\x7b\n    condition:\n        filesize > 1"

def second : CompiledRule :=
  ⟨"s", "default", [], [], [], .compare .greater .fileSize (.integer 1)⟩

end Sample

theorem wellSpelled_passedOver : Sample.passedOver.WellSpelled where
  name := ⟨'r', [], rfl, rfl, rfl⟩
  tags := by simp [Sample.passedOver]
  keys := by simp [Sample.passedOver, InsertionMap.empty]
  metadata := by simp [Sample.passedOver, InsertionMap.empty]
  strings := by
    intro reference member value found
    cases found

def Sample.isHarmless (c : Char) : Bool := c ≠ '$' && !(String.utf8EncodeChar c).contains 0

theorem isHarmless_passedOver : Sample.passedOver.condition.toList.all Sample.isHarmless = true :=
  all_negationsBefore (by decide) (by decide)

theorem scan_passedOver : Reference.scan Sample.passedOver.condition = [] :=
  Reference.scan_eq_nil fun member =>
    absurd (List.all_eq_true.mp isHarmless_passedOver _ member) (by decide)

theorem render_passedOver :
    Sample.passedOver.source.render =
      Source.layout ("rule " ++ "r") [] [] Sample.passedOver.condition := by
  have none : Sample.passedOver.source.referencedStrings.toList = [] := by
    rw [Source.referencedStrings, Reference.toList_filter]
    simp only [Request.source, Request.toSource, scan_passedOver]
    rfl
  rw [Source.render_eq, none]
  rfl

theorem rule_passedOver : Sample.passedOver.source.rule = "r" := by decide

theorem sourceFault_passedOver :
    ({} : Settings).store.sourceFault Sample.passedOver.source.rule Sample.passedOver.source.render =
      none := by
  have fits : FileTree.joinFault "rules" ("r" ++ ".yar") = none := by decide
  have before : (front ("rule " ++ "r") [] []).all Sample.isHarmless = true := by decide
  have behind : "\n\x7d".toList.all Sample.isHarmless = true := by decide
  have harmless : Sample.passedOver.source.render.toList.all Sample.isHarmless = true := by
    rw [render_passedOver, front_append, List.all_append, List.all_append, before,
      isHarmless_passedOver, behind]
    rfl
  have plain : (utf8 Sample.passedOver.source.render).contains 0 = false := by
    rw [utf8_eq_flatMap, List.contains_eq_mem, decide_eq_false_iff_not, List.mem_flatMap]
    rintro ⟨c, member, nul⟩
    have := List.all_eq_true.mp harmless c member
    simp [Sample.isHarmless, nul] at this
  rw [sourceFault, plain, rule_passedOver]
  simpa using fits

theorem build_passedOver :
    Toolchain.language.build Sample.passedOver.source.render {} = .ok (⟨[Sample.second]⟩, []) := by
  have behind : Language.compile ("rule s\n\x7b\n    condition:\n        filesize > 1" ++ "\n\x7d")
      ⟨false, false, none, []⟩ = .ok (⟨[Sample.second]⟩, []) := by
    cbv
  have compiles : Language.compile (Source.layout ("rule " ++ "r") [] [] Sample.passedOver.condition)
      ⟨false, false, none, []⟩ = .ok (⟨[Sample.second]⟩, []) :=
    compile_negationsBefore ⟨'r', [], rfl, rfl, rfl⟩ (by decide) (by decide) behind
  rw [render_passedOver]
  exact @build_language _ {} _ [] rfl compiles

theorem headLine_second (applies : Bool) (bytes : List UInt8) (condition : String) :
    (((sight bytes Sample.second).record applies).withCondition condition).toSource.headLine =
      "rule s" := rfl

theorem headLine_passedOver : Sample.passedOver.source.normal.headLine = "rule r" := rfl

/-- Assume of the compiler and the scanner that the rule a source begins with is reported, unless it is
passed over, and that rules are read as they were written. Then, whatever the condition of a well
spelled request is, a generation that succeeds answers the source in its normal form, if the rule is
not passed over. If the values are in normal form already, that is the source that was rendered and
stored. -/
theorem generateWith_normal [Storable ρ] {passesOver : String → Prop}
    (roundTrips : Storable.RoundTrips ρ) (reports : toolchain.Reports passesOver)
    (spelled : request.WellSpelled) (kept : ¬ passesOver request.source.render)
    (generated : ((ofSettings settings toolchain.engine).generateWith request errorOnWarning).start
      session = (.ok out, last)) :
    out = request.source.normal.render ∧
      (request.IsNormal → out = request.source.render ∧
        ('/' ∉ settings.store.sourceExtension.toList → '/' ∉ settings.store.compiledExtension.toList →
          settings.store.sourceExtension ≠ settings.store.compiledExtension →
            last.world.files.read (settings.store.sourcePath request.source.rule) =
              .ok (utf8 out))) := by
  obtain ⟨rendered, rules, before, later, reaches, recovered, rfl⟩ :=
    generateWith_ok_iff.mp generated
  obtain ⟨loaded, record, scans, complete, rfl, -⟩ := recoverSource_ok_iff.mp recovered
  obtain ⟨sighting, applies, rfl, tells⟩ :=
    tells_of_reaches roundTrips reports spelled kept reaches scans
  have normal := render_record tells complete
  refine ⟨normal, fun isNormal => ?_⟩
  have same := normal.trans (render_normal isNormal)
  refine ⟨same, fun plain plain' apart => ?_⟩
  have functional : (ofSettings settings toolchain.engine : Generator σ ρ).engine.Functional :=
    toolchain.functional_engine
  have unchanged := files_recoverSource functional (.stored rendered.name) request.condition before
  have stored := reaches.read_source functional plain plain' apart
  rw [recovered] at unchanged
  rw [← unchanged, reaches.rendered_eq] at stored
  rw [same]
  exact stored

/-- An engine that passes over the rule of a well spelled request may answer another rule, which the
condition declares behind it. -/
theorem generateWith_passedOver :
    Sample.passedOver.WellSpelled ∧ ∃ out last,
      ((ofLanguage {}).generateWith Sample.passedOver true).start Sample.emptySession =
        (.ok out, last) ∧ out ≠ Sample.passedOver.source.normal.render := by
  obtain ⟨last, generated⟩ := generateWith_single Toolchain.language {} Sample.passedOver
    Sample.emptySession RuleSet.roundTrips ⟨rfl, rfl⟩ Sample.usable_emptySession (by decide +kernel)
    sourceFault_passedOver build_passedOver (RuleSet.storable_toBytes _) rfl (candidateRecords_single _ _)
    (by rw [Reference.missing, scan_passedOver]; rfl)
  refine ⟨wellSpelled_passedOver, _, last, generated, ?_⟩
  apply Source.render_ne
  · rw [headLine_second, headLine_passedOver]
    decide +kernel
  · rw [headLine_second, headLine_passedOver]
    decide

theorem generateWith_plain (errorOnWarning : Bool) :
    ∃ out last, ((ofLanguage {}).generateWith Sample.plain errorOnWarning).start
      Sample.emptySession = (.ok out, last) := by
  obtain ⟨name, -, sound, -⟩ := evaluated_plain
  have named : Identifier.isBlankName Sample.plain.source.rule = false := by
    rw [name]
    decide +kernel
  obtain ⟨last, generated⟩ := generateWith_single Toolchain.language {} Sample.plain
    Sample.emptySession RuleSet.roundTrips ⟨rfl, rfl⟩ Sample.usable_emptySession named sound
    (build_plain errorOnWarning) (RuleSet.storable_toBytes _) rfl (candidateRecords_single _ _)
    (by decide +kernel)
  exact ⟨_, last, generated⟩

theorem generateWith_normal_sample :
    Storable.RoundTrips RuleSet ∧ Toolchain.language.Reports (passesOver · = true) ∧
    ∃ out last,
      ((ofLanguage {}).generateWith Sample.plain true).start Sample.emptySession = (.ok out, last) ∧
        out = Sample.plain.source.normal.render ∧ out = Sample.plain.source.render ∧
        last.world.files.read "rules/a_b.yar" = .ok (utf8 out) := by
  obtain ⟨out, last, generated⟩ := generateWith_plain true
  have law := generateWith_normal RuleSet.roundTrips reports_language wellSpelled_plain
    (by simp [passesOver_plain]) generated
  have stored := law.2 isNormal_plain
  refine ⟨RuleSet.roundTrips, reports_language, out, last, generated, law.1, stored.1, ?_⟩
  have path : ({} : Settings).store.sourcePath Sample.plain.source.rule = "rules/a_b.yar" := by
    rw [evaluated_plain.1]
    decide +kernel
  rw [← path]
  exact stored.2 (by decide +kernel) (by decide +kernel) (by decide +kernel)

end Generator
end RuleSmith
