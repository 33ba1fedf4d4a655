import RuleSmith.Engine.Script
import RuleSmith.Proofs.Rule.Rendering
import RuleSmith.Proofs.Session

namespace RuleSmith.Generator
open Files Text Job

namespace Sample

def request : Request where
  rule := "a-b"
  tags := ["mal"]
  metadata := .ofList [("author", "me")]
  artifacts := .ofList [("$idle", ⟨"kept apart", "", ""⟩), ("$a", ⟨"evil", "", ""⟩)]
  condition := "$a and #a > 1 or $a"

def record : Record where
  rule := "a_b"
  scope := "default"
  tags := ["mal"]
  metadata := .ofList [("author", "me")]
  strings := .ofList [("$more", "surplus"), ("$a", "evil")]
  condition := ""
  applies := true

def generator : Generator Script := ⟨{}, .scripted, {}⟩

def session : Session Script := ⟨⟨.bare ["work"], { records := [record] }⟩, []⟩

def source : String :=
  "rule a_b: mal\n\x7b\n    meta:\n        author = \"me\"\n\n    strings:\n        $a = \"evil\"\n\n"
    ++ "    condition:\n        $a and #a > 1 or $a\n\x7d"

end Sample

theorem eq_of_fst {α β : Type} {pair : α × β} {first : α} (h : pair.1 = first) :
    pair = (first, pair.2) := by
  rw [← h]

variable {σ ρ : Type} [Storable ρ] {generator : Generator σ ρ} {compiled : Compiled ρ}
  {condition out : String} {request : Request} {errorOnWarning : Bool} {rendered : RenderedRule}
  {rules : ρ} {record : Record} {session before last : Session σ}

/-- Whether the rules to recover from, run over the source that belongs to them, tell of one record. -/
structure Scans (generator : Generator σ ρ) (compiled : Compiled ρ) (session : Session σ)
    (rules : ρ) (record : Record) : Prop where
  loaded : generator.rulesOf session.world.files compiled = .ok rules
  told : (generator.engine.scan rules (generator.store.sourcePath compiled.name) session.world).told
    = [record]
  ended : ∃ applying,
    (generator.engine.scan rules (generator.store.sourcePath compiled.name) session.world).reply.value
      = .ok applying

theorem Scans.of_record
    (loaded : generator.rulesOf session.world.files compiled = .ok rules)
    (told : generator.engine.scan rules (generator.store.sourcePath compiled.name) session.world =
      .ofRecords session.world [] [record]) : generator.Scans compiled session rules record := by
  refine ⟨loaded, ?_, ?_⟩
  · rw [told, Scan.told_ofRecords]
  · rw [told, Scan.reply_ofRecords]
    exact ⟨_, rfl⟩

theorem recoverRecord_ok_iff {recovered : Record} :
    (generator.recoverRecord compiled condition).start session = (.ok recovered, last) ↔
      ∃ rules record, generator.Scans compiled session rules record ∧
        (Reference.missing condition record.strings).isEmpty = true ∧
        recovered = record.withCondition condition ∧
        last = generator.afterScan rules (generator.store.sourcePath compiled.name) session := by
  constructor
  · intro ran
    cases generator.recovers_of_start ran with
    | recovered loaded scanned judged =>
      obtain ⟨record, told, complete, rfl⟩ := verdict_ok judged
      exact ⟨_, record, ⟨loaded, told, _, scanned⟩, complete, rfl, rfl⟩
  · rintro ⟨rules, record, ⟨loaded, told, applying, ended⟩, complete, rfl, rfl⟩
    simp [start_recoverRecord, loaded, told, ended, verdict, complete]

theorem recoverSource_ok_iff :
    (generator.recoverSource compiled condition).start session = (.ok out, last) ↔
      ∃ rules record, generator.Scans compiled session rules record ∧
        (Reference.missing condition record.strings).isEmpty = true ∧
        out = (record.withCondition condition).toSource.render ∧
        last = generator.afterScan rules (generator.store.sourcePath compiled.name) session := by
  rw [start_recoverSource]
  constructor
  · intro h
    split at h
    · rename_i recovered later found
      cases h
      obtain ⟨rules, record, scans, complete, rfl, rfl⟩ := recoverRecord_ok_iff.mp found
      exact ⟨rules, record, scans, complete, rfl, rfl⟩
    · cases h
  · rintro ⟨rules, record, scans, complete, rfl, rfl⟩
    rw [recoverRecord_ok_iff.mpr ⟨rules, record, scans, complete, rfl, rfl⟩]

/-- Whether a generation renders a rule, saves its source, compiles it to some rules and saves those,
and comes to the recovery in a session `before`. -/
inductive Reaches (generator : Generator σ ρ) (request : Request) (errorOnWarning : Bool)
    (session : Session σ) : RenderedRule → ρ → Session σ → Prop
  | intro {rendered : RenderedRule} {rules : ρ} {start : Session σ} {path path' : String}
      {files files' : FileTree}
      (render : (render request).start session = (.ok rendered, start))
      (saved : generator.store.saveSource rendered.name (utf8 rendered.source) start.world.files
        = (.ok path, files))
      (compiled : (generator.engine.compile rendered.source (generator.optionsWith errorOnWarning)
        (start.withFiles files).world).value = .ok rules)
      (stored : generator.store.saveCompiled rendered.name rules
        (generator.afterCompile rendered.source (generator.optionsWith errorOnWarning)
          (start.withFiles files)).world.files = (.ok path', files')) :
      Reaches generator request errorOnWarning session rendered rules
        ((generator.afterCompile rendered.source (generator.optionsWith errorOnWarning)
          (start.withFiles files)).withFiles files')

theorem generateWith_ok_iff :
    (generator.generateWith request errorOnWarning).start session = (.ok out, last) ↔
      ∃ rendered rules before later,
        generator.Reaches request errorOnWarning session rendered rules before ∧
        (generator.recoverSource (.stored rendered.name) request.condition).start before
          = (.ok out, later) ∧
        last = later.logging [.stored rendered.name out] := by
  rw [start_generateWith]
  constructor
  · intro h
    split at h
    · cases h
    · rename_i rendered start render
      split at h
      · cases h
      · rename_i recovered later produced
        cases h
        rw [start_produce] at produced
        simp only at produced
        split at produced
        · cases produced
        · rename_i path saved
          split at produced
          · cases produced
          · rename_i rules compiled
            split at produced
            · cases produced
            · rename_i path' stored
              exact ⟨rendered, rules, _, later,
                .intro render (Prod.ext saved rfl) compiled (Prod.ext stored rfl), produced, rfl⟩
  · rintro ⟨rendered, rules, before, later, reaches, recovered, rfl⟩
    cases reaches with
    | intro render saved compiled stored =>
      simp [render, start_produce, saved, compiled, stored, recovered]

theorem rendered_of_start {start : Session σ}
    (ran : (render request : Job σ RenderedRule).start session = (.ok rendered, start)) :
    rendered = request.rendered := by
  rw [start_render] at ran
  simp only at ran
  split at ran <;> cases ran
  rfl

theorem Reaches.rendered_eq
    (reaches : generator.Reaches request errorOnWarning session rendered rules before) :
    rendered = request.rendered := by
  cases reaches with
  | intro render saved compiled stored => exact rendered_of_start render

/-- Whether a source is the text of a record under a condition, with each string that the condition
refers to declared once, in the order of the first references and with its value in the record, and no
other; the section of strings is there unless the condition refers to nothing. -/
def DeclaresReferences (condition : String) (record : Record) (source : String) : Prop :=
  ∃ declared : List (String × String),
    declared.map Prod.fst = (Reference.scan condition).eraseDups ∧
    (∀ entry ∈ declared, record.strings.get? entry.1 = some entry.2) ∧
    (Source.block "strings" declared = "" ↔ Reference.scan condition = []) ∧
    source = Source.layout record.toSource.headLine record.metadata.toList declared condition

theorem declaresReferences_render
    (complete : (Reference.missing condition record.strings).isEmpty = true) :
    DeclaresReferences condition record (record.withCondition condition).toSource.render := by
  have keys := Reference.map_fst_filter complete
  refine ⟨(Reference.filter condition record.strings).toList, keys, ?_, ?_, ?_⟩
  · intro entry member
    exact Reference.get?_of_mem_filter member
  · rw [Source.block_eq_empty_iff, ← List.map_eq_nil_iff (f := Prod.fst), keys]
    constructor
    · intro none
      apply List.eq_nil_iff_forall_not_mem.mpr
      intro reference member
      rw [← List.mem_eraseDups, none] at member
      cases member
    · intro none
      rw [none, List.eraseDups_nil]
  · rw [Source.render_eq]
    rfl

/-- A recovered source declares exactly what its condition refers to, with the values of the one record
that was scanned, whether it is asked for or comes at the end of a generation. -/
theorem recovered_closed (generator : Generator σ ρ) :
    (∀ (compiled : Compiled ρ) (condition out : String) (session last : Session σ),
      (generator.recoverSource compiled condition).start session = (.ok out, last) →
        ∃ rules record, generator.Scans compiled session rules record ∧
          DeclaresReferences condition record out) ∧
    (∀ (request : Request) (errorOnWarning : Bool) (out : String) (session last : Session σ),
      (generator.generateWith request errorOnWarning).start session = (.ok out, last) →
        ∃ rendered compiled before rules record,
          generator.Reaches request errorOnWarning session rendered compiled before ∧
          generator.Scans (.stored rendered.name) before rules record ∧
          DeclaresReferences request.condition record out) := by
  constructor
  · intro compiled condition out session last recovered
    obtain ⟨rules, record, scans, complete, rfl, -⟩ := recoverSource_ok_iff.mp recovered
    exact ⟨rules, record, scans, declaresReferences_render complete⟩
  · intro request errorOnWarning out session last generated
    obtain ⟨rendered, compiled, before, later, reaches, recovered, -⟩ :=
      generateWith_ok_iff.mp generated
    obtain ⟨rules, record, scans, complete, rfl, -⟩ := recoverSource_ok_iff.mp recovered
    exact ⟨rendered, compiled, before, rules, record, reaches, scans,
      declaresReferences_render complete⟩

theorem recovered_closed_sample :
    ∃ last, (Sample.generator.generateWith Sample.request true).start Sample.session
        = (.ok Sample.source, last) ∧
      ∃ rendered compiled before rules record,
        Sample.generator.Reaches Sample.request true Sample.session rendered compiled before ∧
        Sample.generator.Scans (.stored rendered.name) before rules record ∧
        DeclaresReferences Sample.request.condition record Sample.source := by
  have generated : (Sample.generator.generateWith Sample.request true).start Sample.session =
      (.ok Sample.source, _) :=
    eq_of_fst (by decide +kernel)
  exact ⟨_, generated, (recovered_closed Sample.generator).2 _ _ _ _ _ generated⟩

/-- If the one record of the scan has the name, the tags and the meta data that were asked for, and
every string that the condition refers to with the value that was asked for, a generation gives the
text that it rendered and saved. Whatever else the record holds, and in whatever order, does not
matter. -/
theorem generateWith_of_faithful_scan {loaded : ρ}
    (reaches : generator.Reaches request errorOnWarning session rendered rules before)
    (scans : generator.Scans (.stored rendered.name) before loaded record)
    (rule : record.rule = Identifier.sanitize request.rule) (tags : record.tags = request.tags)
    (metadata : record.metadata = request.metadata)
    (strings : ∀ reference ∈ Reference.scan request.condition, ∃ value,
      record.strings.get? reference = some value ∧
        request.patterns.get? reference = some value) :
    ((render request : Job σ RenderedRule).start session).1 = .ok rendered ∧
      ((generator.generateWith request errorOnWarning).start session).1 = .ok rendered.source := by
  have complete : (Reference.missing request.condition record.strings).isEmpty = true := by
    rw [Reference.missing_isEmpty_iff]
    intro reference member
    obtain ⟨value, found, -⟩ := strings reference member
    exact ⟨value, found⟩
  have source : (record.withCondition request.condition).toSource.render = rendered.source := by
    rw [reaches.rendered_eq]
    apply Source.render_congr (record.withCondition request.condition).toSource
      (request.toSource _) rule tags metadata rfl
    intro reference member
    obtain ⟨value, found, asked⟩ := strings reference member
    exact found.trans asked.symm
  have recovered : (generator.recoverSource (.stored rendered.name) request.condition).start before =
      (.ok rendered.source,
        generator.afterScan loaded (generator.store.sourcePath rendered.name) before) :=
    recoverSource_ok_iff.mpr ⟨loaded, record, scans, complete, source.symm, rfl⟩
  have generated := generateWith_ok_iff.mpr ⟨rendered, rules, before, _, reaches, recovered, rfl⟩
  refine ⟨?_, by rw [generated]⟩
  cases reaches with
  | intro render saved compiled stored => rw [render]

theorem generateWith_of_faithful_scan_sample :
    ((render Sample.request : Job Script RenderedRule).start Sample.session).1
        = .ok ⟨"a_b", Sample.source⟩ ∧
      ((Sample.generator.generateWith Sample.request true).start Sample.session).1
        = .ok Sample.source := by
  have reaches : Sample.generator.Reaches Sample.request true Sample.session
      ⟨"a_b", Sample.source⟩ ⟨[]⟩ _ :=
    .intro (eq_of_fst (by decide +kernel))
      (eq_of_fst (by decide +kernel) : _ = (Except.ok "rules/a_b.yar", _)) (by decide +kernel)
      (eq_of_fst (by decide +kernel) : _ = (Except.ok "rules/a_b.bin", _))
  exact generateWith_of_faithful_scan reaches
    (⟨by decide +kernel, by decide +kernel, [Sample.record], by decide +kernel⟩ :
      Sample.generator.Scans _ _ ⟨[]⟩ Sample.record)
    (by decide +kernel) rfl rfl (by decide +kernel)

end RuleSmith.Generator
