import RuleSmith.Proofs.Recovery
import RuleSmith.Proofs.Store

namespace RuleSmith
open Files Text

variable {σ ρ : Type}

def Activity.isDealing : Activity → Bool
  | .compiled .. | .scanned .. | .answered .. => true
  | .logged .. => false

namespace Session

/-- What the engine was asked to do and what was answered to its records, in order. -/
def dealings (session : Session σ) : List Activity := session.history.filter Activity.isDealing

@[simp] theorem dealings_enter (session : Session σ) (world : World σ) (activities : List Activity) :
    (session.enter world activities).dealings =
      session.dealings ++ activities.filter Activity.isDealing := by
  simp [dealings, enter]

@[simp] theorem dealings_logging (session : Session σ) (events : List Event) :
    (session.logging events).dealings = session.dealings := by
  rw [logging, dealings_enter, filter_logged fun _ => rfl, List.append_nil]

end Session

namespace Generator
open Job

variable {generator : Generator σ ρ} {compiled : Compiled ρ} {rules : ρ} {failure : Failure}
  {name path condition : String} {session : Session σ}

theorem dealings_afterScan (rules : ρ) (path : String) (session : Session σ) :
    (generator.afterScan rules path session).dealings = session.dealings ++ .scanned path ::
      List.replicate (generator.engine.scan rules path session.world).told.length
        (.answered .proceed) := by
  have answered (count : Nat) : (List.replicate count (Activity.answered .proceed)).filter
      Activity.isDealing = List.replicate count (.answered .proceed) := by
    rw [List.filter_replicate]
    exact if_pos rfl
  rw [afterScan, Session.dealings_enter, List.cons_append, List.filter_cons_of_pos rfl,
    List.filter_append, answered, filter_logged fun _ => rfl, List.append_nil]

theorem verdict_of_several {records : List Record} (several : 2 ≤ records.length) :
    verdict name path condition records =
      .error (.severalRules name records.length, .severalRules name records.length) := by
  match records, several with
  | first :: second :: others, _ => rfl

theorem missing_eq_keys (condition : String) (record : Record) :
    Reference.missing condition record.strings =
      (Reference.scan condition).eraseDups.filter fun reference =>
        reference ∉ record.strings.keys := by
  rw [Reference.missing_eq]
  apply List.filter_congr
  intro reference _
  have absent : record.strings.contains reference = false ↔ reference ∉ record.strings.keys := by
    rw [InsertionMap.contains, Option.isSome_eq_false_iff, Option.isNone_iff_eq_none]
    exact InsertionMap.lookup_eq_none_iff
  rw [Bool.eq_iff_iff, Bool.not_eq_true', absent, decide_eq_true_iff]

theorem verdict_of_single (record : Record) :
    verdict name path condition [record] =
      let missing := (Reference.scan condition).eraseDups.filter fun reference =>
        reference ∉ record.strings.keys
      if missing = [] then .ok { record with condition }
      else .error (.missingPatterns name missing condition path, .incomplete record.rule missing) := by
  simp only [verdict, missing_eq_keys, List.isEmpty_iff]
  rfl

variable [Storable ρ]

theorem recoverRecord_of_unloaded
    (unloaded : generator.rulesOf session.world.files compiled = .error failure)
    (condition : String) :
    (generator.recoverRecord compiled condition).start session =
      (.error failure, session.logging [.loadFailed compiled.name failure]) := by
  rw [start_recoverRecord, unloaded]

theorem dealings_recoverRecord
    (loaded : generator.rulesOf session.world.files compiled = .ok rules) (condition : String) :
    ((generator.recoverRecord compiled condition).start session).2.dealings =
      session.dealings ++ .scanned (generator.store.sourcePath compiled.name) ::
        List.replicate (generator.engine.scan rules (generator.store.sourcePath compiled.name)
          session.world).told.length (.answered .proceed) := by
  obtain ⟨events, last⟩ := last_recoverRecord loaded condition
  rw [last, Session.dealings_logging, dealings_afterScan]

theorem recoverRecord_of_unscanned
    (loaded : generator.rulesOf session.world.files compiled = .ok rules)
    (unscanned : (generator.engine.scan rules (generator.store.sourcePath compiled.name)
      session.world).reply.value = .error failure) (condition : String) :
    ((generator.recoverRecord compiled condition).start session).1 = .error failure := by
  rw [start_recoverRecord, loaded]
  simp only [unscanned]

theorem recoverRecord_of_scanned {applying : List Record}
    (loaded : generator.rulesOf session.world.files compiled = .ok rules)
    (scanned : (generator.engine.scan rules (generator.store.sourcePath compiled.name)
      session.world).reply.value = .ok applying) (condition : String) :
    ((generator.recoverRecord compiled condition).start session).1 =
      (verdict compiled.name (generator.store.sourcePath compiled.name) condition
        (generator.engine.scan rules (generator.store.sourcePath compiled.name)
          session.world).told).mapError Prod.snd := by
  rw [start_recoverRecord, loaded]
  simp only [scanned]
  split <;> rename_i decided <;> rw [decided] <;> rfl

/-- A recovery leaves the files alone. If the rules cannot be loaded it asks nothing of the engine and
fails for that. Otherwise it has the source scanned once, goes on at every record and fails as the scan
does, or is decided by the records that it heard of. Rules at hand and the same rules in the store give
the same. -/
theorem recoverRecord_decided (keeps : generator.engine.KeepsFiles) (condition : String)
    (session : Session σ) :
    (∀ compiled : Compiled ρ,
      let name := compiled.name
      let path := generator.store.sourcePath name
      let outcome := (generator.recoverRecord compiled condition).start session
      outcome.2.world.files = session.world.files ∧
      (∀ failure, generator.rulesOf session.world.files compiled = .error failure →
        outcome.1 = .error failure ∧ outcome.2.dealings = session.dealings) ∧
      ∀ rules, generator.rulesOf session.world.files compiled = .ok rules →
        let heard := (generator.engine.scan rules path session.world).run Listener.hear ⟨[], []⟩
        let records := heard.2.records
        outcome.2.dealings = session.dealings ++
          .scanned path :: List.replicate records.length (.answered .proceed) ∧
        (∀ failure, heard.1.value = .error failure → outcome.1 = .error failure) ∧
        ∀ applying, heard.1.value = .ok applying →
          (records = [] → outcome.1 = .error (.noRecord name path)) ∧
          (2 ≤ records.length → outcome.1 = .error (.severalRules name records.length)) ∧
          ∀ record, records = [record] →
            let missing := (Reference.scan condition).eraseDups.filter fun reference =>
              reference ∉ record.strings.keys
            (missing ≠ [] → outcome.1 = .error (.incomplete record.rule missing)) ∧
            (missing = [] → outcome.1 = .ok { record with condition })) ∧
    ∀ name rules, generator.store.loadCompiled name ρ session.world.files = .ok rules →
      (generator.recoverRecord (.stored name) condition).start session =
        (generator.recoverRecord (.inMemory rules name) condition).start session := by
  refine ⟨fun compiled => ?_, fun name rules loaded => ?_⟩
  · refine ⟨keeps_recoverRecord keeps compiled condition session, fun failure unloaded => ?_,
      fun rules loaded => ?_⟩
    · rw [recoverRecord_of_unloaded unloaded, Session.dealings_logging]
      exact ⟨rfl, rfl⟩
    · simp only [Scan.run_hear, List.nil_append]
      refine ⟨dealings_recoverRecord loaded condition,
        fun failure unscanned => recoverRecord_of_unscanned loaded unscanned condition,
        fun applying scanned => ?_⟩
      rw [recoverRecord_of_scanned loaded scanned]
      refine ⟨fun none => ?_, fun several => ?_, fun record single => ⟨fun lacking => ?_,
        fun complete => ?_⟩⟩
      · rw [none]
        rfl
      · rw [verdict_of_several several]
        rfl
      · rw [single, verdict_of_single]
        simp only [if_neg lacking]
        rfl
      · rw [single, verdict_of_single]
        simp only [if_pos complete]
        rfl
  -- After loading, only the name and the rules count, which both ways have in common.
  · have same : generator.rulesOf session.world.files (.stored name) =
        generator.rulesOf session.world.files (.inMemory rules name) := loaded
    rw [start_recoverRecord, start_recoverRecord, same]
    rfl

theorem Sample.keepsFiles_scripted : Engine.scripted.KeepsFiles := by
  refine ⟨fun _ _ _ => rfl, fun rules path world => ?_⟩
  simp only [Engine.scripted]
  split
  · rfl
  · rw [Scan.reply_ofRecords]

def Sample.besideRules : Session Script :=
  ⟨⟨(Sample.generator.store.saveCompiled "a_b" (⟨[]⟩ : RuleSet) (.bare ["work"])).2,
    { records := [Sample.record] }⟩, []⟩

theorem recoverRecord_decided_sample :
    let recovery compiled :=
      (Sample.generator.recoverRecord compiled "$c or $a and $b or $c").start Sample.besideRules
    let outcome := recovery (.stored "a_b")
    outcome.2.world.files = Sample.besideRules.world.files ∧
      outcome.2.dealings = [.scanned "rules/a_b.yar", .answered .proceed] ∧
      outcome.1 = .error (.incomplete "a_b" ["$c", "$b"]) ∧
      outcome = recovery (.inMemory ⟨[]⟩ "a_b") := by
  have loaded : Sample.generator.store.loadCompiled "a_b" RuleSet Sample.besideRules.world.files =
      .ok ⟨[]⟩ := by decide +kernel
  have keeps : Sample.generator.engine.KeepsFiles := Sample.keepsFiles_scripted
  obtain ⟨law, same⟩ := recoverRecord_decided keeps "$c or $a and $b or $c" Sample.besideRules
  obtain ⟨kept, -, decided⟩ := law (.stored "a_b")
  obtain ⟨dealings, -, judged⟩ := decided ⟨[]⟩ loaded
  obtain ⟨-, -, single⟩ := judged [Sample.record] (by decide +kernel)
  refine ⟨kept, ?_, ?_, same "a_b" ⟨[]⟩ loaded⟩
  · rw [dealings]
    decide +kernel
  · rw [(single Sample.record (by decide +kernel)).1 (by decide +kernel)]
    decide +kernel

end Generator
end RuleSmith
