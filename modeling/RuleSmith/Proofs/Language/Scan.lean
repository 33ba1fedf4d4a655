import Mathlib.Data.List.Forall2
import RuleSmith.Language.Engine
import RuleSmith.Proofs.Language.Compile
import RuleSmith.Proofs.Literal

namespace RuleSmith.Language
open Literal

variable {bytes : List UInt8} {sighting : Sighting} {name : String} {tags : List String}
  {metadata strings : List (String × List UInt8)} {applying others : List Sighting}

/-- Whether a rule is reported with a name, tags and meta data, and with patterns that only match what
they are written as. -/
structure Tells (sighting : Sighting) (name : String) (tags : List String)
    (metadata strings : List (String × List UInt8)) : Prop where
  name : sighting.name = name
  tags : sighting.tags = tags
  metadata : sighting.metadata = metadata.map fun entry => (entry.1, .bytes entry.2)
  hits : List.Forall₂ (fun hit entry => hit.1 = entry.1 ∧ ∀ data ∈ hit.2, data = entry.2)
    sighting.hits strings

/-- What is relied on in a compiler and a scanner: the rule that a source begins with is reported by
every scan with the compiled rules, if the source compiles at all and the compiler does not pass over
the rule in silence. -/
def Toolchain.Reports {ρ : Type} (toolchain : Toolchain ρ) (passesOver : String → Prop) : Prop :=
  ∀ (setup : CompilerSetup) (source name : String) (tags : List String)
    (metadata strings : List (String × List UInt8)) (rest : List Char) (rules : ρ)
    (warnings : List String) (bytes : List UInt8) (applying others : List Sighting),
    Begins rest (frontTokens name tags metadata strings) source.toList → ¬ passesOver source →
      toolchain.compile setup source = .ok (rules, warnings) →
        toolchain.scan rules bytes = .ok (applying, others) →
          ∃ sighting ∈ applying ++ others, Tells sighting name tags metadata strings

theorem metadata_record {entries : List (String × String)} (applies : Bool)
    (tells : Tells sighting name tags (denotedEntries entries) strings) :
    (sighting.record applies).metadata =
      .ofList (entries.map fun entry => (entry.1, normal entry.2)) := by
  simp [Sighting.record, tells.metadata, denotedEntries, List.map_map, Function.comp_def, metaText,
    normal]

theorem Tells.exists_of_mem {hit : String × List (List UInt8)}
    (tells : Tells sighting name tags metadata strings) (among : hit ∈ sighting.hits) :
    ∃ entry ∈ strings, hit.1 = entry.1 ∧ ∀ data ∈ hit.2, data = entry.2 := by
  obtain ⟨position, rfl⟩ := List.get_of_mem among
  obtain ⟨same, tells⟩ := List.forall₂_iff_get.mp tells.hits
  exact ⟨_, List.get_mem _ ⟨position, same ▸ position.isLt⟩, tells _ position.isLt _⟩

theorem get?_strings_record {entries : List (String × String)} {applies : Bool}
    (tells : Tells sighting name tags metadata (denotedEntries entries)) {reference value : String}
    (found : (sighting.record applies).strings.get? reference = some value) :
    ∃ entry ∈ entries, reference = patternName entry.1 ∧ value = normal entry.2 := by
  obtain ⟨hit, among, told⟩ := List.mem_filterMap.mp (InsertionMap.mem_of_get?_ofList found)
  obtain ⟨data, first, same⟩ := Option.map_eq_some_iff.mp told
  cases same
  obtain ⟨entry, declared, named, plain⟩ := tells.exists_of_mem among
  obtain ⟨entry, written, rfl⟩ := List.mem_map.mp declared
  refine ⟨entry, written, by rw [named], ?_⟩
  rw [plain data (List.mem_of_mem_head? first), normal]

theorem record_of_mem {record : Record} (told : candidateRecords applying others = [record])
    (member : sighting ∈ applying ++ others) : ∃ applies, record = sighting.record applies := by
  have among : ∃ applies, sighting.record applies ∈ candidateRecords applying others := by
    rcases List.mem_append.mp member with applied | other
    · exact ⟨true, List.mem_append.mpr (Or.inl (List.mem_map_of_mem applied))⟩
    · exact ⟨false, List.mem_append.mpr (Or.inr (List.mem_map_of_mem other))⟩
  obtain ⟨applies, among⟩ := among
  rw [told, List.mem_singleton] at among
  exact ⟨applies, among.symm⟩

theorem find?_plain {pattern : Pattern} {data : List UInt8} (plain : pattern.ignoreCase = false)
    (found : Pattern.find? pattern bytes = some data) : data = pattern.content := by
  have taken : ∀ input, Pattern.standsAt pattern input = true →
      input.take pattern.content.length = pattern.content := by
    intro input stands
    rw [Pattern.standsAt, plain] at stands
    exact (List.prefix_iff_eq_take.mp (List.isPrefixOf_iff_prefix.mp stands)).symm
  induction bytes with
  | nil =>
    simp only [Pattern.find?] at found
    split at found
    · rename_i stands
      cases found
      simpa using taken [] stands
    · cases found
  | cons byte rest ih =>
    simp only [Pattern.find?] at found
    split at found
    · rename_i stands
      cases found
      exact taken _ stands
    · exact ih found

theorem tells_sight {rule : CompiledRule} (carries : Carries rule name tags metadata strings)
    (bytes : List UInt8) : Tells (sight bytes rule) name tags metadata strings where
  name := carries.name
  tags := carries.tags
  metadata := carries.metadata
  hits := by
    rw [sight, carries.patterns, List.map_map, List.forall₂_map_left_iff]
    refine List.forall₂_same.mpr fun entry _ => ⟨rfl, fun data found => ?_⟩
    exact find?_plain rfl (Option.mem_toList.mp found)

theorem sightings_perm (rules : RuleSet) (bytes : List UInt8) :
    ((sightings rules bytes).1 ++ (sightings rules bytes).2).Perm (rules.rules.map (sight bytes)) := by
  rw [sightings, ← List.map_append]
  exact (List.filter_append_perm _ _).map _

theorem candidateRecords_single (rule : CompiledRule) (bytes : List UInt8) :
    candidateRecords (sightings ⟨[rule]⟩ bytes).1 (sightings ⟨[rule]⟩ bytes).2 =
      [(sight bytes rule).record (applies bytes rule)] := by
  simp only [sightings, List.filter_singleton, candidateRecords]
  cases applies bytes rule <;> rfl

theorem build_language {source : String} {options : CompileOptions} {rules : RuleSet}
    {warnings : List Warning} (plain : options.externals = [])
    (compiles : compile source ⟨options.relaxedPatterns, options.errorOnSlowPattern, options.scope, []⟩ =
      .ok (rules, warnings)) :
    Toolchain.language.build source options =
      .ok (rules, warnings.map (Warning.message source.toList)) := by
  simp only [Toolchain.build, plain, Toolchain.define, Toolchain.language, compiles]

theorem reports_language : Toolchain.language.Reports (passesOver · = true) := by
  intro setup source name tags metadata strings rest rules warnings bytes applying others begins kept
    compiled scanned
  simp only [Toolchain.language] at compiled
  split at compiled
  · cases compiled
  · rename_i found compiles
    cases compiled
    obtain ⟨first, more, declared, carries⟩ := carries_front begins (by simpa using kept) compiles
    cases scanned
    refine ⟨sight bytes first, (sightings_perm rules bytes).mem_iff.mpr ?_, tells_sight carries bytes⟩
    rw [declared]
    exact List.mem_map_of_mem List.mem_cons_self

end RuleSmith.Language
