import Mathlib.Data.List.Forall2
import Mathlib.Data.List.Induction
import RuleSmith.Language.Engine
import RuleSmith.Proofs.InsertionMap.History
import RuleSmith.Proofs.Language.Toolchain
import RuleSmith.Proofs.Literal

namespace RuleSmith

namespace Literal
open Text

/-- Whether a text, as the body of a literal, is read up to its closing quote and means some bytes,
whatever stands behind the quote. -/
def Denotes (body : String) (bytes : List UInt8) : Prop :=
  ∀ rest, read (body.toList ++ '"' :: rest) = some (bytes, rest)

def IsPrintable (c : Char) : Prop := 0x20 ≤ c.toNat ∧ c.toNat ≤ 0x7E

instance (c : Char) : Decidable (IsPrintable c) :=
  inferInstanceAs (Decidable (0x20 ≤ c.toNat ∧ c.toNat ≤ 0x7E))

theorem denotes_escape (bytes : List UInt8) : Denotes (escape bytes) bytes := by
  intro rest
  rw [escape, String.toList_ofList, read_escape]

theorem isPrintable_hexDigit : ∀ value < 16, IsPrintable (hexDigit value) := by decide

theorem isPrintable_of_mem_escapeByte {byte : UInt8} {c : Char} (member : c ∈ escapeByte byte) :
    IsPrintable c := by
  have size := byte.toNat_lt
  have fixed : ∀ text : List Char, (text.all fun d => decide (IsPrintable d)) = true →
      c ∈ text → IsPrintable c :=
    fun _ all inside => of_decide_eq_true (List.all_eq_true.mp all c inside)
  unfold escapeByte at member
  split_ifs at member with _ _ _ _ _ printable
  iterate 5 exact fixed _ (by decide) member
  · have low := UInt8.le_iff_toNat_le.mp printable.1
    have high := UInt8.le_iff_toNat_le.mp printable.2
    rw [List.mem_singleton.mp member, IsPrintable, toNat_ofNat_of_ascii (Nat.lt_succ_of_le high)]
    exact ⟨low, high⟩
  · simp only [hexByte, List.mem_cons, List.not_mem_nil, or_false] at member
    rcases member with rfl | rfl | rfl | rfl
    · decide
    · decide
    · exact isPrintable_hexDigit _ (by omega)
    · exact isPrintable_hexDigit _ (by omega)

theorem printable_escape {bytes : List UInt8} {c : Char} (member : c ∈ (escape bytes).toList) :
    IsPrintable c := by
  rw [escape, String.toList_ofList, escapeChars] at member
  obtain ⟨byte, -, inside⟩ := List.mem_flatMap.mp member
  exact isPrintable_of_mem_escapeByte inside

theorem escape_append (front back : List UInt8) :
    escape (front ++ back) = escape front ++ escape back := by
  rw [escape, escapeChars, List.flatMap_append, String.ofList_append]
  rfl

theorem escape_injective : Function.Injective escape := by
  intro bytes other same
  rw [← denoted_escape bytes, same, denoted_escape]

end Literal

namespace Language

/-! ## The first match -/

def Pattern.Matches (pattern : Pattern) (data : List UInt8) : Prop :=
  if pattern.ignoreCase then data.map lowerByte = pattern.content.map lowerByte
  else data = pattern.content

def Pattern.MatchesFirst (pattern : Pattern) (bytes data : List UInt8) : Prop :=
  ∃ front back, bytes = front ++ (data ++ back) ∧ Matches pattern data ∧
    ∀ front' data' back', bytes = front' ++ (data' ++ back') → Matches pattern data' →
      front.length ≤ front'.length

variable {pattern : Pattern} {bytes data : List UInt8}

theorem Pattern.Matches.length (h : Matches pattern data) :
    data.length = pattern.content.length := by
  unfold Matches at h
  split at h
  · simpa using congrArg List.length h
  · rw [h]

theorem Pattern.standsAt_iff :
    standsAt pattern bytes = true ↔ Matches pattern (bytes.take pattern.content.length) := by
  unfold standsAt Matches
  split
  · exact decide_eq_true_iff
  · rw [List.isPrefixOf_iff_prefix, List.prefix_iff_eq_take, eq_comm]

theorem Pattern.Matches.standsAt (h : Matches pattern data) (back : List UInt8) :
    standsAt pattern (data ++ back) = true := by
  rw [standsAt_iff, ← h.length, List.take_left]
  exact h

theorem Pattern.matchesFirst_of_standsAt (stands : standsAt pattern bytes = true) :
    MatchesFirst pattern bytes data ↔ data = bytes.take pattern.content.length := by
  have here := standsAt_iff.mp stands
  constructor
  · rintro ⟨front, back, rfl, matched, first⟩
    have none := first [] _ _ (List.take_append_drop _ _).symm here
    obtain rfl := List.length_eq_zero_iff.mp (Nat.le_zero.mp none)
    rw [← matched.length, List.nil_append, List.take_left]
  · rintro rfl
    exact ⟨[], _, (List.take_append_drop _ _).symm, here, fun _ _ _ _ _ => Nat.zero_le _⟩

theorem Pattern.not_matchesFirst_nil (none : standsAt pattern [] = false) :
    ¬ MatchesFirst pattern [] data := by
  rintro ⟨front, back, same, matched, -⟩
  obtain ⟨-, same⟩ := List.append_eq_nil_iff.mp same.symm
  rw [← same, matched.standsAt] at none
  cases none

theorem Pattern.matchesFirst_cons {byte : UInt8} {rest : List UInt8}
    (none : standsAt pattern (byte :: rest) = false) :
    MatchesFirst pattern (byte :: rest) data ↔ MatchesFirst pattern rest data := by
  -- No match begins at the first byte, so each begins in the rest.
  have later : ∀ front data back, byte :: rest = front ++ (data ++ back) → Matches pattern data →
      ∃ others, front = byte :: others ∧ rest = others ++ (data ++ back) := by
    intro front data back same matched
    cases front with
    | nil =>
      rw [same, List.nil_append, matched.standsAt] at none
      cases none
    | cons first others =>
      obtain ⟨rfl, tail⟩ := List.cons.inj same
      exact ⟨others, rfl, tail⟩
  constructor
  · rintro ⟨front, back, same, matched, first⟩
    obtain ⟨others, rfl, tail⟩ := later front data back same matched
    refine ⟨others, back, tail, matched, fun front' data' back' same' matched' => ?_⟩
    exact Nat.le_of_succ_le_succ
      (first (byte :: front') data' back' (congrArg (byte :: ·) same') matched')
  · rintro ⟨front, back, rfl, matched, first⟩
    refine ⟨byte :: front, back, rfl, matched, fun front' data' back' same' matched' => ?_⟩
    obtain ⟨others, rfl, tail⟩ := later front' data' back' same' matched'
    exact Nat.succ_le_succ (first others data' back' tail matched')

theorem Pattern.find?_eq_some_iff :
    find? pattern bytes = some data ↔ MatchesFirst pattern bytes data := by
  induction bytes with
  | nil =>
    rw [find?]
    by_cases stands : standsAt pattern [] = true
    · rw [if_pos stands, matchesFirst_of_standsAt stands, List.take_nil, Option.some.injEq, eq_comm]
    · rw [if_neg stands]
      exact iff_of_false nofun (not_matchesFirst_nil (Bool.eq_false_iff.mpr stands))
  | cons byte rest ih =>
    rw [find?]
    by_cases stands : standsAt pattern (byte :: rest) = true
    · rw [if_pos stands, matchesFirst_of_standsAt stands, Option.some.injEq, eq_comm]
    · rw [if_neg stands, ih, matchesFirst_cons (Bool.eq_false_iff.mpr stands)]

/-! ## Records -/

/-- Whether the values of a record denote what was reported: each string the first match of a pattern
that goes by its name, and each textual value of meta data the bytes that were given last. -/
structure Faithful (sighting : Sighting) (record : Record) : Prop where
  string : ∀ key value, record.strings.get? key = some value →
    ∃ hit ∈ sighting.hits, patternName hit.1 = key ∧
      ∃ data, hit.2.head? = some data ∧ Literal.Denotes value data
  matched : ∀ hit ∈ sighting.hits, hit.2 ≠ [] →
    ∃ value, record.strings.get? (patternName hit.1) = some value
  metadata : ∀ key data, InsertionMap.lookup key sighting.metadata.reverse = some (.bytes data) →
    ∃ value, record.metadata.get? key = some value ∧ Literal.Denotes value data

theorem Sighting.faithful (applies : Bool) (sighting : Sighting) :
    Faithful sighting (sighting.record applies) where
  string key value stands := by
    obtain ⟨hit, among, told⟩ := List.mem_filterMap.mp (InsertionMap.mem_of_get?_ofList stands)
    obtain ⟨data, first, same⟩ := Option.map_eq_some_iff.mp told
    obtain ⟨rfl, rfl⟩ := Prod.mk.inj same
    exact ⟨hit, among, rfl, data, first, Literal.denotes_escape data⟩
  matched hit among some := by
    obtain ⟨data, others, hits⟩ := List.exists_cons_of_ne_nil some
    rw [← InsertionMap.contains_iff, InsertionMap.contains_eq, record, InsertionMap.keys_ofList,
      decide_eq_true_iff, List.mem_eraseDups]
    refine List.mem_map.mpr ⟨(patternName hit.1, Literal.escape data),
      List.mem_filterMap.mpr ⟨hit, among, ?_⟩, rfl⟩
    rw [hits, List.head?_cons, Option.map_some]
  metadata key data given := by
    refine ⟨Literal.escape data, ?_, Literal.denotes_escape data⟩
    rw [record, InsertionMap.get?_ofList, ← List.map_reverse, InsertionMap.lookup_map, given]
    rfl

theorem exists_of_mem_candidateRecords {applying others : List Sighting} {record : Record}
    (member : record ∈ candidateRecords applying others) :
    ∃ sighting ∈ applying ++ others, ∃ applies, record = sighting.record applies := by
  rcases List.mem_append.mp member with told | told
  all_goals
    obtain ⟨sighting, among, rfl⟩ := List.mem_map.mp told
    refine ⟨sighting, List.mem_append.mpr ?_, _, rfl⟩
  · exact Or.inl among
  · exact Or.inr among

def Sights (bytes : List UInt8) (pattern : Pattern) (hit : String × List (List UInt8)) : Prop :=
  hit.1 = pattern.name ∧
    ∀ data, hit.2.head? = some data ↔ Pattern.MatchesFirst pattern bytes data

theorem sights_sight (bytes : List UInt8) (rule : CompiledRule) :
    List.Forall₂ (Sights bytes) rule.patterns (sight bytes rule).hits := by
  rw [sight, List.forall₂_map_right_iff]
  refine List.forall₂_same.mpr fun pattern _ => ⟨rfl, fun data => ?_⟩
  rw [Option.head?_toList, Pattern.find?_eq_some_iff]

end Language

/-- Whether a scan tells of a record or hands it back in the end, whatever it is answered. -/
def Scan.Mentions {σ : Type} (record : Record) : Scan σ → Prop
  | .finished reply => ∃ kept, reply.value = .ok kept ∧ record ∈ kept
  | .found told resume => record = told ∨ ∃ answer, (resume answer).Mentions record

theorem Scan.mem_of_mentions_ofRecords {σ : Type} {world : World σ} {kept records : List Record}
    {record : Record} (mentioned : (Scan.ofRecords world kept records).Mentions record) :
    record ∈ kept ∨ record ∈ records := by
  induction records generalizing kept with
  | nil =>
    obtain ⟨list, same, member⟩ := mentioned
    cases same
    exact Or.inl member
  | cons first others ih =>
    have grown : record ∈ (if first.applies then kept ++ [first] else kept) →
        record ∈ kept ∨ record ∈ first :: others := by
      intro member
      split at member
      · rcases List.mem_append.mp member with earlier | last
        · exact Or.inl earlier
        · exact Or.inr (List.mem_cons.mpr (Or.inl (List.mem_singleton.mp last)))
      · exact Or.inl member
    rcases mentioned with rfl | ⟨answer, later⟩
    · exact Or.inr List.mem_cons_self
    · cases answer with
      | proceed =>
        rcases ih later with earlier | member
        · exact grown earlier
        · exact Or.inr (List.mem_cons_of_mem _ member)
      | abort =>
        obtain ⟨list, same, member⟩ := later
        cases same
        exact grown member

namespace Language

open Files

variable {σ ρ : Type} {path : String} {world : World σ} {record : Record}

theorem Toolchain.reported_of_mentions {toolchain : Toolchain ρ} {rules : ρ}
    (mentioned : (toolchain.engine.scan rules path world).Mentions record) :
    ∃ bytes applying others, world.files.read path = .ok bytes ∧
      toolchain.scan rules bytes = .ok (applying, others) ∧
        record ∈ candidateRecords applying others := by
  simp only [engine, engineScan] at mentioned
  split at mentioned
  · obtain ⟨kept, failed, -⟩ := mentioned
    cases failed
  · rename_i bytes read
    split at mentioned
    · obtain ⟨kept, failed, -⟩ := mentioned
      cases failed
    · rename_i applying others reported
      exact ⟨bytes, applying, others, read, reported,
        (Scan.mem_of_mentions_ofRecords mentioned).resolve_left List.not_mem_nil⟩

theorem mem_sightings {rules : RuleSet} {bytes : List UInt8} {sighting : Sighting}
    (member : sighting ∈ (sightings rules bytes).1 ++ (sightings rules bytes).2) :
    ∃ rule ∈ rules.rules, sighting = sight bytes rule := by
  rcases List.mem_append.mp member with told | told <;>
    obtain ⟨rule, among, rfl⟩ := List.mem_map.mp told <;>
    exact ⟨rule, (List.mem_filter.mp among).1, rfl⟩

/-- Bytes are written in printable characters, one after another, and read back as they were up to the
quote behind them; so different bytes are written differently. The values of a record denote what a
scanner reported, whatever it reports. Whatever the compiler and the scanner, each record that a scan of
a file tells of is that of a report on the bytes of the file; and those of the rule language are made of
what a rule holds and of the first matches of its patterns. -/
theorem escape_faithful (bytes : List UInt8) :
    ((∀ c ∈ (Literal.escape bytes).toList, Literal.IsPrintable c) ∧
      Literal.Denotes (Literal.escape bytes) bytes ∧
      (∀ other, Literal.escape bytes = Literal.escape other → bytes = other) ∧
      ∀ other, Literal.escape (bytes ++ other) = Literal.escape bytes ++ Literal.escape other) ∧
    (∀ (sighting : Sighting) (applies : Bool), Faithful sighting (sighting.record applies)) ∧
    (∀ (ρ : Type) (toolchain : Toolchain ρ) (rules : ρ) (path : String) (world : World σ)
        (record : Record), world.files.read path = .ok bytes →
      (toolchain.engine.scan rules path world).Mentions record →
        ∃ applying others, toolchain.scan rules bytes = .ok (applying, others) ∧
          ∃ sighting ∈ applying ++ others, Faithful sighting record) ∧
    ∀ (rules : RuleSet) (path : String) (world : World σ) (record : Record),
      world.files.read path = .ok bytes → (engine.scan rules path world).Mentions record →
        ∃ rule ∈ rules.rules, ∃ (sighting : Sighting) (applies : Bool),
          record = sighting.record applies ∧ sighting.metadata = rule.metadata ∧
          List.Forall₂ (Sights bytes) rule.patterns sighting.hits := by
  refine ⟨⟨fun c => Literal.printable_escape, Literal.denotes_escape bytes,
    fun other same => Literal.escape_injective same, Literal.escape_append bytes⟩,
    fun sighting applies => sighting.faithful applies,
    fun ρ toolchain rules path world record read mentioned => ?_,
    fun rules path world record read mentioned => ?_⟩
  · obtain ⟨scanned, applying, others, read', reported, member⟩ :=
      Toolchain.reported_of_mentions mentioned
    obtain rfl := Except.ok.inj (read.symm.trans read')
    obtain ⟨sighting, among, applies, rfl⟩ := exists_of_mem_candidateRecords member
    exact ⟨applying, others, reported, sighting, among, sighting.faithful applies⟩
  · obtain ⟨scanned, applying, others, read', reported, member⟩ :=
      Toolchain.reported_of_mentions mentioned
    obtain rfl := Except.ok.inj (read.symm.trans read')
    cases reported
    obtain ⟨sighting, among, applies, rfl⟩ := exists_of_mem_candidateRecords member
    obtain ⟨rule, declared, rfl⟩ := mem_sightings among
    exact ⟨rule, declared, sight bytes rule, applies, rfl, rfl, sights_sight bytes rule⟩

def sampleRule : CompiledRule where
  name := "r"
  scope := "default"
  tags := []
  metadata := [("note", .bytes [0x22, 0x5C, 0xFF, 0x41])]
  patterns := [⟨"$a", [0x65, 0x76], true⟩]
  condition := .pattern 0

theorem escape_faithful_sample :
    let bytes := [0x22, 0x45, 0x76, 0x65, 0x76]
    let world : World Unit := ⟨(FileTree.bare []).put ["t"] (.file bytes), ()⟩
    let record := (sight bytes sampleRule).record true
    (Literal.escape bytes = "\\\"Evev" ∧ Literal.Denotes (Literal.escape bytes) bytes) ∧
    (world.files.read "t" = .ok bytes ∧
      (engine.scan ⟨[sampleRule]⟩ "t" world).Mentions record) ∧
    (∃ sighting, Faithful sighting record ∧
      Toolchain.language.scan ⟨[sampleRule]⟩ bytes = .ok ([sighting], [])) ∧
    ∃ (sighting : Sighting) (applies : Bool), record = sighting.record applies ∧
      sighting.metadata = sampleRule.metadata := by
  intro bytes world record
  have read : world.files.read "t" = .ok bytes := by decide +kernel
  have reported : Toolchain.language.scan ⟨[sampleRule]⟩ bytes = .ok ([sight bytes sampleRule], []) := by
    rfl
  have mentioned : (engine.scan ⟨[sampleRule]⟩ "t" world).Mentions record := by
    rw [engine, Toolchain.engineScan_of_read read reported]
    exact Or.inl rfl
  obtain ⟨⟨-, denotes, -, -⟩, -, told, scanned⟩ := @escape_faithful Unit bytes
  obtain ⟨applying, others, same, sighting, among, faithful⟩ :=
    told RuleSet Toolchain.language ⟨[sampleRule]⟩ "t" world record read mentioned
  rw [reported] at same
  cases same
  obtain rfl := List.mem_singleton.mp among
  obtain ⟨rule, declared, sighting, applies, same, metadata, -⟩ :=
    scanned ⟨[sampleRule]⟩ "t" world record read mentioned
  obtain rfl := List.mem_singleton.mp declared
  exact ⟨⟨by decide +kernel, denotes⟩, ⟨read, mentioned⟩, ⟨_, faithful, reported⟩, sighting, applies,
    same, metadata⟩

end Language
end RuleSmith
