import RuleSmith.Proofs.Files.Passage
import RuleSmith.Proofs.Store.Tables

/-!
# Saving is all or nothing

A saving that fails leaves every file as it is, wherever the store lies and however its files are named.
At most it leaves directories on the way to the directory of the store, and not even those if the name
was refused. A saving that succeeds has accepted its content and changes the file at one path to it.
-/

namespace RuleSmith.Store
open Files Text FileTree

variable {ρ : Type} [Storable ρ] {store : Store} {files other : FileTree} {name path : String}
  {content : Except Failure (List UInt8)}

theorem opened_changesOn (store : Store) (files : FileTree) :
    ChangesOn (.ofString store.directory) files (store.opened files) := by
  have made := makeDirectories_onPath files store.directory
  unfold opened makeDirectory
  split
  · exact .refl _ files
  · split <;> rename_i eq <;> rwa [eq] at made

theorem save_path {result : String}
    (saved : store.save name path content files = (.ok result, other)) : result = path := by
  obtain ⟨valid, made, checked, rfl, written⟩ := save_ok saved
  unfold save writeFile at saved
  rw [if_pos valid] at saved
  rcases eq : store.makeDirectory files with ⟨failure | _, left⟩
  · rw [eq] at made
    cases made
  · rw [opened, eq] at written
    simp only [eq, written] at saved
    cases saved
    rfl

theorem nul_not_mem_of_utf8 {text : String} (none : 0 ∉ utf8 text) : '\x00' ∉ text.toList := by
  intro member
  rw [utf8_eq_flatMap] at none
  exact none (List.mem_flatMap.mpr ⟨_, member, by decide⟩)

namespace Saving

def Accepts : Saving ρ → List UInt8 → Prop
  | source _ content, bytes => bytes = content ∧ ∃ text, content = utf8 text ∧ '\x00' ∉ text.toList
  | compiled _ rules, bytes => Storable.toBytes rules = .ok bytes
  | compiledBytes _ content, bytes => bytes = content ∧ ∃ rules : ρ, Storable.ofBytes content = .ok rules

theorem accepts_of_checked {saving : Saving ρ} {bytes : List UInt8}
    (checked : saving.content = .ok bytes) : saving.Accepts bytes := by
  cases saving with
  | source name content =>
    obtain ⟨rfl, text, readable⟩ := checkSource_eq_ok checked
    obtain rfl := ofUtf8?_eq_some readable
    refine ⟨rfl, text, rfl, nul_not_mem_of_utf8 fun nul => ?_⟩
    rw [Saving.content, checkSource_utf8, if_pos (by simpa using nul)] at checked
    cases checked
  | compiled name rules => exact serialize_ok.mp checked
  | compiledBytes name content => exact checkCompiled_eq_ok checked

end Saving

/-- A saving under a name that is refused does nothing. One that fails leaves every file, and directories
are new on the way to the directory of the store only. One that succeeds writes bytes that belong into
its table; then that is what the file at the path that is handed back holds, no other file has changed,
and directories are new on the same way only. -/
theorem perform_allOrNothing (store : Store) (files : FileTree) (saving : Saving ρ) :
    (isFileName saving.slot.name = false →
      saving.perform store files = (.error (.invalid (.fileName saving.slot.name)), files)) ∧
    (∀ failure other, saving.perform store files = (.error failure, other) →
      ∀ location, other.content? location = files.content? location ∧
        (other.entryAt? location ≠ files.entryAt? location →
          other.entryAt? location = some .directory ∧
            files.OnPath (.ofString store.directory) location)) ∧
    ∀ path other, saving.perform store files = (.ok path, other) →
      path = join store.directory (store.fileOf saving.slot) ∧
      ∃ bytes written, saving.Accepts bytes ∧ other.resolve path = .ok written ∧
        other.content? written = some bytes ∧
        ∀ location, location ≠ written →
          other.content? location = files.content? location ∧
          (other.entryAt? location ≠ files.entryAt? location →
            other.entryAt? location = some .directory ∧
              files.OnPath (.ofString store.directory) location) := by
  have kept : ∀ location, (store.opened files).content? location = files.content? location ∧
      ((store.opened files).entryAt? location ≠ files.entryAt? location →
        (store.opened files).entryAt? location = some .directory ∧
          files.OnPath (.ofString store.directory) location) := by
    have adds := makeDirectory_adds store files
    refine fun location => ⟨adds.content? location, fun changed => ⟨?_,
      (opened_changesOn store files).onPath location changed⟩⟩
    exact ((adds.entry location).resolve_left changed).2
  rw [perform_eq]
  refine ⟨fun refused => save_refused refused _ _ _, fun failure other failed => ?_,
    fun path other saved => ?_⟩
  · rcases save_error_cases failed with rfl | rfl
    · exact fun location => ⟨rfl, fun changed => absurd rfl changed⟩
    · exact kept
  · obtain ⟨valid, made, bytes, checked, written⟩ := save_ok saved
    obtain rfl := save_path saved
    obtain ⟨place, resolved, -, ⟨free, -⟩, rfl⟩ := write_ok written
    refine ⟨rfl, bytes, place, Saving.accepts_of_checked checked, resolved, ?_,
      fun location apart => ?_⟩
    · rw [content?_put free, if_pos rfl]
    · rw [content?_put free, entryAt?_put free, if_neg apart, if_neg apart]
      exact kept location

theorem perform_allOrNothing_sample :
    let files := { ((FileTree.bare []).put ["rules"] .directory).put ["rules", "r.yar"] (.file [0x78])
      with guarded := [["rules", "r.yar"]] }
    let perform directory (saving : Saving Sample.Verbatim) := saving.perform { directory } files
    let failures : List (String × Saving Sample.Verbatim × Failure) := [
      ("a/b/.", .source "s" [0x79], .storage "a/b/." .missing),
      ("rules", .source "../r" [0x79], .invalid (.fileName "../r")),
      ("rules", .source "r" [0x79], .storage "rules/r.yar" .denied),
      ("rules", .compiled "s" ⟨"?"⟩, .compiledFormat (.unwritable "unsupported"))]
    let saved := perform "rules" (.source "s" [0x79])
    files.read "rules/r.yar" = .ok [0x78] ∧
    (∀ failure ∈ failures, (perform failure.1 failure.2.1).1 = .error failure.2.2 ∧
      ∀ location, (perform failure.1 failure.2.1).2.content? location = files.content? location) ∧
    (isFileName "../r" = false ∧ perform "rules" (.source "../r" [0x79]) =
      (.error (.invalid (.fileName "../r")), files)) ∧
    saved.1 = .ok "rules/s.yar" ∧ ∃ bytes written, saved.2.resolve "rules/s.yar" = .ok written ∧
      saved.2.content? written = some bytes ∧ bytes = [0x79] := by
  intro files perform failures saved
  have succeeded : saved.1 = .ok "rules/s.yar" := by decide +kernel
  have refused : isFileName "../r" = false := by decide
  have failed : ∀ failure ∈ failures, (perform failure.1 failure.2.1).1 = .error failure.2.2 := by
    decide +kernel
  obtain ⟨nothing, -, -⟩ := perform_allOrNothing {} files (.source "../r" [0x79] : Saving Sample.Verbatim)
  obtain ⟨-, -, kept⟩ := perform_allOrNothing {} files (.source "s" [0x79] : Saving Sample.Verbatim)
  obtain ⟨-, bytes, written, ⟨same, -⟩, resolved, stored, -⟩ :=
    kept _ saved.2 (show saved = (.ok "rules/s.yar", saved.2) from Prod.ext succeeded rfl)
  refine ⟨by decide +kernel, fun failure member => ⟨failed failure member, fun location => ?_⟩,
    ⟨refused, nothing refused⟩, succeeded, bytes, written, resolved, stored, same⟩
  obtain ⟨-, left, -⟩ := perform_allOrNothing { directory := failure.1 } files failure.2.1
  exact (left _ _ (Prod.ext (failed failure member) rfl) location).1

end RuleSmith.Store
