import RuleSmith.Event
import RuleSmith.RuleSet.Basic
import RuleSmith.Settings

/-!
# Engines

An engine compiles sources and scans files. Its compiled rules may be of any type `ρ`; it may have a
memory of type `σ`, change files and log events. A scan tells of rules one by one and waits for an
answer after each; it is given as a value, so that it can be run with any callback.
-/

namespace RuleSmith
open Files

structure World (σ : Type) where
  files : FileTree
  memory : σ

structure Reply (σ α : Type) where
  value : α
  world : World σ
  events : List Event

inductive Answer
  | proceed
  | abort
deriving DecidableEq

inductive Scan (σ : Type)
  | finished (reply : Reply σ (Except Failure (List Record)))
  | found (record : Record) (resume : Answer → Scan σ)

def Scan.run {σ τ : Type} (callback : τ → Record → Answer × τ) :
    Scan σ → τ → Reply σ (Except Failure (List Record)) × τ
  | .finished reply, state => (reply, state)
  | .found record resume, state =>
    (resume (callback state record).1).run callback (callback state record).2

structure Engine (σ : Type) (ρ : Type := RuleSet) where
  compile : String → CompileOptions → World σ → Reply σ (Except Failure ρ)
  scan : ρ → String → World σ → Scan σ

/-- A scan that tells of some records in order and stops after an abort; the rules that apply are
kept, also the one that was aborted at. -/
def Scan.ofRecords {σ : Type} (world : World σ) (kept : List Record) : List Record → Scan σ
  | [] => .finished ⟨.ok kept, world, []⟩
  | record :: others =>
    let kept := if record.applies then kept ++ [record] else kept
    .found record fun
      | .proceed => ofRecords world kept others
      | .abort => .finished ⟨.ok kept, world, []⟩

def Scan.failed {σ : Type} (world : World σ) (failure : Failure) : Scan σ :=
  .finished ⟨.error failure, world, []⟩

end RuleSmith
