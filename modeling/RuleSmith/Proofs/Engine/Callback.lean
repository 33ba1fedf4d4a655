import RuleSmith.Proofs.Language.Denotation

namespace RuleSmith
open Files

variable {σ τ : Type}

namespace Scan

def noting (callback : τ → Record → Answer × τ) (notes : List (Record × Answer) × τ)
    (record : Record) : Answer × List (Record × Answer) × τ :=
  let (answer, state) := callback notes.2 record
  (answer, notes.1 ++ [(record, answer)], state)

def calls (callback : τ → Record → Answer × τ) : Scan σ → τ → List (Record × Answer)
  | .finished _, _ => []
  | .found record resume, state =>
    let (answer, later) := callback state record
    (record, answer) :: (resume answer).calls callback later

variable (world : World σ) (kept records : List Record) (callback : τ → Record → Answer × τ)
  (state : τ)

end Scan

namespace Language

namespace Toolchain

end Toolchain
end Language
end RuleSmith
