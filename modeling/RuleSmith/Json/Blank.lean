import RuleSmith.Json.Fault

namespace RuleSmith.Json

def isBlank (byte : UInt8) : Bool :=
  byte = 0x20 || byte = 0x09 || byte = 0x0A || byte = 0x0D

def skipBlank (input : Input) : Input := input.dropWhile isBlank

theorem skipBlank_le (input : Input) : (skipBlank input).length ≤ input.length :=
  (List.dropWhile_sublist isBlank).length_le

theorem skipBlank_cons_lt {input rest : Input} {byte : UInt8}
    (found : skipBlank input = byte :: rest) : rest.length < input.length := by
  have bound := skipBlank_le input
  rw [found, List.length_cons] at bound
  omega

def Fault.atNext (cause : Cause) (input : Input) : Fault := ⟨cause, input.tail⟩

def nextByte (input : Input) : Except Fault (UInt8 × Input) :=
  match skipBlank input with
  | [] => .error ⟨.endInValue, []⟩
  | byte :: rest => .ok (byte, rest)

theorem nextByte_shortens {input rest : Input} {byte : UInt8}
    (read : nextByte input = .ok (byte, rest)) : rest.length < input.length := by
  unfold nextByte at read
  split at read
  · simp at read
  · next found =>
    simp only [Except.ok.injEq, Prod.mk.injEq] at read
    exact read.2 ▸ skipBlank_cons_lt found

def readWord : List Char → Input → Except Fault Input
  | [], input => .ok input
  | _ :: _, [] => .error ⟨.endInValue, []⟩
  | letter :: letters, byte :: rest =>
    if byte = letter.toUInt8 then readWord letters rest else .error ⟨.expectedWord, rest⟩

theorem readWord_le {word : List Char} {input rest : Input}
    (read : readWord word input = .ok rest) : rest.length ≤ input.length := by
  induction word generalizing input with
  | nil =>
    simp only [readWord, Except.ok.injEq] at read
    exact read ▸ Nat.le_refl _
  | cons letter letters ih =>
    cases input with
    | nil => simp [readWord] at read
    | cons byte others =>
      unfold readWord at read
      split at read
      · exact Nat.le_succ_of_le (ih read)
      · simp at read

theorem rest_of_map {α : Type} {value value' : α} {step : Except Fault Input} {rest : Input}
    (read : step.map (value, ·) = .ok (value', rest)) : step = .ok rest := by
  cases step with
  | error fault => cases read
  | ok after =>
    cases read
    rfl

end RuleSmith.Json
