namespace RuleSmith

structure Codec (α : Type) where
  encode : α → List UInt8
  decode : List UInt8 → Option (α × List UInt8)
  decode_encode : ∀ value rest, decode (encode value ++ rest) = some (value, rest)

namespace Codec

/-- Numbers to the base 128, low digits first; every byte but the last is 128 or more. -/
def encodeNat (value : Nat) : List UInt8 :=
  if value < 128 then [UInt8.ofNat value]
  else UInt8.ofNat (value % 128 + 128) :: encodeNat (value / 128)
termination_by value

def decodeNat : List UInt8 → Option (Nat × List UInt8)
  | [] => none
  | byte :: rest =>
    if byte.toNat < 128 then some (byte.toNat, rest)
    else (decodeNat rest).map fun (value, rest) => (byte.toNat - 128 + 128 * value, rest)

theorem decodeNat_encodeNat (value : Nat) (rest : List UInt8) :
    decodeNat (encodeNat value ++ rest) = some (value, rest) := by
  induction value using Nat.strongRecOn with
  | ind value ih =>
    rw [encodeNat]
    split
    · next small =>
      have exact_ : (UInt8.ofNat value).toNat = value := by
        rw [UInt8.toNat_ofNat']; omega
      simp [decodeNat, exact_, small]
    · next large =>
      have exact_ : (UInt8.ofNat (value % 128 + 128)).toNat = value % 128 + 128 := by
        rw [UInt8.toNat_ofNat']; omega
      have smaller := ih (value / 128) (by omega)
      simp only [List.cons_append, decodeNat, exact_]
      rw [if_neg (by omega), smaller]
      simp only [Option.map_some, Option.some.injEq, Prod.mk.injEq, and_true]
      omega

def nat : Codec Nat := ⟨encodeNat, decodeNat, decodeNat_encodeNat⟩

def byte : Codec UInt8 where
  encode value := [value]
  decode
    | [] => none
    | value :: rest => some (value, rest)
  decode_encode _ _ := rfl

def map {α β : Type} (codec : Codec α) (make : α → β) (take : β → α)
    (undo : ∀ value, make (take value) = value) : Codec β where
  encode value := codec.encode (take value)
  decode bytes := (codec.decode bytes).map fun (value, rest) => (make value, rest)
  decode_encode value rest := by simp [codec.decode_encode, undo]

def unit : Codec Unit := ⟨fun _ => [], fun bytes => some ((), bytes), fun _ _ => rfl⟩

def pair {α β : Type} (first : Codec α) (second : Codec β) : Codec (α × β) where
  encode value := first.encode value.1 ++ second.encode value.2
  decode bytes :=
    match first.decode bytes with
    | none => none
    | some (left, rest) => (second.decode rest).map fun (right, rest) => ((left, right), rest)
  decode_encode value rest := by
    simp [List.append_assoc, first.decode_encode, second.decode_encode]

def sum {α β : Type} (left : Codec α) (right : Codec β) : Codec (α ⊕ β) where
  encode
    | .inl value => 0 :: left.encode value
    | .inr value => 1 :: right.encode value
  decode
    | [] => none
    | kind :: rest =>
      if kind = 0 then (left.decode rest).map fun (value, rest) => (.inl value, rest)
      else (right.decode rest).map fun (value, rest) => (.inr value, rest)
  decode_encode value rest := by
    cases value <;> simp [left.decode_encode, right.decode_encode]

def encodeAll {α : Type} (codec : Codec α) : List α → List UInt8
  | [] => []
  | value :: others => codec.encode value ++ encodeAll codec others

def decodeAll {α : Type} (codec : Codec α) : Nat → List UInt8 → Option (List α × List UInt8)
  | 0, bytes => some ([], bytes)
  | count + 1, bytes =>
    match codec.decode bytes with
    | none => none
    | some (value, rest) =>
      (decodeAll codec count rest).map fun (others, rest) => (value :: others, rest)

theorem decodeAll_encodeAll {α : Type} (codec : Codec α) (values : List α) (rest : List UInt8) :
    decodeAll codec values.length (encodeAll codec values ++ rest) = some (values, rest) := by
  induction values with
  | nil => rfl
  | cons value others ih =>
    simp [encodeAll, decodeAll, List.append_assoc, codec.decode_encode, ih]

def list {α : Type} (codec : Codec α) : Codec (List α) where
  encode values := encodeNat values.length ++ encodeAll codec values
  decode bytes :=
    match decodeNat bytes with
    | none => none
    | some (count, rest) => decodeAll codec count rest
  decode_encode values rest := by
    simp [List.append_assoc, decodeNat_encodeNat, decodeAll_encodeAll]

def bytes : Codec (List UInt8) := list byte

def truth : Codec Bool :=
  nat.map (fun value => value = 1) (fun value => if value then 1 else 0) (by decide)

def text : Codec String :=
  (list (nat.map Char.ofNat Char.toNat fun c => Char.ofNat_toNat c)).map String.ofList String.toList
    fun _ => String.ofList_toList

def word : Codec UInt64 := nat.map UInt64.ofNat UInt64.toNat fun value => by simp

def int64 : Codec Int64 := word.map Int64.ofUInt64 Int64.toUInt64 fun value => by simp

end Codec
end RuleSmith
