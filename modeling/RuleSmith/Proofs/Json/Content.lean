import RuleSmith.Proofs.Json.Grammar
import RuleSmith.Proofs.Json.Records

namespace RuleSmith.Json

variable {δ α β : Type} {text : Input} {parts : List Input} {name : String}
  {members : List (String × Input)}

structure Holds (tells : Input → β → Prop) (members : List (String × Input)) (name : String)
    (value : β) : Prop where
  once : (members.map Prod.fst).count name = 1
  told : ∀ text, (name, text) ∈ members → tells text value

structure MayHold (tells : Input → β → Prop) (members : List (String × Input)) (name : String)
    (empty value : β) : Prop where
  once : (members.map Prod.fst).count name ≤ 1
  told : ∀ text, (name, text) ∈ members → tells text value
  omitted : name ∉ members.map Prod.fst → value = empty

theorem holds_of_filter {tells : Input → β → Prop} {value : β}
    (alone : members.filter (·.1 = name) = [(name, text)]) (told : tells text value) :
    Holds tells members name value where
  once := by
    rw [List.count_eq_countP, List.countP_map, List.countP_eq_length_filter]
    exact congrArg List.length alone
  told other among := by
    have same : (name, other) ∈ members.filter (·.1 = name) := by simp [among]
    rw [alone, List.mem_singleton] at same
    cases same
    exact told

theorem mayHold_of_not_mem {tells : Input → β → Prop} (absent : name ∉ members.map Prod.fst)
    (empty : β) : MayHold tells members name empty empty where
  once := by rw [List.count_eq_zero_of_not_mem absent]; exact Nat.zero_le 1
  told _ among := absurd (List.mem_map_of_mem among) absent
  omitted _ := rfl

theorem Holds.mem {tells : Input → β → Prop} {value : β} (holds : Holds tells members name value) :
    name ∈ members.map Prod.fst :=
  List.count_pos_iff.mp (by rw [holds.once]; decide)

theorem Holds.mayHold {tells : Input → β → Prop} {value : β} (holds : Holds tells members name value)
    (empty : β) : MayHold tells members name empty value :=
  ⟨holds.once.le, holds.told, fun absent => absurd holds.mem absent⟩

theorem MayHold.getD_seenAs {tells : Input → β → Prop} {empty value : β}
    (holds : MayHold tells members name empty value) :
    (seenAs name value (members.map Prod.fst).reverse).getD empty = value := by
  by_cases named : name ∈ members.map Prod.fst
  · rw [seenAs_of_mem (List.mem_reverse.mpr named), Option.getD_some]
  · rw [seenAs_of_not_mem (mt List.mem_reverse.mp named), Option.getD_none, holds.omitted named]

theorem passedMembers (labelled : List.Forall₂ Labelled parts members)
    (values : ∀ member ∈ members, WellFormed member.2) : PassedMembers parts members := by
  induction labelled with
  | nil => exact .nil
  | cons named others ih =>
    obtain ⟨wellFormed, values⟩ := List.forall_mem_cons.mp values
    exact .cons ⟨named.member, wellFormed.passed⟩ (ih values)

theorem IsObject.readAs {shape : Shape δ α} {draftOf : List String → δ} (object : IsObject text members)
    (values : ∀ member ∈ members, WellFormed member.2) (fits : Fits shape draftOf members) :
    ReadAs (record shape) text (shape.build (draftOf (members.map Prod.fst).reverse)) := by
  obtain ⟨row, labelled⟩ := object
  exact fits.readAs row (passedMembers labelled values) draftOf

end RuleSmith.Json
