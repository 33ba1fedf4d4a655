import RuleSmith.Json.Printer
import RuleSmith.Proofs.InsertionMap
import RuleSmith.Proofs.Json.Numbers
import RuleSmith.Proofs.Json.Records

namespace RuleSmith.Json

variable {δ α β : Type} {item : Reader α} {printed : Printable} {value : α} {name : String}
  {members : List (String × Printable)}

def Prints (item : Reader α) (printed : Printable) (value : α) : Prop :=
  ∀ layout, ReadAs item (encode (printed layout)) value

def Skips (printed : Printable) : Prop := ∀ layout, Passed (encode (printed layout))

theorem Prints.optional (prints : Prints item printed value)
    (solid : ∀ layout, (encode (printed layout)).head? ≠ some 'n'.toUInt8) :
    Prints (Json.optional item) printed (some value) :=
  fun layout => (prints layout).optional (solid layout)

/-! ## Rows -/

theorem blanks_line (layout : Layout) : Blanks (encode layout.line) := by
  intro byte member
  cases layout with
  | compact => cases member
  | pretty depth =>
    obtain ⟨c, blank, spelled⟩ := List.mem_flatMap.mp member
    rcases List.mem_cons.mp blank with rfl | space
    · rw [List.mem_singleton.mp spelled]
      decide
    · obtain rfl := (List.mem_replicate.mp space).2
      rw [List.mem_singleton.mp spelled]
      decide

theorem exists_row_of_cons {closing : Char} (ascii : closing.toNat < 0x80) (layout : Layout)
    (item : Printable) (items : List Printable) :
    ∃ text, encode ([','].intercalate ((item :: items).map fun item =>
        layout.inner.line ++ item layout.inner) ++ layout.line ++ [closing]) =
      encode layout.inner.line ++ (encode (item layout.inner) ++ text) ∧
      Row closing.toUInt8 false (items.map fun item => encode (item layout.inner)) text := by
  induction items generalizing item with
  | nil =>
    refine ⟨encode layout.line ++ [closing.toUInt8], ?_, .close (blanks_line layout)⟩
    rw [List.map_singleton, List.intercalate_singleton]
    simp only [encode_append, encode_cons_of_ascii ascii, encode_nil, List.append_assoc]
  | cons next items ih =>
    obtain ⟨text, spelled, row⟩ := ih next
    refine ⟨','.toUInt8 :: (encode layout.inner.line ++ (encode (next layout.inner) ++ text)), ?_,
      .next blanks_nil (blanks_line layout.inner) row⟩
    rw [← spelled, List.map_cons, List.map_cons, List.intercalate_cons_cons]
    simp only [encode_append, encode_cons_of_ascii (by decide : ','.toNat < 0x80),
      List.append_assoc, List.cons_append, List.nil_append]

theorem exists_row_bracketed {opening closing : Char} (ascii : opening.toNat < 0x80)
    (ascii' : closing.toNat < 0x80) (items : List Printable) (layout : Layout) :
    ∃ text, encode (bracketed opening closing items layout) = opening.toUInt8 :: text ∧
      Row closing.toUInt8 true (items.map fun item => encode (item layout.inner)) text := by
  cases items with
  | nil =>
    refine ⟨[closing.toUInt8], ?_, .close blanks_nil⟩
    rw [bracketed, encode_cons_of_ascii ascii, encode_cons_of_ascii ascii', encode_nil]
  | cons item items =>
    obtain ⟨text, spelled, row⟩ := exists_row_of_cons ascii' layout item items
    refine ⟨_, ?_, .first (blanks_line layout.inner) row⟩
    rw [bracketed, List.cons_append, List.cons_append, encode_cons_of_ascii ascii, spelled]
    exact nofun

/-! ## Texts, truth values, integers -/

theorem encode_printText (text : String) : encode (printText text) =
    '"'.toUInt8 :: (encode (text.toList.flatMap printChar) ++ ['"'.toUInt8]) := by
  rw [printText, List.cons_append, encode_cons_of_ascii (by decide), encode_append,
    encode_cons_of_ascii (by decide), encode_nil]

theorem readText_closed (text : String) (rest : Input) :
    readText (encode (text.toList.flatMap printChar) ++ ['"'.toUInt8] ++ rest) = .ok (text, rest) := by
  rw [List.append_assoc]
  exact readText_printed text rest

theorem prints_text (value : String) : Prints text (.text value) value := by
  intro layout
  rw [Printable.text, encode_printText]
  refine ⟨⟨_, _, rfl, by decide, by decide, by decide⟩, fun {blanks rest} blank _ => ?_⟩
  rw [List.cons_append]
  simp only [text, nextByte_append_cons blank (by decide : isBlank '"'.toUInt8 = false), if_true]
  exact readText_closed value rest

theorem skips_text (value : String) : Skips (.text value) := by
  intro layout
  rw [Printable.text, encode_printText]
  exact .scalar ⟨_, _, rfl, by decide, by decide, by decide⟩ (by decide) (by decide)
    fun rest _ => skipText_of_readText (readText_closed value rest)

theorem readWord_encode {word : List Char} (ascii : word.all (·.toNat < 0x80) = true) (rest : Input) :
    readWord word (encode word ++ rest) = .ok rest := by
  induction word with
  | nil => rfl
  | cons letter letters ih =>
    rw [List.all_cons, Bool.and_eq_true, decide_eq_true_iff] at ascii
    rw [encode_cons_of_ascii ascii.1, List.cons_append, readWord, if_pos rfl]
    exact ih ascii.2

theorem prints_truth (value : Bool) : Prints truth (.truth value) value := by
  intro layout
  cases value with
  | true =>
    refine ⟨⟨_, _, rfl, by decide, by decide, by decide⟩, fun {blanks rest} blank _ => ?_⟩
    have word : readWord ['r', 'u', 'e'] (encode ['r', 'u', 'e'] ++ rest) = .ok rest :=
      readWord_encode rfl rest
    have next : nextByte (blanks ++ (encode ['t', 'r', 'u', 'e'] ++ rest)) =
        .ok ('t'.toUInt8, encode ['r', 'u', 'e'] ++ rest) :=
      nextByte_append_cons blank (by decide) _
    simp only [Printable.truth, if_true, truth, next, word]
    rfl
  | false =>
    refine ⟨⟨_, _, rfl, by decide, by decide, by decide⟩, fun {blanks rest} blank _ => ?_⟩
    have word : readWord ['a', 'l', 's', 'e'] (encode ['a', 'l', 's', 'e'] ++ rest) = .ok rest :=
      readWord_encode rfl rest
    have next : nextByte (blanks ++ (encode ['f', 'a', 'l', 's', 'e'] ++ rest)) =
        .ok ('f'.toUInt8, encode ['a', 'l', 's', 'e'] ++ rest) :=
      nextByte_append_cons blank (by decide) _
    simp only [Printable.truth, Bool.false_eq_true, if_false, if_true, truth, next, word,
      if_neg (by decide : ¬ 'f'.toUInt8 = 't'.toUInt8)]
    rfl

theorem skips_truth (value : Bool) : Skips (.truth value) := by
  intro layout
  cases value with
  | true =>
    have word (rest : Input) : readWord ['r', 'u', 'e'] (encode ['r', 'u', 'e'] ++ rest) = .ok rest :=
      readWord_encode rfl rest
    exact .scalar ⟨_, _, rfl, by decide, by decide, by decide⟩ (by decide) (by decide)
      fun rest _ => word rest
  | false =>
    have word (rest : Input) : readWord ['a', 'l', 's', 'e'] (encode ['a', 'l', 's', 'e'] ++ rest) =
        .ok rest := readWord_encode rfl rest
    exact .scalar ⟨_, _, rfl, by decide, by decide, by decide⟩ (by decide) (by decide)
      fun rest _ => word rest

theorem prints_int64 (value : Int64) : Prints int64 (.int64 value) value :=
  fun _ => int64_readAs value

/-! ## Lists and maps -/

theorem exists_row_list (items : List Printable) (layout : Layout) :
    ∃ text, encode (Printable.list items layout) = '['.toUInt8 :: text ∧
      Row ']'.toUInt8 true (items.map fun item => encode (item layout.inner)) text :=
  exists_row_bracketed (by decide : '['.toNat < 0x80) (by decide : ']'.toNat < 0x80) items layout

theorem Prints.list {print : α → Printable} (each : ∀ value, Prints item (print value) value)
    (values : List α) : Prints (list item) (.list (values.map print)) values := by
  intro layout
  obtain ⟨text, spelled, row⟩ := exists_row_list (values.map print) layout
  rw [spelled]
  rw [List.map_map] at row
  apply list_readAs row
  rw [List.forall₂_map_left_iff, List.forall₂_same]
  exact fun value _ => each value layout.inner

theorem Prints.optional_list {print : α → Printable}
    (each : ∀ value, Prints item (print value) value) (values : List α) :
    Prints (Json.optional (Json.list item)) (.list (values.map print)) (some values) := by
  refine (Prints.list each values).optional fun layout => ?_
  obtain ⟨text, spelled, -⟩ := exists_row_list (values.map print) layout
  rw [spelled, List.head?_cons]
  decide

theorem Skips.list {items : List Printable} (each : ∀ item ∈ items, Skips item) :
    Skips (.list items) := by
  intro layout
  obtain ⟨text, spelled, row⟩ := exists_row_list items layout
  rw [spelled]
  apply Passed.list row
  rintro part member
  obtain ⟨item, among, rfl⟩ := List.mem_map.mp member
  exact each item among layout.inner

def printMember (layout : Layout) (member : String × Printable) : Input :=
  encode (printText member.1 ++ layout.colon ++ member.2 layout)

theorem exists_blanks_colon (layout : Layout) :
    ∃ blanks, Blanks blanks ∧ encode layout.colon = ':'.toUInt8 :: blanks := by
  cases layout with
  | compact => exact ⟨[], blanks_nil, rfl⟩
  | pretty depth => exact ⟨[0x20], by simp [Blanks, isBlank], rfl⟩

theorem member_printMember (layout : Layout) (entry : String × Printable) :
    Member (printMember layout entry) entry.1 (encode (entry.2 layout)) := by
  obtain ⟨blanks, blank, colon⟩ := exists_blanks_colon layout
  have parts : printMember layout entry = '"'.toUInt8 ::
      (encode (entry.1.toList.flatMap printChar) ++ ['"'.toUInt8] ++
        ([] ++ ':'.toUInt8 :: (blanks ++ encode (entry.2 layout)))) := by
    rw [printMember, encode_append, encode_append, encode_printText, colon]
    simp only [List.cons_append, List.append_assoc, List.nil_append]
  rw [parts]
  exact .intro (readText_closed entry.1) blanks_nil blank

theorem exists_row_object (members : List (String × Printable)) (layout : Layout) :
    ∃ text, encode (Printable.object members layout) = '{'.toUInt8 :: text ∧
      Row '}'.toUInt8 true (members.map (printMember layout.inner)) text := by
  obtain ⟨text, spelled, row⟩ :=
    exists_row_bracketed (by decide : '{'.toNat < 0x80) (by decide : '}'.toNat < 0x80)
      (members.map fun member => fun layout =>
        printText member.1 ++ layout.colon ++ member.2 layout) layout
  rw [List.map_map] at row
  exact ⟨text, spelled, row⟩

theorem Prints.map {print : α → Printable} (each : ∀ value, Prints item (print value) value)
    (m : InsertionMap String α) : Prints (map item) (.map print m) m := by
  intro layout
  obtain ⟨text, spelled, row⟩ :=
    exists_row_object (m.toList.map fun entry => (entry.1, print entry.2)) layout
  rw [Printable.map, spelled, ← m.ofList_toList]
  rw [List.map_map] at row
  apply map_readAs row
  rw [List.forall₂_map_left_iff, List.forall₂_same]
  exact fun entry _ => ⟨_, member_printMember layout.inner _, each entry.2 layout.inner⟩

theorem Prints.optional_map {print : α → Printable}
    (each : ∀ value, Prints item (print value) value) (m : InsertionMap String α) :
    Prints (Json.optional (Json.map item)) (.map print m) (some m) := by
  refine (Prints.map each m).optional fun layout => ?_
  obtain ⟨text, spelled, -⟩ :=
    exists_row_object (m.toList.map fun entry => (entry.1, print entry.2)) layout
  rw [Printable.map, spelled, List.head?_cons]
  decide

theorem Skips.object (each : ∀ member ∈ members, Skips member.2) : Skips (.object members) := by
  intro layout
  obtain ⟨text, spelled, row⟩ := exists_row_object members layout
  rw [spelled]
  apply Passed.object row
  rintro part among
  obtain ⟨member, listed, rfl⟩ := List.mem_map.mp among
  exact (member_printMember layout.inner member).passedIn (each member listed layout.inner)

theorem Skips.map {print : α → Printable} (each : ∀ value, Skips (print value))
    (m : InsertionMap String α) : Skips (.map print m) := by
  apply Skips.object
  rintro member among
  obtain ⟨entry, -, rfl⟩ := List.mem_map.mp among
  exact each entry.2

/-! ## Records -/

theorem passedMembers_printMember (each : ∀ member ∈ members, Skips member.2) (layout : Layout) :
    PassedMembers (members.map (printMember layout))
      (members.map fun member => (member.1, encode (member.2 layout))) := by
  rw [PassedMembers, List.forall₂_map_left_iff, List.forall₂_map_right_iff, List.forall₂_same]
  exact fun member among => ⟨member_printMember layout member, each member among layout⟩

theorem Prints.record {shape : Shape δ α} {draft : δ}
    (fills : ∀ layout, Fills shape.fields shape.start (members.map (printMember layout)) draft)
    (complete : firstMissing shape.fields draft = none) :
    Prints (record shape) (.object members) (shape.build draft) := by
  intro layout
  obtain ⟨text, spelled, row⟩ := exists_row_object members layout
  rw [spelled]
  exact record_readAs row (fills layout.inner) complete

theorem Fills.field {fields : List (Field δ)} {draft final : δ} {required : Bool}
    {get : δ → Option α} {put : δ → α → δ} {layout : Layout}
    (found : fields.find? (·.name = name) = some (Json.field name required get put item))
    (absent : get draft = none) (prints : Prints item printed value)
    (others : Fills fields (put draft value) (members.map (printMember layout)) final) :
    Fills fields draft (((name, printed) :: members).map (printMember layout)) final :=
  .take (.known (member_printMember layout (name, printed)) found
    (congrArg Option.isSome absent) ((prints layout).map (put draft))) others

theorem Fills.section {fields : List (Field δ)} {draft next : δ} {required : Bool}
    {get : δ → Option (Option α)} {put : δ → Option α → δ} {print : α → Printable} {layout : Layout}
    (found : fields.find? (·.name = name) = some (Json.field name required get put (optional item)))
    (absent : get draft = none) (prints : ∀ value, Prints (optional item) (print value) (some value))
    (given : Option α) (filled : given.elim draft (fun value => put draft (some value)) = next) :
    Fills fields draft
      ((given.map fun value => (name, print value)).toList.map (printMember layout)) next := by
  subst filled
  cases given with
  | none => exact .done draft
  | some value => exact .field found absent (prints value) (.done _)

section ValueAt

variable (each : ∀ member ∈ members, Skips member.2)
include each

theorem Prints.valueAt (nodup : (members.map Prod.fst).Nodup) (member : (name, printed) ∈ members)
    (prints : Prints item printed value) :
    Prints (valueAt name item) (.object members) (some value) := by
  intro layout
  obtain ⟨text, spelled, row⟩ := exists_row_object members layout
  rw [spelled]
  refine valueAt_readAs row (passedMembers_printMember each layout.inner) ?_
    (List.mem_map.mpr ⟨_, member, rfl⟩) (prints layout.inner)
  rwa [List.map_map]

theorem prints_valueAt_none (absent : name ∉ members.map Prod.fst) :
    Prints (valueAt name item) (.object members) none := by
  intro layout
  obtain ⟨text, spelled, row⟩ := exists_row_object members layout
  rw [spelled]
  refine valueAt_readAs_none row (passedMembers_printMember each layout.inner) ?_
  rwa [List.map_map]

theorem prints_valueAt {print : α → Printable} (nodup : (members.map Prod.fst).Nodup)
    (given : Option α) (there : ∀ value, given = some value → (name, print value) ∈ members)
    (absent : given = none → name ∉ members.map Prod.fst)
    (prints : ∀ value, Prints item (print value) value) :
    Prints (valueAt name item) (.object members) given := by
  cases given with
  | none => exact prints_valueAt_none each (absent rfl)
  | some value => exact Prints.valueAt each nodup (there value rfl) (prints value)

end ValueAt

/-! ## Whole texts -/

/-- Whether a value is what both printed forms of another are read as. -/
def ReadBack (reader : Reader α) (printed : Printable) (value : α) : Prop :=
  reader.parse (Text.utf8 printed.compact) = .ok value ∧
    reader.parse (Text.utf8 printed.pretty) = .ok value

theorem Prints.readBack (prints : Prints item printed value) : ReadBack item printed value := by
  constructor
  · rw [Printable.compact, utf8_ofList]
    exact (prints .compact).parse
  · rw [Printable.pretty, utf8_ofList]
    exact (prints (.pretty 0)).parse

end RuleSmith.Json
