import RuleSmith.Text.Utf8

namespace RuleSmith.Text

theorem ofUtf8?_utf8 (text : String) : ofUtf8? (utf8 text) = some text := by
  have bytes : ByteArray.mk (utf8 text).toArray = text.toByteArray := by
    simp [utf8]
  rw [ofUtf8?, bytes, String.fromUTF8?, dif_pos text.isValidUTF8]
  rfl

theorem ofUtf8?_eq_some {bytes : List UInt8} {text : String} (read : ofUtf8? bytes = some text) :
    bytes = utf8 text := by
  rw [ofUtf8?, String.fromUTF8?] at read
  split at read
  · cases read
    simp [utf8, String.fromUTF8]
  · cases read

theorem utf8_eq_flatMap (text : String) :
    utf8 text = text.toList.flatMap String.utf8EncodeChar := by
  simp [utf8, ← String.utf8Encode_toList, List.utf8Encode]

theorem utf8EncodeChar_of_ascii {c : Char} (ascii : c.toNat < 0x80) :
    String.utf8EncodeChar c = [c.toUInt8] :=
  if_pos (Nat.le_of_lt_succ ascii)

theorem le_ofNat {number : Nat} (low : 0x80 ≤ number) (high : number < 0x100) :
    0x80 ≤ UInt8.ofNat number := by
  rw [UInt8.le_iff_toNat_le, UInt8.toNat_ofNat_of_lt' high]
  exact low

theorem le_of_mem_utf8EncodeChar {c : Char} (wide : ¬ c.toNat < 0x80) {byte : UInt8}
    (member : byte ∈ String.utf8EncodeChar c) : 0x80 ≤ byte := by
  unfold String.utf8EncodeChar at member
  simp only at member
  split at member
  · rename_i ascii
    exact absurd (Nat.lt_succ_of_le ascii) wide
  · split at member
    · simp only [List.mem_cons, List.not_mem_nil, or_false] at member
      rcases member with rfl | rfl <;> apply le_ofNat <;> omega
    · split at member <;> simp only [List.mem_cons, List.not_mem_nil, or_false] at member
      · rcases member with rfl | rfl | rfl <;> apply le_ofNat <;> omega
      · rcases member with rfl | rfl | rfl | rfl <;> apply le_ofNat <;> omega

end RuleSmith.Text
