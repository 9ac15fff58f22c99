import ComponentCatalog.Text.Encoding
import Mathlib.Tactic.SplitIfs

namespace ComponentCatalog.Text

variable {a b : UInt8} {r : List UInt8} {c d : Char} {cs : List Char} {s : String}

theorem toList_loop {bytes : ByteArray} {i : Nat} :
    ByteArray.toList.loop bytes i r = r.reverse ++ bytes.data.toList.drop i := by
  fun_induction ByteArray.toList.loop bytes i r
  case case1 i r h hi =>
    have hl : i < bytes.data.toList.length := by simpa using h
    rw [hi, List.drop_eq_getElem_cons hl]
    simp [ByteArray.get!, h]
  case case2 i r h =>
    rw [List.drop_eq_nil_of_le (by simpa using h)]
    simp

theorem toList_eq {bytes : ByteArray} : bytes.toList = bytes.data.toList := by
  rw [ByteArray.toList, toList_loop, List.reverse_nil, List.nil_append, List.drop_zero]

theorem fromUTF8?_toUTF8 : String.fromUTF8? s.toUTF8 = some s := by
  rw [String.fromUTF8?, String.toUTF8, dif_pos s.isValidUTF8]
  rfl

-- Not a byte order mark, and no zero among the first two bytes.
theorem detect_of_plain (ha : a ≠ 0 ∧ a < 0x80) (hb : b ≠ 0) :
    Encoding.detect (a :: b :: r) = (.utf8, a :: b :: r) := by
  have hz : Encoding.ofZeros (a :: b :: r) = .utf8 := by
    unfold Encoding.ofZeros
    split <;> simp_all
  have hn : ∀ {x : UInt8} {q q' : List UInt8}, 0x80 ≤ x → a :: q ≠ x :: q' := by
    intro x q q' hx he
    exact absurd ha.2 <| UInt8.not_lt.mpr <| (List.cons_eq_cons.mp he).1 ▸ hx
  unfold Encoding.detect
  split
  case h_1 h => exact absurd (List.cons_eq_cons.mp h).1 ha.1
  case h_2 h => exact absurd h (hn (by decide))
  case h_3 h => exact absurd h (hn (by decide))
  case h_4 h => exact absurd h (hn (by decide))
  case h_5 h => exact absurd h (hn (by decide))
  case h_6   => rw [hz]

theorem utf8EncodeChar_of_plain (hc : c.toNat < 0x80) :
    String.utf8EncodeChar c = [UInt8.ofNat c.toNat] :=
  if_pos (Nat.le_of_lt_succ hc)

theorem exists_utf8EncodeChar (hd : d.toNat ≠ 0) :
    ∃ b r, b ≠ 0 ∧ String.utf8EncodeChar d = b :: r := by
  unfold String.utf8EncodeChar
  simp only
  -- one case for each number of bytes
  split_ifs
  all_goals
    refine ⟨_, _, ?_, rfl⟩
    rw [ne_eq, ← UInt8.toNat_inj]
    simp only [UInt8.toNat_ofNat', UInt8.toNat_ofNat, Char.toNat, Nat.reducePow] at *
    omega

theorem decodeDetected?_toUTF8 (hs : s.toList = c :: d :: cs) (hc : c.toNat ≠ 0 ∧ c.toNat < 0x80)
    (hd : d.toNat ≠ 0) : decodeDetected? s.toUTF8 = some (.ofString s) := by
  have ⟨b, r, hb, hr⟩ := exists_utf8EncodeChar hd
  have hbytes : s.toUTF8.toList =
      UInt8.ofNat c.toNat :: b :: (r ++ cs.flatMap String.utf8EncodeChar) := by
    rw [toList_eq, String.toUTF8, ← String.utf8Encode_toList, hs, List.utf8Encode,
      List.toList_data_toByteArray, List.flatMap_cons, List.flatMap_cons,
      utf8EncodeChar_of_plain hc.2, hr]
    rfl
  have hplain : UInt8.ofNat c.toNat ≠ 0 ∧ UInt8.ofNat c.toNat < 0x80 := by
    rw [ne_eq, ← UInt8.toNat_inj, UInt8.lt_iff_toNat_lt, UInt8.toNat_ofNat']
    simp only [UInt8.toNat_ofNat]
    omega
  have he : (⟨s.toUTF8.toList.toArray⟩ : ByteArray) = s.toUTF8 := by rw [toList_eq]
  rw [decodeDetected?, hbytes, detect_of_plain hplain hb, ← hbytes]
  simp only [Encoding.decode?, Encoding.strict?, he, fromUTF8?_toUTF8, Option.map_some,
    Option.some_or]

end ComponentCatalog.Text
