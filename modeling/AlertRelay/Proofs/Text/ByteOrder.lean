/-
AlertRelay/Proofs/Text/ByteOrder.lean

Texts are ordered like the bytes that spell them.

A map is listed by ascending key, and keys are compared by code points.  Whoever reads such a list
from outside compares bytes.  The two orders agree because of how bytes spell a character: of two
characters the smaller one is spelled by a smaller first byte, or the spellings agree for a while
and then a smaller byte follows.  Neither spelling begins the other, so what stands behind the two
characters does not matter (`utf8EncodeChar_append_lt`).

Main result: `utf8_lt_utf8_iff`, and for maps `KeyedMap.bytes_ascending`.
-/
import AlertRelay.KeyedMap
import AlertRelay.Text.Utf8
import Mathlib.Order.Compare
import Mathlib.Data.String.Basic

namespace AlertRelay

/-! ### Characters -/

/-- **Of two characters** the smaller one has the smaller spelling, whatever follows. -/
theorem utf8EncodeChar_append_lt {c d : Char} (h : c < d) (x y : Bytes) :
    String.utf8EncodeChar c ++ x < String.utf8EncodeChar d ++ y := by
  have hlt : c.val.toNat < d.val.toNat := by
    simpa [Char.lt_def, UInt32.lt_iff_toNat_lt] using h
  have hbound : d.val.toNat < 0x110000 := by
    have := d.valid
    simp only [UInt32.isValidChar, Nat.isValidChar] at this
    omega
  simp only [String.utf8EncodeChar]
  generalize c.val.toNat = m at hlt
  generalize d.val.toNat = n at hlt hbound
  -- digits to the base 64, each one from the one below it
  have digits : ∀ k : Nat, k / 4096 = k / 64 / 64 ∧ k / 262144 = k / 64 / 64 / 64 := by
    intro k
    constructor <;> simp only [Nat.div_div_eq_div_mul]
  simp only [digits]
  -- one case for each pair of lengths: the first byte decides unless the lengths agree
  split_ifs <;>
    simp only [List.cons_append, List.nil_append, List.cons_lt_cons_iff, UInt8.lt_iff_toNat_lt,
      ← UInt8.toNat_inj, UInt8.toNat_ofNat'] <;>
    omega

/-! ### Texts -/

/-- The bytes of a text, character by character. -/
theorem utf8_eq_flatMap (s : String) : utf8 s = s.toList.flatMap String.utf8EncodeChar := by
  conv => lhs; rw [← String.ofList_toList (s := s)]
  rw [utf8, String.toByteArray_ofList, List.utf8Encode, List.data_toByteArray]

theorem flatMap_utf8EncodeChar_lt {cs ds : List Char} (h : cs < ds) :
    cs.flatMap String.utf8EncodeChar < ds.flatMap String.utf8EncodeChar := by
  induction h with
  | @nil d ds =>
    rw [List.flatMap_nil, List.flatMap_cons]
    cases hd : String.utf8EncodeChar d with
    | nil => exact absurd hd String.utf8EncodeChar_ne_nil
    | cons b bs => exact List.nil_lt_cons b _
  | cons _ ih =>
    rw [List.flatMap_cons, List.flatMap_cons]
    exact List.append_left_lt ih
  | rel hcd =>
    rw [List.flatMap_cons, List.flatMap_cons]
    exact utf8EncodeChar_append_lt hcd _ _

/-- **Texts are ordered** like their bytes. -/
theorem utf8_lt_utf8_iff (s t : String) : utf8 s < utf8 t ↔ s < t := by
  have mono : ∀ {s t : String}, s < t → utf8 s < utf8 t := by
    intro s t h
    rw [utf8_eq_flatMap, utf8_eq_flatMap]
    exact flatMap_utf8EncodeChar_lt (String.lt_iff.1 h)
  constructor
  · intro h
    rcases lt_trichotomy s t with hst | rfl | hts
    · exact hst
    · exact absurd h (List.lt_irrefl _)
    · exact absurd (mono hts) (List.lt_asymm h)
  · exact mono

/-- **The listing of a map** is ascending by the bytes of its keys. -/
theorem KeyedMap.bytes_ascending {α : Type} (m : KeyedMap α) :
    m.keys.Pairwise fun k k' => utf8 k < utf8 k' := by
  have h := m.ascending
  unfold KeyedMap.keys
  rw [List.pairwise_map]
  refine h.imp fun {a b} hab => ?_
  exact (utf8_lt_utf8_iff a.1 b.1).2 (compare_lt_iff_lt.1 hab)

end AlertRelay
