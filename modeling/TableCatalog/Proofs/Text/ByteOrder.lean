import Mathlib.Data.List.Basic

/-!
# The order of texts is the order of their bytes

Texts are compared character by character, and the system compares names byte by byte. The two
orders agree (`lt_iff_bytes_lt`): in UTF-8 the smaller of two characters has the smaller byte where
their encodings first differ, and they differ before either ends (`precedes_utf8EncodeChar`). That
second half matters, because then what comes behind the two characters has no say.
-/

set_option autoImplicit false

namespace TableCatalog.Text

/-- The bytes of a text. -/
def bytes (text : String) : List UInt8 := text.toUTF8.data.toList

theorem bytes_eq_flatMap (text : String) :
    bytes text = text.toList.flatMap String.utf8EncodeChar := by
  rw [bytes, String.toUTF8_eq_toByteArray, ← String.utf8Encode_toList, List.utf8Encode,
    List.toList_data_toByteArray]

/-! ## Bytes that differ -/

/-- Two byte strings differ before either ends, and the first has the smaller byte there. -/
inductive Precedes : List UInt8 → List UInt8 → Prop
  | here {x y : UInt8} (xs ys : List UInt8) (h : x < y) : Precedes (x :: xs) (y :: ys)
  | there (x : UInt8) {xs ys : List UInt8} (h : Precedes xs ys) : Precedes (x :: xs) (x :: ys)

/-- What comes behind byte strings that differ does not change their order. -/
theorem Precedes.append_lt {xs ys : List UInt8} (h : Precedes xs ys) (rest rest' : List UInt8) :
    xs ++ rest < ys ++ rest' := by
  induction h with
  | here xs ys h => exact List.cons_lt_cons_iff.2 (Or.inl h)
  | there x _ ih => exact List.cons_lt_cons_iff.2 (Or.inr ⟨rfl, ih⟩)

theorem ofNat_lt_ofNat {m n : Nat} (h : m < n) (hn : n < 256) : UInt8.ofNat m < UInt8.ofNat n := by
  rw [UInt8.lt_iff_toNat_lt, UInt8.toNat_ofNat', UInt8.toNat_ofNat', Nat.mod_eq_of_lt hn,
    Nat.mod_eq_of_lt (Nat.lt_trans h hn)]
  exact h

theorem Precedes.of_lt {m n : Nat} (h : m < n) (hn : n < 256) (xs ys : List UInt8) :
    Precedes (.ofNat m :: xs) (.ofNat n :: ys) := .here xs ys (ofNat_lt_ofNat h hn)

/-- The digits in two bytes decide, or they are the same and the bytes behind them decide. -/
theorem Precedes.digit {mark m n : Nat} {xs ys : List UInt8} (hn : n + mark < 256)
    (h : m < n ∨ m = n ∧ Precedes xs ys) :
    Precedes (.ofNat (m + mark) :: xs) (.ofNat (n + mark) :: ys) := by
  rcases h with h | ⟨rfl, h⟩
  · exact .of_lt (Nat.add_lt_add_right h mark) hn xs ys
  · exact .there _ h

/-! ## Characters and texts -/

/-- The last byte of a character holds its last digit to the base 64. -/
theorem precedes_last {v w : Nat} (h : v % 64 < w % 64) :
    Precedes [.ofNat (v % 64 + 128)] [.ofNat (w % 64 + 128)] := .digit (by omega) (Or.inl h)

theorem precedes_lastTwo {v w : Nat} (h : v % 4096 < w % 4096) :
    Precedes [.ofNat (v / 64 % 64 + 128), .ofNat (v % 64 + 128)]
      [.ofNat (w / 64 % 64 + 128), .ofNat (w % 64 + 128)] := by
  have hdigits : v / 64 % 64 < w / 64 % 64 ∨ v / 64 % 64 = w / 64 % 64 ∧ v % 64 < w % 64 := by
    omega
  exact .digit (by omega) (hdigits.imp_right (And.imp_right precedes_last))

theorem precedes_lastThree {v w : Nat} (h : v % 262144 < w % 262144) :
    Precedes [.ofNat (v / 4096 % 64 + 128), .ofNat (v / 64 % 64 + 128), .ofNat (v % 64 + 128)]
      [.ofNat (w / 4096 % 64 + 128), .ofNat (w / 64 % 64 + 128), .ofNat (w % 64 + 128)] := by
  have hdigits : v / 4096 % 64 < w / 4096 % 64 ∨
      v / 4096 % 64 = w / 4096 % 64 ∧ v % 4096 < w % 4096 := by omega
  exact .digit (by omega) (hdigits.imp_right (And.imp_right precedes_lastTwo))

theorem toNat_val_lt (c : Char) : c.val.toNat < 0x110000 := by
  have h := c.valid
  unfold UInt32.isValidChar Nat.isValidChar at h
  omega

/-- **The encodings of two characters are in the order of the characters**, and neither is the
beginning of the other. -/
theorem precedes_utf8EncodeChar {c d : Char} (h : c < d) :
    Precedes (String.utf8EncodeChar c) (String.utf8EncodeChar d) := by
  have hlt : c.val.toNat < d.val.toNat := UInt32.lt_iff_toNat_lt.1 (Char.lt_def.1 h)
  have hmax := toNat_val_lt d
  unfold String.utf8EncodeChar
  generalize c.val.toNat = v at hlt ⊢
  generalize d.val.toNat = w at hlt hmax ⊢
  dsimp only
  -- more bytes mean a greater first byte; with as many bytes the digits decide, from the first on
  by_cases hone : v ≤ 127
  · rw [if_pos hone]
    split_ifs <;> exact .of_lt (by omega) (by omega) _ _
  rw [if_neg hone, if_neg (show ¬ w ≤ 127 by omega)]
  by_cases htwo : v ≤ 2047
  · rw [if_pos htwo]
    split_ifs with hw
    · have hdigits : v / 64 % 32 < w / 64 % 32 ∨ v / 64 % 32 = w / 64 % 32 ∧ v % 64 < w % 64 := by
        omega
      exact .digit (by omega) (hdigits.imp_right (And.imp_right precedes_last))
    all_goals exact .of_lt (by omega) (by omega) _ _
  rw [if_neg htwo, if_neg (show ¬ w ≤ 2047 by omega)]
  by_cases hthree : v ≤ 65535
  · rw [if_pos hthree]
    split_ifs with hw
    · have hdigits : v / 4096 % 16 < w / 4096 % 16 ∨
          v / 4096 % 16 = w / 4096 % 16 ∧ v % 4096 < w % 4096 := by omega
      exact .digit (by omega) (hdigits.imp_right (And.imp_right precedes_lastTwo))
    · exact .of_lt (by omega) (by omega) _ _
  rw [if_neg hthree, if_neg (show ¬ w ≤ 65535 by omega)]
  have hdigits : v / 262144 % 8 < w / 262144 % 8 ∨
      v / 262144 % 8 = w / 262144 % 8 ∧ v % 262144 < w % 262144 := by omega
  exact .digit (by omega) (hdigits.imp_right (And.imp_right precedes_lastThree))

theorem flatMap_utf8EncodeChar_lt {cs ds : List Char} (h : cs < ds) :
    cs.flatMap String.utf8EncodeChar < ds.flatMap String.utf8EncodeChar := by
  induction cs generalizing ds with
  | nil =>
    cases ds with
    | nil => exact absurd h (List.lt_irrefl [])
    | cons d ds =>
      rw [List.flatMap_nil, List.flatMap_cons]
      cases hd : String.utf8EncodeChar d with
      | nil => exact absurd hd String.utf8EncodeChar_ne_nil
      | cons b bs => exact List.nil_lt_cons b _
  | cons c cs ih =>
    cases ds with
    | nil => simp at h
    | cons d ds =>
      rw [List.flatMap_cons, List.flatMap_cons]
      rcases List.cons_lt_cons_iff.1 h with hlt | ⟨rfl, hlt⟩
      · exact (precedes_utf8EncodeChar hlt).append_lt _ _
      · exact List.append_left_lt (ih hlt)

/-- **Texts are in the order of their bytes.** -/
theorem lt_iff_bytes_lt {a b : String} : a < b ↔ bytes a < bytes b := by
  have hlt {a b : String} (h : a < b) : bytes a < bytes b := by
    rw [bytes_eq_flatMap, bytes_eq_flatMap]
    exact flatMap_utf8EncodeChar_lt (String.lt_iff.1 h)
  refine ⟨hlt, fun h => ?_⟩
  rw [← String.not_le]
  intro hle
  by_cases hba : b < a
  · exact List.lt_asymm h (hlt hba)
  · obtain rfl := String.le_antisymm hle (String.not_lt.1 hba)
    exact List.lt_irrefl _ h

end TableCatalog.Text
