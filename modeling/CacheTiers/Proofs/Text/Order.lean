import CacheTiers.Proofs.Text.Utf8
import Mathlib.Data.List.Lex
import Mathlib.Data.String.Basic

namespace CacheTiers.Text

def bytes (text : String) : List UInt8 := encode text.toList

def Before (texts others : List String) : Prop := texts.map bytes < others.map bytes

theorem byte_cons_lt {a b : Nat} (small : a < 256) (bounded : b < 256) (rest more : List UInt8) :
    a.toUInt8 :: rest < b.toUInt8 :: more ↔ a < b ∨ a = b ∧ rest < more := by
  rw [List.cons_lt_cons_iff, UInt8.lt_iff_toNat_lt, ← UInt8.toNat_inj, byte_to_nat a small, byte_to_nat b bounded]

theorem byte_cons_less {a b : Nat} (bounded : b < 256) (less : a < b) (rest more : List UInt8) :
    a.toUInt8 :: rest < b.toUInt8 :: more :=
  (byte_cons_lt (Nat.lt_trans less bounded) bounded rest more).mpr (.inl less)

theorem byte_cons_same {a b : Nat} (bounded : b < 256) (same : a = b) {rest more : List UInt8} (less : rest < more) :
    a.toUInt8 :: rest < b.toUInt8 :: more :=
  (byte_cons_lt (same ▸ bounded) bounded rest more).mpr (.inr ⟨same, less⟩)

theorem following_less {n m : Nat} (less : n % 64 < m % 64) (rest more : List UInt8) :
    (0x80 + n % 64).toUInt8 :: rest < (0x80 + m % 64).toUInt8 :: more :=
  byte_cons_less (by omega) (by omega) rest more

theorem following_two_less {n m : Nat} (less : n % 4096 < m % 4096) (rest more : List UInt8) :
    (0x80 + n / 64 % 64).toUInt8 :: (0x80 + n % 64).toUInt8 :: rest <
      (0x80 + m / 64 % 64).toUInt8 :: (0x80 + m % 64).toUInt8 :: more := by
  by_cases first : n / 64 % 64 < m / 64 % 64
  · exact following_less first _ _
  · exact byte_cons_same (by omega) (by omega) (following_less (by omega) rest more)

theorem following_three_less {n m : Nat} (less : n % 262144 < m % 262144) (rest more : List UInt8) :
    (0x80 + n / 4096 % 64).toUInt8 :: (0x80 + n / 64 % 64).toUInt8 :: (0x80 + n % 64).toUInt8 :: rest <
      (0x80 + m / 4096 % 64).toUInt8 :: (0x80 + m / 64 % 64).toUInt8 :: (0x80 + m % 64).toUInt8 :: more := by
  by_cases first : n / 4096 % 64 < m / 4096 % 64
  · exact following_less first _ _
  · exact byte_cons_same (by omega) (by omega) (following_two_less (by omega) rest more)

theorem char_bytes_lt (c d : Char) (less : c < d) (rest more : List UInt8) : encodeChar c ++ rest < encodeChar d ++ more := by
  have smaller : c.toNat < d.toNat := UInt32.lt_iff_toNat_lt.mp less
  have scalar := scalar_number d
  simp only [encodeChar]
  generalize c.toNat = n at smaller ⊢
  generalize d.toNat = m at smaller scalar ⊢
  by_cases one : n < 0x80
  · rw [if_pos one]
    by_cases ends : m < 0x80
    · rw [if_pos ends]
      exact byte_cons_less (by omega) smaller rest more
    · rw [if_neg ends]
      split
      · exact byte_cons_less (by omega) (by omega) _ _
      · split
        · exact byte_cons_less (by omega) (by omega) _ _
        · exact byte_cons_less (by omega) (by omega) _ _
  · rw [if_neg one, if_neg (show ¬ m < 0x80 by omega)]
    by_cases two : n < 0x800
    · rw [if_pos two]
      by_cases ends : m < 0x800
      · rw [if_pos ends]
        by_cases first : n / 64 < m / 64
        · exact byte_cons_less (by omega) (by omega) _ _
        · exact byte_cons_same (by omega) (by omega) (following_less (by omega) rest more)
      · rw [if_neg ends]
        split
        · exact byte_cons_less (by omega) (by omega) _ _
        · exact byte_cons_less (by omega) (by omega) _ _
    · rw [if_neg two, if_neg (show ¬ m < 0x800 by omega)]
      by_cases three : n < 0x10000
      · rw [if_pos three]
        by_cases ends : m < 0x10000
        · rw [if_pos ends]
          by_cases first : n / 4096 < m / 4096
          · exact byte_cons_less (by omega) (by omega) _ _
          · exact byte_cons_same (by omega) (by omega) (following_two_less (by omega) rest more)
        · rw [if_neg ends]
          exact byte_cons_less (by omega) (by omega) _ _
      · rw [if_neg three, if_neg (show ¬ m < 0x10000 by omega)]
        by_cases first : n / 262144 < m / 262144
        · exact byte_cons_less (by omega) (by omega) _ _
        · exact byte_cons_same (by omega) (by omega) (following_three_less (by omega) rest more)

theorem encode_char_ne_nil (c : Char) : encodeChar c ≠ [] := by
  rw [encodeChar]
  split
  · simp
  · split
    · simp
    · split
      · simp
      · simp

theorem encode_lt (text other : List Char) (less : text < other) : encode text < encode other := by
  induction text generalizing other with
  | nil =>
      cases other with
      | nil => exact absurd less (List.not_lt_nil [])
      | cons d rest =>
          obtain ⟨byte, following, same⟩ := List.exists_cons_of_ne_nil (encode_char_ne_nil d)
          rw [encode, encode, List.flatMap_cons, same]
          exact List.nil_lt_cons byte _
  | cons c rest ih =>
      cases other with
      | nil => exact absurd less (List.not_lt_nil _)
      | cons d more =>
          rw [encode, encode, List.flatMap_cons, List.flatMap_cons]
          rcases List.cons_lt_cons_iff.mp less with first | ⟨rfl, later⟩
          · exact char_bytes_lt c d first _ _
          · exact List.append_left_lt (ih more later)

theorem bytes_lt (text other : String) (less : text < other) : bytes text < bytes other :=
  encode_lt text.toList other.toList (String.lt_iff_toList_lt.mp less)

theorem before_of_lt (texts others : List String) (less : texts < others) : Before texts others := by
  rw [Before]
  induction texts generalizing others with
  | nil =>
      cases others with
      | nil => exact absurd less (List.not_lt_nil [])
      | cons other more => exact List.nil_lt_cons _ _
  | cons text rest ih =>
      cases others with
      | nil => exact absurd less (List.not_lt_nil _)
      | cons other more =>
          rw [List.map_cons, List.map_cons, List.cons_lt_cons_iff]
          rcases List.cons_lt_cons_iff.mp less with first | ⟨rfl, later⟩
          · exact .inl (bytes_lt text other first)
          · exact .inr ⟨rfl, ih more later⟩

end CacheTiers.Text
