import CacheTiers.Text.Utf8

namespace CacheTiers.Text

theorem byte_to_nat (n : Nat) (byte : n < 256) : n.toUInt8.toNat = n := UInt8.toNat_ofNat_of_lt' byte

theorem begin_char_number (n : Nat) (byte : n < 256) :
    beginChar n.toUInt8 =
      if n < 0x80 then ([some (Char.ofNat n)], .between)
      else if 0xc2 ≤ n ∧ n ≤ 0xdf then ([], .within (n - 0xc0) 0 0x80 0xbf)
      else if n = 0xe0 then ([], .within 0 1 0xa0 0xbf)
      else if n = 0xed then ([], .within 0xd 1 0x80 0x9f)
      else if 0xe1 ≤ n ∧ n ≤ 0xef then ([], .within (n - 0xe0) 1 0x80 0xbf)
      else if n = 0xf0 then ([], .within 0 2 0x90 0xbf)
      else if n = 0xf4 then ([], .within 4 2 0x80 0x8f)
      else if 0xf1 ≤ n ∧ n ≤ 0xf3 then ([], .within (n - 0xf0) 2 0x80 0xbf)
      else ([none], .between) := by
  have read := byte_to_nat n byte
  have is (m : Nat) (small : m < 256) : n.toUInt8 = m.toUInt8 ↔ n = m := by
    rw [← UInt8.toNat_inj, read, byte_to_nat m small]
  have e0 := is 0xe0 (by decide)
  have ed := is 0xed (by decide)
  have f0 := is 0xf0 (by decide)
  have f4 := is 0xf4 (by decide)
  simp only [Nat.toUInt8_eq, UInt8.reduceOfNat] at e0 ed f0 f4 read ⊢
  simp [beginChar, UInt8.lt_iff_toNat_lt, UInt8.le_iff_toNat_le, read, e0, ed, f0, f4]

theorem take_following (value missing k : Nat) (low high : UInt8) (above : low.toNat ≤ 0x80 + k)
    (below : 0x80 + k ≤ high.toNat) :
    takeByte (.within value missing low high) (0x80 + k).toUInt8 =
      match missing with
      | 0 => ([some (Char.ofNat (value * 64 + k))], .between)
      | missing + 1 => ([], .within (value * 64 + k) missing 0x80 0xbf) := by
  have read := byte_to_nat (0x80 + k) (by have := high.toNat_lt; omega)
  have among : (low ≤ (0x80 + k).toUInt8 && (0x80 + k).toUInt8 ≤ high) = true := by
    rw [Bool.and_eq_true, decide_eq_true_eq, decide_eq_true_eq, UInt8.le_iff_toNat_le, UInt8.le_iff_toNat_le, read]
    exact ⟨above, below⟩
  rw [takeByte, if_pos among]
  cases missing with
  | zero => simp only [read, Nat.add_sub_cancel_left]
  | succ missing => simp only [read, Nat.add_sub_cancel_left]

theorem decode_last (value k : Nat) (low high : UInt8) (above : low.toNat ≤ 0x80 + k) (below : 0x80 + k ≤ high.toNat)
    (rest : List UInt8) :
    decodeFrom (.within value 0 low high) ((0x80 + k).toUInt8 :: rest) =
      some (Char.ofNat (value * 64 + k)) :: decodeFrom .between rest := by
  rw [decodeFrom, take_following value 0 k low high above below]
  rfl

theorem decode_following (value missing k : Nat) (low high : UInt8) (above : low.toNat ≤ 0x80 + k)
    (below : 0x80 + k ≤ high.toNat) (rest : List UInt8) :
    decodeFrom (.within value (missing + 1) low high) ((0x80 + k).toUInt8 :: rest) =
      decodeFrom (.within (value * 64 + k) missing 0x80 0xbf) rest := by
  rw [decodeFrom, take_following value (missing + 1) k low high above below]
  rfl

theorem decode_begun (n value missing : Nat) (low high : UInt8) (rest : List UInt8)
    (begun : beginChar n.toUInt8 = ([], .within value missing low high)) :
    decodeFrom .between (n.toUInt8 :: rest) = decodeFrom (.within value missing low high) rest := by
  rw [decodeFrom, takeByte, begun]
  rfl

-- Of three bytes the first and the second leave out what shorter sequences encode, and the surrogates.
theorem begin_three (n : Nat) (above : 0x800 ≤ n) (below : n < 0x10000) (scalar : n < 0xd800 ∨ 0xdfff < n) :
    ∃ low high, beginChar (0xe0 + n / 4096).toUInt8 = ([], .within (n / 4096) 1 low high) ∧
      low.toNat ≤ 0x80 + n / 64 % 64 ∧ 0x80 + n / 64 % 64 ≤ high.toNat := by
  have begun := begin_char_number (0xe0 + n / 4096) (by omega)
  rw [if_neg (by omega), if_neg (by omega)] at begun
  by_cases first : n < 0x1000
  · rw [if_pos (by omega)] at begun
    refine ⟨0xa0, 0xbf, ?_, by simp; omega, by simp; omega⟩
    rw [begun, Nat.div_eq_of_lt first]
  · rw [if_neg (by omega)] at begun
    by_cases surrogates : n / 4096 = 0xd
    · rw [if_pos (by omega)] at begun
      refine ⟨0x80, 0x9f, ?_, by simp, by simp; omega⟩
      rw [begun, surrogates]
    · rw [if_neg (by omega), if_pos (by omega), Nat.add_sub_cancel_left] at begun
      exact ⟨0x80, 0xbf, begun, by simp, by simp; omega⟩

theorem begin_four (n : Nat) (above : 0x10000 ≤ n) (below : n < 0x110000) :
    ∃ low high, beginChar (0xf0 + n / 262144).toUInt8 = ([], .within (n / 262144) 2 low high) ∧
      low.toNat ≤ 0x80 + n / 4096 % 64 ∧ 0x80 + n / 4096 % 64 ≤ high.toNat := by
  have begun := begin_char_number (0xf0 + n / 262144) (by omega)
  rw [if_neg (by omega), if_neg (by omega), if_neg (by omega), if_neg (by omega), if_neg (by omega)] at begun
  by_cases first : n < 0x40000
  · rw [if_pos (by omega)] at begun
    refine ⟨0x90, 0xbf, ?_, by simp; omega, by simp; omega⟩
    rw [begun, Nat.div_eq_of_lt first]
  · rw [if_neg (by omega)] at begun
    by_cases last : n / 262144 = 4
    · rw [if_pos (by omega)] at begun
      refine ⟨0x80, 0x8f, ?_, by simp, by simp; omega⟩
      rw [begun, last]
    · rw [if_neg (by omega), if_pos (by omega), Nat.add_sub_cancel_left] at begun
      exact ⟨0x80, 0xbf, begun, by simp, by simp; omega⟩

theorem scalar_number (c : Char) : c.toNat < 0xd800 ∨ 0xdfff < c.toNat ∧ c.toNat < 0x110000 := c.valid

theorem decode_char (c : Char) (rest : List UInt8) :
    decodeFrom .between (encodeChar c ++ rest) = some c :: decodeFrom .between rest := by
  have scalar := scalar_number c
  have same : Char.ofNat c.toNat = c := Char.ofNat_toNat c
  have following (k : Nat) : (0x80 : UInt8).toNat ≤ 0x80 + k % 64 ∧ 0x80 + k % 64 ≤ (0xbf : UInt8).toNat := by
    simp
    omega
  rw [encodeChar]
  generalize c.toNat = n at scalar same ⊢
  by_cases one : n < 0x80
  · have begun := begin_char_number n (by omega)
    rw [if_pos one] at begun
    rw [if_pos one, List.singleton_append, decodeFrom, takeByte, begun, same]
    rfl
  · rw [if_neg one]
    by_cases two : n < 0x800
    · have begun := begin_char_number (0xc0 + n / 64) (by omega)
      rw [if_neg (by omega), if_pos (by omega), Nat.add_sub_cancel_left] at begun
      rw [if_pos two]
      simp only [List.cons_append, List.nil_append]
      rw [decode_begun _ _ _ _ _ _ begun, decode_last _ _ _ _ (following n).1 (following n).2, Nat.div_add_mod', same]
    · rw [if_neg two]
      by_cases three : n < 0x10000
      · obtain ⟨low, high, begun, above, below⟩ := begin_three n (by omega) three (by omega)
        have whole : (n / 4096 * 64 + n / 64 % 64) * 64 + n % 64 = n := by omega
        rw [if_pos three]
        simp only [List.cons_append, List.nil_append]
        rw [decode_begun _ _ _ _ _ _ begun, decode_following _ _ _ _ _ above below,
          decode_last _ _ _ _ (following n).1 (following n).2, whole, same]
      · obtain ⟨low, high, begun, above, below⟩ := begin_four n (by omega) (by omega)
        have whole : ((n / 262144 * 64 + n / 4096 % 64) * 64 + n / 64 % 64) * 64 + n % 64 = n := by omega
        rw [if_neg three]
        simp only [List.cons_append, List.nil_append]
        rw [decode_begun _ _ _ _ _ _ begun, decode_following _ _ _ _ _ above below,
          decode_following _ _ _ _ _ (following (n / 64)).1 (following (n / 64)).2,
          decode_last _ _ _ _ (following n).1 (following n).2, whole, same]

theorem decode_encode (text : List Char) : decode (encode text) = text.map some := by
  induction text with
  | nil => rfl
  | cons c rest ih => exact (decode_char c (encode rest)).trans (congrArg (some c :: ·) ih)

theorem decode_whole (text : List Char) : decode? (encode text) = some text := by
  rw [decode?, decode_encode, List.mapM_map]
  exact (List.mapM_pure (f := id)).trans (congrArg some (List.map_id _))

end CacheTiers.Text
