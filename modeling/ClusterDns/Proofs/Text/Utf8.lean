import ClusterDns.Text.Utf8

/-! UTF-8 that was written is read again: the first byte of a character promises as many bytes as
follow, and those carry the rest of its bits. -/

namespace ClusterDns.Text.Utf8

theorem toNat_byte {n : Nat} (h : n < 256) : (UInt8.ofNat n).toNat = n := by
  rw [UInt8.toNat_ofNat', Nat.mod_eq_of_lt h]

/-- A byte within its bounds adds six bits. -/
theorem collect_cons {n low high bits b : Nat} (hb : b < 256) (hlow : low ≤ b) (hhigh : b ≤ high)
    (rest : List UInt8) :
    collect (n + 1) low high bits (UInt8.ofNat b :: rest) =
      collect n 0x80 0xBF (bits * 64 + b % 64) rest := by
  rw [collect, toNat_byte hb, if_pos (by simp [hlow, hhigh])]

theorem promise_two {n : Nat} (hlow : 0x80 ≤ n) (hhigh : n < 0x800) :
    promise (n / 64 % 32 + 192) = some (1, 0x80, 0xBF, n / 64) := by
  have hlead : n / 64 % 32 + 192 - 0xC0 = n / 64 := by omega
  unfold promise
  rw [if_neg (by omega), if_neg (by omega), if_pos (by omega), hlead]

/-- The bounds of the second byte keep out what is no character. -/
theorem promise_three {n : Nat} (hlow : 0x800 ≤ n) (hhigh : n < 0x10000)
    (valid : n < 0xD800 ∨ 0xDFFF < n) : ∃ low high,
    promise (n / 4096 % 16 + 224) = some (2, low, high, n / 4096) ∧
      low ≤ n / 64 % 64 + 128 ∧ n / 64 % 64 + 128 ≤ high := by
  have hlead : n / 4096 % 16 = n / 4096 := by omega
  rw [hlead]
  by_cases hfirst : n / 4096 = 0
  · exact ⟨0xA0, 0xBF, by simp [promise, hfirst], by omega, by omega⟩
  by_cases hhalf : n / 4096 = 13
  · exact ⟨0x80, 0x9F, by simp [promise, hhalf], by omega, by omega⟩
  · refine ⟨0x80, 0xBF, ?_, by omega, by omega⟩
    have hbits : n / 4096 + 224 - 0xE0 = n / 4096 := by omega
    unfold promise
    rw [if_neg (by omega), if_neg (by omega), if_neg (by omega), if_neg (by simpa using hfirst),
      if_neg (by simp; omega), if_pos (by omega), hbits]

theorem promise_four {n : Nat} (hlow : 0x10000 ≤ n) (hhigh : n < 0x110000) : ∃ low high,
    promise (n / 262144 % 8 + 240) = some (3, low, high, n / 262144) ∧
      low ≤ n / 4096 % 64 + 128 ∧ n / 4096 % 64 + 128 ≤ high := by
  have hlead : n / 262144 % 8 = n / 262144 := by omega
  rw [hlead]
  by_cases hfirst : n / 262144 = 0
  · exact ⟨0x90, 0xBF, by simp [promise, hfirst], by omega, by omega⟩
  by_cases hlast : n / 262144 = 4
  · exact ⟨0x80, 0x8F, by simp [promise, hlast], by omega, by omega⟩
  · refine ⟨0x80, 0xBF, ?_, by omega, by omega⟩
    have hbits : n / 262144 + 240 - 0xF0 = n / 262144 := by omega
    unfold promise
    rw [if_neg (by omega), if_neg (by omega), if_neg (by omega), if_neg (by simp),
      if_neg (by simp), if_neg (by omega), if_neg (by simpa using hfirst), if_pos (by omega),
      hbits]

/-! ## Characters, by the number of their bytes -/

section

variable {n : Nat} (rest : List UInt8)

theorem first_one (h : n < 0x80) : first (UInt8.ofNat n) rest = (some n, rest) := by
  rw [first, toNat_byte (by omega), promise, if_pos h]
  rfl

theorem first_two (hlow : 0x80 ≤ n) (hhigh : n < 0x800) :
    first (UInt8.ofNat (n / 64 % 32 + 192)) (UInt8.ofNat (n % 64 + 128) :: rest) =
      (some n, rest) := by
  rw [first, toNat_byte (by omega), promise_two hlow hhigh]
  dsimp only
  rw [collect_cons (by omega) (by omega) (by omega)]
  have hbits : n / 64 * 64 + (n % 64 + 128) % 64 = n := by omega
  rw [hbits]
  rfl

theorem first_three (hlow : 0x800 ≤ n) (hhigh : n < 0x10000)
    (valid : n < 0xD800 ∨ 0xDFFF < n) :
    first (UInt8.ofNat (n / 4096 % 16 + 224))
      (UInt8.ofNat (n / 64 % 64 + 128) :: UInt8.ofNat (n % 64 + 128) :: rest) =
        (some n, rest) := by
  obtain ⟨low, high, hpromise, hl, hh⟩ := promise_three hlow hhigh valid
  rw [first, toNat_byte (by omega), hpromise]
  dsimp only
  rw [collect_cons (by omega) hl hh, collect_cons (by omega) (by omega) (by omega)]
  have hbits : (n / 4096 * 64 + (n / 64 % 64 + 128) % 64) * 64 + (n % 64 + 128) % 64 = n := by
    omega
  rw [hbits]
  rfl

theorem first_four (hlow : 0x10000 ≤ n) (hhigh : n < 0x110000) :
    first (UInt8.ofNat (n / 262144 % 8 + 240)) (UInt8.ofNat (n / 4096 % 64 + 128) ::
      UInt8.ofNat (n / 64 % 64 + 128) :: UInt8.ofNat (n % 64 + 128) :: rest) =
        (some n, rest) := by
  obtain ⟨low, high, hpromise, hl, hh⟩ := promise_four hlow hhigh
  rw [first, toNat_byte (by omega), hpromise]
  dsimp only
  rw [collect_cons (by omega) hl hh, collect_cons (by omega) (by omega) (by omega),
    collect_cons (by omega) (by omega) (by omega)]
  have hbits : ((n / 262144 * 64 + (n / 4096 % 64 + 128) % 64) * 64 +
      (n / 64 % 64 + 128) % 64) * 64 + (n % 64 + 128) % 64 = n := by
    omega
  rw [hbits]
  rfl

end

/-! ## Texts -/

/-- The bytes of a character are read as that character, whatever follows. -/
theorem pieces_utf8EncodeChar (c : Char) (rest : List UInt8) :
    pieces (String.utf8EncodeChar c ++ rest) = some c.toNat :: pieces rest := by
  have hvalid : c.toNat < 0xD800 ∨ 0xDFFF < c.toNat ∧ c.toNat < 0x110000 := c.valid
  have hval : c.val.toNat = c.toNat := rfl
  rw [String.utf8EncodeChar, hval]
  split
  · rw [List.singleton_append, pieces, first_one rest (by omega)]
  · split
    · rw [List.cons_append, List.singleton_append, pieces, first_two rest (by omega) (by omega)]
    · split
      · rw [List.cons_append, List.cons_append, List.singleton_append, pieces,
          first_three rest (by omega) (by omega) (by omega)]
      · rw [List.cons_append, List.cons_append, List.cons_append, List.singleton_append, pieces,
          first_four rest (by omega) (by omega)]

theorem pieces_encode (s : List Char) : pieces (encode s) = s.map fun c => some c.toNat := by
  induction s with
  | nil => rw [encode, List.flatMap_nil, pieces, List.map_nil]
  | cons c rest ih =>
    rw [encode, List.flatMap_cons, ← encode, pieces_utf8EncodeChar, ih, List.map_cons]

@[simp] theorem decodeLossy_encode (s : List Char) : decodeLossy (encode s) = s := by
  rw [decodeLossy, pieces_encode, List.map_map]
  simp [Function.comp_def]

@[simp] theorem decode?_encode (s : List Char) : decode? (encode s) = some s := by
  rw [decode?, pieces_encode]
  induction s with
  | nil => rfl
  | cons c rest ih => simp [ih]

end ClusterDns.Text.Utf8
