import ClusterDns.Net.Ipv4
import ClusterDns.Proofs.Text.Numeral
import ClusterDns.Proofs.Text.Word

/-! The dotted form of addresses. Reading accepts what writing gives and nothing else, so no two
texts stand for one address. -/

namespace ClusterDns.Net.Ipv4

open Text

/-- A number as the dotted form has it: decimal digits only, no zero in front of others, and at
most 255. -/
structure IsNumber (text : String) : Prop where
  full : text ≠ ""
  digits : ∀ c ∈ text.toList, '0' ≤ c ∧ c ≤ '9'
  plain : text.toList.head? = some '0' → text = "0"
  small : Nat.ofDigitChars 10 text.toList 0 ≤ 255

theorem IsNumber.isDigit_of_mem {text : String} (h : IsNumber text) {c : Char}
    (hc : c ∈ text.toList) : isDigit c = true := by
  simpa [isDigit] using h.digits c hc

theorem isNumber_iff {text : String} :
    IsNumber text ↔ ∃ n : Fin 256, text = toString n.val := by
  constructor
  · intro h
    have hdigits : ∀ c ∈ text.toList, isDigit c = true := fun c hc => h.isDigit_of_mem hc
    refine ⟨⟨_, Nat.lt_succ_of_le h.small⟩, ?_⟩
    rw [← String.toList_inj, Nat.toString_eq_repr, Nat.toList_repr]
    refine (toDigits_ofDigitChars (by simpa using h.full) hdigits fun hzero => ?_).symm
    exact congrArg String.toList (h.plain hzero)
  · rintro ⟨n, rfl⟩
    constructor
    · obtain ⟨c, rest, hc⟩ := exists_toString n.val
      intro hempty
      rw [hempty] at hc
      cases hc
    · intro c hc
      simpa [isDigit] using isDigit_of_mem_toString hc
    · intro hzero
      by_cases hn : n.val = 0
      · rw [hn]
        rfl
      · exact absurd hzero (head?_toString hn)
    · rw [Nat.toString_eq_repr, Nat.toList_repr, Nat.ofDigitChars_ten_toDigits]
      exact Nat.le_of_lt_succ n.isLt

theorem octet?_toString (n : Fin 256) : octet? (toString n.val).toList = some n := by
  have hnumber : IsNumber (toString n.val) := isNumber_iff.mpr ⟨n, rfl⟩
  have hdigits : ∀ c ∈ (toString n.val).toList, isDigit c = true := fun c hc =>
    hnumber.isDigit_of_mem hc
  have hshort : (toString n.val).toList.length ≤ 3 := by
    rw [Nat.toString_eq_repr, Nat.toList_repr, Nat.length_toDigits_le_iff (by decide) (by decide)]
    omega
  have hplain : (toString n.val).toList.length = 1
      ∨ (toString n.val).toList.head? ≠ some '0' := by
    by_cases hzero : (toString n.val).toList.head? = some '0'
    · left
      rw [hnumber.plain hzero]
      rfl
    · exact .inr hzero
  have hread : decimal? (toString n.val).toList = some n.val := by
    rw [decimal?_of_isDigit (by simp) hdigits, Nat.toString_eq_repr, Nat.toList_repr,
      Nat.ofDigitChars_ten_toDigits]
  have hshape : ((toString n.val).toList.length ≤ 3 && (toString n.val).toList.all isDigit
      && ((toString n.val).toList.length == 1
        || (toString n.val).toList.head? != some '0')) = true := by
    simp only [Bool.and_eq_true, Bool.or_eq_true, List.all_eq_true, decide_eq_true_eq,
      beq_iff_eq, bne_iff_ne]
    exact ⟨⟨hshort, hdigits⟩, hplain⟩
  rw [octet?, if_pos hshape, hread, Option.bind_some, dif_pos n.isLt]

theorem eq_toString_of_octet? {digits : List Char} {n : Fin 256} (h : octet? digits = some n) :
    digits = (toString n.val).toList := by
  rw [octet?] at h
  split at h
  · rename_i hshape
    simp only [Bool.and_eq_true, Bool.or_eq_true, List.all_eq_true] at hshape
    obtain ⟨⟨-, hdigits⟩, hplain⟩ := hshape
    obtain ⟨value, hvalue, hsmall⟩ := Option.bind_eq_some_iff.mp h
    have hfull : digits ≠ [] := by
      rintro rfl
      cases hvalue
    rw [decimal?_of_isDigit hfull hdigits] at hvalue
    split at hsmall
    · cases hvalue
      cases hsmall
      rw [Nat.toString_eq_repr, Nat.toList_repr]
      refine (toDigits_ofDigitChars hfull hdigits fun hzero => ?_).symm
      rcases hplain with hone | hnone
      · obtain ⟨c, rfl⟩ := List.length_eq_one_iff.mp (by simpa using hone)
        rw [Option.some.inj hzero]
      · exact absurd hzero (by simpa using hnone)
    · cases hsmall
  · cases h

/-- The four numbers of an address as they are written. -/
def pieces (address : Ipv4) : List (List Char) :=
  [address.a, address.b, address.c, address.d].map fun n => (toString n.val).toList

theorem toList_render (address : Ipv4) :
    address.render.toList = ['.'].intercalate address.pieces := by
  simp [render, pieces, List.intercalate, toString]

theorem parse?_render (address : Ipv4) : parse? address.render.toList = some address := by
  have hdot : ∀ piece ∈ address.pieces, '.' ∉ piece := by
    intro piece hp hc
    obtain ⟨n, -, rfl⟩ := List.mem_map.mp hp
    exact absurd (isDigit_of_mem_toString hc) (by decide)
  have hsplit : splitOn (· == '.') address.render.toList = address.pieces := by
    rw [toList_render]
    exact splitOn_intercalate (List.cons_ne_nil _ _) hdot
  rw [parse?, hsplit]
  simp only [pieces, List.map_cons, List.map_nil, octet?_toString]
  rfl

/-- An address is read from its dotted form and from no other text. -/
theorem parse?_eq_some_iff {s : List Char} {address : Ipv4} :
    parse? s = some address ↔ s = address.render.toList := by
  refine ⟨fun h => ?_, fun h => h ▸ parse?_render address⟩
  rw [parse?] at h
  split at h
  · rename_i a b c d hsplit
    simp only [Option.bind_eq_bind, Option.bind_eq_some_iff] at h
    obtain ⟨na, ha, nb, hb, nc, hc, nd, hd, heq⟩ := h
    cases heq
    have hjoin := intercalate_splitOn '.' s
    rw [hsplit] at hjoin
    rw [← hjoin, toList_render, eq_toString_of_octet? ha, eq_toString_of_octet? hb,
      eq_toString_of_octet? hc, eq_toString_of_octet? hd]
    rfl
  · cases h

theorem isLiteral_iff {s : String} : isLiteral s = true ↔ ∃ address : Ipv4, s = address.render := by
  rw [isLiteral, Option.isSome_iff_exists]
  simp only [parse?_eq_some_iff, String.toList_inj]

/-- A text that is read as an address that was accepted is the same text. -/
theorem parse?_inj {s t : String} (ht : isLiteral t = true) :
    parse? s.toList = parse? t.toList ↔ s = t := by
  refine ⟨fun h => ?_, fun h => h ▸ rfl⟩
  obtain ⟨address, rfl⟩ := isLiteral_iff.mp ht
  rw [parse?_render] at h
  exact String.toList_inj.mp (parse?_eq_some_iff.mp h)

/-- The grammar of the dotted form. -/
theorem isLiteral_iff_isNumber {s : String} : isLiteral s = true ↔
    ∃ a b c d, IsNumber a ∧ IsNumber b ∧ IsNumber c ∧ IsNumber d
      ∧ s = a ++ "." ++ b ++ "." ++ c ++ "." ++ d := by
  rw [isLiteral_iff]
  constructor
  · rintro ⟨⟨a, b, c, d⟩, rfl⟩
    exact ⟨_, _, _, _, isNumber_iff.mpr ⟨a, rfl⟩, isNumber_iff.mpr ⟨b, rfl⟩,
      isNumber_iff.mpr ⟨c, rfl⟩, isNumber_iff.mpr ⟨d, rfl⟩, by simp [render, toString]⟩
  · rintro ⟨_, _, _, _, ha, hb, hc, hd, rfl⟩
    obtain ⟨a, rfl⟩ := isNumber_iff.mp ha
    obtain ⟨b, rfl⟩ := isNumber_iff.mp hb
    obtain ⟨c, rfl⟩ := isNumber_iff.mp hc
    obtain ⟨d, rfl⟩ := isNumber_iff.mp hd
    exact ⟨⟨a, b, c, d⟩, by simp [render, toString]⟩

theorem mem_of_isLiteral {s : String} (h : isLiteral s = true) {c : Char} (hc : c ∈ s.toList) :
    isDigit c = true ∨ c = '.' := by
  obtain ⟨_, _, _, _, ha, hb, hd, he, rfl⟩ := isLiteral_iff_isNumber.mp h
  have hdot : c ∈ ".".toList → c = '.' := List.mem_singleton.mp
  simp only [String.toList_append, List.mem_append] at hc
  rcases hc with (((((hc | hc) | hc) | hc) | hc) | hc) | hc
  · exact .inl (ha.isDigit_of_mem hc)
  · exact .inr (hdot hc)
  · exact .inl (hb.isDigit_of_mem hc)
  · exact .inr (hdot hc)
  · exact .inl (hd.isDigit_of_mem hc)
  · exact .inr (hdot hc)
  · exact .inl (he.isDigit_of_mem hc)

/-- An address in dotted form is a word. -/
theorem isWord_of_isLiteral {s : String} (h : isLiteral s = true) : IsWord s := by
  constructor
  · rintro rfl
    cases h
  · intro c hc
    rcases mem_of_isLiteral h hc with hdigit | rfl
    · exact not_blank_of_isDigit hdigit
    · decide

end ClusterDns.Net.Ipv4
