import ClusterDns.Text.Numeral
import Mathlib.Data.List.Induction

/-! Digits that were written are read again, and digits that were read are those that would be
written, unless they begin with a zero too many. -/

namespace ClusterDns.Text

theorem hexValue?_hexDigit (upper : Bool) {n : Nat} (h : n < 16) :
    hexValue? (hexDigit upper n) = some n := by
  have hall : ∀ upper, ∀ n < 16, hexValue? (hexDigit upper n) = some n := by decide
  exact hall upper n h

theorem isDigit_of_mem_toString {n : Nat} {c : Char} (h : c ∈ (toString n).toList) :
    isDigit c = true := by
  rw [Nat.toString_eq_repr, Nat.toList_repr] at h
  have hdigit := Nat.isDigit_of_mem_toDigits (by decide) (by decide) h
  simp only [Char.isDigit, Bool.and_eq_true, decide_eq_true_eq] at hdigit
  simp only [isDigit, Bool.and_eq_true, decide_eq_true_eq]
  exact hdigit

theorem exists_toString (n : Nat) : ∃ c digits, (toString n).toList = c :: digits := by
  rw [Nat.toString_eq_repr, Nat.toList_repr]
  exact List.exists_cons_of_ne_nil Nat.toDigits_ne_nil

/-- No number but zero begins with a zero. -/
theorem head?_toString {n : Nat} (h : n ≠ 0) : (toString n).toList.head? ≠ some '0' := by
  rw [Nat.toString_eq_repr, Nat.toList_repr]
  induction n using Nat.strongRecOn with
  | _ n ih =>
    by_cases hsmall : n < 10
    · rw [Nat.toDigits_of_lt_base hsmall]
      simpa using h
    · rw [Nat.toDigits_of_base_le (by decide) (by omega), List.head?_append]
      have hhead := ih (n / 10) (by omega) (by omega)
      cases hd : (Nat.toDigits 10 (n / 10)).head? with
      | none => simp [Nat.toDigits_ne_nil] at hd
      | some c => simpa [hd] using hhead

theorem toNat_of_isDigit {c : Char} (h : isDigit c = true) :
    ∃ d < 10, c = Nat.digitChar d ∧ c.toNat - 48 = d := by
  simp only [isDigit, Bool.and_eq_true, decide_eq_true_eq] at h
  have hlow : 48 ≤ c.toNat := h.1
  have hhigh : c.toNat ≤ 57 := h.2
  refine ⟨c.toNat - 48, by omega, ?_, rfl⟩
  apply Char.toNat_inj.mp
  rw [Nat.toNat_digitChar_of_lt_ten (by omega)]
  omega

theorem hexValue?_of_isDigit {c : Char} (h : isDigit c = true) :
    hexValue? c = some (c.toNat - 48) := by
  unfold hexValue?
  exact if_pos h

/-- Digits are read by their places. -/
theorem decimal?_of_isDigit {digits : List Char} (full : digits ≠ [])
    (h : ∀ c ∈ digits, isDigit c = true) :
    decimal? digits = some (Nat.ofDigitChars 10 digits 0) := by
  -- the number read so far is a parameter of both readings
  have hfold : ∀ n, (digits.foldlM (fun n c => (hexValue? c).bind fun d =>
      if d < 10 then some (n * 10 + d) else none) n) = some (Nat.ofDigitChars 10 digits n) := by
    clear full
    induction digits with
    | nil => intro n; rfl
    | cons c rest ih =>
      intro n
      obtain ⟨hc, hrest⟩ := List.forall_mem_cons.mp h
      obtain ⟨d, hd, -, hvalue⟩ := toNat_of_isDigit hc
      have hcomm : n * 10 + d = 10 * n + (c.toNat - '0'.toNat) := by
        rw [Nat.mul_comm, ← hvalue]
        rfl
      rw [List.foldlM_cons, hexValue?_of_isDigit hc, hvalue, Option.bind_some, if_pos hd,
        Nat.ofDigitChars_cons, ← hcomm]
      exact ih hrest _
  rw [decimal?, numeral?, if_neg (by simpa using full)]
  exact hfold 0

/-- Digits without a needless zero in front are those of the number they write. -/
theorem toDigits_ofDigitChars {digits : List Char} (full : digits ≠ [])
    (h : ∀ c ∈ digits, isDigit c = true) (plain : digits.head? = some '0' → digits = ['0']) :
    Nat.toDigits 10 (Nat.ofDigitChars 10 digits 0) = digits := by
  -- digits are written from the last to the first, so the induction takes the last one off
  induction digits using List.reverseRecOn with
  | nil => exact absurd rfl full
  | append_singleton front last ih =>
    obtain ⟨d, hd, hlast, hvalue⟩ := toNat_of_isDigit (h last (by simp))
    have hread : Nat.ofDigitChars 10 (front ++ [last]) 0
        = 10 * Nat.ofDigitChars 10 front 0 + d := by
      rw [Nat.ofDigitChars_append, Nat.ofDigitChars_cons, Nat.ofDigitChars_nil, ← hvalue]
      rfl
    have hone : Nat.toDigits 10 d = [last] := by
      rw [Nat.toDigits_of_lt_base hd, hlast]
    rw [hread]
    cases front with
    | nil => simpa using hone
    | cons first rest =>
      have hhead : first ≠ '0' := by
        rintro rfl
        simpa using plain rfl
      have hfront := ih (List.cons_ne_nil _ _) (fun c hc => h c (List.mem_append_left _ hc))
        (fun hz => absurd (Option.some.inj hz) hhead)
      have hpos : 0 < Nat.ofDigitChars 10 (first :: rest) 0 := by
        refine Nat.pos_of_ne_zero fun hzero => ?_
        rw [hzero] at hfront
        exact hhead (List.cons.inj hfront).1.symm
      rw [← Nat.toDigits_append_toDigits (by decide) hpos hd, hfront, hone]

end ClusterDns.Text
