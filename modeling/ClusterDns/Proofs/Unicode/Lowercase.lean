import ClusterDns.Unicode.Lowercase

/-! Texts in small letters already. The small letters without marks are no other letter's capitals,
and a text of them stays as it is. -/

namespace ClusterDns.Unicode

/-- A small letter without marks. -/
def IsPlainSmall (c : Char) : Prop := 0x61 ≤ c.toNat ∧ c.toNat ≤ 0x7A

instance (c : Char) : Decidable (IsPlainSmall c) := inferInstanceAs (Decidable (_ ∧ _))

theorem le_first_of_mem_read {start : Nat} {items : List (List Char)} {run : Run}
    (h : run ∈ Runs.read start items) : start ≤ run.first := by
  induction items generalizing start with
  | nil => cases h
  | cons item rest ih =>
    have hfirst : start ≤ (Run.read start item).first := by
      unfold Run.read
      dsimp only
      split <;> exact Nat.le_add_right _ _
    rcases List.mem_cons.mp h with rfl | h
    · exact hfirst
    · have hlater := ih h
      omega

/-- The runs of a table come one after another. -/
theorem rising_ofLines (lines : List String) :
    (Runs.ofLines lines).Pairwise fun run later => run.first + run.count ≤ later.first := by
  have hread : ∀ (items : List (List Char)) (start : Nat),
      (Runs.read start items).Pairwise fun run later => run.first + run.count ≤ later.first := by
    intro items
    induction items with
    | nil => exact fun _ => .nil
    | cons item rest ih => exact fun _ => .cons (fun _ => le_first_of_mem_read) (ih _)
  exact hread _ 0

/-- The capitals are the first run of the table, and the second one begins behind the small
letters. -/
theorem smallForms_apart {run : Run} (h : run ∈ smallForms) :
    run.first + run.count ≤ 0x61 ∨ 0x7A < run.first := by
  have hrising : smallForms.Pairwise fun run later => run.first + run.count ≤ later.first :=
    rising_ofLines _
  have hfirst : smallForms.head?.map (fun run => run.first + run.count) = some 0x5B := by
    decide +kernel
  have hsecond : smallForms.tail.head?.map (·.first) = some 0xC0 := by decide +kernel
  generalize smallForms = table at h hrising hfirst hsecond
  cases table with
  | nil => cases h
  | cons capitals rest =>
    simp only [List.head?_cons, Option.map_some, Option.some.injEq] at hfirst
    rcases List.mem_cons.mp h with rfl | h
    · omega
    · cases rest with
      | nil => cases h
      | cons next rest =>
        simp only [List.tail_cons, List.head?_cons, Option.map_some, Option.some.injEq] at hsecond
        obtain ⟨-, hrest⟩ := List.pairwise_cons.mp hrising
        rcases List.mem_cons.mp h with rfl | h
        · omega
        · have hbehind := (List.pairwise_cons.mp hrest).1 run h
          omega

theorem mapped?_smallForms {c : Char} (h : IsPlainSmall c) : mapped? smallForms c = some [c] := by
  have hnone : Runs.find? smallForms c = none := by
    rw [Runs.find?, List.find?_eq_none]
    intro run hrun
    have hapart := smallForms_apart hrun
    obtain ⟨hlow, hhigh⟩ := h
    simp only [Run.covers, Bool.and_eq_true, decide_eq_true_eq]
    omega
  rw [mapped?, hnone]

theorem small_of_isPlainSmall {c : Char} (h : IsPlainSmall c) (before after : List Char) :
    small before c after = [c] := by
  have hsigma : (c == 'Σ') = false := by
    rw [beq_eq_false_iff_ne]
    rintro rfl
    exact absurd h (by decide)
  rw [small, hsigma, mapped?_smallForms h]
  rfl

theorem lowercase_of_isPlainSmall {s : String} (h : ∀ c ∈ s.toList, IsPlainSmall c) :
    lowercase s = s := by
  have hafter : ∀ (cs before : List Char), (∀ c ∈ cs, IsPlainSmall c) →
      lowercaseAfter before cs = cs := by
    intro cs
    induction cs with
    | nil =>
      intro before _
      rfl
    | cons c rest ih =>
      intro before hcs
      obtain ⟨hc, hrest⟩ := List.forall_mem_cons.mp hcs
      rw [lowercaseAfter, small_of_isPlainSmall hc, ih _ hrest]
      rfl
  rw [lowercase, hafter _ [] h, String.ofList_toList]

end ClusterDns.Unicode
