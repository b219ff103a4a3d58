import ClusterDns.Text.Numeral
import ClusterDns.Proofs.Text.CommaList

/-! Words: texts without blanks. They stand in a line with blanks between them and any blanks before
and after, and the fields of the line are these words again. -/

namespace ClusterDns.Text

theorem not_blank_of_isDigit {c : Char} (h : isDigit c = true) : isBlank c = false := by
  simp only [isDigit, Bool.and_eq_true, decide_eq_true_eq] at h
  have hlow : 48 ≤ c.toNat := h.1
  have hhigh : c.toNat ≤ 57 := h.2
  simp [isBlank]
  omega

/-- A text without blanks that is not empty. -/
structure IsWord (text : String) : Prop where
  full : text ≠ ""
  solid : ∀ c ∈ text.toList, isBlank c = false

theorem isWord_iff {text : String} : IsWord text ↔ text ≠ "" ∧ text.toList.any isBlank = false := by
  rw [List.any_eq_false]
  simp only [Bool.not_eq_true]
  exact ⟨fun h => ⟨h.full, h.solid⟩, fun h => ⟨h.1, h.2⟩⟩

instance (text : String) : Decidable (IsWord text) := decidable_of_iff _ isWord_iff.symm

theorem fields_cons_blank {c : Char} (h : isBlank c = true) (s : List Char) :
    fields (c :: s) = fields s := by
  rw [fields, splitOn, if_pos h, List.filter_cons_of_neg (by simp)]
  rfl

theorem fields_append_blank {gap : List Char} (h : ∀ c ∈ gap, isBlank c = true) (s : List Char) :
    fields (gap ++ s) = fields s := by
  induction gap with
  | nil => rfl
  | cons c rest ih =>
    obtain ⟨hc, hrest⟩ := List.forall_mem_cons.mp h
    rw [List.cons_append, fields_cons_blank hc, ih hrest]

/-- A word ends at the first blank after it. -/
theorem fields_append_word {word : String} (h : IsWord word) {rest : List Char}
    (ends : ∀ c ∈ rest.head?, isBlank c = true) :
    fields (word.toList ++ rest) = word.toList :: fields rest := by
  have hkept : ∀ pieces : List (List Char), (word.toList :: pieces).filter (!·.isEmpty) =
      word.toList :: pieces.filter (!·.isEmpty) := fun _ =>
    List.filter_cons_of_pos (by simpa using h.full)
  cases rest with
  | nil =>
    rw [List.append_nil, fields, splitOn_eq_splitOnP, List.splitOnP_eq_singleton h.solid,
      hkept]
    rfl
  | cons c rest =>
    have hc : isBlank c = true := ends c rfl
    rw [fields_cons_blank hc, fields, fields, splitOn_eq_splitOnP, splitOn_eq_splitOnP,
      List.splitOnP_append_cons_of_forall_mem h.solid c hc, hkept]

theorem fields_of_words {first second : String} (hf : IsWord first) (hs : IsWord second) :
    fields (first.toList ++ ' ' :: second.toList) = [first.toList, second.toList] := by
  have hsecond : fields (second.toList ++ []) = [second.toList] :=
    fields_append_word hs fun _ hc => nomatch hc
  rw [List.append_nil] at hsecond
  rw [fields_append_word hf (by simp [isBlank]), fields_cons_blank (by decide), hsecond]

theorem isWord_of_mem_fields {s field : List Char} (h : field ∈ fields s) :
    IsWord (String.ofList field) := by
  obtain ⟨hpiece, hfull⟩ := List.mem_filter.mp h
  constructor
  · simpa using hfull
  · rw [String.toList_ofList]
    exact fun c hc => not_separator_of_mem_splitOn hpiece hc

/-! ## Words in a text -/

/-- The words that stand in a text, in order. -/
inductive Spaced : List Char → List String → Prop
  | blank {gap : List Char} (blank : ∀ c ∈ gap, isBlank c = true) : Spaced gap []
  | word {gap rest : List Char} {word : String} {words : List String}
      (blank : ∀ c ∈ gap, isBlank c = true) (isWord : IsWord word)
      (ends : ∀ c ∈ rest.head?, isBlank c = true) (others : Spaced rest words) :
      Spaced (gap ++ word.toList ++ rest) (word :: words)

theorem fields_of_spaced {s : List Char} {words : List String} (h : Spaced s words) :
    fields s = words.map String.toList := by
  induction h with
  | @blank gap blank =>
    have hnothing := fields_append_blank blank []
    rwa [List.append_nil] at hnothing
  | word blank isWord ends _ ih =>
    rw [List.append_assoc, fields_append_blank blank, fields_append_word isWord ends, ih]
    rfl

/-- Put in front of a text, a blank widens the gap before its first word. Any other character is put
in front of that word where there is no gap, and is a word of its own where there is one. -/
theorem exists_spaced (s : List Char) : ∃ words, Spaced s words := by
  induction s with
  | nil => exact ⟨[], .blank fun _ hc => nomatch hc⟩
  | cons c s ih =>
    obtain ⟨words, h⟩ := ih
    by_cases hc : isBlank c = true
    · cases h with
      | blank blank => exact ⟨[], .blank (List.forall_mem_cons.mpr ⟨hc, blank⟩)⟩
      | word blank isWord ends others =>
        exact ⟨_, .word (List.forall_mem_cons.mpr ⟨hc, blank⟩) isWord ends others⟩
    · have hword : ∀ more : List Char, (∀ c ∈ more, isBlank c = false) →
          IsWord (String.ofList (c :: more)) := by
        intro more hmore
        constructor
        · simp
        · rw [String.toList_ofList]
          exact List.forall_mem_cons.mpr ⟨by simpa using hc, hmore⟩
      have hnone : ∀ c ∈ ([] : List Char), isBlank c = true := fun _ hc => nomatch hc
      have hone := hword [] fun _ hc => nomatch hc
      cases h with
      | blank blank =>
        have hends : ∀ c ∈ s.head?, isBlank c = true := fun c hc =>
          blank c (List.mem_of_mem_head? hc)
        exact ⟨_, by simpa using Spaced.word hnone hone hends (.blank blank)⟩
      | @word gap rest word words blank isWord ends others =>
        cases gap with
        | nil => exact ⟨_, by simpa using Spaced.word hnone (hword _ isWord.solid) ends others⟩
        | cons first gap =>
          have hends : ∀ c ∈ (first :: gap ++ word.toList ++ rest).head?, isBlank c = true := by
            intro c hc
            exact blank c (Option.mem_some_iff.mp hc ▸ List.mem_cons_self)
          exact ⟨_, by simpa using Spaced.word hnone hone hends (.word blank isWord ends others)⟩

theorem map_toList_injective : Function.Injective (List.map String.toList) :=
  List.map_injective_iff.mpr fun _ _ => String.toList_inj.mp

theorem existsUnique_spaced (s : List Char) : ∃! words, Spaced s words := by
  obtain ⟨words, h⟩ := exists_spaced s
  refine ⟨words, h, fun others hothers => ?_⟩
  exact map_toList_injective ((fields_of_spaced hothers).symm.trans (fields_of_spaced h))

/-- The words of a text are its fields. -/
theorem spaced_iff {s : List Char} {words : List String} :
    Spaced s words ↔ fields s = words.map String.toList := by
  refine ⟨fields_of_spaced, fun h => ?_⟩
  obtain ⟨others, hothers⟩ := exists_spaced s
  rw [fields_of_spaced hothers] at h
  rwa [map_toList_injective h] at hothers

end ClusterDns.Text
