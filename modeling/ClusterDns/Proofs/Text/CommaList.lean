import ClusterDns.Text.CommaList
import Mathlib.Data.List.DropRight

/-! Comma-separated lists read back. What is written for elements without commas and without blanks
around them is read as the same elements, and elements that were read are of this kind. -/

namespace ClusterDns.Text

theorem splitOn_eq_splitOnP (isSeparator : Char → Bool) (s : List Char) :
    splitOn isSeparator s = s.splitOnP isSeparator := by
  induction s with
  | nil => rfl
  | cons c rest ih =>
    rw [splitOn, List.splitOnP_cons_eq_if_modifyHead, ← ih]
    split
    · rfl
    · cases hr : splitOn isSeparator rest with
      | nil => exact absurd hr (splitOn_ne_nil isSeparator rest)
      | cons piece pieces => rfl

theorem not_separator_of_mem_splitOn {isSeparator : Char → Bool} {s piece : List Char}
    (h : piece ∈ splitOn isSeparator s) {c : Char} (hc : c ∈ piece) : isSeparator c = false := by
  induction s generalizing piece with
  | nil =>
    rw [List.mem_singleton.mp h] at hc
    cases hc
  | cons first rest ih =>
    rw [splitOn] at h
    split at h
    · rcases List.mem_cons.mp h with rfl | h
      · cases hc
      · exact ih h hc
    · rename_i hfirst
      split at h
      · rename_i hnil
        exact absurd hnil (splitOn_ne_nil isSeparator rest)
      · rename_i head pieces hrest
        rw [hrest] at ih
        rcases List.mem_cons.mp h with rfl | h
        · rcases List.mem_cons.mp hc with rfl | hc
          · simpa using hfirst
          · exact ih List.mem_cons_self hc
        · exact ih (List.mem_cons_of_mem _ h) hc

theorem splitOn_intercalate {separator : Char} {pieces : List (List Char)} (hne : pieces ≠ [])
    (h : ∀ piece ∈ pieces, separator ∉ piece) :
    splitOn (· == separator) ([separator].intercalate pieces) = pieces := by
  rw [splitOn_eq_splitOnP]
  exact List.splitOn_intercalate separator h hne

theorem intercalate_splitOn (separator : Char) (s : List Char) :
    [separator].intercalate (splitOn (· == separator) s) = s := by
  rw [splitOn_eq_splitOnP]
  exact List.intercalate_splitOn separator

theorem trim_eq (s : List Char) : trim s = (s.dropWhile isBlank).rdropWhile isBlank := rfl

theorem mem_of_mem_trim {s : List Char} {c : Char} (h : c ∈ trim s) : c ∈ s := by
  rw [trim_eq] at h
  exact (List.dropWhile_suffix isBlank).subset ((List.rdropWhile_prefix isBlank _).subset h)

theorem head?_trim (s : List Char) : ∀ c ∈ (trim s).head?, isBlank c = false := by
  intro c hc
  -- the first character of what is left is that of the text without the blanks before it
  obtain ⟨blanks, hblanks⟩ := List.rdropWhile_prefix isBlank (s.dropWhile isBlank)
  have hkept := List.head?_dropWhile_not isBlank s
  rw [← hblanks, ← trim_eq, List.head?_append, Option.mem_def.mp hc] at hkept
  simpa using hkept

theorem getLast?_trim (s : List Char) : ∀ c ∈ (trim s).getLast?, isBlank c = false := by
  intro c hc
  obtain ⟨hne, rfl⟩ := List.mem_getLast?_eq_getLast hc
  exact Bool.eq_false_iff.mpr (List.rdropWhile_last_not isBlank (s.dropWhile isBlank) hne)

/-- A text is left as it is if there is no blank at either end of it. -/
theorem trim_eq_self_iff {s : List Char} : trim s = s ↔
    (∀ c ∈ s.head?, isBlank c = false) ∧ ∀ c ∈ s.getLast?, isBlank c = false := by
  refine ⟨fun h => h ▸ ⟨head?_trim s, getLast?_trim s⟩, ?_⟩
  rintro ⟨hfirst, hlast⟩
  have hstart : s.dropWhile isBlank = s := by
    cases s with
    | nil => rfl
    | cons c rest => exact List.dropWhile_cons_of_neg (by simpa using hfirst c rfl)
  rw [trim_eq, hstart, List.rdropWhile_eq_self_iff]
  intro hne
  simpa using hlast _ (List.getLast?_eq_some_getLast hne)

theorem trim_trim (s : List Char) : trim (trim s) = trim s :=
  trim_eq_self_iff.mpr ⟨head?_trim s, getLast?_trim s⟩

namespace CommaList

/-- An element that can be written as it is. -/
structure IsPlain (element : String) : Prop where
  comma : ',' ∉ element.toList
  trimmed : trim element.toList = element.toList

instance (element : String) : Decidable (IsPlain element) :=
  decidable_of_iff (',' ∉ element.toList ∧ trim element.toList = element.toList)
    ⟨fun h => ⟨h.1, h.2⟩, fun h => ⟨h.comma, h.trimmed⟩⟩

theorem splitOn_render {elements : List String} (hne : elements ≠ [])
    (plain : ∀ element ∈ elements, IsPlain element) :
    splitOn (· == ',') (render elements).toList = elements.map String.toList := by
  have hcomma : ∀ piece ∈ elements.map String.toList, ',' ∉ piece := by
    intro piece hp
    obtain ⟨element, he, rfl⟩ := List.mem_map.mp hp
    exact (plain element he).comma
  rw [render, String.toList_intercalate]
  exact splitOn_intercalate (by simpa using hne) hcomma

theorem parse_render {elements : List String} (hne : elements ≠ [])
    (plain : ∀ element ∈ elements, IsPlain element) (full : "" ∉ elements) :
    parse (render elements) = elements := by
  have htrim : (elements.map String.toList).map trim = elements.map String.toList := by
    rw [List.map_map]
    exact List.map_congr_left fun element he => (plain element he).trimmed
  have hfull : (elements.map String.toList).filter (!·.isEmpty) = elements.map String.toList := by
    rw [List.filter_eq_self]
    intro piece hp
    obtain ⟨element, he, rfl⟩ := List.mem_map.mp hp
    have hempty : element ≠ "" := fun h => full (h ▸ he)
    simpa using hempty
  have hback : (elements.map String.toList).map String.ofList = elements := by
    rw [List.map_map]
    exact (List.map_congr_left fun element _ => String.ofList_toList).trans (List.map_id _)
  rw [parse, splitOn_render hne plain, htrim, hfull, hback]

/-- No element that was read is empty. -/
theorem empty_not_mem_parse (s : String) : "" ∉ parse s := by
  intro h
  obtain ⟨piece, hp, he⟩ := List.mem_map.mp h
  have hne := (List.mem_filter.mp hp).2
  have hnil : piece = [] := by simpa using congrArg String.toList he
  simp [hnil] at hne

theorem isPlain_of_mem_parse {s element : String} (h : element ∈ parse s) : IsPlain element := by
  obtain ⟨piece, hp, rfl⟩ := List.mem_map.mp h
  obtain ⟨text, ht, rfl⟩ := List.mem_map.mp (List.mem_filter.mp hp).1
  constructor
  · rw [String.toList_ofList]
    intro hc
    have hsep := not_separator_of_mem_splitOn ht (mem_of_mem_trim hc)
    simp at hsep
  · rw [String.toList_ofList, trim_trim]

/-! ## Lists that are read back -/

/-- An element that outlasts writing and reading. -/
structure IsElement (element : String) : Prop where
  full : element ≠ ""
  comma : ',' ∉ element.toList
  leading : ∀ c ∈ element.toList.head?, isBlank c = false
  trailing : ∀ c ∈ element.toList.getLast?, isBlank c = false

theorem isElement_iff {element : String} : IsElement element ↔ element ≠ "" ∧ IsPlain element := by
  constructor
  · intro h
    exact ⟨h.full, h.comma, trim_eq_self_iff.mpr ⟨h.leading, h.trailing⟩⟩
  · rintro ⟨full, plain⟩
    obtain ⟨leading, trailing⟩ := trim_eq_self_iff.mp plain.trimmed
    exact ⟨full, plain.comma, leading, trailing⟩

theorem isElement_of_mem_parse {s element : String} (h : element ∈ parse s) : IsElement element :=
  isElement_iff.mpr ⟨fun hempty => empty_not_mem_parse s (hempty ▸ h), isPlain_of_mem_parse h⟩

/-- A list is read back just if all of its elements are of this kind. -/
theorem parse_render_iff {elements : List String} :
    parse (render elements) = elements ↔ ∀ element ∈ elements, IsElement element := by
  refine ⟨fun h element he => isElement_of_mem_parse (h ▸ he), fun h => ?_⟩
  by_cases hne : elements = []
  · subst hne
    rfl
  · refine parse_render hne (fun element he => (isElement_iff.mp (h element he)).2) ?_
    exact fun hempty => (h "" hempty).full rfl

theorem parse_render_parse (s : String) : parse (render (parse s)) = parse s :=
  parse_render_iff.mpr fun _ => isElement_of_mem_parse

end CommaList

end ClusterDns.Text
