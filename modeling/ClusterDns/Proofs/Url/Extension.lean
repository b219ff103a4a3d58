import ClusterDns.Proofs.Url.Segment
import ClusterDns.Url.Parser

/-! URLs with further segments. Adding segments changes nothing but the path. A segment that was
encoded is written with characters that end neither a segment nor a path, so it is one more segment
to whoever reads the URL. -/

namespace ClusterDns.Url

/-! ## Characters of an encoded segment -/

/-- A character that no part of a URL ends at: it is printable and not one of the marks. -/
def IsInert (c : Char) : Prop :=
  0x20 < c.toNat ∧ c.toNat < 0x7F ∧ c ≠ '/' ∧ c ≠ '\\' ∧ c ≠ '?' ∧ c ≠ '#'

instance (c : Char) : Decidable (IsInert c) := inferInstanceAs (Decidable (_ ∧ _))

namespace Percent

theorem isInert_hexDigit {n : Nat} (h : n < 16) : IsInert (Text.hexDigit true n) := by
  have hall : ∀ n < 16, IsInert (Text.hexDigit true n) := by decide
  exact hall n h

theorem isInert_of_mem_ofByte {b : UInt8} {c : Char} (h : c ∈ ofByte b) : IsInert c := by
  have hb := b.toNat_lt
  simp only [ofByte, List.mem_cons, List.not_mem_nil, or_false] at h
  rcases h with rfl | rfl | rfl
  · decide
  · exact isInert_hexDigit (by omega)
  · exact isInert_hexDigit (by omega)

/-- What shows as itself ends nothing. -/
theorem isInert_of_not_specialSegment {c : Char} (h : specialSegment c = false) : IsInert c := by
  simp only [specialSegment, segment, path, fragment, controls, Bool.or_eq_false_iff,
    decide_eq_false_iff_not, beq_eq_false_iff_ne] at h
  have hspace : c ≠ ' ' := by simp [h]
  have hcode : c.toNat ≠ 0x20 := fun he => hspace (Char.toNat_inj.mp he)
  refine ⟨by omega, by omega, ?_, ?_, ?_, ?_⟩
  all_goals simp [h]

theorem isInert_of_mem_encode {s : List Char} {c : Char}
    (h : c ∈ (encode specialSegment s).toList) : IsInert c := by
  rw [encode, String.toList_ofList] at h
  obtain ⟨shown, -, hc⟩ := List.mem_flatMap.mp h
  unfold encodeChar at hc
  split at hc
  · obtain ⟨b, -, hb⟩ := List.mem_flatMap.mp hc
    exact isInert_of_mem_ofByte hb
  · rename_i hset
    rw [List.mem_singleton.mp hc]
    exact isInert_of_not_specialSegment (by simpa using hset)

end Percent

/-- A segment that was made of a text with a space is not taken for one of dots. -/
theorem not_dots_of_space {set : Percent.CharSet} (hset : set ' ' = true) {s : List Char}
    (h : ' ' ∈ s) :
    isDot (Percent.encode set s).toList = false ∧
      isDoubleDot (Percent.encode set s).toList = false := by
  have hself : '0' ∈ (Percent.encode set s).toList := by
    rw [Percent.encode, String.toList_ofList]
    refine List.mem_flatMap.mpr ⟨' ', h, ?_⟩
    rw [Percent.encodeChar, if_pos hset]
    decide
  have hzero : '0' ∈ (Percent.encode set s).toList.map Char.toLower :=
    List.mem_map.mpr ⟨'0', hself, by decide⟩
  have hother : ∀ piece : List Char, '0' ∉ piece →
      ((Percent.encode set s).toList.map Char.toLower == piece) = false := by
    intro piece hp
    rw [beq_eq_false_iff_ne]
    rintro rfl
    exact hp hzero
  have hdot : ((Percent.encode set s).toList == ['.']) = false := by
    rw [beq_eq_false_iff_ne]
    intro he
    simp [he] at hself
  simp [isDot, isDoubleDot, hdot, hother]

/-! ## Adding segments -/

theorem push_path (url : Url) (segment : String) :
    url.push segment = { url with path := (url.push segment).path } := by
  unfold push
  split
  · rfl
  · split <;> rfl

theorem extend_path (url : Url) (segments : List String) :
    url.extend segments = { url with path := (url.extend segments).path } := by
  induction segments generalizing url with
  | nil => rfl
  | cons segment rest ih =>
    have hfields : ∀ path, { url.push segment with path } = { url with path } := by
      intro path
      rw [push_path url segment]
    exact (ih (url.push segment)).trans (hfields _)

/-- A path of segments remains one. -/
theorem exists_segments_push {url : Url} (h : ∃ list, url.path = .segments list)
    (segment : String) : ∃ list, (url.push segment).path = .segments list := by
  obtain ⟨list, hlist⟩ := h
  have hpath : ∀ written, ∃ longer, url.path.push written = .segments longer := by
    intro written
    rw [hlist]
    unfold Path.push
    split
    · exact ⟨_, rfl⟩
    · exact ⟨_, rfl⟩
    · contradiction
  unfold push
  split
  · exact ⟨list, hlist⟩
  · split
    · exact hpath ""
    · exact ⟨list.dropLast ++ [""], by rw [hlist]; rfl⟩
    · exact hpath _

theorem exists_segments_extend {url : Url} (h : ∃ list, url.path = .segments list)
    (segments : List String) : ∃ list, (url.extend segments).path = .segments list := by
  induction segments generalizing url with
  | nil => exact h
  | cons segment rest ih => exact ih (exists_segments_push h segment)

/-- A path of more than its slash is longer by the segment. -/
theorem push_path_of_segments {url : Url} {list : List String} (h : url.path = .segments list)
    (long : list ≠ [""]) (segment : String) (plain : ¬ IsDotted segment) :
    (url.push segment).path =
      .segments (list ++ [Percent.encode url.segmentSet (visible segment.toList)]) := by
  rw [push_eq plain, h]
  show Path.push _ (.segments list) = _
  unfold Path.push
  split
  · rename_i heq
    exact absurd (Path.segments.inj heq) long
  · rename_i heq
    rw [Path.segments.inj heq]
  · contradiction

/-- A path of nothing but its slash has the segment as its first. -/
theorem exists_push_path {url : Url} {list : List String} (h : url.path = .segments list)
    (segment : String) (plain : ¬ IsDotted segment) :
    ∃ above, (url.push segment).path =
      .segments (above ++ [Percent.encode url.segmentSet (visible segment.toList)]) := by
  by_cases long : list = [""]
  · refine ⟨[], ?_⟩
    rw [push_eq plain, h, long]
    rfl
  · exact ⟨list, push_path_of_segments h long segment plain⟩

/-! ## URLs as texts -/

/-- A URL up to the end of its path. -/
def front (url : Url) : String := url.scheme ++ ":" ++ url.authority ++ url.path.render

/-- What follows the path. -/
def back (url : Url) : String := optionalPart "?" url.query? ++ optionalPart "#" url.fragment?

theorem render_eq (url : Url) : url.render = url.front ++ url.back := String.append_assoc

theorem authority_longer {url : Url} {list : List String} (h : url.path = .segments list)
    (long : 2 ≤ list.length) (segment : String) :
    authority { url with path := .segments (list ++ [segment]) } = url.authority := by
  unfold authority
  rw [h]
  match list, long with
  | first :: second :: rest, _ =>
    cases url.host? with
    | some host => rfl
    | none =>
      by_cases hfirst : first = ""
      · subst hfirst
        rfl
      · simp [hfirst]

/-- One more segment in the path is one more segment in the text. -/
theorem front_longer {url : Url} {list : List String} (h : url.path = .segments list)
    (long : 2 ≤ list.length) (segment : String) :
    front { url with path := .segments (list ++ [segment]) } = url.front ++ "/" ++ segment := by
  have hpath : Path.render (.segments (list ++ [segment])) =
      url.path.render ++ "/" ++ segment := by
    simp [h, Path.render, String.join_append, String.append_assoc]
  unfold front
  rw [authority_longer h long, hpath]
  simp only [String.append_assoc]

end ClusterDns.Url
