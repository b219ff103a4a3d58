import ClusterDns.Http.Basic
import ClusterDns.Proofs.Text.Numeral
import ClusterDns.Proofs.Text.Utf8

/-! Segments of a path. A segment may hold any text: percent-encoding keeps it one segment, and the
bytes it stands for are those of the text. -/

namespace ClusterDns.Url

namespace Percent

theorem decode_ofByte (b : UInt8) (rest : List Char) :
    decode (ofByte b ++ rest) = b :: decode rest := by
  have hhigh := Text.hexValue?_hexDigit true (n := b.toNat / 16) (by have := b.toNat_lt; omega)
  have hlow := Text.hexValue?_hexDigit true (n := b.toNat % 16) (by omega)
  have hb : b.toNat / 16 * 16 + b.toNat % 16 = b.toNat := by omega
  simp [ofByte, decode, hhigh, hlow, hb]

theorem decode_flatMap_ofByte (bytes : List UInt8) (rest : List Char) :
    decode (bytes.flatMap ofByte ++ rest) = bytes ++ decode rest := by
  induction bytes with
  | nil => rfl
  | cons b bytes ih => simp [List.flatMap_cons, decode_ofByte, ih]

theorem decode_cons_of_ne {c : Char} (h : c ≠ '%') (rest : List Char) :
    decode (c :: rest) = String.utf8EncodeChar c ++ decode rest := by
  rw [decode]
  simp [h]

variable {set : CharSet}

theorem decode_encodeChar (hset : set '%' = true) (c : Char) (rest : List Char) :
    decode (encodeChar set c ++ rest) = String.utf8EncodeChar c ++ decode rest := by
  unfold encodeChar
  split
  · exact decode_flatMap_ofByte _ rest
  · rename_i hshown
    have hne : c ≠ '%' := by
      rintro rfl
      exact hshown hset
    exact decode_cons_of_ne hne rest

/-- The bytes of a text come back where a percent sign does not show as itself. -/
theorem decode_encode (hset : set '%' = true) (s : List Char) :
    decode (encode set s).toList = Text.Utf8.encode s := by
  rw [encode, String.toList_ofList]
  induction s with
  | nil => rfl
  | cons c rest ih =>
    rw [List.flatMap_cons, decode_encodeChar hset, ih]
    rfl

end Percent

theorem segmentSet_percent (url : Url) : url.segmentSet '%' = true := by
  unfold segmentSet
  split <;> decide

/-- A segment that means the place itself or the one above it. -/
def IsDotted (segment : String) : Prop :=
  visible segment.toList = ['.'] ∨ visible segment.toList = ['.', '.']

instance (segment : String) : Decidable (IsDotted segment) := inferInstanceAs (Decidable (_ ∨ _))

theorem not_isDotted_of_mem {segment : String} (h : ' ' ∈ segment.toList) :
    ¬ IsDotted segment := by
  have hmem : ' ' ∈ visible segment.toList := List.mem_filter.mpr ⟨h, by decide⟩
  rintro (hd | hd) <;> simp [hd] at hmem

theorem push_eq {segment : String} (h : ¬ IsDotted segment) (url : Url) :
    url.push segment = { url with
      path := url.path.push (Percent.encode url.segmentSet (visible segment.toList)) } := by
  have hdots : ¬ (segment = "." ∨ segment = "..") := by
    rintro (rfl | rfl)
    · exact h (.inl (by decide))
    · exact h (.inr (by decide))
  unfold push
  rw [if_neg (by simpa using hdots)]
  split
  · rename_i hd
    exact absurd (.inl hd) h
  · rename_i hd
    exact absurd (.inr hd) h
  · rfl

theorem push_scheme (url : Url) (segment : String) : (url.push segment).scheme = url.scheme := by
  unfold push
  split
  · rfl
  · split <;> rfl

theorem extend_scheme (url : Url) (segments : List String) :
    (url.extend segments).scheme = url.scheme := by
  induction segments generalizing url with
  | nil => rfl
  | cons segment rest ih => exact (ih (url.push segment)).trans (push_scheme url segment)

/-- A text without what does not count in a URL. -/
def visibleText (s : String) : String := String.ofList (visible s.toList)

theorem visibleText_eq {s : String} (h : ∀ c ∈ s.toList, c ≠ '\t' ∧ c ≠ '\n' ∧ c ≠ '\r') :
    visibleText s = s := by
  have hall : visible s.toList = s.toList := by
    refine List.filter_eq_self.mpr fun c hc => ?_
    simp [h c hc]
  rw [visibleText, hall, String.ofList_toList]

/-- What a segment stands for once it is decoded. -/
def meaning (segment : String) : String :=
  String.ofList (Text.Utf8.decodeLossy (Percent.decode segment.toList))

theorem meaning_encode {set : Percent.CharSet} (hset : set '%' = true) (s : List Char) :
    meaning (Percent.encode set s) = String.ofList s := by
  simp [meaning, Percent.decode_encode hset]

end ClusterDns.Url
