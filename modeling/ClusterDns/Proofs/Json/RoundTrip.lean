import ClusterDns.Json.Printer
import ClusterDns.Json.Reader
import ClusterDns.Proofs.Text.Numeral

/-! JSON that was written is read again, as long as its numbers are whole ones. What may follow a
value in a document cannot be taken for a part of it. -/

namespace ClusterDns.Json

open Reader
open Text (isDigit)

/-! ## Strings -/

theorem numericEscape?_control {c : Char} (h : c.toNat < 32) (rest : List Char) :
    numericEscape? ('0' :: '0' :: Text.hexDigit false (c.toNat / 16) ::
      Text.hexDigit false (c.toNat % 16) :: rest) = some (c, rest) := by
  have hzero : Text.hexValue? '0' = some 0 := by decide
  have hhigh := Text.hexValue?_hexDigit false (n := c.toNat / 16) (by omega)
  have hlow := Text.hexValue?_hexDigit false (n := c.toNat % 16) (by omega)
  have hn : c.toNat / 16 * 16 + c.toNat % 16 = c.toNat := by omega
  have hhalves : isHighHalf c.toNat = false ∧ isLowHalf c.toNat = false := by
    simp [isHighHalf, isLowHalf]
    omega
  simp [numericEscape?, unit?, hzero, hhigh, hlow, hn, hhalves]

/-- An escape takes the reader one character further, just as a character that needs none does. -/
theorem chars?_escape (c : Char) (fuel : Nat) (read rest : List Char) :
    chars? (fuel + 1) read (escape c ++ rest) = chars? fuel (c :: read) rest := by
  have hcode : ∀ n, c.toNat = n → c = Char.ofNat n := by
    rintro n rfl
    exact (Char.ofNat_toNat c).symm
  unfold escape
  split
  · simp_all [chars?, simpleEscape?]
  split
  · simp_all [chars?, simpleEscape?]
  split
  · simp_all [chars?, simpleEscape?]
  split
  · simp_all [chars?, simpleEscape?]
  split
  · simp_all [chars?, simpleEscape?]
  split
  · rename_i h
    rw [hcode 8 (by simpa using h)]
    simp [chars?, simpleEscape?]
  split
  · rename_i h
    rw [hcode 12 (by simpa using h)]
    simp [chars?, simpleEscape?]
  split
  · rename_i h
    simp only [List.cons_append, List.nil_append]
    rw [chars?, numericEscape?_control h]
    rfl
  · rename_i hquote hbackslash _ _ _ _ _ hcontrol
    simp only [List.singleton_append]
    rw [chars?.eq_def]
    split <;> simp_all [Nat.not_lt_of_ge]

theorem chars?_flatMap_escape (s : List Char) {fuel : Nat} (h : s.length < fuel)
    (read rest : List Char) : chars? fuel read (s.flatMap escape ++ '"' :: rest) =
      some (s.reverse ++ read, rest) := by
  induction s generalizing fuel read with
  | nil =>
    obtain _ | fuel := fuel
    · simp at h
    · simp [chars?]
  | cons c s ih =>
    obtain _ | fuel := fuel
    · simp at h
    · rw [List.flatMap_cons, List.append_assoc, chars?_escape, ih (by simpa using h)]
      simp

theorem length_le_flatMap_escape (s : List Char) : s.length ≤ (s.flatMap escape).length := by
  induction s with
  | nil => simp
  | cons c s ih =>
    have hone : 1 ≤ (escape c).length := by
      unfold escape
      repeat' split
      all_goals simp
    rw [List.flatMap_cons, List.length_append, List.length_cons]
    omega

@[simp] theorem toList_renderString (s : String) :
    (renderString s).toList = '"' :: (s.toList.flatMap escape ++ ['"']) := by
  simp [renderString]

theorem string?_escaped (s : String) (rest : List Char) :
    Reader.string? (s.toList.flatMap escape ++ '"' :: rest) = some (s, rest) := by
  have hlength := length_le_flatMap_escape s.toList
  have henough : s.toList.length <
      (s.toList.flatMap escape ++ '"' :: rest).length + 1 := by
    rw [List.length_append]
    omega
  rw [Reader.string?, chars?_flatMap_escape _ henough]
  simp

/-! ## Numbers -/

/-- What may follow a value: nothing of which a number could be made longer. -/
def Stops (rest : List Char) : Prop :=
  ∀ c ∈ rest.head?, isDigit c = false ∧ c ≠ '.' ∧ c ≠ 'e' ∧ c ≠ 'E'

theorem takeWhile_digits {digits rest : List Char} (hd : ∀ c ∈ digits, isDigit c = true)
    (h : Stops rest) : (digits ++ rest).takeWhile isDigit = digits := by
  rw [List.takeWhile_append_of_pos hd]
  cases rest with
  | nil => simp
  | cons c rest => simp [(h c rfl).1]

theorem dropWhile_digits {digits rest : List Char} (hd : ∀ c ∈ digits, isDigit c = true)
    (h : Stops rest) : (digits ++ rest).dropWhile isDigit = rest := by
  rw [List.dropWhile_append_of_pos hd]
  cases rest with
  | nil => rfl
  | cons c rest => simp [(h c rfl).1]

theorem wholePart?_toString (n : Nat) {rest : List Char} (h : Stops rest) :
    wholePart? ((toString n).toList ++ rest) = some ((toString n).toList, rest) := by
  have hdigits : ∀ c ∈ (toString n).toList, isDigit c = true :=
    fun c hc => Text.isDigit_of_mem_toString hc
  by_cases hzero : n = 0
  · subst hzero
    rfl
  · have hhead := Text.head?_toString hzero
    obtain ⟨c, digits, hn⟩ := Text.exists_toString n
    rw [hn] at hhead hdigits ⊢
    rw [wholePart?.eq_def]
    split
    · simp_all
    · rw [takeWhile_digits hdigits h, dropWhile_digits hdigits h]
      rfl

theorem fraction?_of_stops {rest : List Char} (h : Stops rest) :
    fraction? rest = some ([], rest) := by
  rw [fraction?.eq_def]
  split
  · exact absurd rfl (h '.' rfl).2.1
  · rfl

theorem exponent?_of_stops {rest : List Char} (h : Stops rest) :
    exponent? rest = some ([], rest) := by
  cases rest with
  | nil => rfl
  | cons c rest =>
    obtain ⟨-, -, hsmall, hlarge⟩ := h c rfl
    simp [exponent?, hsmall, hlarge]

theorem number?_toString (n : Nat) {rest : List Char} (h : Stops rest) :
    number? ((toString n).toList ++ rest) = some (toString n, rest) := by
  obtain ⟨c, digits, hn⟩ := Text.exists_toString n
  have hsign : c ≠ '-' := by
    rintro rfl
    have hdigit := Text.isDigit_of_mem_toString (n := n) (c := '-')
      (by rw [hn]; exact List.mem_cons_self)
    simp [isDigit] at hdigit
  have hwhole := wholePart?_toString n h
  rw [← String.ofList_toList (s := toString n)]
  rw [hn] at hwhole ⊢
  simp only [List.cons_append] at hwhole ⊢
  unfold number?
  split
  rename_i hread
  split at hread
  · simp_all
  · obtain ⟨rfl, rfl⟩ := Prod.mk.inj hread
    simp [hwhole, fraction?_of_stops h, exponent?_of_stops h]

/-! ## Values -/

/-- Every number in it is a whole one, written in the usual way. -/
inductive Whole : Json → Prop
  | null : Whole .null
  | bool (value : Bool) : Whole (.bool value)
  | number (n : Nat) : Whole (.number (toString n))
  | string (s : String) : Whole (.string s)
  | array {items : List Json} (each : ∀ item ∈ items, Whole item) : Whole (.array items)
  | object {members : Members} (each : ∀ m ∈ members, Whole m.2) : Whole (.object members)

theorem Whole.single {value : Json} (h : Whole value) (name : String) :
    Whole (.object [(name, value)]) :=
  .object (List.forall_mem_singleton.mpr h)

/-- A list of texts. -/
theorem Whole.strings (texts : List String) : Whole (.array (texts.map .string)) := by
  refine .array fun item hi => ?_
  obtain ⟨text, -, rfl⟩ := List.mem_map.mp hi
  exact .string text

theorem renderItems_eq_map (items : List Json) : renderItems items = items.map render := by
  induction items with
  | nil => rfl
  | cons item rest ih => rw [renderItems, ih, List.map_cons]

theorem renderMembers_eq_map (members : Members) :
    renderMembers members = members.map renderMember := by
  induction members with
  | nil => rfl
  | cons m rest ih => rw [renderMembers, ih, List.map_cons]

theorem toList_render_array (items : List Json) : (render (.array items)).toList =
    '[' :: ((",".intercalate (items.map render)).toList ++ [']']) := by
  rw [render, renderItems_eq_map, String.toList_append, String.toList_append]
  rfl

theorem toList_render_object (members : Members) : (render (.object members)).toList =
    '\x7b' :: ((",".intercalate (members.map renderMember)).toList ++ ['\x7d']) := by
  rw [render, renderMembers_eq_map, String.toList_append, String.toList_append]
  rfl

/-- Elements after the first one, each with its comma. -/
def following (texts : List String) : List Char := texts.flatMap fun text => ',' :: text.toList

theorem toList_intercalate_cons (first : String) (texts : List String) :
    (",".intercalate (first :: texts)).toList = first.toList ++ following texts := by
  induction texts generalizing first with
  | nil => simp [following]
  | cons second texts ih =>
    rw [String.intercalate_cons_cons, String.toList_append, String.toList_append, ih]
    simp [following]

/-- What is written is read again, whatever follows that is not a part of it. -/
def Reads (json : Json) : Prop :=
  ∀ {fuel : Nat} {rest : List Char}, json.render.toList.length < fuel → Stops rest →
    value? fuel (json.render.toList ++ rest) = some (json, rest)

/-- The text begins with what is no blank and closes nothing. -/
def Begins (text : List Char) : Prop :=
  ∃ c rest, text = c :: rest ∧ c ∉ [' ', '\n', '\t', '\r', ']']

theorem Begins.skipBlanks {text : List Char} (h : Begins text) (rest : List Char) :
    skipBlanks (text ++ rest) = text ++ rest := by
  obtain ⟨c, tail, rfl, hc⟩ := h
  simp_all [Reader.skipBlanks]

theorem Whole.begins {json : Json} (h : Whole json) : Begins json.render.toList := by
  cases h with
  | null => exact ⟨'n', _, rfl, by decide⟩
  | bool value => cases value <;> exact ⟨_, _, rfl, by decide⟩
  | number n =>
    obtain ⟨c, digits, hn⟩ := Text.exists_toString n
    refine ⟨c, digits, hn, ?_⟩
    have hdigit := Text.isDigit_of_mem_toString (n := n) (c := c)
      (by rw [hn]; exact List.mem_cons_self)
    have hnone : ∀ c ∈ [' ', '\n', '\t', '\r', ']'], isDigit c = false := by
      simp [isDigit]
    intro hc
    simp [hnone c hc] at hdigit
  | string s => exact ⟨'"', _, toList_renderString s, by decide⟩
  | array each => exact ⟨'[', _, toList_render_array _, by decide⟩
  | object each => exact ⟨'\x7b', _, toList_render_object _, by decide⟩

theorem stops_cons {c : Char} (h : c = ',' ∨ c = ']' ∨ c = '\x7d') (rest : List Char) :
    Stops (c :: rest) := by
  intro d hd
  cases hd
  rcases h with rfl | rfl | rfl <;> decide

theorem items?_render {item : Json} {others : List Json} (hi : Reads item)
    (ho : ∀ other ∈ others, Reads other ∧ Begins other.render.toList) (fuel : Nat)
    (read : List Json) (rest : List Char)
    (h : (item.render.toList ++ following (others.map render)).length + 1 < fuel) :
    Reader.items? fuel read (item.render.toList ++ (following (others.map render) ++ ']' :: rest)) =
      some (read.reverse ++ item :: others, rest) := by
  induction others generalizing item fuel read with
  | nil =>
    obtain _ | fuel := fuel
    · omega
    simp only [List.length_append] at h
    rw [Reader.items?, hi (by omega) (by simpa [following] using stops_cons (.inr (.inl rfl)) rest)]
    simp [following, skipBlanks]
  | cons other others ih =>
    obtain _ | fuel := fuel
    · omega
    obtain ⟨⟨hother, hbegins⟩, hothers⟩ := List.forall_mem_cons.mp ho
    have hfollowing : following ((other :: others).map render) =
        ',' :: (other.render.toList ++ following (others.map render)) := by
      simp [following]
    rw [hfollowing] at h ⊢
    simp only [List.length_append, List.length_cons] at h
    have hnext := ih hother hothers fuel (item :: read)
      (by rw [List.length_append]; omega)
    rw [Reader.items?, hi (by omega) (by simpa using stops_cons (.inl rfl) _)]
    simp [skipBlanks, hnext]

theorem toList_renderMember (name : String) (value : Json) : (renderMember (name, value)).toList =
    '"' :: (name.toList.flatMap escape ++ '"' :: ':' :: value.render.toList) := by
  simp [renderMember]

theorem members?_render {m : String × Json} {others : Members} (hm : Reads m.2)
    (ho : ∀ other ∈ others, Reads other.2) (fuel : Nat) (read : Members) (rest : List Char)
    (h : ((renderMember m).toList ++ following (others.map renderMember)).length + 1 < fuel) :
    members? fuel read ((renderMember m).toList ++
      (following (others.map renderMember) ++ '\x7d' :: rest)) =
      some (read.reverse ++ m :: others, rest) := by
  induction others generalizing m fuel read with
  | nil =>
    obtain ⟨name, value⟩ := m
    have hv : Reads value := hm
    obtain _ | fuel := fuel
    · omega
    rw [toList_renderMember] at h ⊢
    simp only [List.length_append, List.length_cons] at h
    have hvalue : value? fuel (value.render.toList ++ '\x7d' :: rest) =
        some (value, '\x7d' :: rest) := hv (by omega) (stops_cons (.inr (.inr rfl)) rest)
    simp [members?, skipBlanks, string?_escaped, following, hvalue]
  | cons other others ih =>
    obtain _ | fuel := fuel
    · omega
    obtain ⟨hother, hothers⟩ := List.forall_mem_cons.mp ho
    have hfollowing : following ((other :: others).map renderMember) =
        ',' :: ((renderMember other).toList ++ following (others.map renderMember)) := by
      simp [following]
    rw [hfollowing] at h ⊢
    simp only [List.length_append, List.length_cons] at h
    have hnext := ih hother hothers fuel (m :: read) (by rw [List.length_append]; omega)
    obtain ⟨name, value⟩ := m
    have hv : Reads value := hm
    rw [toList_renderMember] at h ⊢
    simp only [List.length_append, List.length_cons] at h
    have hvalue : ∀ after, value? fuel (value.render.toList ++ ',' :: after) =
        some (value, ',' :: after) := fun after => hv (by omega) (stops_cons (.inl rfl) after)
    simp [members?, skipBlanks, string?_escaped, hvalue, hnext]

theorem reads_of_le {json : Json} (h : ∀ fuel rest, json.render.toList.length ≤ fuel →
    Stops rest → value? (fuel + 1) (json.render.toList ++ rest) = some (json, rest)) :
    Reads json := by
  intro fuel rest hf hr
  obtain _ | fuel := fuel
  · omega
  · exact h fuel rest (by omega) hr

/-- Items are read where there are any. -/
theorem value?_items {text : List Char} (h : Begins text) (fuel : Nat) (rest : List Char) :
    value? (fuel + 1) ('[' :: (text ++ rest)) =
      (Reader.items? fuel [] (text ++ rest)).map fun (items, rest) => (.array items, rest) := by
  have hopen : skipBlanks ('[' :: (text ++ rest)) = '[' :: (text ++ rest) := by simp [skipBlanks]
  have hskip := h.skipBlanks rest
  obtain ⟨c, tail, rfl, hc⟩ := h
  simp only [value?, hopen, hskip]
  split
  · simp_all
  · rfl

theorem value?_members (fuel : Nat) (rest : List Char) :
    value? (fuel + 1) ('\x7b' :: '"' :: rest) =
      (members? fuel [] ('"' :: rest)).map fun (members, rest) => (.object members, rest) := by
  simp [value?, skipBlanks]

theorem Whole.reads {json : Json} (h : Whole json) : Reads json := by
  induction h with
  | null =>
    refine reads_of_le fun fuel rest hf _ => ?_
    simp [render, value?, skipBlanks, literal?]
  | bool value =>
    refine reads_of_le fun fuel rest hf _ => ?_
    cases value <;> simp [render, value?, skipBlanks, literal?]
  | number n =>
    refine reads_of_le fun fuel rest hf hr => ?_
    have hskip := (Whole.number n).begins.skipBlanks rest
    have hnumber := number?_toString n hr
    obtain ⟨c, digits, hn⟩ := Text.exists_toString n
    have hdigit := Text.isDigit_of_mem_toString (n := n) (c := c)
      (by rw [hn]; exact List.mem_cons_self)
    rw [render] at hskip ⊢
    rw [value?, hskip]
    rw [hn] at hnumber ⊢
    split <;> simp_all [isDigit]
  | string s =>
    refine reads_of_le fun fuel rest hf _ => ?_
    simp [render, value?, skipBlanks, string?_escaped]
  | @array items each ih =>
    refine reads_of_le fun fuel rest hf _ => ?_
    rw [toList_render_array] at hf ⊢
    cases items with
    | nil => simp [value?, skipBlanks]
    | cons item others =>
      obtain ⟨hi, ho⟩ := List.forall_mem_cons.mp ih
      obtain ⟨hw, heach⟩ := List.forall_mem_cons.mp each
      rw [List.map_cons, toList_intercalate_cons] at hf ⊢
      simp only [List.length_cons, List.length_append, List.length_nil] at hf
      have hitems := items?_render hi (fun other h => ⟨ho other h, (heach other h).begins⟩) fuel []
        rest (by rw [List.length_append]; omega)
      simp only [List.cons_append, List.append_assoc, List.nil_append]
      rw [value?_items hw.begins, hitems]
      simp
  | @object members each ih =>
    refine reads_of_le fun fuel rest hf _ => ?_
    rw [toList_render_object] at hf ⊢
    cases members with
    | nil => simp [value?, skipBlanks]
    | cons m others =>
      obtain ⟨hm, ho⟩ := List.forall_mem_cons.mp ih
      rw [List.map_cons, toList_intercalate_cons] at hf ⊢
      simp only [List.length_cons, List.length_append, List.length_nil] at hf
      have hmembers := members?_render hm ho fuel [] rest (by rw [List.length_append]; omega)
      obtain ⟨name, value⟩ := m
      simp only [List.cons_append, List.append_assoc, List.nil_append]
      rw [toList_renderMember] at hmembers ⊢
      rw [List.cons_append] at hmembers ⊢
      rw [value?_members, hmembers]
      simp

/-- A document with whole numbers is read as it was written. -/
theorem parse?_render {json : Json} (h : Whole json) : parse? json.render.toList = some json := by
  have hread : value? (json.render.toList.length + 1) (json.render.toList ++ []) =
      some (json, []) := h.reads (Nat.lt_succ_self _) fun _ hc => nomatch hc
  rw [List.append_nil] at hread
  unfold parse?
  rw [hread]
  rfl

end ClusterDns.Json
