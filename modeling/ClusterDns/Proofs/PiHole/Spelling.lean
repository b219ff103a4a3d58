import ClusterDns.Proofs.PiHole.Entries

/-! How entries are spelt. Reading takes any blanks between the words of an entry and passes over
words after the second; writing has one spelling. A record comes back from its entry just if it is
solid, and an entry from its record just if it has that spelling. -/

namespace ClusterDns.PiHole

open Text (IsWord Spaced)

section

variable {entry : String} {words : List String} {r : Record}

theorem Record.ofEntry?_toEntry_iff :
    Record.ofEntry? r.toEntry = some r ↔ IsWord r.address ∧ IsWord r.domain := by
  refine ⟨fun h => ?_, fun h => Record.ofEntry?_toEntry ⟨h.2, h.1⟩⟩
  have solid := Record.isSolid_of_entry h
  exact ⟨solid.address, solid.domain⟩

theorem Record.ofEntry?_eq_some_iff (h : Spaced entry.toList words) :
    Record.ofEntry? entry = some r ↔ ∃ further, words = r.address :: r.domain :: further := by
  rw [Record.ofEntry?, Text.fields_of_spaced h]
  cases words with
  | nil => simp
  | cons address rest =>
    cases rest with
    | nil => simp
    | cons domain further =>
      obtain ⟨domain', address'⟩ := r
      simp [and_comm]

theorem Record.ofEntry?_eq_none_iff (h : Spaced entry.toList words) :
    Record.ofEntry? entry = none ↔ words.length < 2 := by
  rw [Record.ofEntry?, Text.fields_of_spaced h]
  cases words with
  | nil => simp
  | cons address rest =>
    cases rest with
    | nil => simp
    | cons domain further => simp

/-- The spelling that writing has. -/
theorem Record.toEntry_eq_iff (h : Record.ofEntry? entry = some r) :
    r.toEntry = entry ↔
      ∃ first second, IsWord first ∧ IsWord second ∧ entry = first ++ " " ++ second := by
  constructor
  · intro hsame
    have solid := Record.isSolid_of_entry h
    exact ⟨r.address, r.domain, solid.address, solid.domain, hsame.symm⟩
  · rintro ⟨first, second, hfirst, hsecond, rfl⟩
    have solid : Record.IsSolid ⟨second, first⟩ := ⟨hsecond, hfirst⟩
    have hread := Record.ofEntry?_toEntry solid
    rw [Record.toEntry, h] at hread
    cases hread
    rfl

end

/-- A record is read back from its entry if and only if neither part of it is empty or has a blank.
An entry is one of a record if and only if it has two words at least, the record is the first two of
them, and it is read back from its own entry; that entry is the one it was read from if and only if
this was two words with one space in between and nothing around them. -/
theorem entries_read_back :
    (∀ r : Record, Record.ofEntry? r.toEntry = some r ↔ IsWord r.address ∧ IsWord r.domain) ∧
    (∀ entry : String, ∃! words, Spaced entry.toList words) ∧
    ∀ (entry : String) (words : List String), Spaced entry.toList words →
      (Record.ofEntry? entry = none ↔ words.length < 2) ∧
      ∀ r, Record.ofEntry? entry = some r →
        (∃ further, words = r.address :: r.domain :: further) ∧
        Record.ofEntry? r.toEntry = some r ∧
        (r.toEntry = entry ↔
          ∃ first second, IsWord first ∧ IsWord second ∧ entry = first ++ " " ++ second) := by
  refine ⟨fun r => Record.ofEntry?_toEntry_iff, fun entry => Text.existsUnique_spaced _, ?_⟩
  intro entry words h
  refine ⟨Record.ofEntry?_eq_none_iff h, fun r hread => ⟨?_, ?_, Record.toEntry_eq_iff hread⟩⟩
  · exact (Record.ofEntry?_eq_some_iff h).mp hread
  · exact Record.ofEntry?_toEntry (Record.isSolid_of_entry hread)

/-- An entry with a further name, a tab, and blanks around its words. -/
def aliased : String := " 10.0.0.1\tnas.lan  media.lan "

theorem entries_read_back_of_aliased :
    Spaced aliased.toList ["10.0.0.1", "nas.lan", "media.lan"] ∧
    Record.ofEntry? aliased = some ⟨"nas.lan", "10.0.0.1"⟩ ∧
    Record.ofEntry? (Record.toEntry ⟨"nas.lan", "10.0.0.1"⟩) = some ⟨"nas.lan", "10.0.0.1"⟩ ∧
    (Record.toEntry ⟨"nas.lan", "10.0.0.1"⟩ = aliased ↔
      ∃ first second, IsWord first ∧ IsWord second ∧ aliased = first ++ " " ++ second) ∧
    Record.toEntry ⟨"nas.lan", "10.0.0.1"⟩ ≠ aliased := by
  have hspaced : Spaced aliased.toList ["10.0.0.1", "nas.lan", "media.lan"] :=
    Text.spaced_iff.mpr (by decide +kernel)
  have hread : Record.ofEntry? aliased = some ⟨"nas.lan", "10.0.0.1"⟩ := by decide +kernel
  obtain ⟨-, hback, hspelt⟩ := (entries_read_back.2.2 aliased _ hspaced).2 _ hread
  exact ⟨hspaced, hread, hback, hspelt, by decide +kernel⟩

end ClusterDns.PiHole
