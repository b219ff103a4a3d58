import ClusterDns.Url.Parser

/-! URLs that paths can be built on. With a special scheme a URL that was read is always one: what
follows the scheme is read as a host and a path of segments. -/

namespace ClusterDns.Url

variable {scheme : String} {s : List Char} {url : Url}

theorem isBase_iff : url.isBase = true ↔ ∃ list, url.path = .segments list := by
  unfold isBase
  cases url.path with
  | segments list => simp
  | text s => simp

section

variable {ε α β : Type} {x : Except ε α} {b : β}

theorem exists_of_bind_ok {f : α → Except ε β} (h : x >>= f = .ok b) :
    ∃ a, x = .ok a ∧ f a = .ok b := by
  cases x with
  | error e => cases h
  | ok a => exact ⟨a, rfl, h⟩

theorem exists_of_map_ok {f : α → β} (h : x.map f = .ok b) : ∃ a, x = .ok a ∧ f a = b := by
  cases x with
  | error e => cases h
  | ok a => exact ⟨a, rfl, Except.ok.inj h⟩

end

/-- A URL that is read behind two slashes has segments, whatever its scheme. -/
theorem isBase_of_afterSlashes (h : afterSlashes scheme s = .ok url) : url.isBase = true := by
  unfold afterSlashes at h
  dsimp only at h
  split at h
  · cases h
  · obtain ⟨host, -, h⟩ := exists_of_bind_ok h
    obtain ⟨⟨port, rest⟩, -, h⟩ := exists_of_bind_ok h
    cases h
    rfl

theorem isBase_filePath (host : Host) (s : List Char) : (filePath host s).isBase = true := rfl

theorem isBase_of_parseFile (h : parseFile s = .ok url) : url.isBase = true := by
  unfold parseFile at h
  split at h
  · split at h
    · dsimp only at h
      split at h
      · cases h
        exact isBase_filePath _ _
      · split at h
        · cases h
          exact isBase_filePath _ _
        · obtain ⟨host, -, rfl⟩ := exists_of_map_ok h
          split
          · exact isBase_filePath _ _
          · exact isBase_filePath _ _
    · cases h
      exact isBase_filePath _ _
  · cases h
    exact isBase_filePath _ _

/-- Without a host, a URL has the scheme it was read behind. -/
theorem scheme_of_parseOther (h : parseOther scheme s = .ok url) :
    url.isBase = true ∨ url.scheme = scheme := by
  unfold parseOther at h
  split at h
  · exact .inl (isBase_of_afterSlashes h)
  · cases h
    exact .inr rfl

theorem isBase_of_special {s : String} (h : parse s = .ok url) (special : url.isSpecial = true) :
    url.isBase = true := by
  unfold parse at h
  split at h
  · unfold parseAfterScheme at h
    split at h
    · exact isBase_of_parseFile h
    · split at h
      · exact isBase_of_afterSlashes h
      · rename_i hother
        refine (scheme_of_parseOther h).elim id fun hscheme => ?_
        rw [isSpecial, hscheme] at special
        exact absurd special hother
  · cases h

end ClusterDns.Url
