import ClusterDns.Proofs.Net.Ipv4
import ClusterDns.Reconcile.Desired

/-! What annotations let through. A host is never empty, but it may have blanks in it; an address is
one in dotted form. -/

namespace ClusterDns.Reconcile

variable {annotations : Annotations} {declared : List String} {host : String}

theorem mem_hosts (h : host ∈ annotations.hosts declared) :
    (∃ text, host ∈ Text.CommaList.parse text) ∨ host ∈ declared ∧ host ≠ "" := by
  rw [Annotations.hosts] at h
  split at h
  · rename_i first rest hhosts
    obtain ⟨text, -, htext⟩ := Option.map_eq_some_iff.mp hhosts
    exact .inl ⟨text, htext ▸ h⟩
  · right
    simpa using h

theorem ne_empty_of_mem_hosts (h : host ∈ annotations.hosts declared) : host ≠ "" := by
  rcases mem_hosts h with ⟨text, hin⟩ | ⟨-, hne⟩
  · rintro rfl
    exact Text.CommaList.empty_not_mem_parse text hin
  · exact hne

/-- The default and the annotation are both read as addresses. -/
theorem isLiteral_of_target? {defaultTarget address : String}
    (literal : Net.Ipv4.isLiteral defaultTarget = true)
    (h : annotations.target? defaultTarget = some address) :
    Net.Ipv4.isLiteral address = true := by
  rw [Annotations.target?] at h
  split at h
  · cases h
    exact literal
  · split at h
    · cases h
      exact literal
    · split at h
      · rename_i hliteral
        cases h
        exact hliteral
      · cases h

theorem isWord_of_target? {defaultTarget address : String}
    (literal : Net.Ipv4.isLiteral defaultTarget = true)
    (h : annotations.target? defaultTarget = some address) : Text.IsWord address :=
  Net.Ipv4.isWord_of_isLiteral (isLiteral_of_target? literal h)

end ClusterDns.Reconcile
