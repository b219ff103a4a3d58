import ClusterDns.Proofs.Json.MergePatch

/-! Values at the ends of paths. Values that agree at the ends of all paths differ in the order of
members alone. Seen path by path a merge patch is simple: it settles what stands at the end of a
path, whatever was there, or it leaves that as it was. -/

namespace ClusterDns.Json

/-- What stands at the end of a path. Of an object it says no more than that it is one. -/
def leaf? : List String → Json → Option Json
  | [], .object _ => some (.object [])
  | [], json => some json
  | name :: path, json => (json.get? name).bind (leaf? path)

theorem leaf?_cons (name : String) (path : List String) (json : Json) :
    leaf? (name :: path) json = (json.members.get? name).bind (leaf? path) := rfl

/-- The same value, but for the order of members. -/
def Same (json other : Json) : Prop := ∀ path, leaf? path json = leaf? path other

theorem Same.trans {json other third : Json} (h : Same json other) (more : Same other third) :
    Same json third := fun path => (h path).trans (more path)

theorem same_object {members others : Members}
    (h : ∀ name path,
      (members.get? name).bind (leaf? path) = (others.get? name).bind (leaf? path)) :
    Same (.object members) (.object others) := by
  intro path
  cases path with
  | nil => rfl
  | cons name rest => exact h name rest

/-- Whatever was at the end of the path, it is the same after the patch. -/
def Settles (path : List String) (patch : Json) : Prop :=
  ∃ found, ∀ target, leaf? path (mergePatch target patch) = found

def Spares (path : List String) (patch : Json) : Prop :=
  ∀ target, leaf? path (mergePatch target patch) = leaf? path target

theorem settles_nil (patch : Json) : Settles [] patch := by
  cases patch with
  | object members => exact ⟨_, fun target => by rw [mergePatch_object]; rfl⟩
  | _ => exact ⟨_, fun target => by rw [mergePatch]⟩

/-- The end of a path that leads through a member, after a patch of that member. -/
theorem settles_or_spares_member {path : List String} {patch : Json}
    (h : Settles path patch ∨ Spares path patch) :
    (∃ found, ∀ old : Option Json, (amended old patch).bind (leaf? path) = found) ∨
      ∀ old : Option Json, (amended old patch).bind (leaf? path) = old.bind (leaf? path) := by
  by_cases hp : patch = .null
  · subst hp
    exact .inl ⟨none, fun _ => rfl⟩
  · have hsome : ∀ old : Option Json,
        (amended old patch).bind (leaf? path) = leaf? path (mergePatch (old.getD .null) patch) := by
      intro old
      cases patch with
      | null => exact absurd rfl hp
      | _ => rfl
    simp only [hsome]
    cases path with
    | nil =>
      obtain ⟨found, hf⟩ := settles_nil patch
      exact .inl ⟨found, fun old => hf _⟩
    | cons name rest =>
      rcases h with ⟨found, hf⟩ | hs
      · exact .inl ⟨found, fun old => hf _⟩
      · right
        intro old
        rw [hs]
        cases old <;> rfl

/-- A patch settles what stands at the end of a path or leaves it alone. -/
theorem settles_or_spares (path : List String) (patch : Json) :
    Settles path patch ∨ Spares path patch := by
  induction path generalizing patch with
  | nil => exact .inl (settles_nil patch)
  | cons name path ih =>
    cases patch with
    | object patch =>
      have hall : (∃ found, ∀ old : Members,
          (Members.get? (mergeMembers old patch) name).bind (leaf? path) = found) ∨
          ∀ old : Members, (Members.get? (mergeMembers old patch) name).bind (leaf? path) =
            (old.get? name).bind (leaf? path) := by
        induction patch with
        | nil => exact .inr fun old => by rw [mergeMembers_nil]
        | cons member rest hrest =>
          obtain ⟨changed, value⟩ := member
          simp only [mergeMembers_cons]
          -- the last member of the name has the last word
          rcases hrest with ⟨found, hf⟩ | hs
          · exact .inl ⟨found, fun old => hf _⟩
          · simp only [hs, get?_mergeMember]
            by_cases hn : name = changed
            · subst hn
              simp only [if_pos]
              rcases settles_or_spares_member (ih value) with ⟨found, hf⟩ | hs
              · exact .inl ⟨found, fun old => hf _⟩
              · exact .inr fun old => hs _
            · simp only [if_neg hn]
              exact .inr fun old => trivial
      simp only [Settles, Spares, mergePatch_object, leaf?_cons, members_object]
      rcases hall with ⟨found, hf⟩ | hs
      · exact .inl ⟨found, fun target => hf _⟩
      · exact .inr fun target => hs _
    | _ => exact .inl ⟨none, fun target => by rw [mergePatch]; rfl⟩

end ClusterDns.Json
