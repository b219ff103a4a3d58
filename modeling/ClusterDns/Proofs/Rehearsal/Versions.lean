import ClusterDns.Proofs.Cluster.Manifest
import ClusterDns.Rehearsal.World
import Mathlib.Logic.Function.Basic

/-! Versions pin manifests. The server gives no version twice, so whoever knows the version of a
manifest knows the manifest, however many writes there were since: a patch that names the version
it was made from finds the manifest it was made from, or is refused. -/

namespace ClusterDns.Rehearsal

open Cluster (ObjectRef Manifest.resourceVersion? Manifest.isBeingDeleted)

namespace ApiServer

/-! ## Look-ups -/

theorem lookup_replace (objects : List (ObjectRef × Json)) (ref other : ObjectRef) (json : Json) :
    (replace objects ref json).lookup other =
      if other = ref then some json else objects.lookup other := by
  induction objects with
  | nil =>
    by_cases h : other = ref
    · simp [replace, h]
    · simp [replace, h, List.lookup_cons, beq_false_of_ne h]
  | cons entry rest ih =>
    obtain ⟨r, j⟩ := entry
    by_cases hr : r = ref
    · subst hr
      by_cases h : other = r
      · simp [replace, h]
      · simp [replace, h, List.lookup_cons, beq_false_of_ne h]
    · rw [replace, if_neg hr]
      by_cases h : other = r
      · subst h
        simp [hr]
      · simp [List.lookup_cons, beq_false_of_ne h, ih]

theorem find?_write (server : ApiServer) (ref other : ObjectRef) (manifest : Json) :
    (server.write ref manifest).2.find? other =
      if other = ref then some (stamped (server.version (server.writes + 1)) manifest)
      else server.find? other :=
  lookup_replace _ _ _ _

theorem find?_remove (server : ApiServer) (ref other : ObjectRef) :
    (server.remove ref).find? other = if other = ref then none else server.find? other := by
  unfold remove find?
  induction server.objects with
  | nil => simp
  | cons entry rest ih =>
    obtain ⟨r, j⟩ := entry
    by_cases hr : r = ref
    · subst hr
      by_cases h : other = r
      · subst h
        simpa using ih
      · simpa [h, List.lookup_cons, beq_false_of_ne h] using ih
    · by_cases h : other = r
      · subst h
        simp [hr]
      · simpa [hr, List.lookup_cons, beq_false_of_ne h] using ih

/-! ## Patches -/

/-- What the server stores where a patch is taken. -/
def outcomeOf (server : ApiServer) (stored patch : Json) : Json :=
  stamped (server.version (server.writes + 1)) (stored.mergePatch patch)

/-- The server after a patch is taken. -/
def afterPatch (server : ApiServer) (ref : ObjectRef) (stored patch : Json) : ApiServer :=
  let next := (server.write ref (stored.mergePatch patch)).2
  if Manifest.isBeingDeleted (server.outcomeOf stored patch) &&
    hasNoFinalizer (server.outcomeOf stored patch) then next.remove ref else next

theorem applyPatch_taken {server : ApiServer} {ref : ObjectRef} {stored patch : Json}
    (hf : server.find? ref = some stored) (hs : staleVersion? stored patch = none) :
    server.applyPatch ref patch =
      (.written (server.outcomeOf stored patch), server.afterPatch ref stored patch) := by
  simp only [applyPatch, hf, hs]
  rfl

/-- A patch is taken or changes nothing. -/
theorem applyPatch_cases (server : ApiServer) (ref : ObjectRef) (patch : Json) :
    ((server.applyPatch ref patch).2 = server ∧
      ∀ manifest, (server.applyPatch ref patch).1 ≠ .written manifest) ∨
    ∃ stored, server.find? ref = some stored ∧ staleVersion? stored patch = none := by
  cases hf : server.find? ref with
  | none => exact .inl (by simp [applyPatch, hf])
  | some stored =>
    cases hs : staleVersion? stored patch with
    | some sent => exact .inl (by simp [applyPatch, hf, hs])
    | none => exact .inr ⟨stored, rfl, hs⟩

theorem staleVersion?_eq_none {stored patch : Json} :
    staleVersion? stored patch = none ↔ ∀ sent, Manifest.resourceVersion? patch = some sent →
      Manifest.resourceVersion? stored = some sent := by
  simp [staleVersion?, Option.filter_eq_none_iff]

theorem find?_afterPatch (server : ApiServer) (ref other : ObjectRef) (stored patch : Json) :
    (server.afterPatch ref stored patch).find? other =
      if other = ref then
        if Manifest.isBeingDeleted (server.outcomeOf stored patch) &&
          hasNoFinalizer (server.outcomeOf stored patch) then none
        else some (server.outcomeOf stored patch)
      else server.find? other := by
  unfold afterPatch
  by_cases h : other = ref
  · subst h
    simp only [if_pos]
    split
    · simp [find?_remove]
    · simp [find?_write, outcomeOf]
  · simp only [h, if_false]
    split
    · simp [find?_remove, find?_write, h]
    · simp [find?_write, h]

/-- A patch leaves the other objects alone. -/
theorem find?_applyPatch_of_ne {server : ApiServer} {ref other : ObjectRef} (h : other ≠ ref)
    (patch : Json) : (server.applyPatch ref patch).2.find? other = server.find? other := by
  rcases server.applyPatch_cases ref patch with ⟨hsame, -⟩ | ⟨stored, hf, hs⟩
  · rw [hsame]
  · rw [applyPatch_taken hf hs, find?_afterPatch, if_neg h]

/-! ## Versions -/

/-- Nothing but one manifest, stored in one place, is under the version of a manifest once read. -/
def Pinned (server : ApiServer) (ref : ObjectRef) (manifest : Json) : Prop :=
  ∃ n ≤ server.writes, Manifest.resourceVersion? manifest = some (server.version n) ∧
    ∀ other stored, server.find? other = some stored →
      Manifest.resourceVersion? stored = Manifest.resourceVersion? manifest →
      other = ref ∧ stored = manifest

/-- No version is given twice, and every stored manifest has one that was given. -/
structure Versioned (server : ApiServer) : Prop where
  injective : Function.Injective server.version
  pinned : ∀ ref manifest, server.find? ref = some manifest → server.Pinned ref manifest

theorem Pinned.write {server : ApiServer} (hv : server.Versioned) {ref : ObjectRef}
    {manifest : Json} (h : server.Pinned ref manifest) (place : ObjectRef) (put : Json) :
    (server.write place put).2.Pinned ref manifest := by
  obtain ⟨n, hn, hm, hp⟩ := h
  refine ⟨n, Nat.le_succ_of_le hn, hm, ?_⟩
  intro other stored hf he
  rw [find?_write] at hf
  split at hf
  · -- the new manifest has a version of its own
    cases hf
    rw [Cluster.Manifest.resourceVersion?_stamped, hm] at he
    have := hv.injective (Option.some.inj he)
    omega
  · exact hp other stored hf he

theorem Versioned.write {server : ApiServer} (hv : server.Versioned) (place : ObjectRef)
    (put : Json) : (server.write place put).2.Versioned := by
  refine ⟨hv.injective, ?_⟩
  intro ref manifest hf
  rw [find?_write] at hf
  split at hf
  · rename_i hr
    cases hf
    refine ⟨server.writes + 1, Nat.le_refl _, Cluster.Manifest.resourceVersion?_stamped _ _, ?_⟩
    intro other stored ho he
    rw [find?_write] at ho
    split at ho
    · cases ho
      exact ⟨by rw [hr]; assumption, rfl⟩
    · obtain ⟨n, hn, hm, -⟩ := hv.pinned other stored ho
      rw [Cluster.Manifest.resourceVersion?_stamped, hm] at he
      have := hv.injective (Option.some.inj he)
      omega
  · exact (hv.pinned ref manifest hf).write hv place put

theorem Pinned.remove {server : ApiServer} {ref : ObjectRef} {manifest : Json}
    (h : server.Pinned ref manifest) (place : ObjectRef) :
    (server.remove place).Pinned ref manifest := by
  obtain ⟨n, hn, hm, hp⟩ := h
  refine ⟨n, hn, hm, ?_⟩
  intro other stored hf
  rw [find?_remove] at hf
  split at hf
  · cases hf
  · exact hp other stored hf

theorem Versioned.remove {server : ApiServer} (hv : server.Versioned) (place : ObjectRef) :
    (server.remove place).Versioned := by
  refine ⟨hv.injective, ?_⟩
  intro ref manifest hf
  rw [find?_remove] at hf
  split at hf
  · cases hf
  · exact (hv.pinned ref manifest hf).remove place

/-- Versions that count the writes in decimal notation. -/
theorem versioned_empty : ({} : ApiServer).Versioned := by
  refine ⟨?_, fun ref manifest h => nomatch h⟩
  intro m n h
  have hd : Nat.toDigits 10 m = Nat.toDigits 10 n := String.ofList_injective h
  rw [← Nat.ofDigitChars_toDigits (by decide) (Nat.le_refl 10) (n := m), hd,
    Nat.ofDigitChars_toDigits (by decide) (Nat.le_refl 10)]

/-- Servers that come of one another by writes and removals. -/
inductive Becomes (server : ApiServer) : ApiServer → Prop
  | itself : Becomes server server
  | write {next : ApiServer} (ref : ObjectRef) (manifest : Json) :
      Becomes server next → Becomes server (next.write ref manifest).2
  | remove {next : ApiServer} (ref : ObjectRef) :
      Becomes server next → Becomes server (next.remove ref)

theorem Becomes.versioned {server next : ApiServer} (h : server.Becomes next)
    (hv : server.Versioned) : next.Versioned := by
  induction h with
  | itself => exact hv
  | write ref manifest _ ih => exact ih.write ref manifest
  | remove ref _ ih => exact ih.remove ref

theorem Becomes.pinned {server next : ApiServer} (h : server.Becomes next) (hv : server.Versioned)
    {ref : ObjectRef} {manifest : Json} (hp : server.Pinned ref manifest) :
    next.Pinned ref manifest := by
  induction h with
  | itself => exact hp
  | write place put hb ih => exact ih.write (hb.versioned hv) place put
  | remove place _ ih => exact ih.remove place

theorem becomes_edit (server : ApiServer) (change : Edit) :
    server.Becomes (server.edit change) := by
  cases change with
  | put manifest => exact .write _ _ .itself
  | remove ref => exact .remove _ .itself
  | merge ref patch =>
    simp only [edit]
    split
    · exact .itself
    · exact .write _ _ .itself

theorem becomes_afterPatch (server : ApiServer) (ref : ObjectRef) (stored patch : Json) :
    server.Becomes (server.afterPatch ref stored patch) := by
  unfold afterPatch
  dsimp only
  split
  · exact .remove _ (.write _ _ .itself)
  · exact .write _ _ .itself

/-- A patch made from a manifest is taken only where that manifest is still stored. -/
theorem Pinned.taken {server : ApiServer} {ref place : ObjectRef} {manifest stored patch : Json}
    (h : server.Pinned ref manifest)
    (hv : Manifest.resourceVersion? patch = Manifest.resourceVersion? manifest)
    (hf : server.find? place = some stored) (hs : staleVersion? stored patch = none) :
    place = ref ∧ stored = manifest := by
  obtain ⟨n, -, hm, hp⟩ := h
  apply hp place stored hf
  rw [hm]
  exact staleVersion?_eq_none.mp hs _ (hv.trans hm)

end ApiServer

theorem World.versioned_holding (manifest : Json) (records : List PiHole.Record) :
    (World.holding manifest records).server.Versioned :=
  (ApiServer.becomes_edit {} (.put manifest)).versioned ApiServer.versioned_empty

/-! ## Patches made from an object that was read -/

open Cluster (Kind Object Manifest.read? Manifest.written Manifest.read?_eq_some)
open Reconcile (metadataPatch)

section

variable {kind : Kind} {world : World} {ref : ObjectRef} {manifest : Json} {object : Object}

theorem ApiServer.Pinned.version (h : world.server.Pinned ref manifest)
    (hr : Manifest.read? kind manifest = some object) :
    object.resourceVersion? = Manifest.resourceVersion? manifest := by
  obtain ⟨n, -, hv, -⟩ := h
  rw [(Manifest.read?_eq_some hr hv).2.2.1, hv]

/-- A patch that names the version stored is taken. -/
theorem World.patch_taken (hf : world.server.find? ref = some manifest)
    (hv : object.resourceVersion? = Manifest.resourceVersion? manifest) (members : Json.Members) :
    world.patch kind ref (metadataPatch object members) =
      (read kind (Manifest.written (world.server.version (world.server.writes + 1)) manifest
        object members),
      { world with
        server := world.server.afterPatch ref manifest (metadataPatch object members) }) := by
  have hs : ApiServer.staleVersion? manifest (metadataPatch object members) = none := by
    rw [ApiServer.staleVersion?_eq_none, Cluster.Manifest.resourceVersion?_metadataPatch, hv]
    exact fun _ h => h
  simp only [patch, ApiServer.applyPatch_taken hf hs]
  rfl

/-- A patch by an object's reader changes nothing, or it changes the manifest that was read. -/
theorem World.patch_cases (h : world.server.Pinned ref manifest)
    (hr : Manifest.read? kind manifest = some object) (place : ObjectRef)
    (members : Json.Members) :
    ((world.patch kind place (metadataPatch object members)).2 = world ∧
      ∀ next, (world.patch kind place (metadataPatch object members)).1 ≠ .ok (some next)) ∨
    (place = ref ∧ world.server.find? ref = some manifest ∧
      world.patch kind place (metadataPatch object members) =
        (read kind (Manifest.written (world.server.version (world.server.writes + 1)) manifest
          object members),
        { world with
          server := world.server.afterPatch ref manifest (metadataPatch object members) })) := by
  rcases world.server.applyPatch_cases place (metadataPatch object members) with
    ⟨hsame, hnot⟩ | ⟨stored, hf, hs⟩
  · left
    cases ho : world.server.applyPatch place (metadataPatch object members) with
    | mk outcome server =>
      rw [ho] at hsame hnot
      dsimp only at hsame hnot
      subst hsame
      simp only [patch, ho]
      cases outcome with
      | missing => exact ⟨trivial, fun next hn => nomatch hn⟩
      | stale sent => exact ⟨trivial, fun next hn => nomatch hn⟩
      | written manifest => exact absurd rfl (hnot manifest)
  · right
    have hv : Manifest.resourceVersion? (metadataPatch object members) =
        Manifest.resourceVersion? manifest :=
      (Cluster.Manifest.resourceVersion?_metadataPatch _ _).trans (h.version hr)
    obtain ⟨rfl, rfl⟩ := h.taken hv hf hs
    exact ⟨rfl, hf, patch_taken hf (h.version hr) members⟩

theorem World.read_eq_ok {found : Option Object} {json : Json} (h : read kind json = .ok found) :
    found = Manifest.read? kind json := by
  unfold read at h
  split at h
  · cases h
    exact Eq.symm (by assumption)
  · cases h

/-- What is stored is read as an object or not at all. -/
theorem World.read_ne_none (kind : Kind) (json : Json) : read kind json ≠ .ok none := by
  rw [read]
  split <;> simp

theorem World.fetch_eq_none (h : world.fetch kind ref = .ok none) :
    world.server.find? ref = none := by
  cases hf : world.server.find? ref with
  | none => rfl
  | some stored =>
    simp only [fetch, hf] at h
    exact absurd h (read_ne_none kind stored)

theorem World.patch_eq_none {body : Json} (h : (world.patch kind ref body).1 = .ok none) :
    world.server.find? ref = none := by
  cases hf : world.server.find? ref with
  | none => rfl
  | some stored =>
    cases hs : ApiServer.staleVersion? stored body with
    | some sent => simp [patch, ApiServer.applyPatch, hf, hs] at h
    | none =>
      rw [patch, ApiServer.applyPatch_taken hf hs] at h
      exact absurd h (read_ne_none kind _)

theorem World.fetch_of_read (hf : world.server.find? ref = some manifest)
    (hr : Manifest.read? kind manifest = some object) :
    world.fetch kind ref = .ok (some object) := by
  simp only [fetch, hf, read, hr]

theorem World.fetch_eq_ok {found : Object} (h : world.fetch kind ref = .ok (some found)) :
    ∃ stored, world.server.find? ref = some stored ∧ Manifest.read? kind stored = some found := by
  unfold fetch at h
  split at h
  · cases h
  · rename_i stored hf
    exact ⟨stored, hf, (read_eq_ok h).symm⟩

end

end ClusterDns.Rehearsal
