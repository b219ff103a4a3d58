import ClusterDns.Proofs.Cluster.Reading
import ClusterDns.Proofs.Json.Leaves

/-! What others have written of a manifest: all of it but the version, the operator's finalizer and
the annotation that records managed hostnames. A patch by anybody makes the same of it whatever the
operator's part is, and the operator's own patches leave it alone. -/

namespace ClusterDns.Cluster.Manifest

open Json (Members Same leaf? same_object settles_or_spares mergeMembers)
open Reconcile (Key.managedHosts cleanupFinalizer finalizersMember)
open Rehearsal.ApiServer (stamped)

/-- Finalizers without the operator's. A missing list counts as empty. -/
def otherFinalizers : Option Json → Json
  | none => .array []
  | some .null => .array []
  | some (.array items) => .array (items.filter fun item => item.string? ≠ some cleanupFinalizer)
  | some json => json

/-- Annotations without the managed hostnames. A missing map counts as empty. -/
def otherAnnotations : Option Json → Json
  | none => .object []
  | some .null => .object []
  | some (.object members) => .object (Members.erase members Key.managedHosts)
  | some json => json

/-- A manifest without what the operator owns of it. -/
def remainder (manifest : Json) : Json :=
  let data := ((metadata manifest).members.erase "resourceVersion")
  .object (manifest.members.set "metadata" (.object
    ((data.set "finalizers" (otherFinalizers (data.get? "finalizers"))).set
      "annotations" (otherAnnotations (data.get? "annotations")))))

/-! ## Field by field -/

theorem get?_remainder {name : String} (h : name ≠ "metadata") (manifest : Json) :
    (remainder manifest).members.get? name = manifest.members.get? name := by
  simp [remainder, Members.get?_set, h]

theorem get?_remainder_metadata (manifest : Json) :
    ∃ data, (remainder manifest).members.get? "metadata" = some (.object data) := by
  simp [remainder, Members.get?_set]

theorem field?_remainder (manifest : Json) (name : String) :
    field? (remainder manifest) name =
      if name = "annotations" then some (otherAnnotations (field? manifest "annotations"))
      else if name = "finalizers" then some (otherFinalizers (field? manifest "finalizers"))
      else if name = "resourceVersion" then none
      else field? manifest name := by
  simp only [field?, remainder, metadata, Json.get_eq, Json.members_object, Members.get?_set,
    Option.getD_some, if_pos, Members.get?_erase]
  rfl

/-- The version does not count, whatever it is. -/
theorem remainder_amend_version (manifest value : Json) :
    remainder (amend manifest [("resourceVersion", value)]) = remainder manifest := by
  have hdata : ((metadata (amend manifest [("resourceVersion", value)])).members).erase
      "resourceVersion" = (metadata manifest).members.erase "resourceVersion" := by
    rw [metadata_amend, Json.members_object, Json.mergeMembers_cons, Json.mergeMembers_nil,
      Json.erase_mergeMember_self]
  rw [remainder, hdata, amend_eq, Json.members_object, Members.set_set]
  rfl

theorem remainder_stamped (version : String) (manifest : Json) :
    remainder (stamped version manifest) = remainder manifest :=
  remainder_amend_version manifest (.string version)

theorem leaf?_metadata (manifest : Json) (name : String) (path : List String) :
    leaf? ("metadata" :: name :: path) manifest = (field? manifest name).bind (leaf? path) := by
  rw [Json.leaf?_cons, field?, metadata, Json.get_eq]
  cases manifest.members.get? "metadata" <;> rfl

/-- Manifests with the same remainder: member by member, and in their metadata field by field. -/
theorem same_remainder {manifest other : Json}
    (outside : ∀ name, name ≠ "metadata" →
      manifest.members.get? name = other.members.get? name)
    (fields : ∀ name, field? (remainder manifest) name = field? (remainder other) name) :
    Same (remainder manifest) (remainder other) := by
  refine same_object fun name path => ?_
  change leaf? (name :: path) (remainder manifest) = leaf? (name :: path) (remainder other)
  by_cases hn : name = "metadata"
  · subst hn
    cases path with
    | nil =>
      obtain ⟨data, hd⟩ := get?_remainder_metadata manifest
      obtain ⟨next, hnext⟩ := get?_remainder_metadata other
      rw [Json.leaf?_cons, Json.leaf?_cons, hd, hnext]
      rfl
    | cons name path => rw [leaf?_metadata, leaf?_metadata, fields]
  · rw [Json.leaf?_cons, Json.leaf?_cons, get?_remainder hn, get?_remainder hn, outside name hn]

/-! ## Patches by others -/

theorem bind_leaf?_cons (old : Option Json) (name : String) (path : List String) :
    old.bind (leaf? (name :: path)) =
      ((old.getD .null).members.get? name).bind (leaf? path) := by
  cases old <;> rfl

theorem members_otherFinalizers (old : Option Json) :
    (otherFinalizers old).members = (old.getD .null).members := by
  cases old with
  | none => rfl
  | some json => cases json <;> rfl

theorem members_otherAnnotations (old : Option Json) :
    (otherAnnotations old).members = (old.getD .null).members.erase Key.managedHosts := by
  cases old with
  | none => rfl
  | some json => cases json <;> rfl

theorem leaf?_otherFinalizers (path : List String) : ∃ f : Option Json → Option Json,
    ∀ old : Option Json, leaf? path (otherFinalizers old) = f (old.bind (leaf? path)) := by
  cases path with
  | nil =>
    refine ⟨fun found => some (otherFinalizers found), fun old => ?_⟩
    cases old with
    | none => rfl
    | some json => cases json <;> rfl
  | cons name path =>
    refine ⟨id, fun old => ?_⟩
    rw [Json.leaf?_cons, members_otherFinalizers, bind_leaf?_cons]
    rfl

theorem leaf?_otherAnnotations (path : List String) : ∃ f : Option Json → Option Json,
    ∀ old : Option Json, leaf? path (otherAnnotations old) = f (old.bind (leaf? path)) := by
  cases path with
  | nil =>
    refine ⟨fun found => some (otherAnnotations found), fun old => ?_⟩
    cases old with
    | none => rfl
    | some json => cases json <;> rfl
  | cons name path =>
    refine ⟨fun found => if name = Key.managedHosts then none else found, fun old => ?_⟩
    rw [Json.leaf?_cons, members_otherAnnotations, Members.get?_erase, bind_leaf?_cons]
    split <;> rfl

/-- What the remainder has at the end of a path is a matter of what the manifest has there. -/
theorem leaf?_remainder (path : List String) : ∃ f : Option Json → Option Json,
    ∀ manifest, leaf? path (remainder manifest) = f (leaf? path manifest) := by
  cases path with
  | nil => exact ⟨fun _ => some (.object []), fun manifest => rfl⟩
  | cons name path =>
    by_cases hn : name = "metadata"
    · subst hn
      cases path with
      | nil =>
        refine ⟨fun _ => some (.object []), fun manifest => ?_⟩
        obtain ⟨data, hd⟩ := get?_remainder_metadata manifest
        rw [Json.leaf?_cons, hd]
        rfl
      | cons name path =>
        simp only [leaf?_metadata, field?_remainder]
        by_cases ha : name = "annotations"
        · subst ha
          obtain ⟨f, hf⟩ := leaf?_otherAnnotations path
          exact ⟨f, fun manifest => hf _⟩
        · by_cases hfin : name = "finalizers"
          · subst hfin
            obtain ⟨f, hf⟩ := leaf?_otherFinalizers path
            exact ⟨f, fun manifest => hf _⟩
          · by_cases hv : name = "resourceVersion"
            · exact ⟨fun _ => none, fun manifest => by simp [hv]⟩
            · exact ⟨id, fun manifest => by simp [ha, hfin, hv]⟩
    · refine ⟨id, fun manifest => ?_⟩
      rw [Json.leaf?_cons, Json.leaf?_cons, get?_remainder hn]
      rfl

/-- A patch makes the same of the same remainder. -/
theorem same_remainder_mergePatch {manifest other : Json}
    (h : Same (remainder manifest) (remainder other)) (patch : Json) :
    Same (remainder (manifest.mergePatch patch)) (remainder (other.mergePatch patch)) := by
  intro path
  obtain ⟨f, hf⟩ := leaf?_remainder path
  rw [hf, hf]
  rcases settles_or_spares path patch with ⟨found, hs⟩ | hs
  · rw [hs, hs]
  · rw [hs, hs, ← hf, ← hf]
    exact h path

/-! ## The operator's patches -/

/-- Finalizers and annotations as they are in a manifest that can be read. -/
structure Legible (manifest : Json) : Prop where
  finalizers : otherFinalizers (field? manifest "finalizers") =
    .array (((finalizers manifest).filter (· ≠ cleanupFinalizer)).map .string)
  annotations : otherAnnotations (field? manifest "annotations") =
    .object (((field? manifest "annotations").getD .null).members.erase Key.managedHosts)

theorem otherFinalizers_texts (values : List String) :
    otherFinalizers (some (.array (values.map .string))) =
      .array ((values.filter (· ≠ cleanupFinalizer)).map .string) := by
  rw [otherFinalizers, List.filter_map]
  congr 3
  funext value
  simp [Json.string?]

/-- The operator writes its own finalizer and keeps the others. -/
theorem same_remainder_finalizers {manifest : Json} (h : Legible manifest) {values : List String}
    (others : values.filter (· ≠ cleanupFinalizer) =
      (finalizers manifest).filter (· ≠ cleanupFinalizer)) :
    Same (remainder (amend manifest [finalizersMember values])) (remainder manifest) := by
  refine same_remainder (fun name hn => ?_) fun name => ?_
  · rw [amend_eq, Json.members_object, Members.get?_set, if_neg hn]
  · have hsame : otherFinalizers (some (.array (values.map .string))) =
        otherFinalizers (field? manifest "finalizers") := by
      rw [otherFinalizers_texts, others, h.finalizers]
    simp only [field?_remainder, finalizersMember, field?_amend_one, Json.amended_array]
    by_cases hf : name = "finalizers"
    · simp [hf, hsame]
    · simp [hf]

theorem same_remainder_managed {manifest : Json} (h : Legible manifest) (text? : Option String) :
    Same (remainder (amend manifest [annotationMember Key.managedHosts text?]))
      (remainder manifest) := by
  refine same_remainder (fun name hn => ?_) fun name => ?_
  · rw [amend_eq, Json.members_object, Members.get?_set, if_neg hn]
  · have hsame : ∀ value : Json, otherAnnotations (some (.object (mergeMembers
        ((field? manifest "annotations").getD .null).members [(Key.managedHosts, value)]))) =
          otherAnnotations (field? manifest "annotations") := by
      intro value
      rw [h.annotations, otherAnnotations, Json.mergeMembers_cons, Json.mergeMembers_nil,
        Json.erase_mergeMember_self]
    simp only [field?_remainder, annotationMember, field?_amend_one, Json.amended_object]
    by_cases ha : name = "annotations"
    · simp only [ha, if_pos, hsame]
    · simp [ha]

theorem Legible.amend_finalizers {manifest : Json} (h : Legible manifest) (values : List String) :
    Legible (amend manifest [finalizersMember values]) := by
  constructor
  · have hvalues : Manifest.finalizers (amend manifest [finalizersMember values]) = values := by
      rw [Manifest.finalizers, @finalizers?_amend manifest values [] (by simp)]
      rfl
    rw [hvalues, finalizersMember, field?_amend_one, if_pos rfl, Json.amended_array]
    exact otherFinalizers_texts values
  · rw [finalizersMember, field?_amend_one, if_neg (by decide)]
    exact h.annotations

theorem exists_texts {items : List Json}
    (h : ∀ item ∈ items, Shape.accepts .text item = true) :
    ∃ values : List String, items = values.map .string := by
  induction items with
  | nil => exact ⟨[], rfl⟩
  | cons item rest ih =>
    obtain ⟨hitem, hrest⟩ := List.forall_mem_cons.mp h
    obtain ⟨values, rfl⟩ := ih hrest
    cases item with
    | string s => exact ⟨s :: values, rfl⟩
    | _ => cases hitem

theorem otherFinalizers_of_accepts {old : Option Json}
    (h : ∀ json, old = some json → (Shape.nullable (.list .text)).accepts json = true) :
    otherFinalizers old = .array ((((texts (old.getD .null)).getD []).filter
      (· ≠ cleanupFinalizer)).map .string) := by
  cases old with
  | none => rfl
  | some json =>
    rcases (Shape.accepts_nullable _ _).mp (h json rfl) with rfl | hlist
    · rfl
    · cases json with
      | array items =>
        rw [Shape.accepts, List.all_eq_true] at hlist
        obtain ⟨values, rfl⟩ := exists_texts hlist
        rw [otherFinalizers_texts, Option.getD_some, texts_array, Option.getD_some]
      | _ => cases hlist

theorem otherAnnotations_of_accepts {old : Option Json}
    (h : ∀ json, old = some json → (Shape.nullable (.map .text)).accepts json = true) :
    otherAnnotations old = .object ((old.getD .null).members.erase Key.managedHosts) := by
  cases old with
  | none => rfl
  | some json =>
    rcases (Shape.accepts_nullable _ _).mp (h json rfl) with rfl | hmap
    · rfl
    · cases json with
      | object members => rfl
      | _ => cases hmap

theorem accepts_metadata {kind : Kind} {members data : Members}
    (h : (Schema.ofKind kind).accepts (.object members) = true)
    (hm : members.get? "metadata" = some (.object data)) :
    Schema.metadata.accepts (.object data) = true := by
  have hfield : ∃ fields shape, Schema.ofKind kind = .record fields ∧ ("metadata", shape) ∈ fields ∧
      (shape = Schema.metadata ∨ shape = .nullable Schema.metadata) := by
    cases kind with
    | ingress => exact ⟨_, _, rfl, by simp, .inr rfl⟩
    | _ => exact ⟨_, _, rfl, List.mem_cons_self, .inl rfl⟩
  obtain ⟨fields, shape, hfields, hin, hshape⟩ := hfield
  rw [hfields, Shape.accepts_record] at h
  have haccepts : shape.accepts (.object data) = true := h _ hin _ hm
  rcases hshape with rfl | rfl
  · exact haccepts
  · rcases (Shape.accepts_nullable _ _).mp haccepts with hnull | haccepts
    · cases hnull
    · exact haccepts

theorem Kindred.legible {kind : Kind} {origin manifest : Json} (h : Kindred kind origin manifest) :
    Legible manifest := by
  obtain ⟨members, rfl⟩ := h.object
  obtain ⟨data, hd⟩ := h.data
  have hread := h.readable
  obtain ⟨spelled, hs⟩ := spelledOut_object kind members
  have hmeta : spelled.get? "metadata" = some (.object data) := by
    have hget := get?_spelledOut (by decide : "metadata" ≠ "spec") kind members
    rw [hs, metadata_eq_object hd] at hget
    exact hget
  have haccepts : (Schema.ofKind kind).accepts (.object spelled) = true := by
    simp only [read?, hs] at hread
    split at hread
    · rename_i hok
      exact (Bool.and_eq_true_iff.mp hok).1
    · cases hread
  have hdata := accepts_metadata haccepts hmeta
  rw [Schema.metadata, Shape.optionals, Shape.accepts_record] at hdata
  have hfield : ∀ name, field? (.object members) name = Members.get? data name := by
    intro name
    rw [field?, hd, Json.members_object]
  constructor
  · rw [otherFinalizers_of_accepts fun json hj => hdata ("finalizers", .nullable (.list .text))
      (by simp) json (hfield _ ▸ hj), Manifest.finalizers, finalizers?_eq]
  · exact otherAnnotations_of_accepts fun json hj => hdata ("annotations", .nullable (.map .text))
      (by simp) json (hfield _ ▸ hj)

/-- What a patch makes of the remainder is not a matter of the versions it names and gets. -/
theorem same_remainder_written {manifest : Json} {members : Members}
    (h : Same (remainder (amend manifest members)) (remainder manifest)) (version : String)
    (object : Object) :
    Same (remainder (written version manifest object members)) (remainder manifest) := by
  rw [written_eq, remainder_amend_version, amend_cons]
  refine (same_remainder_mergePatch ?_ _).trans h
  rw [remainder_amend_version]
  exact fun _ => rfl

end ClusterDns.Cluster.Manifest
