import ClusterDns.Proofs.Json.MergePatch
import ClusterDns.Reconcile.Metadata
import ClusterDns.Rehearsal.ApiServer

/-! Manifests after a patch of their metadata. The reconciler's patches name a version, and the
server stamps a new one; besides that each changes the finalizers, or the one annotation that
records hostnames, or both. -/

namespace ClusterDns.Cluster.Manifest

open Json (Members mergeMembers amended)
open Reconcile (metadataPatch finalizersMember)
open Rehearsal.ApiServer (stamped hasNoFinalizer)

/-! ## Fields of the metadata -/

/-- A field of the metadata, if it is there. -/
def field? (manifest : Json) (name : String) : Option Json :=
  (metadata manifest).members.get? name

theorem metadata_get (manifest : Json) (name : String) :
    (metadata manifest).get name = (field? manifest name).getD .null := rfl

/-- A patch of the metadata alone. -/
def amend (manifest : Json) (patch : Members) : Json :=
  manifest.mergePatch (.object [("metadata", .object patch)])

theorem amend_eq (manifest : Json) (patch : Members) : amend manifest patch =
    .object (manifest.members.set "metadata"
      (.object (mergeMembers (metadata manifest).members patch))) := by
  simp [amend, Json.mergeMember, metadata, Json.get, Json.get?]

theorem metadata_amend (manifest : Json) (patch : Members) :
    metadata (amend manifest patch) =
      .object (mergeMembers (metadata manifest).members patch) := by
  rw [amend_eq]
  simp [metadata, Json.get, Json.get?, Members.get?_set]

theorem field?_amend_nil (manifest : Json) (name : String) :
    field? (amend manifest []) name = field? manifest name := by
  simp [field?, metadata_amend]

/-- One member after another. -/
theorem amend_cons (manifest : Json) (member : String × Json) (patch : Members) :
    amend manifest (member :: patch) = amend (amend manifest [member]) patch := by
  rw [amend_eq, amend_eq (amend manifest [member]), metadata_amend, amend_eq]
  simp [Members.set_set]

theorem field?_amend_one (manifest : Json) (changed name : String) (value : Json) :
    field? (amend manifest [(changed, value)]) name =
      if name = changed then amended (field? manifest changed) value else field? manifest name := by
  simp [field?, metadata_amend, Json.get?_mergeMember]

theorem metadataPatch_eq (object : Object) (members : Members) :
    metadataPatch object members = .object [("metadata", .object
      (("resourceVersion", .ofOption .string object.resourceVersion?) :: members))] := rfl

theorem field?_amend_of_not_mem {name : String} {patch : Members} (h : ∀ m ∈ patch, m.1 ≠ name)
    (manifest : Json) : field? (amend manifest patch) name = field? manifest name := by
  induction patch generalizing manifest with
  | nil => exact field?_amend_nil manifest name
  | cons m rest ih =>
    obtain ⟨hm, hr⟩ := List.forall_mem_cons.mp h
    rw [amend_cons, ih hr, field?_amend_one, if_neg (Ne.symm hm)]

/-- What the server stores for a patch. -/
def written (version : String) (manifest : Json) (object : Object) (members : Members) : Json :=
  stamped version (manifest.mergePatch (metadataPatch object members))

theorem written_eq (version : String) (manifest : Json) (object : Object) (members : Members) :
    written version manifest object members = amend (amend manifest
      (("resourceVersion", .ofOption .string object.resourceVersion?) :: members))
      [("resourceVersion", .string version)] := rfl

theorem resourceVersion?_stamped (version : String) (manifest : Json) :
    resourceVersion? (stamped version manifest) = some version := by
  have h : stamped version manifest = amend manifest [("resourceVersion", .string version)] := rfl
  rw [h, resourceVersion?, metadata_get, field?_amend_one]
  simp [Json.string?]

theorem resourceVersion?_metadataPatch (object : Object) (members : Members) :
    resourceVersion? (metadataPatch object members) = object.resourceVersion? := by
  cases h : object.resourceVersion? <;>
    simp [metadataPatch_eq, resourceVersion?, metadata, Json.get, Json.get?, Members.get?_cons, h,
      Json.ofOption, Json.string?]

/-- Only the members of a patch count, where it is not the version that is asked for. -/
theorem field?_written {name : String} (h : name ≠ "resourceVersion") (version : String)
    (manifest : Json) (object : Object) (members : Members) :
    field? (written version manifest object members) name =
      field? (amend manifest members) name := by
  have hcongr : ∀ (a b : Members), a.get? name = b.get? name →
      (mergeMembers a members).get? name = (mergeMembers b members).get? name := by
    induction members with
    | nil => simp
    | cons m rest ih =>
      obtain ⟨n, v⟩ := m
      intro a b hab
      rw [Json.mergeMembers_cons, Json.mergeMembers_cons]
      apply ih
      rw [Json.get?_mergeMember, Json.get?_mergeMember]
      split
      · subst_vars
        rw [hab]
      · exact hab
  rw [written_eq, field?_amend_one, if_neg h]
  simp only [field?, metadata_amend, Json.members_object, Json.mergeMembers_cons]
  apply hcongr
  rw [Json.get?_mergeMember, if_neg h]

/-! ## Finalizers and annotations -/

theorem string?_map (texts : List String) :
    (texts.map Json.string).filterMap Json.string? = texts := by
  induction texts with
  | nil => rfl
  | cons t rest ih => simp [Json.string?, ih]

theorem texts_array (values : List String) :
    Manifest.texts (.array (values.map .string)) = some values := by
  simp only [texts, Json.items?, Option.map_some, string?_map]

/-- The finalizers, none if there is no list of them. -/
def finalizers (manifest : Json) : List String := (finalizers? manifest).getD []

theorem hasNoFinalizer_of_mem {manifest : Json} {finalizer : String}
    (h : finalizer ∈ finalizers manifest) : hasNoFinalizer manifest = false := by
  rw [finalizers, finalizers?, texts] at h
  rw [hasNoFinalizer]
  cases hi : ((metadata manifest).get "finalizers").items? with
  | none => simp [hi] at h
  | some items =>
    cases items with
    | nil => simp [hi] at h
    | cons item rest => rfl

/-- The text of an annotation. -/
def annotation? (manifest : Json) (key : String) : Option String :=
  Reconcile.Annotations.get? ((annotations? manifest).getD []) key

/-- The members of a map of texts that are texts. -/
def entries (members : Members) : List (String × String) :=
  members.filterMap fun (name, value) => value.string?.map (name, ·)

theorem textMap_getD (json : Json) : (textMap json).getD [] = entries json.members := by
  cases json <;> rfl

theorem lookup_entries_set (members : Members) (name key text : String) :
    (entries (members.set name (.string text))).lookup key =
      if key = name then some text else (entries members).lookup key := by
  induction members with
  | nil =>
    by_cases h : key = name
    · simp [entries, Members.set, Json.string?, h]
    · simp [entries, Members.set, Json.string?, h, List.lookup_cons, beq_false_of_ne h]
  | cons m rest ih =>
    obtain ⟨n, v⟩ := m
    by_cases hn : n = name
    · subst hn
      by_cases h : key = n
      · simp [entries, Members.set, Json.string?, h]
      · have hb : (key == n) = false := beq_false_of_ne h
        cases v <;> simp [entries, Members.set, Json.string?, h, List.lookup_cons, hb]
    · rw [Members.set, if_neg hn]
      cases v with
      | string s =>
        by_cases h : key = n
        · subst h
          simp [entries, Json.string?, hn]
        · simpa [entries, Json.string?, List.lookup_cons, beq_false_of_ne h] using ih
      | _ => simpa [entries, Json.string?] using ih

theorem lookup_entries_erase (members : Members) (name key : String) :
    (entries (members.erase name)).lookup key =
      if key = name then none else (entries members).lookup key := by
  induction members with
  | nil => simp [entries, Members.erase]
  | cons m rest ih =>
    obtain ⟨n, v⟩ := m
    by_cases hn : n = name
    · subst hn
      rw [Members.erase, if_pos rfl, ih]
      by_cases h : key = n
      · simp [h]
      · have hb : (key == n) = false := beq_false_of_ne h
        cases v <;> simp [entries, Json.string?, h, List.lookup_cons, hb]
    · rw [Members.erase, if_neg hn]
      cases v with
      | string s =>
        by_cases h : key = n
        · subst h
          simp [entries, Json.string?, hn]
        · simpa [entries, Json.string?, List.lookup_cons, beq_false_of_ne h] using ih
      | _ => simpa [entries, Json.string?] using ih

theorem annotation?_eq (manifest : Json) (key : String) : annotation? manifest key =
    (entries ((field? manifest "annotations").getD .null).members).lookup key := by
  rw [annotation?, annotations?, metadata_get, textMap_getD]
  rfl

theorem finalizers?_eq (manifest : Json) : finalizers? manifest =
    texts ((field? manifest "finalizers").getD .null) := rfl

/-- The patch of one annotation. -/
def annotationMember (key : String) (text? : Option String) : String × Json :=
  ("annotations", .object [(key, .ofOption .string text?)])

theorem annotation?_amend_of_not_mem {patch : Members} (h : ∀ m ∈ patch, m.1 ≠ "annotations")
    (manifest : Json) (key : String) :
    annotation? (amend manifest patch) key = annotation? manifest key := by
  rw [annotation?_eq, annotation?_eq, field?_amend_of_not_mem h]

theorem annotation?_amend (manifest : Json) (key : String) (text? : Option String)
    (other : String) : annotation? (amend manifest [annotationMember key text?]) other =
      if other = key then text? else annotation? manifest other := by
  rw [annotation?_eq, annotation?_eq, annotationMember, field?_amend_one, if_pos rfl,
    Json.amended_object]
  cases text? with
  | none => simp [Json.ofOption, Json.mergeMember_null, lookup_entries_erase]
  | some text =>
    simp [Json.ofOption, Json.mergeMember, Json.mergePatch, lookup_entries_set]

theorem annotation?_written (version : String) (manifest : Json) (object : Object)
    (members : Members) (key : String) :
    annotation? (written version manifest object members) key =
      annotation? (amend manifest members) key := by
  rw [annotation?_eq, annotation?_eq, field?_written (by decide)]

theorem finalizers?_written (version : String) (manifest : Json) (object : Object)
    (members : Members) :
    finalizers? (written version manifest object members) =
      finalizers? (amend manifest members) := by
  rw [finalizers?_eq, finalizers?_eq, field?_written (by decide)]

theorem hasNoFinalizer_written (version : String) (manifest : Json) (object : Object)
    (values : List String) {rest : Members} (h : ∀ m ∈ rest, m.1 ≠ "finalizers") :
    hasNoFinalizer (written version manifest object (finalizersMember values :: rest)) =
      values.isEmpty := by
  rw [hasNoFinalizer, metadata_get, field?_written (by decide), amend_cons,
    field?_amend_of_not_mem h, finalizersMember, field?_amend_one, if_pos rfl, Json.amended_array]
  cases values <;> rfl

theorem finalizers?_amend (manifest : Json) (values : List String) {rest : Members}
    (h : ∀ m ∈ rest, m.1 ≠ "finalizers") :
    finalizers? (amend manifest (finalizersMember values :: rest)) = some values := by
  rw [finalizers?_eq, amend_cons, field?_amend_of_not_mem h, finalizersMember,
    field?_amend_one, if_pos rfl, Json.amended_array]
  exact texts_array values

theorem finalizers?_amend_of_not_mem {patch : Members} (h : ∀ m ∈ patch, m.1 ≠ "finalizers")
    (manifest : Json) : finalizers? (amend manifest patch) = finalizers? manifest := by
  rw [finalizers?_eq, finalizers?_eq, field?_amend_of_not_mem h]

/-! ## Reading -/

/-- A manifest with a version is written out by names. -/
theorem exists_members_of_version {manifest : Json} {version : String}
    (h : resourceVersion? manifest = some version) : ∃ members, manifest = .object members := by
  cases manifest with
  | object members => exact ⟨members, rfl⟩
  | _ => cases h

theorem get?_spelledOut {name : String} (h : name ≠ "spec") (kind : Kind) (members : Members) :
    (spelledOut kind (.object members)).members.get? name = members.get? name := by
  cases kind with
  | ingress => rfl
  | _ =>
    simp only [spelledOut, byName]
    split
    · simp [Members.get?_set, h]
    · rfl

theorem spec_spelledOut_congr {kind : Kind} {members others : Members}
    (h : members.get? "spec" = others.get? "spec") :
    (spelledOut kind (.object members)).members.get? "spec" =
      (spelledOut kind (.object others)).members.get? "spec" := by
  cases kind with
  | ingress => simp [spelledOut, h]
  | _ =>
    simp only [spelledOut, byName, h]
    split
    · simp [Members.get?_set]
    · simp [h]

theorem metadata_spelledOut (kind : Kind) (members : Members) :
    metadata (spelledOut kind (.object members)) = metadata (.object members) := by
  simp only [metadata, Json.get_eq, get?_spelledOut (by decide : "metadata" ≠ "spec"),
    Json.members_object]

theorem hostnames?_congr {kind : Kind} {manifest other : Json}
    (h : manifest.members.get? "spec" = other.members.get? "spec") :
    hostnames? kind manifest = hostnames? kind other := by
  cases kind <;> simp [hostnames?, Json.get_eq, h]

/-- An object read from a manifest that has a version, field by field. -/
theorem read?_eq_some {kind : Kind} {manifest : Json} {object : Object} {version : String}
    (hr : read? kind manifest = some object) (hv : resourceVersion? manifest = some version) :
    object.annotations? = annotations? manifest ∧ object.finalizers? = finalizers? manifest ∧
      object.resourceVersion? = some version ∧
      object.isBeingDeleted = isBeingDeleted manifest ∧
      object.hostnames? = hostnames? kind (spelledOut kind manifest) := by
  obtain ⟨members, rfl⟩ := exists_members_of_version hv
  simp only [read?] at hr
  split at hr
  · cases hr
    simp only [view, annotations?, finalizers?, resourceVersion?, isBeingDeleted,
      metadata_spelledOut] at hv ⊢
    exact ⟨trivial, trivial, hv, trivial, trivial⟩
  · cases hr

end ClusterDns.Cluster.Manifest
