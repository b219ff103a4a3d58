import ClusterDns.Proofs.Cluster.Manifest

/-! What can be read of a manifest once it has been patched. A manifest that was read is readable
after a patch of its finalizers or annotations, and apart from its version it is what the patch
makes of the old one. -/

namespace ClusterDns.Cluster

/-! ## Records -/

namespace Shape

theorem acceptsFields_iff (fields : List (String × Shape)) (members : Json.Members) :
    acceptsFields fields members = true ↔ ∀ field ∈ fields, ∀ value,
      members.get? field.1 = some value → accepts field.2 value = true := by
  induction fields with
  | nil => simp [acceptsFields]
  | cons field rest ih =>
    obtain ⟨name, shape⟩ := field
    rw [acceptsFields, Bool.and_eq_true, ih, List.forall_mem_cons]
    refine and_congr_left' ?_
    rw [acceptsField]
    cases hm : members.get? name with
    | none => simp
    | some value => simp

theorem accepts_record (fields : List (String × Shape)) (members : Json.Members) :
    accepts (.record fields) (.object members) = true ↔ ∀ field ∈ fields, ∀ value,
      members.get? field.1 = some value → accepts field.2 value = true := by
  rw [accepts, acceptsFields_iff]

theorem accepts_nullable (shape : Shape) (json : Json) :
    accepts (.nullable shape) json = true ↔ json = .null ∨ accepts shape json = true := by
  rw [accepts, Bool.or_eq_true]
  cases json <;> simp [Json.isNull]

theorem accepts_texts (texts : List String) :
    accepts (.list .text) (.array (texts.map .string)) = true := by
  rw [accepts, List.all_map, List.all_eq_true]
  exact fun _ _ => rfl

theorem accepts_map {value : Shape} {members : Json.Members} :
    accepts (.map value) (.object members) = true ↔
      ∀ member ∈ members, accepts value member.2 = true := by
  rw [accepts, List.all_eq_true]

end Shape

namespace Manifest

open Json (Members mergeMember mergeMembers)
open Reconcile (Key.managedHosts finalizersMember)

/-! ## Metadata under the reconciler's patches -/

/-- The members of metadata that the reconciler patches. -/
inductive IsOwn : String × Json → Prop
  | version (version? : Option String) :
      IsOwn ("resourceVersion", .ofOption .string version?)
  | finalizers (values : List String) : IsOwn (finalizersMember values)
  | managed (text? : Option String) : IsOwn (annotationMember Key.managedHosts text?)

theorem texts_set {members : Members}
    (h : ∀ member ∈ members, Shape.accepts .text member.2 = true) (name text : String) :
    ∀ member ∈ members.set name (.string text), Shape.accepts .text member.2 = true := by
  induction members with
  | nil => simp [Members.set, Shape.accepts]
  | cons m rest ih =>
    obtain ⟨hm, hr⟩ := List.forall_mem_cons.mp h
    obtain ⟨n, v⟩ := m
    rw [Members.set]
    split
    · exact List.forall_mem_cons.mpr ⟨rfl, hr⟩
    · exact List.forall_mem_cons.mpr ⟨hm, ih hr⟩

theorem texts_erase {members : Members}
    (h : ∀ member ∈ members, Shape.accepts .text member.2 = true) (name : String) :
    ∀ member ∈ members.erase name, Shape.accepts .text member.2 = true := by
  induction members with
  | nil => simp [Members.erase]
  | cons m rest ih =>
    obtain ⟨hm, hr⟩ := List.forall_mem_cons.mp h
    obtain ⟨n, v⟩ := m
    rw [Members.erase]
    split
    · exact ih hr
    · exact List.forall_mem_cons.mpr ⟨hm, ih hr⟩

theorem texts_mergeMember {members : Members}
    (h : ∀ member ∈ members, Shape.accepts .text member.2 = true) (key : String)
    (text? : Option String) :
    ∀ member ∈ mergeMember members (key, .ofOption .string text?),
      Shape.accepts .text member.2 = true := by
  cases text? with
  | none => simpa [Json.ofOption, Json.mergeMember_null] using texts_erase h key
  | some text => simpa [Json.ofOption, Json.mergeMember, Json.mergePatch] using texts_set h key text

theorem texts_of_accepts {old : Option Json}
    (h : ∀ json, old = some json → (Shape.nullable (.map .text)).accepts json = true) :
    ∀ member ∈ (old.getD .null).members, Shape.accepts .text member.2 = true := by
  cases old with
  | none => exact fun _ hm => nomatch hm
  | some json =>
    rcases (Shape.accepts_nullable _ _).mp (h json rfl) with rfl | hmap
    · exact fun _ hm => nomatch hm
    · cases json with
      | object members => exact Shape.accepts_map.mp hmap
      | _ => cases hmap

/-- What becomes of a member under a patch has the shape it had, if the member had it. -/
theorem accepts_amended {member : String × Json} (own : IsOwn member) {shape : Shape}
    (hs : (member.1, shape) ∈ [("resourceVersion", Shape.nullable .text),
      ("finalizers", .nullable (.list .text)), ("annotations", .nullable (.map .text))])
    {old : Option Json} (hold : ∀ json, old = some json → shape.accepts json = true)
    {value : Json} (hv : Json.amended old member.2 = some value) :
    shape.accepts value = true := by
  cases own with
  | version version? =>
    obtain rfl : shape = .nullable .text := by simpa using hs
    cases version? with
    | none => cases hv
    | some version =>
      rw [Json.ofOption, Json.amended_string] at hv
      cases hv
      exact (Shape.accepts_nullable _ _).mpr (.inr rfl)
  | finalizers values =>
    obtain rfl : shape = .nullable (.list .text) := by simpa [finalizersMember] using hs
    rw [finalizersMember, Json.amended_array] at hv
    cases hv
    exact (Shape.accepts_nullable _ _).mpr (.inr (Shape.accepts_texts values))
  | managed text? =>
    obtain rfl : shape = .nullable (.map .text) := by simpa [annotationMember] using hs
    rw [annotationMember, Json.amended_object] at hv
    cases hv
    have htexts := texts_mergeMember (texts_of_accepts hold) Key.managedHosts text?
    refine (Shape.accepts_nullable _ _).mpr (.inr (Shape.accepts_map.mpr ?_))
    simpa using htexts

theorem accepts_mergeMember {members : Members} {member : String × Json} (own : IsOwn member)
    (h : Schema.metadata.accepts (.object members) = true) :
    Schema.metadata.accepts (.object (mergeMember members member)) = true := by
  obtain ⟨name, patch⟩ := member
  rw [Schema.metadata, Shape.optionals, Shape.accepts_record] at h ⊢
  rintro ⟨field, shape⟩ hf value hv
  have hold : ∀ json, members.get? field = some json → shape.accepts json = true :=
    fun json hj => h (field, shape) hf json hj
  rw [Json.get?_mergeMember] at hv
  split at hv
  · rename_i hname
    dsimp only at hname
    subst hname
    refine accepts_amended own ?_ hold hv
    generalize hm : (field, patch) = member at own
    cases own with
    | version version? => cases hm; simpa using hf
    | finalizers values => cases hm; simpa [finalizersMember] using hf
    | managed text? => cases hm; simpa [annotationMember] using hf
  · exact hold value hv

theorem accepts_mergeMembers {members patch : Members} (own : ∀ member ∈ patch, IsOwn member)
    (h : Schema.metadata.accepts (.object members) = true) :
    Schema.metadata.accepts (.object (mergeMembers members patch)) = true := by
  induction patch generalizing members with
  | nil => simpa using h
  | cons member rest ih =>
    obtain ⟨hm, hr⟩ := List.forall_mem_cons.mp own
    rw [Json.mergeMembers_cons]
    exact ih hr (accepts_mergeMember hm h)

/-! ## Reading a patched manifest -/

/-- The object a manifest is read as, if it can be read. -/
def seen (kind : Kind) (manifest : Json) : Object :=
  { view kind manifest with hostnames? := hostnames? kind (spelledOut kind manifest) }

theorem view_spelledOut (kind : Kind) (members : Members) :
    view kind (spelledOut kind (.object members)) = seen kind (.object members) := by
  simp only [seen, view, annotations?, finalizers?, resourceVersion?, isBeingDeleted,
    metadata_spelledOut]

theorem spelledOut_object (kind : Kind) (members : Members) :
    ∃ others : Members, spelledOut kind (.object members) = .object others := by
  cases kind with
  | ingress => exact ⟨members, rfl⟩
  | _ =>
    simp only [spelledOut, byName]
    split
    · exact ⟨_, rfl⟩
    · exact ⟨_, rfl⟩

theorem get?_spelledOut_set (kind : Kind) (members : Members) (value : Json) (name : String) :
    (spelledOut kind (.object (members.set "metadata" value))).members.get? name =
      if name = "metadata" then some value
      else (spelledOut kind (.object members)).members.get? name := by
  by_cases hs : name = "spec"
  · subst hs
    have hspec : (members.set "metadata" value).get? "spec" = members.get? "spec" := by
      rw [Members.get?_set, if_neg (by decide)]
    rw [spec_spelledOut_congr hspec, if_neg (by decide)]
  · rw [get?_spelledOut hs, get?_spelledOut hs, Members.get?_set]

theorem ofKind_record (kind : Kind) : ∃ fields, Schema.ofKind kind = .record fields ∧
    ∀ shape, ("metadata", shape) ∈ fields →
      shape = Schema.metadata ∨ shape = .nullable Schema.metadata := by
  cases kind <;> exact ⟨_, rfl, by simp⟩

/-- Only the metadata matters where all else is the same. -/
theorem accepts_ofKind {kind : Kind} {members others data next : Members}
    (h : (Schema.ofKind kind).accepts (.object members) = true)
    (hm : members.get? "metadata" = some (.object data))
    (ho : others.get? "metadata" = some (.object next))
    (hd : Schema.metadata.accepts (.object data) = true →
      Schema.metadata.accepts (.object next) = true)
    (same : ∀ name, name ≠ "metadata" → others.get? name = members.get? name) :
    (Schema.ofKind kind).accepts (.object others) = true := by
  obtain ⟨fields, hfields, hshape⟩ := ofKind_record kind
  rw [hfields, Shape.accepts_record] at h ⊢
  rintro ⟨name, shape⟩ hf value hv
  by_cases hname : name = "metadata"
  · subst hname
    rw [ho] at hv
    cases hv
    have hold : shape.accepts (.object data) = true := h _ hf _ hm
    rcases hshape shape hf with rfl | rfl
    · exact hd hold
    · rcases (Shape.accepts_nullable _ _).mp hold with hnull | hold
      · cases hnull
      · exact (Shape.accepts_nullable _ _).mpr (.inr (hd hold))
  · rw [same name hname] at hv
    exact h _ hf _ hv

theorem metadata_eq_object {members data : Members}
    (h : metadata (.object members) = .object data) :
    members.get? "metadata" = some (.object data) := by
  rw [metadata, Json.get_eq, Json.members_object] at h
  cases hm : members.get? "metadata" with
  | none => simp [hm] at h
  | some json => simpa [hm] using h

/-- A manifest that was read is readable after a patch of the reconciler's. -/
theorem read?_amend {kind : Kind} {members data patch : Members} {object : Object}
    (hr : read? kind (.object members) = some object)
    (hd : metadata (.object members) = .object data) (own : ∀ member ∈ patch, IsOwn member) :
    read? kind (amend (.object members) patch) =
      some (seen kind (amend (.object members) patch)) := by
  rw [amend_eq, hd, Json.members_object, Json.members_object, ← view_spelledOut]
  have get_new := get?_spelledOut_set kind members (.object (mergeMembers data patch))
  have hmeta : (spelledOut kind (.object members)).members.get? "metadata" =
      some (.object data) := by
    rw [get?_spelledOut (by decide), metadata_eq_object hd]
  obtain ⟨old, hold⟩ := spelledOut_object kind members
  obtain ⟨new, hnew⟩ := spelledOut_object kind
    (members.set "metadata" (.object (mergeMembers data patch)))
  rw [hold, hnew] at get_new
  rw [hold] at hmeta
  simp only [read?, hold, hnew] at hr ⊢
  split at hr
  · rename_i hok
    obtain ⟨hacc, hcomplete⟩ := Bool.and_eq_true_iff.mp hok
    refine if_pos (Bool.and_eq_true_iff.mpr ⟨?_, ?_⟩)
    · refine accepts_ofKind hacc hmeta ?_ (accepts_mergeMembers own) fun name hn => ?_
      · simpa using get_new "metadata"
      · simpa [hn] using get_new name
    · simp only [isComplete, Json.get?, hmeta, get_new] at hcomplete ⊢
      simpa using hcomplete
  · cases hr

/-! ## Manifests of one origin -/

/-- A manifest but for its version. -/
def unversioned (manifest : Json) : Json := amend manifest [("resourceVersion", .null)]

theorem unversioned_eq (manifest : Json) : unversioned manifest = .object (manifest.members.set
    "metadata" (.object ((metadata manifest).members.erase "resourceVersion"))) := by
  rw [unversioned, amend_eq]
  simp [Json.mergeMember_null]

/-- Apart from its version a patched manifest depends on the patch and on the old one apart from
its version. -/
theorem unversioned_written (version : String) (manifest : Json) (object : Object)
    {members : Members} (h : ∀ m ∈ members, m.1 ≠ "resourceVersion") :
    unversioned (written version manifest object members) =
      amend (unversioned manifest) members := by
  rw [unversioned_eq, written_eq, metadata_amend, metadata_amend, amend_eq, amend_eq, amend_eq,
    unversioned_eq]
  simp [metadata, Json.get_eq, Members.get?_set, Members.set_set, Json.erase_mergeMember_self,
    Json.erase_mergeMembers _ _ h]

theorem finalizers_unversioned (manifest : Json) :
    finalizers (unversioned manifest) = finalizers manifest := by
  rw [finalizers, unversioned, finalizers?_amend_of_not_mem (by simp), finalizers]

theorem annotation?_unversioned (manifest : Json) (key : String) :
    annotation? (unversioned manifest) key = annotation? manifest key :=
  annotation?_amend_of_not_mem (by simp) manifest key

theorem IsOwn.name {member : String × Json} (own : IsOwn member) :
    member.1 ∈ ["resourceVersion", "finalizers", "annotations"] := by
  cases own <;> simp [finalizersMember, annotationMember]

theorem field?_amend_own {patch : Members} (own : ∀ member ∈ patch, IsOwn member) {name : String}
    (h : name ∉ ["resourceVersion", "finalizers", "annotations"]) (manifest : Json) :
    field? (amend manifest patch) name = field? manifest name := by
  refine field?_amend_of_not_mem (fun member hm he => ?_) manifest
  exact h (he ▸ (own member hm).name)

theorem annotation?_amend_own {patch : Members} (own : ∀ member ∈ patch, IsOwn member)
    {key : String} (h : key ≠ Key.managedHosts) (manifest : Json) :
    annotation? (amend manifest patch) key = annotation? manifest key := by
  induction patch generalizing manifest with
  | nil => exact annotation?_amend_of_not_mem (by simp) manifest key
  | cons member rest ih =>
    obtain ⟨hm, hr⟩ := List.forall_mem_cons.mp own
    rw [amend_cons, ih hr]
    cases hm with
    | managed text? => rw [annotation?_amend, if_neg h]
    | version version? => exact annotation?_amend_of_not_mem (by simp) manifest key
    | finalizers values =>
      exact annotation?_amend_of_not_mem (by simp [finalizersMember]) manifest key

/-- A readable manifest that asks for what another one asks for. -/
structure Kindred (kind : Kind) (origin manifest : Json) : Prop where
  object : ∃ members, manifest = .object members
  data : ∃ members, metadata manifest = .object members
  readable : read? kind manifest = some (seen kind manifest)
  annotation : ∀ key, key ≠ Key.managedHosts → annotation? manifest key = annotation? origin key
  deleted : isBeingDeleted manifest = isBeingDeleted origin
  hostnames : (seen kind manifest).hostnames? = (seen kind origin).hostnames?
  ref : (seen kind manifest).ref = (seen kind origin).ref

/-- The reconciler's patches change none of this. -/
theorem Kindred.amend {kind : Kind} {origin manifest : Json} (h : Kindred kind origin manifest)
    {patch : Members} (own : ∀ member ∈ patch, IsOwn member) :
    Kindred kind origin (amend manifest patch) := by
  obtain ⟨members, rfl⟩ := h.object
  obtain ⟨data, hd⟩ := h.data
  have hfield : ∀ name, name ∉ ["resourceVersion", "finalizers", "annotations"] →
      (metadata (Manifest.amend (.object members) patch)).get name =
        (metadata (.object members)).get name := by
    intro name hn
    rw [metadata_get, metadata_get, field?_amend_own own hn]
  refine ⟨⟨_, amend_eq _ _⟩, ⟨_, metadata_amend _ _⟩, read?_amend h.readable hd own, ?_, ?_, ?_, ?_⟩
  · intro key hk
    rw [annotation?_amend_own own hk, h.annotation key hk]
  · rw [isBeingDeleted, hfield _ (by decide)]
    exact h.deleted
  · rw [← h.hostnames]
    refine hostnames?_congr ?_
    rw [amend_eq]
    refine spec_spelledOut_congr ?_
    rw [Members.get?_set, if_neg (by decide)]
    rfl
  · rw [← h.ref]
    simp only [seen, view, Object.ref]
    rw [hfield "name" (by decide), hfield "generateName" (by decide),
      hfield "namespace" (by decide)]

theorem Kindred.written {kind : Kind} {origin manifest : Json} (h : Kindred kind origin manifest)
    {members : Members} (own : ∀ member ∈ members, IsOwn member) (version : String)
    (object : Object) : Kindred kind origin (written version manifest object members) := by
  rw [written_eq]
  refine (h.amend ?_).amend ?_
  · exact List.forall_mem_cons.mpr ⟨.version _, own⟩
  · exact List.forall_mem_cons.mpr ⟨.version (some version), fun _ hm => nomatch hm⟩

theorem Kindred.self {kind : Kind} {origin manifest : Json} (h : Kindred kind origin manifest) :
    Kindred kind manifest manifest :=
  ⟨h.object, h.data, h.readable, fun _ _ => rfl, rfl, rfl, rfl⟩

theorem Kindred.itself {kind : Kind} {manifest : Json} {object : Object} {version : String}
    (hr : read? kind manifest = some object) (hv : resourceVersion? manifest = some version) :
    object = seen kind manifest ∧ Kindred kind manifest manifest := by
  obtain ⟨members, rfl⟩ := exists_members_of_version hv
  have hobject : object = seen kind (.object members) := by
    simp only [read?] at hr
    split at hr
    · cases hr
      exact view_spelledOut kind members
    · cases hr
  have hdata : ∃ data, metadata (.object members) = .object data := by
    rw [resourceVersion?] at hv
    cases hm : metadata (.object members) with
    | object data => exact ⟨data, rfl⟩
    | _ => rw [hm] at hv; cases hv
  rw [hobject] at hr
  exact ⟨hobject, ⟨members, rfl⟩, hdata, hr, fun _ _ => rfl, rfl, rfl, rfl⟩

end Manifest

end ClusterDns.Cluster
