import ClusterDns.Proofs.Cluster.Reading
import ClusterDns.Proofs.Reconcile.Custody
import ClusterDns.Proofs.Reconcile.Desired

/-! How far an object has come. Reconciles that are tried again and again bring it through three
stages, each known but for the version of the manifest: as it was first, with the finalizer, and
with its hosts written down. -/

namespace ClusterDns.Reconcile

open Cluster (Kind Object Manifest.seen Manifest.finalizers Manifest.annotation?
  Manifest.unversioned Manifest.Kindred Manifest.amend Manifest.annotationMember
  Manifest.IsOwn Manifest.written)
open PiHole (Record)
open Rehearsal

/-! ## What an object asks for -/

section

variable {kind : Kind} {origin manifest : Json}

/-- The hosts a manifest asks for. -/
def desired (kind : Kind) (manifest : Json) : List String :=
  desiredHosts (Manifest.seen kind manifest)

/-- The object a manifest is of. -/
def subjectOf (kind : Kind) (manifest : Json) : Subject := ⟨kind, (Manifest.seen kind manifest).ref⟩

theorem get?_seen (kind : Kind) (manifest : Json) (key : String) :
    Annotations.get? (Manifest.seen kind manifest).annotations key =
      Manifest.annotation? manifest key := rfl

theorem managed_seen (kind : Kind) (manifest : Json) :
    Annotations.managed (Manifest.seen kind manifest).annotations = writtenDown manifest := rfl

theorem finalizers_seen (kind : Kind) (manifest : Json) :
    (Manifest.seen kind manifest).finalizers = Manifest.finalizers manifest := rfl

theorem hasFinalizer_seen (kind : Kind) (manifest : Json) :
    (Manifest.seen kind manifest).hasFinalizer cleanupFinalizer = true ↔
      cleanupFinalizer ∈ Manifest.finalizers manifest := by
  rw [Object.hasFinalizer, finalizers_seen, List.contains_iff_mem]

theorem desired_kindred (h : Manifest.Kindred kind origin manifest) :
    desired kind manifest = desired kind origin := by
  have hkey : Manifest.annotation? manifest Key.hosts = Manifest.annotation? origin Key.hosts :=
    h.annotation _ (by decide)
  have hhosts : (Manifest.seen kind manifest).declaredHosts =
      (Manifest.seen kind origin).declaredHosts := by
    rw [Object.declaredHosts, h.hostnames, Object.declaredHosts]
  rw [desired, desired, desiredHosts, desiredHosts, Annotations.hosts, Annotations.hosts,
    get?_seen, get?_seen, hkey, hhosts]

theorem subjectOf_kindred (h : Manifest.Kindred kind origin manifest) :
    subjectOf kind manifest = subjectOf kind origin := by
  rw [subjectOf, h.ref]
  rfl

theorem isRegistered_kindred (h : Manifest.Kindred kind origin manifest) :
    Annotations.isRegistered (Manifest.seen kind manifest).annotations =
      Annotations.isRegistered (Manifest.seen kind origin).annotations := by
  have hkey := h.annotation Key.register (by decide)
  rw [Annotations.isRegistered, Annotations.isRegistered, get?_seen, get?_seen, hkey]

theorem target?_kindred (h : Manifest.Kindred kind origin manifest) (defaultTarget : String) :
    Annotations.target? (Manifest.seen kind manifest).annotations defaultTarget =
      Annotations.target? (Manifest.seen kind origin).annotations defaultTarget := by
  have hkey := h.annotation Key.targetIp (by decide)
  rw [Annotations.target?, Annotations.target?, get?_seen, get?_seen, hkey]

theorem mem_distinct {hosts : List String} {host : String} (h : host ∈ distinct hosts) :
    host ∈ hosts := by
  induction hosts with
  | nil => exact h
  | cons first rest ih =>
    rw [distinct, List.mem_cons] at h
    rcases h with rfl | h
    · exact List.mem_cons_self
    · exact List.mem_cons_of_mem _ (ih (List.mem_filter.mp h).1)

theorem nodup_distinct (hosts : List String) : (distinct hosts).Nodup := by
  induction hosts with
  | nil => exact List.nodup_nil
  | cons host rest ih =>
    rw [distinct, List.nodup_cons]
    exact ⟨by simp, ih.filter _⟩

theorem distinct_of_nodup {hosts : List String} (h : hosts.Nodup) : distinct hosts = hosts := by
  induction hosts with
  | nil => rfl
  | cons host rest ih =>
    obtain ⟨hnew, hrest⟩ := List.nodup_cons.mp h
    have hkept : ∀ other ∈ rest, decide (other ≠ host) = true := by
      intro other hother
      exact decide_eq_true fun he => hnew (he ▸ hother)
    rw [distinct, ih hrest, List.filter_eq_self.mpr hkept]

/-- A host that is asked for was read from the annotation, or it is one of the object's own. -/
theorem mem_desiredHosts {object : Object} {host : String} (h : host ∈ desiredHosts object) :
    (∃ text, host ∈ Text.CommaList.parse text) ∨ host ∈ object.declaredHosts ∧ host ≠ "" :=
  mem_hosts (mem_distinct h)

theorem empty_not_mem_desired (object : Object) : "" ∉ desiredHosts object :=
  fun h => ne_empty_of_mem_hosts (mem_distinct h) rfl

/-- Hosts of an annotation can be written as they are. -/
theorem plain_desired {object : Object} (plain : ∀ host ∈ object.declaredHosts,
      host ∈ desiredHosts object → Text.CommaList.IsPlain host) :
    ∀ host ∈ desiredHosts object, Text.CommaList.IsPlain host := by
  intro host hd
  rcases mem_desiredHosts hd with ⟨text, hin⟩ | ⟨hin, -⟩
  · exact Text.CommaList.isPlain_of_mem_parse hin
  · exact plain host hin hd

/-- Hosts that were written down are read as they were. -/
theorem parse_managedText? {hosts : List String}
    (plain : ∀ host ∈ hosts, Text.CommaList.IsPlain host) (full : "" ∉ hosts) :
    ((managedText? hosts).map Text.CommaList.parse).getD [] = hosts := by
  rw [managedText?]
  split
  · rename_i hempty
    rw [List.isEmpty_iff.mp hempty]
    rfl
  · rename_i hne
    exact Text.CommaList.parse_render (fun h => hne (by simp [h])) plain full

/-! ## Stages of the object -/

/-- The object once it has the finalizer. -/
def heldForm (origin : Json) : Json :=
  if cleanupFinalizer ∈ Manifest.finalizers origin then Manifest.unversioned origin
  else Manifest.amend (Manifest.unversioned origin)
    [finalizersMember (Manifest.finalizers origin ++ [cleanupFinalizer])]

/-- The object once its hosts are written down, too. -/
def servedForm (kind : Kind) (origin : Json) : Json :=
  if Manifest.annotation? origin Key.managedHosts = managedText? (desired kind origin) then
    heldForm origin
  else Manifest.amend (heldForm origin)
    [Manifest.annotationMember Key.managedHosts (managedText? (desired kind origin))]

theorem mem_finalizers_heldForm (origin : Json) :
    cleanupFinalizer ∈ Manifest.finalizers (heldForm origin) := by
  rw [heldForm]
  split
  · rwa [Cluster.Manifest.finalizers_unversioned]
  · rw [Manifest.finalizers, Cluster.Manifest.finalizers?_amend _ _ (by simp)]
    simp

theorem mem_finalizers_servedForm (kind : Kind) (origin : Json) :
    cleanupFinalizer ∈ Manifest.finalizers (servedForm kind origin) := by
  rw [servedForm]
  split
  · exact mem_finalizers_heldForm origin
  · rw [Manifest.finalizers, Cluster.Manifest.finalizers?_amend_of_not_mem
      (by simp [Manifest.annotationMember])]
    exact mem_finalizers_heldForm origin

theorem annotation?_heldForm (origin : Json) (key : String) :
    Manifest.annotation? (heldForm origin) key = Manifest.annotation? origin key := by
  rw [heldForm]
  split
  · rw [Cluster.Manifest.annotation?_unversioned]
  · rw [Cluster.Manifest.annotation?_amend_of_not_mem (by simp [finalizersMember]),
      Cluster.Manifest.annotation?_unversioned]

theorem annotation?_servedForm (kind : Kind) (origin : Json) :
    Manifest.annotation? (servedForm kind origin) Key.managedHosts =
      managedText? (desired kind origin) := by
  rw [servedForm]
  split
  · rw [annotation?_heldForm]
    assumption
  · rw [Cluster.Manifest.annotation?_amend, if_pos rfl]

/-- How far the stored object has come. Once its hosts are written down, the hosts written down
before are known no more, so their records have to be gone by then. -/
inductive Stage (kind : Kind) (origin : Json) (records : List Record) (manifest : Json) : Prop
  | fresh (form : Manifest.unversioned manifest = Manifest.unversioned origin)
  | held (form : Manifest.unversioned manifest = heldForm origin)
  | served (form : Manifest.unversioned manifest = servedForm kind origin)
      (pruned : ∀ host ∈ writtenDown origin, host ∉ desired kind origin →
        recordsOf host records = [])

/-- Work on records that keeps clear what is clear leaves the object where it is. -/
theorem Stage.congr {records others : List Record} (h : Stage kind origin records manifest)
    (clear : ∀ host ∈ writtenDown origin, host ∉ desired kind origin →
      recordsOf host records = [] → recordsOf host others = []) :
    Stage kind origin others manifest := by
  cases h with
  | fresh form => exact .fresh form
  | held form => exact .held form
  | served form pruned =>
    exact .served form fun host hw hd => clear host hw hd (pruned host hw hd)

theorem Stage.of_not_mem_finalizers {records : List Record} (h : Stage kind origin records manifest)
    (hnot : cleanupFinalizer ∉ Manifest.finalizers manifest) :
    Manifest.unversioned manifest = Manifest.unversioned origin := by
  rw [← Cluster.Manifest.finalizers_unversioned] at hnot
  cases h with
  | fresh form => exact form
  | held form =>
    rw [form] at hnot
    exact absurd (mem_finalizers_heldForm origin) hnot
  | served form _ =>
    rw [form] at hnot
    exact absurd (mem_finalizers_servedForm kind origin) hnot

theorem Stage.of_mem_finalizers {records : List Record} (h : Stage kind origin records manifest)
    (hin : cleanupFinalizer ∈ Manifest.finalizers manifest) :
    Manifest.unversioned manifest = heldForm origin ∨
      Manifest.unversioned manifest = servedForm kind origin ∧
        ∀ host ∈ writtenDown origin, host ∉ desired kind origin → recordsOf host records = [] := by
  cases h with
  | fresh form =>
    rw [← Cluster.Manifest.finalizers_unversioned, form,
      Cluster.Manifest.finalizers_unversioned] at hin
    left
    rw [form, heldForm, if_pos hin]
  | held form => exact .inl form
  | served form pruned => exact .inr ⟨form, pruned⟩

theorem managed_of_heldForm (h : Manifest.unversioned manifest = heldForm origin) :
    Manifest.annotation? manifest Key.managedHosts =
      Manifest.annotation? origin Key.managedHosts := by
  rw [← Cluster.Manifest.annotation?_unversioned, h, annotation?_heldForm]

theorem managed_of_servedForm (h : Manifest.unversioned manifest = servedForm kind origin) :
    Manifest.annotation? manifest Key.managedHosts = managedText? (desired kind origin) := by
  rw [← Cluster.Manifest.annotation?_unversioned, h, annotation?_servedForm]

/-! ## From stage to stage -/

theorem own_holding (object : Object) : ∀ member ∈ holdingMembers object,
    Manifest.IsOwn member := by
  intro member hm
  rw [List.mem_singleton.mp hm]
  exact .finalizers _

theorem own_writing (hosts : List String) : ∀ member ∈ writingMembers hosts,
    Manifest.IsOwn member := by
  intro member hm
  rw [List.mem_singleton.mp hm]
  exact .managed _

theorem unversioned_holding (form : Manifest.unversioned manifest = Manifest.unversioned origin)
    (hnot : cleanupFinalizer ∉ Manifest.finalizers manifest) (version : String) :
    Manifest.unversioned (Manifest.written version manifest (Manifest.seen kind manifest)
      (holdingMembers (Manifest.seen kind manifest))) = heldForm origin := by
  have hfin : Manifest.finalizers origin = Manifest.finalizers manifest := by
    rw [← Cluster.Manifest.finalizers_unversioned, ← form,
      Cluster.Manifest.finalizers_unversioned]
  rw [Cluster.Manifest.unversioned_written _ _ _ (by simp [finalizersMember]), form, heldForm,
    hfin, if_neg hnot, holdingMembers, finalizers_seen]

theorem unversioned_writing (form : Manifest.unversioned manifest = heldForm origin)
    (other : Manifest.annotation? manifest Key.managedHosts ≠ managedText? (desired kind origin))
    (version : String) :
    Manifest.unversioned (Manifest.written version manifest (Manifest.seen kind manifest)
      (writingMembers (desired kind origin))) = servedForm kind origin := by
  rw [managed_of_heldForm form] at other
  rw [Cluster.Manifest.unversioned_written _ _ _ (by simp [Manifest.annotationMember]), form,
    servedForm, if_neg other]

/-- Where the hosts are written down already, there is nothing to do. -/
theorem servedForm_eq (form : Manifest.unversioned manifest = heldForm origin)
    (same : Manifest.annotation? manifest Key.managedHosts = managedText? (desired kind origin)) :
    Manifest.unversioned manifest = servedForm kind origin := by
  rw [managed_of_heldForm form] at same
  rw [form, servedForm, if_pos same]

end

end ClusterDns.Reconcile
