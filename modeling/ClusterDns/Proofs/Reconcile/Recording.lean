import ClusterDns.Proofs.Reconcile.Convergence

/-! Hostnames written down on an object, and read from it again. They are kept in one text with commas
in between; a list comes back from its text just if none of its elements is empty, has a comma, or
begins or ends with a blank. Hostnames that were read from an annotation are all of this kind. -/

namespace ClusterDns.Reconcile

open Cluster (Kind Object Manifest.read? Manifest.resourceVersion? Manifest.seen)
open Rehearsal
open Text.CommaList (IsElement)

/-- An annotation that names any hosts stands in for the object's own. -/
theorem hosts_of_override {annotations : Annotations} {text : String}
    (override : annotations.get? Key.hosts = some text) (names : Text.CommaList.parse text ≠ [])
    (declared : List String) : annotations.hosts declared = Text.CommaList.parse text := by
  rw [Annotations.hosts, override, Option.map_some]
  cases hparse : Text.CommaList.parse text with
  | nil => exact absurd hparse names
  | cons host rest => rfl

/-- Hosts of this kind are read from the object they were written down on. -/
theorem ends_recording {kind : Kind} {manifest : Json} {object : Object} {version : String}
    {w : World} {hosts : List String} (stored : w.server.find? object.ref = some manifest)
    (versioned : Manifest.resourceVersion? manifest = some version)
    (readable : Manifest.read? kind manifest = some object)
    (remains : object.isBeingDeleted = true → object.finalizers ≠ [])
    (elements : ∀ host ∈ hosts, IsElement host) : ∃ after w',
      Ends kind (writeManaged ⟨kind, object.ref⟩ hosts) w () w' ∧
      w'.fetch kind object.ref = .ok (some after) ∧
      Annotations.managed after.annotations = hosts := by
  obtain ⟨rfl, itself⟩ := Cluster.Manifest.Kindred.itself readable versioned
  obtain ⟨last, w', hends, -, hlast, kindred, -, recorded⟩ :=
    ends_writing stored itself remains hosts
  refine ⟨Manifest.seen kind last, w', hends, World.fetch_of_read hlast kindred.readable, ?_⟩
  rw [managed_seen, writtenDown, recorded]
  refine parse_managedText? (fun host hh => ?_) fun hempty => (elements "" hempty).full rfl
  exact (Text.CommaList.isElement_iff.mp (elements host hh)).2

/-- A list is read back from its text if and only if each element of it is one that reading gives:
not empty, without commas, and without blanks at its ends. So reading, writing and reading again is
the same as reading once, and the hosts of an annotation, each once, are read from an object after
they were written down on it. -/
theorem managed_hosts_are_read_back :
    (∀ elements : List String,
      Text.CommaList.parse (Text.CommaList.render elements) = elements ↔
        ∀ element ∈ elements, IsElement element) ∧
    (∀ s, ∀ element ∈ Text.CommaList.parse s, IsElement element) ∧
    (∀ s, Text.CommaList.parse (Text.CommaList.render (Text.CommaList.parse s)) =
      Text.CommaList.parse s) ∧
    ∀ (annotations : Annotations) (declared : List String) (text : String) (kind : Kind)
      (manifest : Json) (object : Object) (version : String) (w : World),
      annotations.get? Key.hosts = some text → Text.CommaList.parse text ≠ [] →
      w.server.find? object.ref = some manifest →
      Manifest.resourceVersion? manifest = some version →
      Manifest.read? kind manifest = some object →
      (object.isBeingDeleted = true → object.finalizers ≠ []) → ∃ after w',
        Ends kind
          (writeManaged ⟨kind, object.ref⟩ (distinct (annotations.hosts declared))) w () w' ∧
        w'.fetch kind object.ref = .ok (some after) ∧
        Annotations.managed after.annotations = distinct (annotations.hosts declared) := by
  refine ⟨fun elements => Text.CommaList.parse_render_iff,
    fun s element => Text.CommaList.isElement_of_mem_parse, Text.CommaList.parse_render_parse, ?_⟩
  intro annotations declared text kind manifest object version w override names stored versioned
    readable remains
  refine ends_recording stored versioned readable remains fun host hh => ?_
  have hin := mem_distinct hh
  rw [hosts_of_override override names] at hin
  exact Text.CommaList.isElement_of_mem_parse hin

/-- A route that names its hosts with blanks, a comma too many, and one of them twice. -/
def namingManifest : Json := ApiServer.stamped "1" (routeManifest
  [(Key.register, "true"), (Key.hosts, " b.lan ,a.lan,, b.lan"), (Key.managedHosts, "old.lan")]
  [cleanupFinalizer])

def namingRoute : Object := Manifest.seen .ingress namingManifest

theorem managed_hosts_are_read_back_of_naming :
    distinct (Annotations.hosts namingRoute.annotations ["c.lan"]) = ["b.lan", "a.lan"] ∧
    ∃ after w', Ends .ingress (writeManaged ⟨.ingress, namingRoute.ref⟩
        (distinct (Annotations.hosts namingRoute.annotations ["c.lan"])))
        (.holding namingManifest []) () w' ∧
      w'.fetch .ingress namingRoute.ref = .ok (some after) ∧
      Annotations.managed after.annotations =
        distinct (Annotations.hosts namingRoute.annotations ["c.lan"]) := by
  have override : Annotations.get? namingRoute.annotations Key.hosts =
      some " b.lan ,a.lan,, b.lan" := by decide +kernel
  have names : Text.CommaList.parse " b.lan ,a.lan,, b.lan" ≠ [] := by decide +kernel
  have stored : (World.holding namingManifest []).server.find? namingRoute.ref =
      some namingManifest := rfl
  have versioned : Manifest.resourceVersion? namingManifest = some "1" := by decide +kernel
  have readable : Manifest.read? .ingress namingManifest = some namingRoute := rfl
  have stays : namingRoute.isBeingDeleted = true → namingRoute.finalizers ≠ [] := by
    decide +kernel
  exact ⟨by decide +kernel, managed_hosts_are_read_back.2.2.2 _ _ _ _ _ _ _ _ override names stored
    versioned readable stays⟩

end ClusterDns.Reconcile
