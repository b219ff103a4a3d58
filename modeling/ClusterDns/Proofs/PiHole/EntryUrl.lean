import ClusterDns.PiHole.Record
import ClusterDns.PiHole.Settings
import ClusterDns.Proofs.Url.Extension

/-! The URL of an entry. Whatever an address and a name are made of, the entry is one segment below
the list of hosts: the URL leads to the same server, and no text leads out of the list. Entries that
differ have URLs that differ, as long as nothing in them is left out of a URL. -/

namespace ClusterDns.PiHole

open Url (IsDotted IsInert visible)

theorem space_mem_toEntry (record : Record) : ' ' ∈ record.toEntry.toList := by
  simp [Record.toEntry]

theorem not_isDotted_toEntry (record : Record) : ¬ IsDotted record.toEntry :=
  Url.not_isDotted_of_mem (space_mem_toEntry record)

/-- Nothing in the entry is left out where it is put into a URL. -/
def Record.IsPlain (record : Record) : Prop :=
  ∀ c ∈ record.toEntry.toList, c ≠ '\t' ∧ c ≠ '\n' ∧ c ≠ '\r'

namespace Endpoint

/-- All requests go below the URL of the settings. -/
theorem exists_of_apiBase {baseUrl apiPath : String} {base : Url}
    (h : apiBase baseUrl apiPath = .ok base) :
    ∃ url list, Url.parse baseUrl = .ok url ∧ base = { url with path := .segments list } := by
  unfold apiBase at h
  split at h
  · cases h
  · rename_i url hurl
    split at h
    · cases h
    · rename_i list hlist
      have hbase : ∃ list, base.path = .segments list := by
        rw [← Except.ok.inj h]
        exact Url.exists_segments_extend ⟨_, rfl⟩ _
      obtain ⟨longer, hlonger⟩ := hbase
      refine ⟨url, longer, hurl, ?_⟩
      rw [← hlonger, ← Except.ok.inj h, Url.extend_path]

theorem segmentSet_push (url : Url) (segment : String) :
    (url.push segment).segmentSet = url.segmentSet := by
  unfold Url.segmentSet Url.isSpecial
  rw [Url.push_scheme]

/-- The segments of the list of hosts show as they are. -/
theorem encode_hostsSegment (url : Url) : ∀ segment ∈ ["config", "dns", "hosts"],
    Url.Percent.encode url.segmentSet (visible segment.toList) = segment := by
  unfold Url.segmentSet
  split <;> decide +kernel

variable {endpoint : Endpoint} {list : List String}

/-- The list of hosts is three segments below the URL of the settings. -/
theorem exists_hostsUrl (h : endpoint.base.path = .segments list) :
    ∃ above, endpoint.hostsUrl =
      { endpoint.base with path := .segments (above ++ ["config", "dns", "hosts"]) } := by
  have hencode := encode_hostsSegment endpoint.base
  have hlong : ∀ (above : List String) (last : String), last ≠ "" → above ++ [last] ≠ [""] := by
    intro above last hlast he
    exact hlast (by simpa using congrArg List.getLast? he)
  obtain ⟨above, hconfig⟩ := Url.exists_push_path h "config" (by decide)
  rw [hencode "config" (by simp)] at hconfig
  have hdns := Url.push_path_of_segments hconfig (hlong _ _ (by simp)) "dns" (by decide)
  rw [segmentSet_push, hencode "dns" (by simp)] at hdns
  have hhosts := Url.push_path_of_segments hdns (hlong _ _ (by simp)) "hosts" (by decide)
  rw [segmentSet_push, segmentSet_push, hencode "hosts" (by simp)] at hhosts
  refine ⟨above, ?_⟩
  rw [hostsUrl, Url.extend_path]
  show { endpoint.base with path := (((endpoint.base.push "config").push "dns").push "hosts").path } =
    _
  rw [hhosts]
  simp

/-! ## One segment below the list -/

/-- The segment that stands for a record. -/
def entrySegment (endpoint : Endpoint) (record : Record) : String :=
  Url.Percent.encode endpoint.base.segmentSet (visible record.toEntry.toList)

theorem entryUrl_eq (h : endpoint.base.path = .segments list) (record : Record) :
    ∃ above, 2 ≤ above.length ∧
      endpoint.hostsUrl = { endpoint.base with path := .segments above } ∧
      endpoint.entryUrl record.toEntry =
        { endpoint.base with path := .segments (above ++ [endpoint.entrySegment record]) } := by
  obtain ⟨above, hhosts⟩ := exists_hostsUrl h
  refine ⟨above ++ ["config", "dns", "hosts"], by simp, hhosts, ?_⟩
  have hlong : above ++ ["config", "dns", "hosts"] ≠ [""] := by
    intro he
    simpa using congrArg List.getLast? he
  have hpath : endpoint.hostsUrl.path = .segments (above ++ ["config", "dns", "hosts"]) := by
    rw [hhosts]
  unfold entryUrl
  rw [Url.push_path, Url.push_path_of_segments hpath hlong _ (not_isDotted_toEntry record), hhosts]
  rfl

theorem decode_entrySegment {record : Record} (plain : record.IsPlain) :
    Url.Percent.decode (endpoint.entrySegment record).toList =
      Text.Utf8.encode record.toEntry.toList := by
  have hall : visible record.toEntry.toList = record.toEntry.toList := by
    simpa [Url.visibleText] using congrArg String.toList (Url.visibleText_eq plain)
  unfold entrySegment
  rw [Url.Percent.decode_encode (Url.segmentSet_percent _), hall]

theorem toEntry_eq_of_entrySegment {record other : Record} (plain : record.IsPlain)
    (otherPlain : other.IsPlain)
    (h : endpoint.entrySegment record = endpoint.entrySegment other) :
    record.toEntry = other.toEntry := by
  have hbytes : Text.Utf8.encode record.toEntry.toList =
      Text.Utf8.encode other.toEntry.toList := by
    rw [← decode_entrySegment plain, h, decode_entrySegment otherPlain]
  have hchars := congrArg Text.Utf8.decodeLossy hbytes
  rw [Text.Utf8.decodeLossy_encode, Text.Utf8.decodeLossy_encode] at hchars
  exact String.toList_inj.mp hchars

/-- How the URL of a record lies to the URL of the settings and to the list of hosts. -/
structure Confines (endpoint : Endpoint) (url : Url) (record : Record) : Prop where
  /-- The list differs from the settings in the path, the record from the list in one segment. -/
  below : ∃ above, endpoint.hostsUrl = { url with path := .segments above } ∧
    endpoint.entryUrl record.toEntry =
      { url with path := .segments (above ++ [endpoint.entrySegment record]) }
  /-- So it does as a text. -/
  text : (endpoint.entryUrl record.toEntry).render =
    endpoint.hostsUrl.front ++ "/" ++ endpoint.entrySegment record ++ endpoint.hostsUrl.back
  list_text : endpoint.hostsUrl.render = endpoint.hostsUrl.front ++ endpoint.hostsUrl.back
  /-- No reader of the text takes the segment for more than one, or for the end of the path. -/
  inert : ∀ c ∈ (endpoint.entrySegment record).toList, IsInert c
  not_dot : Url.isDot (endpoint.entrySegment record).toList = false
  not_double_dot : Url.isDoubleDot (endpoint.entrySegment record).toList = false
  decoded : record.IsPlain → Url.Percent.decode (endpoint.entrySegment record).toList =
    Text.Utf8.encode record.toEntry.toList
  distinct : record.IsPlain → ∀ other : Record, other.IsPlain →
    other.toEntry ≠ record.toEntry →
      (endpoint.entryUrl other.toEntry).render ≠ (endpoint.entryUrl record.toEntry).render

theorem render_entryUrl (h : endpoint.base.path = .segments list) (record : Record) :
    (endpoint.entryUrl record.toEntry).render =
      endpoint.hostsUrl.front ++ "/" ++ endpoint.entrySegment record ++ endpoint.hostsUrl.back := by
  obtain ⟨above, hlong, hhosts, hentry⟩ := entryUrl_eq h record
  have hpath : endpoint.hostsUrl.path = .segments above := by rw [hhosts]
  have hbelow : endpoint.entryUrl record.toEntry = { endpoint.hostsUrl with
      path := .segments (above ++ [endpoint.entrySegment record]) } := by
    rw [hentry, hhosts]
  rw [hbelow, Url.render_eq, Url.front_longer hpath hlong]
  rfl

/-- The entry of a record, whatever its texts, is one segment below the list of hosts of the server
that the settings name. -/
theorem entryUrl_confined {baseUrl apiPath : String}
    (accepted : apiBase baseUrl apiPath = .ok endpoint.base)
    (web : endpoint.base.scheme = "http" ∨ endpoint.base.scheme = "https") (record : Record) :
    ∃ url, Url.parse baseUrl = .ok url ∧ endpoint.Confines url record := by
  obtain ⟨url, list, hurl, hbase⟩ := exists_of_apiBase accepted
  have hpath : endpoint.base.path = .segments list := by rw [hbase]
  have hset : endpoint.base.segmentSet = Url.Percent.specialSegment := by
    unfold Url.segmentSet Url.isSpecial
    rcases web with h | h <;> rw [h] <;> rfl
  have hspace : ' ' ∈ visible record.toEntry.toList :=
    List.mem_filter.mpr ⟨space_mem_toEntry record, by decide⟩
  have hencoded : endpoint.base.segmentSet ' ' = true := by
    rw [hset]
    decide
  have hdots := Url.not_dots_of_space hencoded hspace
  obtain ⟨above, -, hhosts, hentry⟩ := entryUrl_eq hpath record
  refine ⟨url, hurl, ?_⟩
  constructor
  case below =>
    refine ⟨above, ?_, ?_⟩
    · rw [hhosts, hbase]
    · rw [hentry, hbase]
  case text => exact render_entryUrl hpath record
  case list_text => exact Url.render_eq _
  case inert =>
    unfold entrySegment
    rw [hset]
    exact fun c hc => Url.Percent.isInert_of_mem_encode hc
  case not_dot => exact hdots.1
  case not_double_dot => exact hdots.2
  case decoded => exact decode_entrySegment
  case distinct =>
    intro plain other otherPlain hne hrender
    rw [render_entryUrl hpath, render_entryUrl hpath] at hrender
    have hsegment := (String.append_right_inj _).mp ((String.append_left_inj _).mp hrender)
    exact hne (toEntry_eq_of_entrySegment otherPlain plain hsegment)

/-- An address and a name that look like ways out, a query and a fragment. -/
def hostile : Record := ⟨"/../b\\?#%2F", ".."⟩

/-- They are none. -/
theorem entryUrl_confined_of_hostile :
    ∃ endpoint : Endpoint, apiBase "http://10.0.0.1:8080/admin/?x=1#top" "/api" = .ok endpoint.base ∧
      (endpoint.entryUrl hostile.toEntry).render = "http://10.0.0.1:8080/admin/api/config/dns/hosts/" ++
        "..%20%2F..%2Fb%5C%3F%23%252F?x=1#top" ∧
      hostile.IsPlain ∧ ∃ url, Url.parse "http://10.0.0.1:8080/admin/?x=1#top" = .ok url ∧
        endpoint.Confines url hostile := by
  have hbase : (apiBase "http://10.0.0.1:8080/admin/?x=1#top" "/api").toOption.map (fun base =>
      (base.scheme, (entryUrl ⟨base, "", "", ""⟩ hostile.toEntry).render)) = some ("http",
        "http://10.0.0.1:8080/admin/api/config/dns/hosts/..%20%2F..%2Fb%5C%3F%23%252F?x=1#top") := by
    decide +kernel
  have plain : hostile.IsPlain := by simp [hostile, Record.IsPlain, Record.toEntry]
  cases accepted : apiBase "http://10.0.0.1:8080/admin/?x=1#top" "/api" with
  | error e =>
    rw [accepted] at hbase
    cases hbase
  | ok base =>
    rw [accepted] at hbase
    obtain ⟨hscheme, hrender⟩ := Prod.mk.inj (Option.some.inj hbase)
    exact ⟨⟨base, "", "", ""⟩, rfl, hrender, plain, entryUrl_confined accepted (.inl hscheme) hostile⟩

end Endpoint

end ClusterDns.PiHole
