import ClusterDns.Config.Validation
import ClusterDns.Http.Agent
import ClusterDns.Proofs.Reconcile.Desired
import ClusterDns.Proofs.Unicode.Lowercase
import ClusterDns.Proofs.Url.Base
import ClusterDns.Proofs.Url.Segment

/-! Configurations that pass their check are ready for use. A client can be made for them, every
target address they lead to is one in dotted form, and there is nothing left to put right. -/

namespace ClusterDns.Config

open PiHole (Endpoint)
open Reconcile (Annotations)

variable {config checked : Config}

/-- What is asked of a configuration. -/
structure IsSound (config : Config) : Prop where
  url : ∃ url, Url.parse config.piholeUrl = .ok url ∧ Http.isSupported url = true
  password : config.piholePassword ≠ ""
  target : Net.Ipv4.isLiteral config.defaultTargetIp = true
  level : Unicode.lowercase config.logLevel ∈ logLevels
  header : Http.isHeaderName config.sessionHeader = true
  field : config.passwordField ≠ ""
  timeout : config.timeoutSecs ≠ 0

theorem urlFault?_eq_none_iff {text : String} : urlFault? text = none ↔
    ∃ url, Url.parse text = .ok url ∧ Http.isSupported url = true := by
  unfold urlFault? Http.isSupported
  cases Url.parse text with
  | error e => simp
  | ok url => simp [or_iff_not_imp_left]

theorem fault?_eq_none_iff : config.fault? = none ↔ config.IsSound := by
  have hparts : config.fault? = none ↔
      (∃ url, Url.parse config.piholeUrl = .ok url ∧ Http.isSupported url = true) ∧
        config.piholePassword ≠ "" ∧ Net.Ipv4.isLiteral config.defaultTargetIp = true ∧
        Unicode.lowercase config.logLevel ∈ logLevels ∧
        Http.isHeaderName config.sessionHeader = true ∧ config.passwordField ≠ "" ∧
        config.timeoutSecs ≠ 0 := by
    simp [fault?, urlFault?_eq_none_iff, normal]
  rw [hparts]
  constructor
  · rintro ⟨url, password, target, level, header, field, timeout⟩
    exact ⟨url, password, target, level, header, field, timeout⟩
  · intro h
    exact ⟨h.url, h.password, h.target, h.level, h.header, h.field, h.timeout⟩

theorem validate_eq_ok_iff :
    config.validate = .ok checked ↔ config.IsSound ∧ checked = config.normal := by
  rw [← fault?_eq_none_iff, validate]
  cases config.fault? with
  | none => simp [eq_comm]
  | some fault => simp

/-! ## Checking again -/

theorem lowercase_of_mem_logLevels {level : String} (h : level ∈ logLevels) :
    Unicode.lowercase level = level := by
  -- over the lists themselves: a statement about all characters would be tried on each there is
  have hsmall : (logLevels.all fun level =>
      level.toList.all fun c => decide (Unicode.IsPlainSmall c)) = true := by decide
  refine Unicode.lowercase_of_isPlainSmall fun c hc => ?_
  have hlevel := List.all_eq_true.mp hsmall level h
  exact of_decide_eq_true (List.all_eq_true.mp hlevel c hc)

theorem filter_ne_empty (text? : Option String) :
    text?.filter (· ≠ "") = if text? = some "" then none else text? := by
  cases text? with
  | none => rfl
  | some text => by_cases h : text = "" <;> simp [h]

theorem IsSound.normal_normal (h : config.IsSound) : config.normal.normal = config.normal := by
  have hlevel := lowercase_of_mem_logLevels h.level
  simp [normal, hlevel]

theorem IsSound.normal (h : config.IsSound) : config.normal.IsSound := by
  have hlevel := lowercase_of_mem_logLevels h.level
  exact ⟨h.url, h.password, h.target, hlevel.symm ▸ h.level, h.header, h.field, h.timeout⟩

/-! ## Use -/

/-- A path is added to any URL that paths can be built on. -/
theorem exists_apiBase {baseUrl : String} {url : Url} (h : Url.parse baseUrl = .ok url)
    (base : url.isBase = true) (apiPath : String) :
    ∃ api, Endpoint.apiBase baseUrl apiPath = .ok api ∧ api.scheme = url.scheme := by
  obtain ⟨list, hlist⟩ := Url.isBase_iff.mp base
  refine ⟨_, ?_, Url.extend_scheme { url with path := .segments (Url.dropEmptyLast list) }
    (Endpoint.pathSegments apiPath)⟩
  simp only [Endpoint.apiBase, h, hlist]

theorem isSpecial_of_isSupported {url : Url} (h : Http.isSupported url = true) :
    url.isSpecial = true := by
  rw [Http.isSupported, Bool.or_eq_true, decide_eq_true_eq, decide_eq_true_eq] at h
  rcases h with h | h
  · rw [Url.isSpecial, h]
    decide
  · rw [Url.isSpecial, h]
    decide

theorem IsSound.exists_endpoint (h : config.IsSound) : ∃ endpoint,
    Endpoint.ofSettings config.clientSettings = .ok endpoint ∧
      Http.isSupported endpoint.base = true := by
  obtain ⟨url, hurl, hsupported⟩ := h.url
  have base := Url.isBase_of_special hurl (isSpecial_of_isSupported hsupported)
  obtain ⟨api, hapi, hscheme⟩ := exists_apiBase hurl base config.apiPath
  have hheader : Http.isHeaderName config.clientSettings.sessionHeader = true := h.header
  have hbase : Endpoint.apiBase config.clientSettings.baseUrl config.clientSettings.apiPath =
      .ok api := hapi
  refine ⟨⟨api, config.piholePassword, config.sessionHeader, config.passwordField⟩, ?_, ?_⟩
  · rw [Endpoint.ofSettings, hbase]
    exact if_pos hheader
  · rw [Http.isSupported, hscheme]
    exact hsupported

/-- A configuration that passes its check passes it again, unchanged. The check has changed nothing
but the log level, which is in small letters now, and an empty namespace, which means none. A client
can be made of it, and whatever an object's annotations say, the address its hosts are bound to is
one in dotted form. -/
theorem validated_is_usable (h : config.validate = .ok checked) :
    checked.validate = .ok checked ∧
    checked = { config with
      logLevel := Unicode.lowercase config.logLevel
      watchNamespace := if config.watchNamespace = some "" then none
        else config.watchNamespace } ∧
    (∃ endpoint, Endpoint.ofSettings checked.clientSettings = .ok endpoint ∧
      Http.isSupported endpoint.base = true) ∧
    ∀ (annotations : Annotations) (address : String),
      annotations.target? checked.defaultTargetIp = some address →
        ∃ ip : Net.Ipv4, address = ip.render := by
  obtain ⟨sound, rfl⟩ := validate_eq_ok_iff.mp h
  refine ⟨?_, ?_, sound.normal.exists_endpoint, fun annotations address htarget => ?_⟩
  · exact validate_eq_ok_iff.mpr ⟨sound.normal, sound.normal_normal.symm⟩
  · rw [← filter_ne_empty]
    rfl
  · exact Net.Ipv4.isLiteral_iff.mp (Reconcile.isLiteral_of_target? sound.normal.target htarget)

/-- A configuration with a log level in capitals and an empty namespace. -/
def shouted : Config where
  piholeUrl := "http://pihole.lan/admin?x=1"
  piholePassword := "secret"
  defaultTargetIp := "10.0.0.1"
  watchNamespace := some ""
  logLevel := "DEBUG"

theorem validated_is_usable_of_shouted :
    shouted.validate = .ok shouted.normal ∧
    shouted.normal.validate = .ok shouted.normal ∧
    shouted.normal.logLevel = "debug" ∧ shouted.normal.watchNamespace = none ∧
    (∃ endpoint, Endpoint.ofSettings shouted.normal.clientSettings = .ok endpoint ∧
      Http.isSupported endpoint.base = true) ∧
    ∃ ip : Net.Ipv4, "10.0.0.7" = ip.render := by
  have sound : shouted.IsSound := fault?_eq_none_iff.mp (by decide +kernel)
  have passed : shouted.validate = .ok shouted.normal := validate_eq_ok_iff.mpr ⟨sound, rfl⟩
  have asked : Annotations.target? [(Reconcile.Key.targetIp, "10.0.0.7")]
      shouted.normal.defaultTargetIp = some "10.0.0.7" := by decide +kernel
  obtain ⟨again, -, endpoint, target⟩ := validated_is_usable passed
  exact ⟨passed, again, by decide +kernel, by decide +kernel, endpoint, target _ _ asked⟩

end ClusterDns.Config
