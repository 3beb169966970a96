import Sniff4Hound.Pipeline.StorePacket
import Sniff4Hound.Runtime.InterfaceContract

/-!
# Requests that change several settings

The handlers of `/api/monitors/config` and `/api/runtime/` apply the settings of a request one by
one, and check each of them when its turn comes. A request that is answered with a validation error
leaves the settings as they were just when nothing that is invalid stands behind a setting that the
request has changed (`requests_atomic_iff`).
-/

namespace Sniff4Hound.SettingsApi

abbrev Payload := List (String × Value)

/-! ## The monitors -/

structure MonitorConfig where
  filter_enabled : Bool
  min_severity : String
  suppress_generated_info : Bool

/-- The rows of `runtime_config`. -/
abbrev Config := Dict String String

section Monitors

variable (rt : Runtime) (defaults : MonitorConfig) (payload : Payload)

def flagText (value : Bool) : String := if value then "1" else "0"

/-- `get_monitor_filter_enabled` and `get_monitor_suppress_generated_info`. -/
def get_flag (config : Config) (key : String) (default : Bool) : Bool :=
  decide (rt.lower (strip ((config.lookup key).getD (flagText default))) ∈ BOOL_TRUE)

def get_monitor_min_severity (config : Config) : String :=
  let stored := (config.lookup "monitor_min_severity").getD defaults.min_severity
  let value := rt.lower (strip stored)
  if value ∈ MONITOR_SEVERITIES then value else defaults.min_severity

def get_monitor_config (config : Config) : MonitorConfig where
  filter_enabled := get_flag rt config "monitor_filter_enabled" defaults.filter_enabled
  min_severity := get_monitor_min_severity rt defaults config
  suppress_generated_info :=
    get_flag rt config "monitor_suppress_generated_info" defaults.suppress_generated_info

def switchText (field_name : String) : Except String String :=
  match coerce_bool rt (Value.get payload field_name) field_name with
  | .error message => .error message
  | .ok value => .ok (flagText value)

/-- The check of `set_monitor_min_severity`. -/
def severityText : Except String String :=
  let value := rt.lower (strip ((Value.get payload "min_severity").text rt))
  if value ∈ MONITOR_SEVERITIES then .ok value
  else .error ("unknown severity " ++ rt.repr (.str value) ++ "; expected one of " ++
    join ", " MONITOR_SEVERITIES)

def setGiven (field_name key : String) (checked : Except String String) (config : Config) :
    Except String Config :=
  if Value.has payload field_name then
    match checked with
    | .error message => .error message
    | .ok text => .ok (config.set key text)
  else .ok config

def setFilter : Config → Except String Config :=
  setGiven payload "filter_enabled" "monitor_filter_enabled"
    (switchText rt payload "filter_enabled")

def setSeverity : Config → Except String Config :=
  setGiven payload "min_severity" "monitor_min_severity" (severityText rt payload)

def setSuppress : Config → Except String Config :=
  setGiven payload "suppress_generated_info" "monitor_suppress_generated_info"
    (switchText rt payload "suppress_generated_info")

/-- `monitors_config`, and the rows that it leaves. -/
def monitors_config (config : Config) : Except String MonitorConfig × Config :=
  match setFilter rt payload config with
  | .error message => (.error message, config)
  | .ok filtered =>
    match setSeverity rt payload filtered with
    | .error message => (.error message, filtered)
    | .ok ranked =>
      match setSuppress rt payload ranked with
      | .error message => (.error message, ranked)
      | .ok final =>
        if ["filter_enabled", "min_severity", "suppress_generated_info"].any (Value.has payload) then
          (.ok (get_monitor_config rt defaults final), final)
        else
          (.error "filter_enabled, min_severity, or suppress_generated_info is required", final)

def Refused (field_name : String) (checked : Except String String) : Prop :=
  Value.has payload field_name = true ∧ checked.toOption = none

def Changes (config : Config) (set : Config → Except String Config) : Prop :=
  ∃ after ∈ (set config).toOption,
    get_monitor_config rt defaults after ≠ get_monitor_config rt defaults config

def MonitorsFit (config : Config) : Prop :=
  let severity := Refused payload "min_severity" (severityText rt payload)
  let suppress := Refused payload "suppress_generated_info"
    (switchText rt payload "suppress_generated_info")
  (Changes rt defaults config (setFilter rt payload) → ¬severity ∧ ¬suppress) ∧
    (Changes rt defaults config (setSeverity rt payload) →
      suppress → Refused payload "filter_enabled" (switchText rt payload "filter_enabled"))

/-- A refused request leaves the configuration that is shown as it was. -/
def MonitorsKept (config : Config) : Prop :=
  (monitors_config rt defaults payload config).1.toOption = none →
    get_monitor_config rt defaults (monitors_config rt defaults payload config).2 =
      get_monitor_config rt defaults config

variable {rt defaults payload} {config after : Config} {field_name key : String}
  {checked : Except String String}

theorem setGiven_refused (h : Refused payload field_name checked) (config : Config) :
    ∃ message, setGiven payload field_name key checked config = .error message := by
  obtain ⟨hHas, hNone⟩ := h
  unfold setGiven
  rw [if_pos hHas]
  cases checked with
  | error message => exact ⟨message, rfl⟩
  | ok text => cases hNone

theorem setGiven_accepted (h : ¬Refused payload field_name checked) (config : Config) :
    ∃ after, setGiven payload field_name key checked config = .ok after := by
  unfold setGiven
  split
  · next hHas =>
    cases checked with
    | error message => exact absurd ⟨hHas, rfl⟩ h
    | ok text => exact ⟨_, rfl⟩
  · exact ⟨config, rfl⟩

theorem setGiven_lookup {other after' : Config} (k : String)
    (h : setGiven payload field_name key checked config = .ok after)
    (h' : setGiven payload field_name key checked other = .ok after')
    (hSame : config.lookup k = other.lookup k) :
    after.lookup k = after'.lookup k ∧ (k ≠ key → after.lookup k = config.lookup k) := by
  unfold setGiven at h h'
  split at h
  · next hHas =>
    rw [if_pos hHas] at h'
    cases checked with
    | error message => cases h
    | ok text =>
      cases h
      cases h'
      rw [Dict.lookup_set, Dict.lookup_set, hSame]
      exact ⟨rfl, fun hNe => if_neg hNe⟩
  · next hHas =>
    rw [if_neg hHas] at h'
    cases h
    cases h'
    exact ⟨hSame, fun _ => rfl⟩

theorem changes_iff {set : Config → Except String Config} (h : set config = .ok after) :
    Changes rt defaults config set ↔
      get_monitor_config rt defaults after ≠ get_monitor_config rt defaults config := by
  rw [Changes, h]
  exact ⟨fun ⟨_, hAfter, hNe⟩ => Option.some.inj hAfter ▸ hNe, fun hNe => ⟨after, rfl, hNe⟩⟩

theorem not_changes {set : Config → Except String Config} {message : String}
    (h : set config = .error message) : ¬Changes rt defaults config set := by
  rw [Changes, h]
  exact fun ⟨_, hNone, _⟩ => nomatch hNone

theorem get_ranked_iff {filtered ranked alone : Config}
    (hFiltered : setFilter rt payload config = .ok filtered)
    (hRanked : setSeverity rt payload filtered = .ok ranked)
    (hAlone : setSeverity rt payload config = .ok alone) :
    get_monitor_config rt defaults ranked = get_monitor_config rt defaults config ↔
      get_monitor_config rt defaults filtered = get_monitor_config rt defaults config ∧
      get_monitor_config rt defaults alone = get_monitor_config rt defaults config := by
  have hFirst := fun k => (setGiven_lookup k hFiltered hFiltered rfl).2
  have hSecond := fun k => (setGiven_lookup k hRanked hRanked rfl).2
  have hThird := fun k => (setGiven_lookup k hAlone hAlone rfl).2
  have hRank := (setGiven_lookup _ hRanked hAlone (hFirst "monitor_min_severity" (by decide))).1
  have hFilter := hSecond "monitor_filter_enabled" (by decide)
  have hSuppress := (hSecond "monitor_suppress_generated_info" (by decide)).trans
    (hFirst "monitor_suppress_generated_info" (by decide))
  simp only [get_monitor_config, MonitorConfig.mk.injEq, get_flag, get_monitor_min_severity, hRank,
    hFilter, hSuppress, hFirst "monitor_min_severity" (by decide),
    hFirst "monitor_suppress_generated_info" (by decide),
    hThird "monitor_filter_enabled" (by decide),
    hThird "monitor_suppress_generated_info" (by decide), and_true, true_and]

theorem monitors_kept_iff (config : Config) :
    MonitorsKept rt defaults payload config ↔ MonitorsFit rt defaults payload config := by
  unfold MonitorsKept MonitorsFit monitors_config
  dsimp only
  by_cases hFilter : Refused payload "filter_enabled" (switchText rt payload "filter_enabled")
  · obtain ⟨message, hRaised⟩ : ∃ message, setFilter rt payload config = .error message :=
      setGiven_refused hFilter config
    rw [hRaised]
    exact ⟨fun _ => ⟨fun h => absurd h (not_changes hRaised), fun _ _ => hFilter⟩, fun _ _ => rfl⟩
  obtain ⟨filtered, hFiltered⟩ : ∃ filtered, setFilter rt payload config = .ok filtered :=
    setGiven_accepted hFilter config
  rw [hFiltered, changes_iff hFiltered]
  dsimp only
  by_cases hSeverity : Refused payload "min_severity" (severityText rt payload)
  · obtain ⟨message, hRaised⟩ : ∃ message, setSeverity rt payload filtered = .error message :=
      setGiven_refused hSeverity filtered
    obtain ⟨message', hAlone⟩ : ∃ message, setSeverity rt payload config = .error message :=
      setGiven_refused hSeverity config
    rw [hRaised]
    constructor
    · exact fun h => ⟨fun hNe => absurd (h rfl) hNe, fun h => absurd h (not_changes hAlone)⟩
    · exact fun h _ => by_contra fun hNe => (h.1 hNe).1 hSeverity
  obtain ⟨ranked, hRanked⟩ : ∃ ranked, setSeverity rt payload filtered = .ok ranked :=
    setGiven_accepted hSeverity filtered
  obtain ⟨alone, hAlone⟩ : ∃ alone, setSeverity rt payload config = .ok alone :=
    setGiven_accepted hSeverity config
  have hBoth := @get_ranked_iff rt defaults payload config _ _ _ hFiltered hRanked hAlone
  rw [hRanked, changes_iff hAlone]
  dsimp only
  by_cases hSuppress : Refused payload "suppress_generated_info"
      (switchText rt payload "suppress_generated_info")
  · obtain ⟨message, hRaised⟩ : ∃ message, setSuppress rt payload ranked = .error message :=
      setGiven_refused hSuppress ranked
    rw [hRaised]
    constructor
    · intro h
      obtain ⟨hSame, hAlso⟩ := hBoth.mp (h rfl)
      exact ⟨fun hNe => absurd hSame hNe, fun hNe => absurd hAlso hNe⟩
    · intro h _
      exact hBoth.mpr ⟨by_contra fun hNe => (h.1 hNe).2 hSuppress,
        by_contra fun hNe => hFilter (h.2 hNe hSuppress)⟩
  · obtain ⟨final, hFinal⟩ : ∃ final, setSuppress rt payload ranked = .ok final :=
      setGiven_accepted hSuppress ranked
    rw [hFinal]
    refine ⟨fun _ => ⟨fun _ => ⟨hSeverity, hSuppress⟩, fun _ h => absurd h hSuppress⟩, fun _ => ?_⟩
    dsimp only
    split
    · exact nofun
    · next hNone =>
      simp only [List.any_cons, List.any_nil, Bool.or_false, Bool.or_eq_true, not_or] at hNone
      obtain ⟨hNoFilter, hNoSeverity, hNoSuppress⟩ := hNone
      cases hFiltered.symm.trans (if_neg hNoFilter)
      cases hRanked.symm.trans (if_neg hNoSeverity)
      cases hFinal.symm.trans (if_neg hNoSuppress)
      exact fun _ => rfl

end Monitors

/-! ## The engines -/

open Interfaces (Controller Pattern normalize_interface_selection)

/-- How a request fails: with a `ValueError`, or otherwise. -/
inductive Failure
  | invalid (message : String)
  | other (message : String)

structure Engines where
  controller : Controller
  honeypot : Bool
  mode : String

structure EngineSettings where
  interfaces : List String
  sniffer : Bool
  honeypot : Bool
  mode : String

def ENGINE_NAMES : List String := ["sniffer", "honeypot"]

section Engines

variable (rt : Runtime) (auto_start : Bool) (p : Pattern) (payload : Payload)

def normalize_runtime_mode (value : Value) : String :=
  let mode := rt.lower (strip (value.text rt))
  if mode ∉ ENGINE_NAMES then "sniffer" else mode

namespace Engines

def settings (s : Engines) : EngineSettings :=
  ⟨s.controller.sniffer.selected.names, s.controller.sniffer.running, s.honeypot, s.mode⟩

def switch (running : Bool) (s : Engines) (name : String) : Engines :=
  if name = "honeypot" then { s with honeypot := running }
  else { s with controller.sniffer.running := running }

def resolve_engines (s : Engines) (engine : Value) : List String :=
  match engine with
  | .null | .str "" => [s.mode]
  | .list items => unique_ordered (fun a b => a == b) (items.map (normalize_runtime_mode rt))
  | other =>
    let name := rt.lower (strip (other.toText rt))
    if name ∈ ["all", "both", "*"] then ENGINE_NAMES else [normalize_runtime_mode rt (.str name)]

/-- `set_engines` with what is wanted of each engine. -/
def set_engines (s : Engines) (wanted : List (String × Bool)) : Engines :=
  wanted.foldl (fun s entry => s.switch entry.2 entry.1) s

def set_mode (s : Engines) (mode : String) : Engines :=
  let s := { s with mode := normalize_runtime_mode rt (.str mode) }
  if auto_start then s.switch true s.mode else s

/-- `set_sniffer_interfaces`: of its errors, that of `set_interfaces` is a `ValueError`. -/
def set_sniffer_interfaces (s : Engines) (interfaces : Value) : Except Failure Unit × Engines :=
  let selected := normalize_interface_selection rt interfaces
  match s.controller.set_sniffer_interfaces rt interfaces p with
  | (.ok _, controller) => (.ok (), { s with controller := controller })
  | (.error message, controller) =>
    match s.controller.sniffer.set_interfaces p.available selected.names with
    | .error _ => (.error (.invalid message), { s with controller := controller })
    | .ok _ => (.error (.other message), { s with controller := controller })

end Engines

/-- `payload.get(key, payload.get(other))` -/
def getOr (key other : String) : Value :=
  if Value.has payload key then Value.get payload key else Value.get payload other

def interfacesOf : Value :=
  match getOr payload "interfaces" "sniffer_interfaces" with
  | .null =>
    if Value.has payload "interface" then Value.get payload "interface"
    else if Value.has payload "sniffer_interface" then Value.get payload "sniffer_interface"
    else .str ""
  | given => given

/-- The engines that are wanted: `none` where the request names them in no list or object. -/
def wantedEngines (action : String) : Except String (Option (List (String × Bool))) :=
  match getOr payload "engine" "engines" with
  | .dict entries =>
    ((ENGINE_NAMES.filter (Value.has entries)).mapM fun name =>
      match coerce_bool rt (Value.get entries name) ("engines." ++ name) with
      | .error message => Except.error message
      | .ok running => .ok (name, running)).map some
  | .list items =>
    if action = "" then
      .ok (some (ENGINE_NAMES.map fun name =>
        (name, decide (name ∈ items.map (normalize_runtime_mode rt)))))
    else .ok none
  | _ => .ok none

/-- The part of `runtime_api` behind the selection of interfaces and engines. -/
def control (mode action : String) (engine : Value) (s : Engines) : Engines :=
  if action = "start" then
    let s := if mode = "" then s else s.set_mode rt auto_start mode
    (s.resolve_engines rt (engine.orElse (.str mode))).foldl (Engines.switch true) s
  else if action = "stop" then
    (s.resolve_engines rt (engine.orElse (.str mode))).foldl (Engines.switch false) s
  else if mode ≠ "" ∧ action = "" then s.set_mode rt auto_start mode
  else s

def modeOf : String :=
  rt.lower (strip (((Value.get payload "mode").orElse (Value.get payload "runtime")).text rt))

def engineUnsupported : Bool :=
  match getOr payload "engine" "engines" with
  | .str name => decide (rt.lower (strip name) ∉ ["", "sniffer", "honeypot", "all", "both"])
  | _ => false

def hasInterface : Bool :=
  ["interface", "interfaces", "sniffer_interface", "sniffer_interfaces"].any (Value.has payload)

/-- `runtime_api` for a POST, and what it leaves. -/
def runtime_api (s : Engines) : Except Failure Unit × Engines :=
  let mode := modeOf rt payload
  let action := rt.lower (strip ((Value.get payload "action").text rt))
  let engine := getOr payload "engine" "engines"
  if mode ≠ "" ∧ mode ∉ ENGINE_NAMES then (.error (.invalid ("Unsupported mode: " ++ mode)), s)
  else if engineUnsupported rt payload then
    (.error (.invalid ("Unsupported engine: " ++ engine.toText rt)), s)
  else
    let selected := if hasInterface payload then
      s.set_sniffer_interfaces rt p (interfacesOf payload) else (.ok (), s)
    match selected with
    | (.error failure, s) => (.error failure, s)
    | (.ok (), s) =>
      match wantedEngines rt payload action with
      | .error message => (.error (.invalid message), s)
      | .ok none =>
        if hasInterface payload = false ∧ action ∉ ["start", "stop"] ∧ (mode = "" ∨ action ≠ "") then
          (.error (.invalid "mode, engine or interface is required"), s)
        else (.ok (), control rt auto_start mode action engine s)
      | .ok (some wanted) =>
        (.ok (), control rt auto_start mode action .null (s.set_engines wanted))

/-- A refused request leaves the settings as they were. -/
def EnginesKept (s : Engines) : Prop :=
  ∀ message, (runtime_api rt auto_start p payload s).1 = .error (.invalid message) →
    (runtime_api rt auto_start p payload s).2.settings = s.settings

def EnginesFit (s : Engines) : Prop :=
  ¬(modeOf rt payload ≠ "" ∧ modeOf rt payload ∉ ENGINE_NAMES) →
    (wantedEngines rt payload (rt.lower (strip ((Value.get payload "action").text rt)))).toOption =
      none →
    hasInterface payload = true →
    (s.set_sniffer_interfaces rt p (interfacesOf payload)).1.toOption = some () →
      normalize_interface_selection rt (interfacesOf payload) = s.controller.sniffer.selected

variable {rt auto_start p payload} {s t : Engines} {interfaces : Value}

theorem persist_sniffer (c : Controller) (selected : Interfaces.Selection)
    (was_running changed : Bool) :
    (c.persist p selected was_running changed).2.sniffer = c.sniffer := by
  rw [Controller.persist]
  split
  · rfl
  · dsimp only
    split <;> rfl

theorem selected_of_ok {c : Controller} {snapshot : Interfaces.RuntimeSnapshot}
    (h : (c.set_sniffer_interfaces rt interfaces p).1 = .ok snapshot) :
    (c.set_sniffer_interfaces rt interfaces p).2.sniffer.selected =
        normalize_interface_selection rt interfaces ∧
      (normalize_interface_selection rt interfaces = c.sniffer.selected →
        (c.set_sniffer_interfaces rt interfaces p).2.sniffer = c.sniffer) := by
  unfold Controller.set_sniffer_interfaces at h ⊢
  generalize normalize_interface_selection rt interfaces = selected at h ⊢
  dsimp only at h ⊢
  cases hSet : c.sniffer.set_interfaces p.available selected.names with
  | error reason =>
    rw [hSet] at h
    cases h
  | ok sniffer =>
    have hSniffer := Interfaces.Sniffer.set_interfaces_selected hSet
    rw [hSet] at h
    dsimp only at h ⊢
    split at h
    · next hRestart =>
      have hWatched := Interfaces.Sniffer.restart_verified_selected sniffer p.restart
      rw [if_pos hRestart]
      split at h
      · cases h
      · next hDone =>
        rw [hDone] at hWatched
        rw [persist_sniffer]
        refine ⟨hWatched.trans (by rw [hSniffer]), fun hSame => ?_⟩
        exact absurd hSame (of_decide_eq_true (Bool.and_eq_true_iff.mp hRestart).2)
    · next hStays =>
      rw [if_neg hStays, persist_sniffer, hSniffer]
      exact ⟨rfl, fun hSame => by rw [hSame]⟩

theorem set_sniffer_interfaces_ok (h : s.set_sniffer_interfaces rt p interfaces = (.ok (), t)) :
    t.controller.sniffer.selected = normalize_interface_selection rt interfaces ∧
      (normalize_interface_selection rt interfaces = s.controller.sniffer.selected →
        t.settings = s.settings) := by
  have hSelected := fun snapshot => @selected_of_ok rt p interfaces s.controller snapshot
  rw [Engines.set_sniffer_interfaces] at h
  split at h
  · next hDone =>
    cases h
    rw [hDone] at hSelected
    obtain ⟨hNew, hSame⟩ := hSelected _ rfl
    have hSettings : ∀ sniffer : Interfaces.Sniffer, sniffer = s.controller.sniffer →
        EngineSettings.mk sniffer.selected.names sniffer.running s.honeypot s.mode = s.settings := by
      rintro _ rfl
      rfl
    exact ⟨hNew, fun hEq => hSettings _ (hSame hEq)⟩
  · split at h <;> cases h

theorem set_sniffer_interfaces_invalid {message : String}
    (h : s.set_sniffer_interfaces rt p interfaces = (.error (.invalid message), t)) :
    t.settings = s.settings := by
  rw [Engines.set_sniffer_interfaces] at h
  split at h
  · cases h
  · next hFailed =>
    split at h
    · next hSet =>
      rw [Controller.set_sniffer_interfaces] at hFailed
      dsimp only at hFailed
      rw [hSet] at hFailed
      cases hFailed
      cases h
      rfl
    · cases h

theorem engines_kept_iff (s : Engines) :
    EnginesKept rt auto_start p payload s ↔ EnginesFit rt p payload s := by
  unfold EnginesKept EnginesFit runtime_api
  dsimp only
  by_cases hMode : modeOf rt payload ≠ "" ∧ modeOf rt payload ∉ ENGINE_NAMES
  · rw [if_pos hMode]
    exact ⟨fun _ h => absurd hMode h, fun _ _ _ => rfl⟩
  rw [if_neg hMode]
  generalize rt.lower (strip ((Value.get payload "action").text rt)) = action
  split
  · next hEngine =>
    have hNone : wantedEngines rt payload action = .ok none := by
      unfold wantedEngines
      unfold engineUnsupported at hEngine
      split at hEngine
      · next hText => rw [hText]
      · cases hEngine
    rw [hNone]
    exact ⟨fun _ _ h => (nomatch h), fun _ _ _ => rfl⟩
  by_cases hHas : hasInterface payload = true
  · rw [if_pos hHas]
    cases hSet : s.set_sniffer_interfaces rt p (interfacesOf payload) with | mk result after =>
    cases result with
    | error failure =>
      refine ⟨fun _ _ _ _ h => (nomatch h), fun _ message hFailed => ?_⟩
      cases hFailed
      exact set_sniffer_interfaces_invalid hSet
    | ok _ =>
      obtain ⟨hNew, hSame⟩ := set_sniffer_interfaces_ok hSet
      dsimp only
      cases wantedEngines rt payload action with
      | error message =>
        constructor
        · intro h _ _ _ _
          have hKept := congrArg EngineSettings.interfaces (h message rfl)
          exact hNew ▸ Interfaces.Selection.ext hKept
        · exact fun h _ _ => hSame (h hMode rfl hHas rfl)
      | ok wanted =>
        refine ⟨fun _ _ h => (nomatch h), fun _ message hFailed => ?_⟩
        cases wanted with
        | some wanted => cases hFailed
        | none =>
          dsimp only at hFailed
          rw [if_neg fun h => absurd hHas (by rw [h.1]; decide)] at hFailed
          cases hFailed
  · rw [if_neg hHas]
    refine ⟨fun _ _ _ h => absurd h hHas, fun _ message hFailed => ?_⟩
    cases hWanted : wantedEngines rt payload action with
    | error reason => rfl
    | ok wanted =>
      rw [hWanted] at hFailed
      cases wanted with
      | some wanted => cases hFailed
      | none =>
        dsimp only at hFailed ⊢
        split at hFailed
        · next hNothing => rw [if_pos hNothing]
        · cases hFailed

end Engines

/-! ## Both requests -/

/-- A request that is refused leaves the settings as they were just when it is refused before it has
changed one of them. -/
theorem requests_atomic_iff (rt : Runtime) (payload : Payload) :
    (∀ defaults config,
      MonitorsKept rt defaults payload config ↔ MonitorsFit rt defaults payload config) ∧
    ∀ auto_start p s, EnginesKept rt auto_start p payload s ↔ EnginesFit rt p payload s :=
  ⟨fun _ config => monitors_kept_iff config, fun _ _ s => engines_kept_iff s⟩

/-- The filter is off although the severity is refused. -/
theorem refused_severity_applies : ¬MonitorsKept .ascii ⟨true, "info", false⟩
    [("filter_enabled", .bool false), ("min_severity", .str "urgent")] [] := by
  intro h
  have hFilter := congrArg MonitorConfig.filter_enabled (h (by decide +kernel))
  exact absurd hFilter (by decide +kernel)

end Sniff4Hound.SettingsApi
