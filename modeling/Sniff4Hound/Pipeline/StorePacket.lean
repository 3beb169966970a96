import Sniff4Hound.Detection.Anomaly
import Sniff4Hound.Detection.MonitorIndex
import Sniff4Hound.Pipeline.PacketGates

/-!
# The verdict on a packet

`Sniffer._store_packet`: the checks before detection, the rules, monitors and anomaly
detectors, the tags, and what is counted and handed to the store on the way. The caches may
be refreshed between any two packets, so each packet comes with the values they have then.
Broadcasts, the debug trace, the network history (which never raises) and the trimming of
tables every fifty packets leave the counters alone and are left out.

A muted packet is counted as muted and then, having no hits, as clean as well.

* `drift`: after every stream the alerts and the clean packets are the evaluated and the
  muted ones together, and both are the packets that came up for detection.
* `verdicts_counted`: the same at every point of a stream, with what a muted packet adds.
* `verdicts_balance`: the alerts and the clean packets are the evaluated ones alone exactly as
  long as nothing is muted.
-/

namespace Sniff4Hound

/-! ## Rules -/

/-- A rule of a ruleset; `rule` is its `match`. -/
structure Rule where
  id : String
  name : String
  priority : Int
  enabled : Bool
  rule : Match
  action : Action

/-- An entry of the result of `classify_packet`. -/
structure RuleHit where
  rule_id : String
  rule_name : String
  tag : String
  label : String
  severity : String
deriving DecidableEq

def Rule.before (a b : Rule) : Prop :=
  a.priority < b.priority ∨ a.priority = b.priority ∧ a.name ≤ b.name

instance : DecidableRel Rule.before := fun _ _ => inferInstanceAs (Decidable (_ ∨ _))

def Rule.hit (rule : Rule) : RuleHit where
  rule_id := rule.id
  rule_name := rule.name
  tag := if rule.action.tag = "" then rule.id else rule.action.tag
  label := if rule.action.label = "" then rule.name else rule.action.label
  severity := if rule.action.severity = "" then "info" else rule.action.severity

def classify_packet (env : Env) (packet : Packet) (rulesets : List Rule) : List RuleHit :=
  ((rulesets.insertionSort Rule.before).filter fun rule =>
    rule_matches_packet env rule.enabled rule.rule packet (build_packet_text env packet)).map
      Rule.hit

/-! ## Hits -/

/-- A hit of a monitor or of a detector; `silenced` is its `suppressed_since_last`. -/
structure MonitorHit where
  monitor_id : String
  monitor_name : String
  tag : String
  label : String
  severity : String
  detail : String
  silenced : Nat
deriving DecidableEq

def Hit.raised (hit : Hit) : MonitorHit :=
  ⟨hit.monitor_id, hit.monitor_name, hit.tag, hit.label, hit.severity, "", 0⟩

def AnomalyHit.raised (hit : AnomalyHit) : MonitorHit :=
  ⟨hit.monitor_id, hit.monitor_name, hit.tag, hit.label, hit.severity, hit.detail, 0⟩

def MONITOR_SEVERITIES : List String := ["info", "low", "medium", "high", "critical"]

/-- `MONITOR_SEVERITY_RANK.get(severity, 0)` -/
def severityRank (severity : String) : Nat :=
  if severity ∈ MONITOR_SEVERITIES then MONITOR_SEVERITIES.idxOf severity else 0

/-- `str(hit.get("severity") or "info").strip().lower()` -/
def MonitorHit.level (rt : Runtime) (hit : MonitorHit) : String :=
  rt.lower (strip (if hit.severity = "" then "info" else hit.severity))

def filter_monitor_hits (rt : Runtime) (min_severity : String) (suppress_generated_info : Bool)
    (hits : List MonitorHit) : List MonitorHit :=
  hits.filter fun hit =>
    let severity := hit.level rt
    severityRank min_severity ≤ severityRank severity &&
      !(suppress_generated_info && startswith (strip hit.monitor_id) "builtin-signal-" &&
        (severity = "info" || severity = "low"))

/-- `RuleAlertThrottle`; a key is a monitor and a source address. -/
structure RuleAlertThrottle where
  window_seconds : Int
  last_emit : Dict (String × String) Ticks
  suppressed_since_last : Dict (String × String) Nat

def THROTTLED_SEVERITIES : List String := ["medium", "high", "critical"]

def RULE_ALERT_THROTTLE_ENABLED : Bool := false

/-- One round of the loop of `partition`. -/
def RuleAlertThrottle.round (rt : Runtime) (t : RuleAlertThrottle) (source : String) (now : Ticks)
    (hit : MonitorHit) : RuleAlertThrottle × List MonitorHit × List MonitorHit :=
  if hit.level rt ∉ THROTTLED_SEVERITIES then (t, [hit], [])
  else
    let key := (if hit.monitor_id = "" then hit.tag else hit.monitor_id, source)
    if cooling (t.last_emit.lookup key) now (seconds t.window_seconds) then
      ({ t with suppressed_since_last :=
          t.suppressed_since_last.set key ((t.suppressed_since_last.lookup key).getD 0 + 1) },
        [], [hit])
    else
      let silenced := (t.suppressed_since_last.lookup key).getD 0
      ({ t with
          suppressed_since_last := t.suppressed_since_last.erase key
          last_emit := t.last_emit.set key now },
        [if silenced = 0 then hit else { hit with silenced := silenced }], [])

def RuleAlertThrottle.partition (rt : Runtime) (t : RuleAlertThrottle) (source : String)
    (now : Ticks) : List MonitorHit → RuleAlertThrottle × List MonitorHit × List MonitorHit
  | [] => (t, [], [])
  | hit :: rest =>
    let (t, allowed, suppressed) := t.round rt source now hit
    let (t, moreAllowed, moreSuppressed) := t.partition rt source now rest
    (t, allowed ++ moreAllowed, suppressed ++ moreSuppressed)

/-! ## Tags -/

structure PacketTag where
  key : String
  value : String
  severity : Option String
deriving DecidableEq

def textTag (key text severity : String) : List PacketTag :=
  if strip text = "" then [] else [⟨key, strip text, some severity⟩]

def labelOf (label tag name : String) : String :=
  if label ≠ "" then label else if tag ≠ "" then tag else name

def hitTags (hit : MonitorHit) : List PacketTag :=
  let severity := if hit.severity = "" then "info" else hit.severity
  textTag "monitor" (labelOf hit.label hit.tag hit.monitor_name) severity ++
    textTag "monitor_id" hit.monitor_id severity ++ textTag "detail" hit.detail severity ++
    if 0 < hit.silenced then
      [⟨"monitor_suppressed_count", toString hit.silenced, some severity⟩]
    else []

def suppressedTags (hit : MonitorHit) : List PacketTag :=
  let severity := if hit.severity = "" then "info" else hit.severity
  textTag "monitor_suppressed" (labelOf hit.label hit.tag hit.monitor_name) severity ++
    textTag "monitor_suppressed_id" hit.monitor_id severity

/-- `str(packet.get(key) or default).strip().lower() or default` -/
def namedField (rt : Runtime) (packet : Packet) (key default : String) : String :=
  let name := rt.lower (strip (((packet key).orElse (.str default)).toText rt))
  if name = "" then default else name

def portTag (rt : Runtime) (packet : Packet) (key : String) : List PacketTag :=
  if (packet key).truthy then [⟨key, (packet key).toText rt, none⟩] else []

def build_packet_tags (rt : Runtime) (packet : Packet) (rule_hits : List RuleHit)
    (monitor_hits suppressed_hits : List MonitorHit) : List PacketTag :=
  [⟨"proto", normalize_protocol_name rt (packet "proto"), none⟩,
    ⟨"state", namedField rt packet "state" "open", none⟩,
    ⟨"direction", namedField rt packet "direction" "unknown", none⟩] ++
  portTag rt packet "src_port" ++ portTag rt packet "dst_port" ++
  rule_hits.flatMap (fun hit => textTag "rule" (labelOf hit.label hit.tag hit.rule_name)
    (if hit.severity = "" then "info" else hit.severity)) ++
  monitor_hits.flatMap hitTags ++ suppressed_hits.flatMap suppressedTags

/-! ## The state -/

/-- The counters of `CaptureState`. -/
structure CaptureState where
  packets_seen : Nat
  packets_total_bytes : Int
  packets_stored : Nat
  detection_evaluated : Nat
  detection_alerts : Nat
  detection_clean : Nat
  detection_muted : Nat
  packets_whitelisted : Nat
deriving DecidableEq

inductive Metric
  | evaluated
  | alerts
  | clean
  | muted
  | whitelisted

/-- `_count_detection_metric` -/
def CaptureState.count (s : CaptureState) : Metric → CaptureState
  | .evaluated => { s with detection_evaluated := s.detection_evaluated + 1 }
  | .alerts => { s with detection_alerts := s.detection_alerts + 1 }
  | .clean => { s with detection_clean := s.detection_clean + 1 }
  | .muted => { s with detection_muted := s.detection_muted + 1 }
  | .whitelisted => { s with packets_whitelisted := s.packets_whitelisted + 1 }

/-- `_touch_packet` -/
def CaptureState.touch (rt : Runtime) (s : CaptureState) (packet : Packet) (stored : Bool) :
    CaptureState :=
  { s with
    packets_seen := s.packets_seen + 1
    packets_total_bytes := s.packets_total_bytes +
      max (packet.number rt "length") (packet.number rt "payload_len")
    packets_stored := if stored then s.packets_stored + 1 else s.packets_stored }

/-- What `register_packet` is given. -/
structure Registration where
  packet : Packet
  rule_hits : List RuleHit
  monitor_hits : List MonitorHit
  tags : List PacketTag
  allow_raw : Bool

/-- The sniffer; `deferred` are the writes of the batch under way and `written` those that
have reached the store. -/
structure Sniffing where
  state : CaptureState
  throttle : RuleAlertThrottle
  anomaly : AnomalyEngine
  deferred : List Registration
  written : List Registration

def CaptureState.zero : CaptureState := ⟨0, 0, 0, 0, 0, 0, 0, 0⟩

def Sniffing.start : Sniffing := ⟨.zero, ⟨45, [], []⟩, {}, [], []⟩

structure Caches where
  gates : Gates
  monitors : Catalog
  monitors_by_id : MonitorMap
  index : IndexState
  filter_enabled : Bool
  rulesets : List Rule
  min_severity : String
  suppress_generated_info : Bool
  persist_all : Bool
  thresholds : Thresholds

/-- What becomes of the write of a packet: it waits for the end of the batch, it is saved at
once, or `register_packet` raises. -/
inductive WriteOutcome
  | deferred
  | saved
  | raises
  deriving DecidableEq

/-- One call of `_store_packet` with what it meets. -/
structure PacketCall where
  caches : Caches
  packet : Packet
  now : Ticks
  anomalyRaises : Bool
  write : WriteOutcome

variable (env : GateEnv)

def PacketCall.Admitted (call : PacketCall) : Prop := Sniff4Hound.Admitted env call.caches.gates call.packet

def PacketCall.Muted (call : PacketCall) : Prop := detection_muted env call.caches.gates call.packet = true

instance (call : PacketCall) : Decidable (call.Admitted env) :=
  inferInstanceAs (Decidable (Sniff4Hound.Admitted _ _ _))

instance (call : PacketCall) : Decidable (call.Muted env) := inferInstanceAs (Decidable (_ = true))

/-- What detection says about a packet: the rule hits, the monitor hits and the ones the
throttle silenced. -/
structure Verdict where
  rule_hits : List RuleHit
  monitor_hits : List MonitorHit
  suppressed_hits : List MonitorHit

/-- The part of `_store_packet` that evaluates a packet. -/
def reach_verdict (s : Sniffing) (call : PacketCall) : Sniffing × Verdict :=
  let rt := env.toRuntime
  let c := call.caches
  let rule_hits := classify_packet env.toEnv call.packet c.rulesets
  let catalog_hits := if c.filter_enabled then
    (evaluate_packet env.toEnv c.index call.packet c.monitors).map Hit.raised else []
  let hits := filter_monitor_hits rt c.min_severity c.suppress_generated_info catalog_hits
  let (throttle, allowed, suppressed) := if RULE_ALERT_THROTTLE_ENABLED then
    s.throttle.partition rt (strip ((call.packet "src_ip").text rt)) call.now hits
    else (s.throttle, hits, [])
  let (anomaly, anomaly_hits) := s.anomaly.evaluate env.toEnv c.thresholds call.now call.packet
    c.monitors_by_id
  -- an engine that raises may have changed its state and gives no hits
  let anomaly_hits := if call.anomalyRaises then [] else anomaly_hits.map AnomalyHit.raised
  ({ s with throttle := throttle, anomaly := anomaly },
    ⟨rule_hits, allowed ++ anomaly_hits, suppressed⟩)

/-- The end of `_store_packet`. -/
def persist_packet (s : Sniffing) (call : PacketCall) (muted : Bool) (verdict : Verdict) : Sniffing :=
  let rt := env.toRuntime
  let is_alert := !verdict.monitor_hits.isEmpty
  let registration : Registration := ⟨call.packet, verdict.rule_hits, verdict.monitor_hits,
    build_packet_tags rt call.packet verdict.rule_hits verdict.monitor_hits
      verdict.suppressed_hits, is_alert⟩
  if muted || is_alert || call.caches.persist_all then
    match call.write with
    | .deferred => { s with deferred := s.deferred ++ [registration] }
    | .saved => { s with
        state := s.state.touch rt call.packet true
        written := s.written ++ [registration] }
    | .raises => s
  else { s with state := s.state.touch rt call.packet false }

def store_packet (s : Sniffing) (call : PacketCall) : Sniffing :=
  let gates := call.caches.gates
  if is_own_dashboard_traffic env gates call.packet then s
  else if whitelisted env gates call.packet then
    { s with state := (s.state.count .whitelisted).touch env.toRuntime call.packet false }
  else
    let muted := detection_muted env gates call.packet
    let s := { s with state := s.state.count (if muted then .muted else .evaluated) }
    let (s, verdict) := if muted then (s, ⟨[], [], []⟩) else reach_verdict env s call
    let is_alert := !verdict.monitor_hits.isEmpty
    let s := { s with state := s.state.count (if is_alert then .alerts else .clean) }
    persist_packet env s call muted verdict

/-- `start` sets the counters to zero. -/
def Sniffing.restart (s : Sniffing) : Sniffing := { s with state := .zero }

def store_packets (s : Sniffing) (calls : List PacketCall) : Sniffing :=
  calls.foldl (store_packet env) s

/-! ## What a packet adds to the counters -/

structure Verdicts where
  evaluated : Nat
  alerts : Nat
  clean : Nat
  muted : Nat
deriving DecidableEq

def CaptureState.verdicts (s : CaptureState) : Verdicts :=
  ⟨s.detection_evaluated, s.detection_alerts, s.detection_clean, s.detection_muted⟩

@[simp] theorem touch_verdicts (rt : Runtime) (s : CaptureState) (packet : Packet)
    (stored : Bool) : (s.touch rt packet stored).verdicts = s.verdicts := rfl

variable (s : Sniffing)

@[simp] theorem persist_packet_verdicts (call : PacketCall) (muted : Bool) (verdict : Verdict) :
    (persist_packet env s call muted verdict).state.verdicts = s.state.verdicts := by
  unfold persist_packet
  dsimp only
  split
  · split
    · rfl
    · exact touch_verdicts _ _ _ _
    · rfl
  · exact touch_verdicts _ _ _ _

theorem store_packet_refused {call : PacketCall} (hOut : ¬ call.Admitted env) :
    (store_packet env s call).state.verdicts = s.state.verdicts := by
  unfold store_packet
  dsimp only
  split
  · rfl
  · next hOwn =>
    split
    · rfl
    · next hListed =>
      exact absurd ⟨Bool.eq_false_iff.mpr hOwn, Bool.eq_false_iff.mpr hListed⟩ hOut

theorem store_packet_muted {call : PacketCall} (hIn : call.Admitted env) (hMuted : call.Muted env) :
    (store_packet env s call).state.verdicts =
      { s.state.verdicts with
        clean := s.state.verdicts.clean + 1
        muted := s.state.verdicts.muted + 1 } := by
  obtain ⟨hOwn, hListed⟩ := hIn
  unfold PacketCall.Muted at hMuted
  simp only [store_packet, hOwn, hListed, hMuted, Bool.false_eq_true, if_false, if_true,
    persist_packet_verdicts]
  rfl

theorem store_packet_evaluated {call : PacketCall} (hIn : call.Admitted env)
    (hMuted : ¬ call.Muted env) : ∃ alert : Bool, (store_packet env s call).state.verdicts =
      { s.state.verdicts with
        evaluated := s.state.verdicts.evaluated + 1
        alerts := s.state.verdicts.alerts + if alert then 1 else 0
        clean := s.state.verdicts.clean + if alert then 0 else 1 } := by
  obtain ⟨hOwn, hListed⟩ := hIn
  have hLoud : detection_muted env call.caches.gates call.packet = false :=
    Bool.eq_false_iff.mpr hMuted
  simp only [store_packet, hOwn, hListed, hLoud, Bool.false_eq_true, if_false,
    persist_packet_verdicts]
  split
  · exact ⟨true, rfl⟩
  · exact ⟨false, rfl⟩

/-! ## Streams -/

def tally (s : Sniffing) (calls : List PacketCall) : Verdicts :=
  (store_packets env s.restart calls).state.verdicts

theorem tally_snoc (calls : List PacketCall) (call : PacketCall) :
    tally env s (calls ++ [call]) =
      (store_packet env (store_packets env s.restart calls) call).state.verdicts := by
  simp [tally, store_packets]

/-- What the counters say after every stream: the packets that came up for detection were
evaluated or muted, and each of them counts as an alert or as clean. -/
theorem drift (calls : List PacketCall) :
    calls.countP (fun call => call.Admitted env) =
        (tally env s calls).evaluated + (tally env s calls).muted ∧
      (tally env s calls).alerts + (tally env s calls).clean =
        (tally env s calls).evaluated + (tally env s calls).muted ∧
      (tally env s calls).muted =
        calls.countP (fun call => call.Admitted env ∧ call.Muted env) := by
  induction calls using List.reverseRecOn with
  | nil => exact ⟨rfl, rfl, rfl⟩
  | append_singleton calls call ih =>
    rw [tally_snoc, List.countP_append, List.countP_append, List.countP_singleton,
      List.countP_singleton]
    have hBefore : tally env s calls = (store_packets env s.restart calls).state.verdicts := rfl
    rw [hBefore] at ih
    obtain ⟨hIn, hBoth, hMutedCount⟩ := ih
    by_cases hAdmitted : call.Admitted env
    · by_cases hMuted : call.Muted env
      · rw [store_packet_muted env _ hAdmitted hMuted]
        simp only [hAdmitted, hMuted, and_self, decide_true, if_true]
        omega
      · obtain ⟨alert, hCounted⟩ := store_packet_evaluated env
          (store_packets env s.restart calls) hAdmitted hMuted
        rw [hCounted]
        simp only [hAdmitted, hMuted, and_false, decide_true, decide_false, if_true,
          Bool.false_eq_true, if_false]
        cases alert <;> simp only [Bool.false_eq_true, if_false, if_true] <;> omega
    · rw [store_packet_refused env _ hAdmitted]
      simp only [hAdmitted, false_and, decide_false, Bool.false_eq_true, if_false]
      omega

/-- The counters at every point of a stream, where a muted packet adds to `muted` and `clean`
and to nothing else. -/
def Counted (s : Sniffing) (calls : List PacketCall) : Prop :=
  (∀ pre, pre <+: calls →
    (tally env s pre).evaluated + (tally env s pre).muted =
      (tally env s pre).alerts + (tally env s pre).clean ∧
    pre.countP (fun call => call.Admitted env) =
      (tally env s pre).evaluated + (tally env s pre).muted) ∧
  ∀ pre call, pre ++ [call] <+: calls → call.Admitted env → call.Muted env →
    tally env s (pre ++ [call]) =
      { tally env s pre with
        clean := (tally env s pre).clean + 1
        muted := (tally env s pre).muted + 1 }

theorem verdicts_counted (s : Sniffing) (calls : List PacketCall) : Counted env s calls := by
  refine ⟨?_, ?_⟩
  · intro pre _
    obtain ⟨hIn, hBoth, -⟩ := drift env s pre
    exact ⟨hBoth.symm, hIn⟩
  · intro pre call _ hIn hMuted
    rw [tally_snoc, store_packet_muted env _ hIn hMuted]
    rfl

/-- What the counters would satisfy if a muted packet were only muted. -/
def Balanced (s : Sniffing) (calls : List PacketCall) : Prop :=
  (∀ pre, pre <+: calls →
    (tally env s pre).evaluated = (tally env s pre).alerts + (tally env s pre).clean ∧
    pre.countP (fun call => call.Admitted env) =
      (tally env s pre).evaluated + (tally env s pre).muted) ∧
  ∀ pre call, pre ++ [call] <+: calls → call.Admitted env → call.Muted env →
    (tally env s (pre ++ [call])).evaluated = (tally env s pre).evaluated ∧
    (tally env s (pre ++ [call])).alerts = (tally env s pre).alerts ∧
    (tally env s (pre ++ [call])).clean = (tally env s pre).clean

/-- The evaluated packets are the alerts and the clean ones, and a muted packet is none of them,
exactly as long as no packet that comes up for detection is muted. -/
theorem verdicts_balance (calls : List PacketCall) :
    Balanced env s calls ↔ ∀ call ∈ calls, call.Admitted env → ¬ call.Muted env := by
  constructor
  · intro hBalanced call hCall hIn hMuted
    obtain ⟨pre, post, rfl⟩ := List.append_of_mem hCall
    obtain ⟨-, -, hSame⟩ := hBalanced.2 pre call ⟨post, by simp⟩ hIn hMuted
    rw [tally_snoc, store_packet_muted env _ hIn hMuted] at hSame
    have hBefore : tally env s pre = (store_packets env s.restart pre).state.verdicts := rfl
    rw [hBefore] at hSame
    dsimp only at hSame
    omega
  · intro hLoud
    refine ⟨?_, ?_⟩
    · intro pre hPre
      obtain ⟨hIn, hBoth, hMuted⟩ := drift env s pre
      have hNone : pre.countP (fun call => call.Admitted env ∧ call.Muted env) = 0 := by
        rw [List.countP_eq_zero]
        intro call hCall hBad
        have hBoth : call.Admitted env ∧ call.Muted env := by simpa using hBad
        exact hLoud call (hPre.subset hCall) hBoth.1 hBoth.2
      rw [hNone] at hMuted
      exact ⟨by omega, hIn⟩
    · intro pre call hPre hIn hMuted
      exact absurd hMuted (hLoud call (hPre.subset (by simp)) hIn)

def excludingCaches : Caches where
  gates := ⟨45678, [], [], ⟨[], [8081], [], []⟩, []⟩
  monitors := ⟨0, [], List.nodup_nil⟩
  monitors_by_id := ⟨0, []⟩
  index := {}
  filter_enabled := true
  rulesets := []
  min_severity := "info"
  suppress_generated_info := false
  persist_all := false
  thresholds := { at_least_one := defaults_at_least_one }

def packetTo (dst_port : Int) : Packet := fun key =>
  if key = "proto" then .str "tcp"
  else if key = "src_port" then .int 51234
  else if key = "dst_port" then .int dst_port
  else .null

def mutedCall : PacketCall := ⟨excludingCaches, packetTo 8081, 0, false, .saved⟩

/-- It is muted, not evaluated, and counted as clean. -/
theorem muted_counts_clean :
    tally GateEnv.ascii Sniffing.start [mutedCall] = ⟨0, 0, 1, 1⟩ ∧
      ¬ Balanced GateEnv.ascii Sniffing.start [mutedCall] := by
  have hTally : tally GateEnv.ascii Sniffing.start [mutedCall] = ⟨0, 0, 1, 1⟩ := by decide
  refine ⟨hTally, ?_⟩
  intro hBalanced
  have hSum := (hBalanced.1 [mutedCall] List.prefix_rfl).1
  rw [hTally] at hSum
  cases hSum

end Sniff4Hound
