import Sniff4Hound.Detection.Anomaly
import Sniff4Hound.Library.WindowDetector

/-!
# When the detectors fire

The queues of `anomaly.py` forget an event only when its key is seen again, the flood detectors empty
theirs when they fire, and the others keep theirs and hold back for a window. `detectors_exact` says
when each of them fires in terms of the whole history of a key, and that other keys do not matter to it.
-/

namespace Sniff4Hound

open EventLog WindowDetector

/-! ## Windows and pauses -/

/-- `while events and events[0] < now - window: events.popleft()` -/
def lastTicks (window : Ticks) : EventLog.Window Ticks where
  keeps now time := decide (now - window ≤ time)
  leaves hLater hKeeps := decide_eq_true ((sub_le_sub_right hLater _).trans (of_decide_eq_true hKeeps))
  newer hNewer hKeeps := decide_eq_true ((of_decide_eq_true hKeeps).trans hNewer)

/-- `now - last < window` -/
def pauseTicks (window : Ticks) : Pause Ticks where
  holds last now := decide (now - last < window)
  longer hLater hHolds :=
    decide_eq_true ((sub_le_sub_left hLater _).trans_lt (of_decide_eq_true hHolds))

theorem dropped_eq (window now time : Ticks) :
    decide (time < now - window) = !(lastTicks window).keeps now time := by
  change decide (time < now - window) = !decide (now - window ≤ time)
  rw [← decide_not, decide_eq_decide, not_le]

theorem cooling_eq (last : Option Ticks) (now window : Ticks) :
    cooling last now window = (pauseTicks window).active last now := by
  cases last with
  | none => rfl
  | some last => rfl

def fires {σ ι : Type} (evaluate : Ticks → ι → σ → σ × Option String) (now : Ticks) (input : ι) (d : σ) :
    σ × Bool := ((evaluate now input d).1, (evaluate now input d).2.isSome)

/-! ## What is counted -/

def floodKey (rt : Runtime) (admits : Packet → Bool) (packet : Packet) : Option String :=
  if !admits packet || packet.stripped rt "src_ip" = "" then none else some (packet.stripped rt "src_ip")

def countsAsIcmp (packet : Packet) : Bool := packet.is "proto" "icmp" || packet.is "proto" "icmpv6"

def countsAsSyn (rt : Runtime) (packet : Packet) : Bool := packet.is "proto" "tcp" && packet.bareSyn rt

abbrev PortPacket := { packet : Packet // (packet "dst_port").unhashable? = none }

def scanKey (rt : Runtime) (packet : PortPacket) : Option String :=
  if !(countsAsSyn rt packet.1 || packet.1.is "proto" "udp") || packet.1.stripped rt "src_ip" = "" ||
      !(packet.1 "dst_port").truthy then none
  else some (packet.1.stripped rt "src_ip")

def loginKey (rt : Runtime) (packet : Packet) : Option String :=
  if !countsAsLogin rt packet || packet.stripped rt "src_ip" = "" || packet.stripped rt "dst_ip" = "" then
    none
  else
    some (packet.stripped rt "src_ip" ++ "->" ++
      (packet.stripped rt "dst_ip" ++ ":" ++ (packet "dst_port").toText rt))

structure MonitoredPacket (threshold window : Int) where
  packet : Packet
  packet_text : String
  monitor : Monitor
  threshold_eq : monitor.rule.criteria.count_threshold = threshold
  window_eq : monitor.rule.criteria.window_seconds = window

def monitoredKey (env : Env) {threshold window : Int} (input : MonitoredPacket threshold window) :
    Option String :=
  let group_by := input.monitor.rule.criteria.group_by
  let key := group_key env.toRuntime input.packet (if group_by = "" then "src_ip" else group_by)
  if threshold ≤ 0 || window ≤ 0 ||
      !rule_matches_packet env input.monitor.enabled input.monitor.rule input.packet input.packet_text then
    none
  else if key = "" then none
  else some key

def distinctPorts (events : List (Ticks × Value)) : Nat :=
  (unique_ordered Value.eqv (events.map Prod.snd)).length

/-! ## The detectors as counters -/

theorem flood_counter (rt : Runtime) (admits : Packet → Bool) (what : String) (window threshold : Nat) :
    ClearingCounter (lastTicks (seconds window)) threshold (floodKey rt admits)
      (fires fun now packet => floodEvaluate rt (admits packet) what window threshold now packet)
      Dict.getList where
  ignores now packet events hKey := by
    rw [floodKey] at hKey
    split at hKey
    · next hIgnored =>
      rw [fires, floodEvaluate]
      dsimp only
      rw [if_pos hIgnored]
      exact ⟨rfl, fun _ => rfl⟩
    · cases hKey
  counts now packet events key hKey := by
    refine ⟨_, rfl, ?_⟩
    rw [floodKey] at hKey
    split at hKey
    · cases hKey
    · next hCounted =>
      cases hKey
      rw [fires, floodEvaluate]
      dsimp only
      rw [if_neg hCounted, Events.record, SlidingWindow.record, SlidingWindow.push]
      simp only [dropped_eq]
      split
      · next hMany => exact ⟨(decide_eq_true hMany).symm, fun k => Dict.getList_set _ _ _ _⟩
      · next hFew => exact ⟨(decide_eq_false hFew).symm, fun k => Dict.getList_set _ _ _ _⟩

theorem count_eq (d : CooledEvents) (window : Ticks) (threshold : Nat) (now : Ticks) (key : String) :
    ∃ kept, kept = (d.events.getList key ++ [now]).dropWhile
        (fun time => !(lastTicks window).keeps now time) ∧
      (d.count window threshold now key).2.isSome = (decide (threshold ≤ kept.length) &&
        !(pauseTicks window).active (d.last_alert.lookup key) now) ∧
      (∀ k, (d.count window threshold now key).1.events.getList k =
        if k = key then kept else d.events.getList k) ∧
      ∀ k, (d.count window threshold now key).1.last_alert.lookup k =
        if k = key then if (d.count window threshold now key).2.isSome = true then some now
          else d.last_alert.lookup k else d.last_alert.lookup k := by
  refine ⟨_, rfl, ?_⟩
  rw [CooledEvents.count, SlidingWindow.push]
  simp only [dropped_eq, cooling_eq]
  generalize (d.events.getList key ++ [now]).dropWhile
    (fun time => !(lastTicks window).keeps now time) = kept
  by_cases hMany : threshold ≤ kept.length
  · rw [decide_eq_true hMany, decide_eq_false (not_lt.mpr hMany), Bool.false_or, Bool.true_and]
    cases (pauseTicks window).active (d.last_alert.lookup key) now with
    | true => exact ⟨rfl, fun k => Dict.getList_set _ _ _ _, fun k => (ite_self _).symm⟩
    | false => exact ⟨rfl, fun k => Dict.getList_set _ _ _ _, fun k => Dict.lookup_set _ _ _ _⟩
  · rw [decide_eq_false hMany, decide_eq_true (not_le.mp hMany), Bool.true_or, Bool.false_and]
    exact ⟨rfl, fun k => Dict.getList_set _ _ _ _, fun k => (ite_self _).symm⟩

theorem login_counter (rt : Runtime) (cfg : Thresholds) :
    CoolingCounter (lastTicks (seconds cfg.BRUTE_FORCE_WINDOW_SECONDS))
      (pauseTicks (seconds cfg.BRUTE_FORCE_WINDOW_SECONDS)) cfg.BRUTE_FORCE_THRESHOLD (loginKey rt)
      (fun now _ => now) id List.length (fires (bruteForceEvaluate rt cfg))
      (fun d => d.events.getList) (fun d k => d.last_alert.lookup k) where
  dated _ _ := rfl
  ignores now packet d hKey := by
    rw [loginKey] at hKey
    split at hKey
    · next hIgnored =>
      rw [fires, bruteForceEvaluate]
      dsimp only
      rw [if_pos hIgnored]
      exact ⟨rfl, fun _ => ⟨rfl, rfl⟩⟩
    · cases hKey
  counts now packet d key hKey := by
    rw [loginKey] at hKey
    split at hKey
    · cases hKey
    · next hCounted =>
      rw [fires, bruteForceEvaluate]
      dsimp only
      rw [if_neg hCounted, Option.some.inj hKey, Option.isSome_map]
      exact count_eq d _ _ now key

def monitoredDetail (key : String) (found : Nat) (window : Int) : String :=
  key ++ ": " ++ toString found ++ "+ matches within " ++ toString window ++ "s"

theorem genericEvaluate_eq (env : Env) {threshold window : Int} (now : Ticks)
    (input : MonitoredPacket threshold window) (d : CooledEvents) :
    genericEvaluate env now input.packet input.packet_text input.monitor d =
      match monitoredKey env input with
      | none => (d, none)
      | some key =>
        ((d.count (seconds window) threshold.toNat now key).1,
          (d.count (seconds window) threshold.toNat now key).2.map fun found =>
            monitoredDetail key found window) := by
  obtain ⟨packet, packet_text, monitor, rfl, rfl⟩ := input
  rw [genericEvaluate, monitoredKey]
  dsimp only
  generalize group_key env.toRuntime packet _ = key
  split
  · rfl
  · split
    · rfl
    · rfl

theorem monitored_counter (env : Env) (threshold window : Int) :
    CoolingCounter (lastTicks (seconds window)) (pauseTicks (seconds window)) threshold.toNat
      (monitoredKey env) (fun now _ => now) id List.length
      (fires fun now (input : MonitoredPacket threshold window) d =>
        genericEvaluate env now input.packet input.packet_text input.monitor d)
      (fun d => d.events.getList) (fun d k => d.last_alert.lookup k) where
  dated _ _ := rfl
  ignores now input d hKey := by
    rw [fires, genericEvaluate_eq, hKey]
    exact ⟨rfl, fun _ => ⟨rfl, rfl⟩⟩
  counts now input d key hKey := by
    rw [fires, genericEvaluate_eq, hKey, Option.isSome_map]
    exact count_eq d _ _ now key

theorem scan_counter (rt : Runtime) (cfg : Thresholds) :
    CoolingCounter (lastTicks (seconds cfg.PORT_SCAN_WINDOW_SECONDS))
      (pauseTicks (seconds cfg.PORT_SCAN_WINDOW_SECONDS)) cfg.PORT_SCAN_DISTINCT_PORTS_THRESHOLD
      (scanKey rt) (fun now packet => (now, packet.1 "dst_port")) Prod.fst distinctPorts
      (fires fun now (packet : PortPacket) => PortScanDetector.evaluate rt cfg now packet.1)
      (fun d k => Dict.getList d.events k) (fun d k => d.last_alert.lookup k) where
  dated _ _ := rfl
  ignores now packet d hKey := by
    rw [scanKey] at hKey
    split at hKey
    · next hIgnored =>
      rw [countsAsSyn] at hIgnored
      rw [fires, PortScanDetector.evaluate]
      dsimp only
      rw [if_pos hIgnored]
      exact ⟨rfl, fun _ => ⟨rfl, rfl⟩⟩
    · cases hKey
  counts now packet d key hKey := by
    refine ⟨_, rfl, ?_⟩
    rw [scanKey] at hKey
    split at hKey
    · cases hKey
    · next hCounted =>
      rw [countsAsSyn] at hCounted
      rw [fires, PortScanDetector.evaluate]
      dsimp only
      rw [if_neg hCounted, Option.some.inj hKey]
      simp only [dropped_eq, cooling_eq]
      generalize (Dict.getList d.events key ++ [(now, packet.1 "dst_port")]).dropWhile
        (fun event => !(lastTicks (seconds cfg.PORT_SCAN_WINDOW_SECONDS)).keeps now event.1) = kept
      rw [distinctPorts]
      by_cases hMany : cfg.PORT_SCAN_DISTINCT_PORTS_THRESHOLD ≤
          (unique_ordered Value.eqv (kept.map Prod.snd)).length
      · rw [if_neg (not_lt.mpr hMany), decide_eq_true hMany, Bool.true_and]
        cases (pauseTicks (seconds cfg.PORT_SCAN_WINDOW_SECONDS)).active (d.last_alert.lookup key) now with
        | true => exact ⟨rfl, fun k => Dict.getList_set _ _ _ _, fun k => (ite_self _).symm⟩
        | false => exact ⟨rfl, fun k => Dict.getList_set _ _ _ _, fun k => Dict.lookup_set _ _ _ _⟩
      · rw [if_pos (not_le.mp hMany), decide_eq_false hMany, Bool.false_and]
        exact ⟨rfl, fun k => Dict.getList_set _ _ _ _, fun k => (ite_self _).symm⟩

/-! ## Whole runs -/

/-- In every run from the start the detector obeys the law, and where two runs see the same inputs of a
key it fires at the same of them. -/
structure Exact {σ ι : Type} (evaluate : Ticks → ι → σ → σ × Option String) (start : σ)
    (key : ι → Option String) (law : List (Sighting Ticks ι) → Sighting Ticks ι → Prop) : Prop where
  lawful : ∀ clock labels s, StepRun.run (watch (fires evaluate)) ⟨clock, start, []⟩ labels = some s →
    Lawful law s.log
  apart : ∀ clock clock' labels labels' s s',
    StepRun.run (watch (fires evaluate)) ⟨clock, start, []⟩ labels = some s →
    StepRun.run (watch (fires evaluate)) ⟨clock', start, []⟩ labels' = some s' → ∀ k,
    (own key k s.log).map (fun seen => (seen.time, seen.input)) =
      (own key k s'.log).map (fun seen => (seen.time, seen.input)) → own key k s.log = own key k s'.log

theorem Exact.of_lawful {σ ι : Type} {evaluate : Ticks → ι → σ → σ × Option String} {start : σ}
    {key : ι → Option String} {law : List (Sighting Ticks ι) → Sighting Ticks ι → Prop}
    (hLaw : Separate key law)
    (h : ∀ clock labels s, StepRun.run (watch (fires evaluate)) ⟨clock, start, []⟩ labels = some s →
      Lawful law s.log) : Exact evaluate start key law where
  lawful := h
  apart clock clock' labels labels' s s' hRun hRun' _ :=
    hLaw.own_eq (h clock labels s hRun) (h clock' labels' s' hRun')

theorem exact_flood (rt : Runtime) (admits : Packet → Bool) (what : String) (window threshold : Nat) :
    Exact (fun now packet => floodEvaluate rt (admits packet) what window threshold now packet) []
      (floodKey rt admits)
      (clearingLaw (lastTicks (seconds window)) threshold (floodKey rt admits)) :=
  .of_lawful clearing_separate fun _ _ _ hRun =>
    (flood_counter rt admits what window threshold).lawful (fun _ => rfl) hRun

/-- A detector that counts the recent sightings of a key and pauses after each report. -/
def cooledLaw {ι : Type} (window : Ticks) (threshold : Nat) (key : ι → Option String) :
    List (Sighting Ticks ι) → Sighting Ticks ι → Prop :=
  coolingLaw (lastTicks window) (pauseTicks window) threshold key (fun now _ => now) id List.length

/-- A detector that counts the different ports of the recent sightings. -/
def scanLaw (rt : Runtime) (cfg : Thresholds) :
    List (Sighting Ticks PortPacket) → Sighting Ticks PortPacket → Prop :=
  coolingLaw (lastTicks (seconds cfg.PORT_SCAN_WINDOW_SECONDS))
    (pauseTicks (seconds cfg.PORT_SCAN_WINDOW_SECONDS)) cfg.PORT_SCAN_DISTINCT_PORTS_THRESHOLD
    (scanKey rt) (fun now packet => (now, packet.1 "dst_port")) Prod.fst distinctPorts

/-- A detector that counts the recent sightings of a source and starts over after a report. -/
def floodLaw (rt : Runtime) (admits : Packet → Bool) (window threshold : Nat) :
    List (Sighting Ticks Packet) → Sighting Ticks Packet → Prop :=
  clearingLaw (lastTicks (seconds window)) threshold (floodKey rt admits)

theorem detectors_exact (env : Env) (cfg : Thresholds) :
    Exact (icmpFloodEvaluate env.toRuntime cfg) [] (floodKey env.toRuntime countsAsIcmp)
        (floodLaw env.toRuntime countsAsIcmp cfg.ICMP_FLOOD_WINDOW_SECONDS cfg.ICMP_FLOOD_THRESHOLD) ∧
      Exact (synFloodEvaluate env.toRuntime cfg) [] (floodKey env.toRuntime (countsAsSyn env.toRuntime))
        (floodLaw env.toRuntime (countsAsSyn env.toRuntime) cfg.SYN_FLOOD_WINDOW_SECONDS
          cfg.SYN_FLOOD_THRESHOLD) ∧
      Exact (dnsQueryFloodEvaluate env.toRuntime cfg) [] (floodKey env.toRuntime countsAsQuery)
        (floodLaw env.toRuntime countsAsQuery cfg.DNS_QUERY_FLOOD_WINDOW_SECONDS
          cfg.DNS_QUERY_FLOOD_THRESHOLD) ∧
      Exact (fun now (packet : PortPacket) => PortScanDetector.evaluate env.toRuntime cfg now packet.1) {}
        (scanKey env.toRuntime) (scanLaw env.toRuntime cfg) ∧
      Exact (bruteForceEvaluate env.toRuntime cfg) {} (loginKey env.toRuntime)
        (cooledLaw (seconds cfg.BRUTE_FORCE_WINDOW_SECONDS) cfg.BRUTE_FORCE_THRESHOLD
          (loginKey env.toRuntime)) ∧
      ∀ threshold window : Int,
        Exact (fun now (input : MonitoredPacket threshold window) d =>
            genericEvaluate env now input.packet input.packet_text input.monitor d) {} (monitoredKey env)
          (cooledLaw (seconds window) threshold.toNat (monitoredKey env)) := by
  refine ⟨exact_flood _ _ _ _ _, exact_flood _ _ _ _ _, exact_flood _ _ _ _ _, ?_, ?_, ?_⟩
  · exact .of_lawful cooling_separate fun _ _ _ hRun =>
      (scan_counter env.toRuntime cfg).lawful (fun _ => ⟨rfl, rfl⟩) hRun
  · exact .of_lawful cooling_separate fun _ _ _ hRun =>
      (login_counter env.toRuntime cfg).lawful (fun _ => ⟨rfl, rfl⟩) hRun
  · intro threshold window
    exact .of_lawful cooling_separate fun _ _ _ hRun =>
      (monitored_counter env threshold window).lawful (fun _ => ⟨rfl, rfl⟩) hRun

/-! ## Three tries in a minute -/

def telnetTry : MonitoredPacket 3 60 where
  packet := Value.get [("proto", .str "tcp"), ("src_ip", .str "10.0.0.5"), ("dst_port", .int 23)]
  packet_text := ""
  monitor :=
    { id := "telnet-tries", name := "", description := "", enabled := true, priority := 100
      mode := "stateful", action := ⟨"", "", "high"⟩
      rule := .node { ports := [23], count_threshold := 3, window_seconds := 60 } [] [] [] }
  threshold_eq := rfl
  window_eq := rfl

def watchTries : Watch CooledEvents Ticks (MonitoredPacket 3 60) →
    Ticks × MonitoredPacket 3 60 → Option (Watch CooledEvents Ticks (MonitoredPacket 3 60)) :=
  watch (fires fun now input d =>
    genericEvaluate Env.ascii now input.packet input.packet_text input.monitor d)

theorem detectors_exact_tries : ∃ s, StepRun.run watchTries ⟨0, {}, []⟩
      [(0, telnetTry), (seconds 58, telnetTry), (seconds 59, telnetTry), (seconds 61, telnetTry)] =
        some s ∧
    s.log.map Sighting.fired = [false, false, true, false] ∧
    Lawful (cooledLaw (seconds 60) 3 (monitoredKey Env.ascii)) s.log := by
  obtain ⟨-, -, -, -, -, hMonitored⟩ := detectors_exact Env.ascii {}
  refine StepRun.exists_end rfl fun s hRun => ⟨?_, (hMonitored 3 60).lawful _ _ _ hRun⟩
  cases hRun
  decide +kernel

end Sniff4Hound
