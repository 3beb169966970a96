import Sniff4Hound.Store.CatalogContract
import Mathlib.Data.List.Sort

/-!
# Refreshing the monitors of the sniffer

`Sniffer._refresh_monitor_cache`: one store read after the other, each of which may raise,
then the assignments. Refreshes follow each other; edits of the catalog and of the settings
come at any moment between two reads. What an exception leaves behind is the stamp that was
recorded before it, and the stamp decides whether the next refresh reads the catalog at all.

* `refresh_current`: where the stamp may be trusted, a refresh leaves a list of the store.
-/

namespace Sniff4Hound

open Store

/-! ## The store -/

/-- The order of `list_monitors`. -/
def MonitorRow.before (a b : String × MonitorRow) : Prop :=
  a.2.priority < b.2.priority ∨ a.2.priority = b.2.priority ∧ a.2.name ≤ b.2.name

instance : DecidableRel MonitorRow.before := fun _ _ => inferInstanceAs (Decidable (_ ∨ _))

abbrev MonitorList := List (String × MonitorRow)

def list_monitors (rows : Dict String MonitorRow) : MonitorList :=
  rows.insertionSort MonitorRow.before

/-- The other reads of a refresh; `ω` are whitelist entries and `φ` exclusion filters. -/
structure Settings (ω φ : Type) where
  whitelist : List ω
  monitor_filter_enabled : Bool
  raw_retention_enabled : Bool
  monitor_min_severity : String
  monitor_suppress_generated_info : Bool
  detection_exclude_scopes : List String
  exclusion_filters : φ
  persist_mode : String
  cache_limit : Int

variable {ω φ : Type}

def settingReads (ω φ : Type) : List (Settings ω φ → Settings ω φ → Settings ω φ) :=
  [fun store got => { got with whitelist := store.whitelist },
   fun store got => { got with monitor_filter_enabled := store.monitor_filter_enabled },
   fun store got => { got with raw_retention_enabled := store.raw_retention_enabled },
   fun store got => { got with monitor_min_severity := store.monitor_min_severity },
   fun store got =>
    { got with monitor_suppress_generated_info := store.monitor_suppress_generated_info },
   fun store got => { got with detection_exclude_scopes := store.detection_exclude_scopes },
   fun store got => { got with exclusion_filters := store.exclusion_filters }]

/-! ## The sniffer -/

abbrev Stamp := Nat × Option Nat × Nat

/-- The attributes that a refresh assigns. `_monitor_cache` is a list from the start; the
limit is that of the packet cache, when there is one. -/
structure SnifferCache (ω φ : Type) where
  monitor_cache : MonitorList
  monitor_stamp : Option Stamp
  whitelist_cache : List ω
  monitor_filter_enabled : Bool
  store_raw_packet_bytes : Bool
  pipeline_persist_all : Bool
  packet_cache_limit : Option Int
  monitor_min_severity : String
  monitor_suppress_generated_info : Bool
  detection_exclude_scopes : List String
  exclusion_filters : φ

structure Locals (ω φ : Type) where
  monitors : MonitorList
  reloaded : Bool
  got : Settings ω φ

inductive RefreshPc (ω φ : Type)
  | idle
  | readStamp
  | readList (stamp : Stamp)
  | readSetting (n : Nat) (locals : Locals ω φ)
  | index (locals : Locals ω φ)
  | assign (locals : Locals ω φ)

/-- The last three fields are not in the code. `listed` is the table that the refresh which
recorded the stamp read its list from, and `assigned` says that this refresh went on to assign
the list; `since` are the lists of the catalogs that the store has held since the current
refresh read its stamp. -/
structure RefreshState (ω φ : Type) where
  catalog : Store.Catalog
  settings : Settings ω φ
  sniffer : SnifferCache ω φ
  pc : RefreshPc ω φ
  listed : Dict String MonitorRow
  assigned : Bool
  since : List MonitorList

/-- An edit or a setting, or a step of the refresh. -/
inductive RefreshLabel (ω φ : Type)
  | edit (e : Edit)
  | configure (settings : Settings ω φ)
  | begin
  | succeeds
  | raises

def DEFAULT_PERSIST_MODE : String := "alerts"

def PACKET_CACHE_LIMIT_DEFAULT : Int := 20000

/-- The assignments; `pipeline` is what `_read_pipeline_config` gave. -/
def SnifferCache.assign (c : SnifferCache ω φ) (locals : Locals ω φ) (pipeline : String × Int) :
    SnifferCache ω φ where
  monitor_cache := locals.monitors
  monitor_stamp := c.monitor_stamp
  whitelist_cache := locals.got.whitelist
  monitor_filter_enabled := locals.got.monitor_filter_enabled
  store_raw_packet_bytes := locals.got.raw_retention_enabled
  pipeline_persist_all := pipeline.1 = "all"
  packet_cache_limit := c.packet_cache_limit.map fun _ => pipeline.2
  monitor_min_severity := locals.got.monitor_min_severity
  monitor_suppress_generated_info := locals.got.monitor_suppress_generated_info
  detection_exclude_scopes := locals.got.detection_exclude_scopes
  exclusion_filters := locals.got.exclusion_filters

def RefreshState.finish (s : RefreshState ω φ) (locals : Locals ω φ) (pipeline : String × Int) :
    RefreshState ω φ :=
  { s with
    sniffer := s.sniffer.assign locals pipeline
    pc := .idle
    assigned := s.assigned || locals.reloaded }

def RefreshState.succeed (s : RefreshState ω φ) : Option (RefreshState ω φ) :=
  match s.pc with
  | .idle => none
  | .readStamp =>
    let stamp := s.catalog.monitor_catalog_stamp
    let s := { s with since := [list_monitors s.catalog.monitors] }
    -- the stamp is the recorded one: the list is kept and the catalog is not read
    if s.sniffer.monitor_stamp = some stamp then
      some { s with pc := .readSetting 0 ⟨s.sniffer.monitor_cache, false, s.settings⟩ }
    else some { s with pc := .readList stamp }
  | .readList stamp =>
    some { s with
      sniffer := { s.sniffer with monitor_stamp := some stamp }
      pc := .readSetting 0 ⟨list_monitors s.catalog.monitors, true, s.settings⟩
      listed := s.catalog.monitors
      assigned := false }
  | .readSetting n locals =>
    match (settingReads ω φ)[n]? with
    | some read =>
      some { s with pc := .readSetting (n + 1) { locals with got := read s.settings locals.got } }
    | none => some { s with pc := if locals.reloaded then .index locals else .assign locals }
  | .index locals => some { s with pc := .assign locals }
  | .assign locals => some (s.finish locals (s.settings.persist_mode, s.settings.cache_limit))

def RefreshState.fail (s : RefreshState ω φ) : Option (RefreshState ω φ) :=
  match s.pc with
  | .idle => none
  | .assign locals => some (s.finish locals (DEFAULT_PERSIST_MODE, PACKET_CACHE_LIMIT_DEFAULT))
  | _ => some { s with pc := .idle }

def RefreshState.edited (s : RefreshState ω φ) (catalog : Store.Catalog) : RefreshState ω φ :=
  { s with
    catalog := catalog
    since := s.since ++ [list_monitors catalog.monitors] }

def RefreshState.step (env : CatalogEnv) (s : RefreshState ω φ) :
    RefreshLabel ω φ → Option (RefreshState ω φ)
  | .edit e => (s.catalog.step env e).map s.edited
  | .configure settings => some { s with settings := settings }
  | .begin =>
    match s.pc with
    | .idle => some { s with pc := .readStamp }
    | _ => none
  | .succeeds => s.succeed
  | .raises => s.fail

def RefreshState.initial (catalog : Store.Catalog) (settings : Settings ω φ)
    (sniffer : SnifferCache ω φ) : RefreshState ω φ where
  catalog := catalog
  settings := settings
  sniffer := { sniffer with monitor_cache := [], monitor_stamp := none }
  pc := .idle
  listed := []
  assigned := false
  since := []

/-! ## When a stamp may be trusted -/

/-- A refresh that finds the recorded stamp: the refresh that recorded it assigned its list,
and the table is the one that list was read from. -/
def RefreshState.Trusted (s : RefreshState ω φ) : RefreshLabel ω φ → Prop
  | .succeeds =>
    match s.pc with
    | .readStamp => s.sniffer.monitor_stamp = some s.catalog.monitor_catalog_stamp →
        s.assigned = true ∧ s.listed = s.catalog.monitors
    | _ => True
  | _ => True

instance : (s : RefreshState ω φ) → (l : RefreshLabel ω φ) → Decidable (s.Trusted l)
  | s, .succeeds =>
    match hPc : s.pc with
    | .readStamp => decidable_of_iff (s.sniffer.monitor_stamp =
        some s.catalog.monitor_catalog_stamp → s.assigned = true ∧ s.listed = s.catalog.monitors)
        (by simp [RefreshState.Trusted, hPc])
    | .idle | .readList _ | .readSetting _ _ | .index _ | .assign _ =>
      isTrue (by simp [RefreshState.Trusted, hPc])
  | _, .edit _ | _, .configure _ | _, .begin | _, .raises => isTrue trivial

/-- The list that a refresh carries: one of the store since it read its stamp, and the one
that belongs to the recorded stamp. -/
structure RefreshState.Carries (s : RefreshState ω φ) (locals : Locals ω φ) : Prop where
  since : locals.monitors ∈ s.since
  listed : locals.monitors = list_monitors s.listed

def RefreshState.PcOk (s : RefreshState ω φ) : RefreshPc ω φ → Prop
  | .idle | .readStamp => True
  | .readList _ => list_monitors s.catalog.monitors ∈ s.since
  | .readSetting _ locals | .index locals | .assign locals => s.Carries locals

structure RefreshState.Holds (s : RefreshState ω φ) : Prop where
  assigned : s.assigned = true → s.sniffer.monitor_cache = list_monitors s.listed
  pc : s.PcOk s.pc

variable {env : CatalogEnv} {s s' : RefreshState ω φ}

theorem initial_holds (catalog : Store.Catalog) (settings : Settings ω φ)
    (sniffer : SnifferCache ω φ) : (RefreshState.initial catalog settings sniffer).Holds where
  assigned h := by cases h
  pc := trivial

theorem RefreshState.Carries.edited {locals : Locals ω φ} (h : s.Carries locals)
    (catalog : Store.Catalog) : (s.edited catalog).Carries locals :=
  ⟨List.mem_append_left _ h.since, h.listed⟩

theorem RefreshState.Holds.edited (h : s.Holds) (catalog : Store.Catalog) :
    (s.edited catalog).Holds := by
  refine ⟨h.assigned, ?_⟩
  have hPc := h.pc
  change (s.edited catalog).PcOk s.pc
  cases hAt : s.pc with
  | idle => trivial
  | readStamp => trivial
  | readList stamp => exact List.mem_append_right _ (List.mem_singleton.mpr rfl)
  | readSetting n locals =>
    rw [hAt] at hPc
    exact hPc.edited catalog
  | index locals =>
    rw [hAt] at hPc
    exact hPc.edited catalog
  | assign locals =>
    rw [hAt] at hPc
    exact hPc.edited catalog

theorem RefreshState.Holds.finish (h : s.Holds) {locals : Locals ω φ}
    (hAt : s.pc = .assign locals) (pipeline : String × Int) : (s.finish locals pipeline).Holds := by
  have hPc := h.pc
  rw [hAt] at hPc
  exact ⟨fun _ => hPc.listed, trivial⟩

theorem RefreshState.Holds.succeed (h : s.Holds) (hTrusted : s.Trusted .succeeds)
    (hStep : s.succeed = some s') : s'.Holds := by
  have hPc := h.pc
  rw [RefreshState.succeed] at hStep
  cases hAt : s.pc with
  | idle =>
    rw [hAt] at hStep
    cases hStep
  | readStamp =>
    rw [hAt] at hStep
    dsimp only at hStep
    split at hStep
    · rename_i hSame
      obtain rfl := Option.some.inj hStep
      -- the list in the cache is the catalog's, because the stamp may be trusted
      rw [RefreshState.Trusted, hAt] at hTrusted
      obtain ⟨hAssigned, hListed⟩ := hTrusted hSame
      have hList := h.assigned hAssigned
      refine ⟨h.assigned, ?_, hList⟩
      rw [hList, hListed]
      exact List.mem_singleton.mpr rfl
    · obtain rfl := Option.some.inj hStep
      exact ⟨h.assigned, List.mem_singleton.mpr rfl⟩
  | readList stamp =>
    rw [hAt] at hStep hPc
    obtain rfl := Option.some.inj hStep
    refine ⟨fun hAssigned => ?_, hPc, rfl⟩
    cases hAssigned
  | readSetting n locals =>
    rw [hAt] at hStep hPc
    dsimp only at hStep
    split at hStep
    · obtain rfl := Option.some.inj hStep
      exact ⟨h.assigned, hPc.since, hPc.listed⟩
    · obtain rfl := Option.some.inj hStep
      refine ⟨h.assigned, ?_⟩
      change RefreshState.PcOk _ (if locals.reloaded then _ else _)
      split
      · exact ⟨hPc.since, hPc.listed⟩
      · exact ⟨hPc.since, hPc.listed⟩
  | index locals =>
    rw [hAt] at hStep hPc
    obtain rfl := Option.some.inj hStep
    exact ⟨h.assigned, hPc.since, hPc.listed⟩
  | assign locals =>
    rw [hAt] at hStep
    obtain rfl := Option.some.inj hStep
    exact h.finish hAt _

theorem RefreshState.Holds.fail (h : s.Holds) (hStep : s.fail = some s') : s'.Holds := by
  rw [RefreshState.fail] at hStep
  split at hStep
  · cases hStep
  · rename_i locals hAt
    obtain rfl := Option.some.inj hStep
    exact h.finish hAt _
  · obtain rfl := Option.some.inj hStep
    exact ⟨h.assigned, trivial⟩

theorem RefreshState.Holds.configure (h : s.Holds) (settings : Settings ω φ) :
    RefreshState.Holds { s with settings := settings } := by
  refine ⟨h.assigned, ?_⟩
  have hPc := h.pc
  change RefreshState.PcOk _ s.pc
  cases hAt : s.pc with
  | idle | readStamp => trivial
  | readList stamp =>
    rw [hAt] at hPc
    exact hPc
  | readSetting n locals | index locals | assign locals =>
    rw [hAt] at hPc
    exact ⟨hPc.since, hPc.listed⟩

theorem RefreshState.Holds.step (h : s.Holds) {l : RefreshLabel ω φ} (hTrusted : s.Trusted l)
    (hStep : s.step env l = some s') : s'.Holds := by
  cases l with
  | edit e =>
    rw [RefreshState.step] at hStep
    obtain ⟨catalog, -, rfl⟩ := Option.map_eq_some_iff.mp hStep
    exact h.edited catalog
  | configure settings =>
    obtain rfl := Option.some.inj hStep
    exact h.configure settings
  | begin =>
    rw [RefreshState.step] at hStep
    split at hStep
    · obtain rfl := Option.some.inj hStep
      exact ⟨h.assigned, trivial⟩
    · cases hStep
  | succeeds => exact h.succeed hTrusted hStep
  | raises => exact h.fail hStep

/-- The state reached by a run whose stamps may all be trusted, from a sniffer that has not
refreshed yet. -/
theorem refresh_holds {catalog : Store.Catalog} {settings : Settings ω φ}
    {sniffer : SnifferCache ω φ} {ls : List (RefreshLabel ω φ)}
    (hRun : StepRun.run (StepRun.guarded RefreshState.Trusted (RefreshState.step env))
      (.initial catalog settings sniffer) ls = some s) : s.Holds := by
  refine StepRun.Invariant.run (fun t l u hHolds hStep => ?_)
    (initial_holds catalog settings sniffer) hRun
  obtain ⟨hTrusted, hStep⟩ := StepRun.guarded_eq_some.mp hStep
  exact hHolds.step hTrusted hStep

theorem assign_completes {locals : Locals ω φ} {l : RefreshLabel ω φ}
    (hAt : s.pc = .assign locals) (hStep : s.step env l = some s') (hDone : s'.pc = .idle) :
    s'.sniffer.monitor_cache = locals.monitors ∧ s'.since = s.since := by
  cases l with
  | edit e =>
    rw [RefreshState.step] at hStep
    obtain ⟨catalog, -, rfl⟩ := Option.map_eq_some_iff.mp hStep
    change s.pc = .idle at hDone
    rw [hAt] at hDone
    cases hDone
  | configure settings =>
    obtain rfl := Option.some.inj hStep
    change s.pc = .idle at hDone
    rw [hAt] at hDone
    cases hDone
  | begin =>
    rw [RefreshState.step, hAt] at hStep
    cases hStep
  | succeeds =>
    rw [RefreshState.step, RefreshState.succeed, hAt] at hStep
    obtain rfl := Option.some.inj hStep
    exact ⟨rfl, rfl⟩
  | raises =>
    rw [RefreshState.step, RefreshState.fail, hAt] at hStep
    obtain rfl := Option.some.inj hStep
    exact ⟨rfl, rfl⟩

/-- Along a run whose stamps may be trusted, a refresh that completes leaves the sniffer with
a list the store has held since that refresh read its stamp. -/
theorem refresh_current (env : CatalogEnv) {catalog : Store.Catalog} {settings : Settings ω φ}
    {sniffer : SnifferCache ω φ} {ls : List (RefreshLabel ω φ)} {locals : Locals ω φ}
    {l : RefreshLabel ω φ}
    (hRun : StepRun.run (StepRun.guarded RefreshState.Trusted (RefreshState.step env))
      (.initial catalog settings sniffer) ls = some s) (hAt : s.pc = .assign locals)
    (hStep : s.step env l = some s') (hDone : s'.pc = .idle) :
    s'.sniffer.monitor_cache ∈ s'.since := by
  obtain ⟨hCache, hSince⟩ := assign_completes hAt hStep hDone
  have hPc := (refresh_holds hRun).pc
  rw [hAt] at hPc
  rw [hCache, hSince]
  exact hPc.since

/-! ## A refresh that failed midway -/

def plainSettings : Settings Unit Unit :=
  ⟨[], false, false, "low", false, [], (), "alerts", 100⟩

def plainSniffer : SnifferCache Unit Unit :=
  ⟨[], none, [], false, false, false, none, "low", false, [], ()⟩

def oneMonitor : Store.Catalog :=
  ⟨[("a", customRow true)], [], 5, 5⟩

/-- The first refresh records the stamp and fails at the whitelist; the second finds the stamp
and reads the settings. -/
def keptEmpty : List (RefreshLabel Unit Unit) :=
  [.begin, .succeeds, .succeeds, .raises, .begin] ++ List.replicate 9 .succeeds

theorem refresh_keeps_empty : ¬ ∀ (env : CatalogEnv) (catalog : Store.Catalog)
    (settings : Settings Unit Unit) (sniffer : SnifferCache Unit Unit)
    (ls : List (RefreshLabel Unit Unit)) (s s' : RefreshState Unit Unit) (locals : Locals Unit Unit)
    (l : RefreshLabel Unit Unit),
    StepRun.run (RefreshState.step env) (.initial catalog settings sniffer) ls = some s →
      s.pc = .assign locals → s.step env l = some s' → s'.pc = .idle →
      s'.sniffer.monitor_cache ∈ s'.since := by
  intro hAll
  have hMem := hAll CatalogEnv.ascii oneMonitor plainSettings plainSniffer keptEmpty _ _ _ .succeeds
    rfl rfl rfl rfl
  exact absurd hMem (by decide)

def reloadingRun : List (RefreshLabel Unit Unit) :=
  [.begin] ++ List.replicate 12 .succeeds ++
    [.edit (.tick 1), .edit (.setEnabled "a" false), .begin] ++ List.replicate 11 .succeeds

theorem refresh_current_reloaded : ∃ s s' : RefreshState Unit Unit,
    StepRun.run (RefreshState.step CatalogEnv.ascii)
      (.initial oneMonitor plainSettings plainSniffer) reloadingRun = some s ∧
    s.step CatalogEnv.ascii .succeeds = some s' ∧
    s'.sniffer.monitor_cache = [("a", { customRow false with updated_at := 6 })] ∧
    s'.sniffer.monitor_cache ∈ s'.since := by
  obtain ⟨s, hRun⟩ : ∃ s, StepRun.run (StepRun.guarded RefreshState.Trusted
      (RefreshState.step CatalogEnv.ascii)) (.initial oneMonitor plainSettings plainSniffer)
      reloadingRun = some s := ⟨_, rfl⟩
  have hPlain := StepRun.run_of_guarded hRun
  obtain ⟨s', hStep⟩ : ∃ s', s.step CatalogEnv.ascii .succeeds = some s' := by
    obtain rfl := Option.some.inj hRun
    exact ⟨_, rfl⟩
  obtain rfl := Option.some.inj hRun
  have hMem := refresh_current CatalogEnv.ascii hRun rfl hStep (by
    obtain rfl := Option.some.inj hStep
    rfl)
  obtain rfl := Option.some.inj hStep
  exact ⟨_, _, hPlain, rfl, rfl, hMem⟩

end Sniff4Hound
