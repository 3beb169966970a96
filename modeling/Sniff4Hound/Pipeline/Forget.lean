import Sniff4Hound.Capture.Packet
import Sniff4Hound.Pipeline.PacketGates

/-!
# Forgetting a host

The confirmed `POST /api/whitelist/ip` stores a whitelist entry and deletes the rows of the
address. The capture jobs evaluate packets with the whitelist of the last refresh, keep the
ones to store until their batch is complete, write them in one transaction and record their
domains and paths afterwards. The entry holds the address in canonical form, the deletion
takes the text of the request, and nothing stops a packet that has passed the check: so the
address stays forgotten when the rows spell it as the request does and no such packet is
under way (`forgotten_throughout`). The trimming of tables only deletes rows and is left out.
-/

namespace Sniff4Hound

open Store

/-! ## The tables -/

structure Endpoints where
  src_ip : String
  dst_ip : String
deriving DecidableEq

/-- The columns that name addresses. A domain has the address it was last seen with, as has
a path under its method, path and host. -/
structure IntelTables where
  packets : List Endpoints
  flows : Dict String Endpoints
  domains : Dict String String
  paths : Dict (String × String × String) String
  whitelist : List WhitelistEntry
deriving DecidableEq

inductive Intel
  | domain (name ip : String)
  | path (key : String × String × String) (ip : String)
deriving DecidableEq

def Intel.ip : Intel → String
  | domain _ ip => ip
  | path _ ip => ip

variable (env : GateEnv)

def endpoint (packet : Packet) (key : String) : String :=
  strip ((packet key).text env.toRuntime)

/-- The rows of one packet in `packets` and `flows`; a flow keeps its first addresses. -/
def write_packet_rows (tables : IntelTables) (packet : Packet) : IntelTables :=
  let row : Endpoints := ⟨endpoint env packet "src_ip", endpoint env packet "dst_ip"⟩
  let key := stable_flow_key env.toRuntime (packet "proto") (packet "src_ip") (packet "src_port")
    (packet "dst_ip") (packet "dst_port")
  let flow_key := strip (((packet "flow_key").orElse (.str key)).toText env.toRuntime)
  { tables with
    packets := tables.packets ++ [row]
    flows := match tables.flows.lookup flow_key with
      | some _ => tables.flows
      | none => tables.flows.set flow_key row }

/-- `_record_intel`: what it hands to `record_domain` and `record_path`. -/
def record_intel (packet : Packet) : List Intel :=
  let text (key : String) : String := strip ((packet key).text env.toRuntime)
  let ip := strip (((packet "dst_ip").orElse (packet "src_ip")).text env.toRuntime)
  let domain := text "domain"
  let path := text "http_path"
  let given := env.upper (strip (((packet "http_method").orElse (.str "GET")).toText env.toRuntime))
  let method := if given = "" then "GET" else given
  (if domain = "" then [] else [.domain (env.lower domain) ip]) ++
    if path = "" then [] else [.path (method, path, env.lower (text "http_host")) ip]

/-- `record_domain` and `record_path` -/
def IntelTables.record (tables : IntelTables) : Intel → IntelTables
  | .domain name ip => { tables with domains := tables.domains.set name ip }
  | .path key ip => { tables with paths := tables.paths.set key ip }

def purge_ip_data (tables : IntelTables) (ip : String) : IntelTables :=
  let other (row : Endpoints) : Bool := row.src_ip ≠ ip && row.dst_ip ≠ ip
  { tables with
    packets := tables.packets.filter other
    flows := tables.flows.filter fun flow => other flow.2
    domains := tables.domains.filter fun domain => domain.2 ≠ ip
    paths := tables.paths.filter fun path => path.2 ≠ ip }

/-- `create_whitelist_entry` of an exact address, already stripped; the newest entry is listed
first. -/
def create_whitelist_ip (tables : IntelTables) (ip : String) :
    Except String (IntelTables × WhitelistEntry) := do
  let value ← normalize_list_value env.toCatalogEnv "ip" ip
  let entry : WhitelistEntry := ⟨"ip", "exact", value, true⟩
  if tables.whitelist.any fun known => known.category = "ip" && known.match_type = "exact" &&
      known.value = value then
    throw ("Ya existe una entrada de whitelist para ip/exact: " ++ value)
  pure ({ tables with whitelist := entry :: tables.whitelist }, entry)

/-! ## The jobs and the request -/

/-- A capture job: the packets that wait for the end of the batch, and what is left to be
recorded of the packets it has written. -/
structure CaptureJob where
  deferred : List Packet
  intel : List Intel

/-- `whitelist_ip`: before, with the entry stored, and at its end. -/
inductive ForgetPc
  | idle
  | created (ip : String) (entry : WhitelistEntry)
  | returned (entry : WhitelistEntry)
  | raised
deriving DecidableEq

/-- The tables, the capture jobs and the request under way. -/
structure Forgetting where
  tables : IntelTables
  gates : Gates
  jobs : List CaptureJob
  request : ForgetPc

/-- A step of a job or of the request. -/
inductive ForgetMove
  /-- A job takes a packet; `persist` is the verdict on one that is admitted. -/
  | evaluate (job : Nat) (packet : Packet) (persist : Bool)
  /-- A job writes its batch; `outcomes` says which packets land. -/
  | flush (job : Nat) (outcomes : List Bool)
  | record (job : Nat) (lands : Bool)
  | refresh
  | create (ip : String)
  | purge

def Forgetting.setJob (s : Forgetting) (i : Nat) (job : CaptureJob) : Forgetting :=
  { s with jobs := s.jobs.set i job }

def Forgetting.step (s : Forgetting) : ForgetMove → Option Forgetting
  | .evaluate i packet persist => do
    let job ← s.jobs[i]?
    if job.intel ≠ [] then none
    else if Admitted env s.gates packet ∧ persist = true then
      some (s.setJob i { job with deferred := job.deferred ++ [packet] })
    else some s
  | .flush i outcomes => do
    let job ← s.jobs[i]?
    if job.deferred = [] ∨ outcomes.length ≠ job.deferred.length then none
    else
      let written := ((job.deferred.zip outcomes).filter Prod.snd).map Prod.fst
      let s := { s with tables := written.foldl (write_packet_rows env) s.tables }
      some (s.setJob i ⟨[], written.flatMap (record_intel env)⟩)
  | .record i lands => do
    let job ← s.jobs[i]?
    match job.intel with
    | [] => none
    | intel :: rest =>
      let s := if lands then { s with tables := s.tables.record intel } else s
      some (s.setJob i { job with intel := rest })
  | .refresh => some { s with gates := { s.gates with whitelist_cache := s.tables.whitelist } }
  | .create ip =>
    if s.request ≠ .idle then none
    else
      let ip := strip ip
      match create_whitelist_ip env s.tables ip with
      | .error _ => some { s with request := .raised }
      | .ok (tables, entry) => some { s with tables := tables, request := .created ip entry }
  | .purge =>
    match s.request with
    | .created ip entry =>
      some { s with tables := purge_ip_data s.tables ip, request := .returned entry }
    | _ => none

/-! ## What names the address -/

variable (entry : WhitelistEntry)

def Spells (text : String) : Prop := text ≠ "" ∧ env.compressed_ip text = entry.value

instance (text : String) : Decidable (Spells env entry text) :=
  inferInstanceAs (Decidable (_ ∧ _))

def IntelTables.addresses (tables : IntelTables) : List String :=
  tables.packets.flatMap (fun row => [row.src_ip, row.dst_ip]) ++
    tables.flows.flatMap (fun flow => [flow.2.src_ip, flow.2.dst_ip]) ++
    tables.domains.map Prod.snd ++ tables.paths.map Prod.snd

/-- No address of the tables spells the address of the entry. -/
def Forgotten (tables : IntelTables) : Prop := ∀ text ∈ tables.addresses, ¬ Spells env entry text

instance (tables : IntelTables) : Decidable (Forgotten env entry tables) :=
  inferInstanceAs (Decidable (∀ _ ∈ _, _))

def Mentions (packet : Packet) : Prop :=
  Spells env entry (endpoint env packet "src_ip") ∨ Spells env entry (endpoint env packet "dst_ip")

instance (packet : Packet) : Decidable (Mentions env entry packet) :=
  inferInstanceAs (Decidable (_ ∨ _))

def CaptureJob.Clear (job : CaptureJob) : Prop :=
  (∀ packet ∈ job.deferred, ¬ Mentions env entry packet) ∧
    ∀ intel ∈ job.intel, ¬ Spells env entry intel.ip

instance (job : CaptureJob) : Decidable (job.Clear env entry) :=
  inferInstanceAs (Decidable (_ ∧ _))

/-- The deletion meets the rows of the address under the text of the request and no job with
a packet of it; afterwards no packet of it is admitted and kept. -/
def Forgetting.Unmentioned (s : Forgetting) : ForgetMove → Prop
  | .purge =>
    match s.request with
    | .created ip entry =>
      (∀ text ∈ s.tables.addresses, Spells env entry text → text = ip) ∧
        ∀ job ∈ s.jobs, job.Clear env entry
    | _ => True
  | .evaluate _ packet persist =>
    match s.request with
    | .returned entry =>
      Admitted env s.gates packet ∧ persist = true → ¬ Mentions env entry packet
    | _ => True
  | _ => True

instance (s : Forgetting) : (move : ForgetMove) → Decidable (s.Unmentioned env move)
  | .purge =>
    match h : s.request with
    | .created ip entry => decidable_of_iff
        ((∀ text ∈ s.tables.addresses, Spells env entry text → text = ip) ∧
          ∀ job ∈ s.jobs, job.Clear env entry) (by simp [Forgetting.Unmentioned, h])
    | .idle => isTrue (by simp [Forgetting.Unmentioned, h])
    | .returned _ => isTrue (by simp [Forgetting.Unmentioned, h])
    | .raised => isTrue (by simp [Forgetting.Unmentioned, h])
  | .evaluate _ packet persist =>
    match h : s.request with
    | .returned entry => decidable_of_iff
        (Admitted env s.gates packet ∧ persist = true → ¬ Mentions env entry packet)
        (by simp [Forgetting.Unmentioned, h])
    | .idle => isTrue (by simp [Forgetting.Unmentioned, h])
    | .created _ _ => isTrue (by simp [Forgetting.Unmentioned, h])
    | .raised => isTrue (by simp [Forgetting.Unmentioned, h])
  | .flush _ _ => isTrue trivial
  | .record _ _ => isTrue trivial
  | .refresh => isTrue trivial
  | .create _ => isTrue trivial

/-! ## Rows of packets that do not mention it -/

section Rows

variable {env entry} {tables : IntelTables} {packet : Packet}

theorem mem_addresses {text : String} : text ∈ tables.addresses ↔
    (∃ row ∈ tables.packets, text = row.src_ip ∨ text = row.dst_ip) ∨
      (∃ flow ∈ tables.flows, text = flow.2.src_ip ∨ text = flow.2.dst_ip) ∨
      (∃ domain ∈ tables.domains, text = domain.2) ∨ ∃ path ∈ tables.paths, text = path.2 := by
  simp only [IntelTables.addresses, List.mem_append, List.mem_flatMap, List.mem_map, List.mem_cons,
    List.not_mem_nil, or_false, or_assoc, eq_comm]

theorem mem_set {κ ν : Type} [DecidableEq κ] {d : Dict κ ν} {k : κ} {v : ν} {item : κ × ν}
    (h : item ∈ d.set k v) : item ∈ d ∨ item.2 = v := by
  induction d with
  | nil =>
    rw [List.mem_singleton.mp h]
    exact Or.inr rfl
  | cons head rest ih =>
    obtain ⟨k', v'⟩ := head
    rw [Dict.set] at h
    split at h
    · rcases List.mem_cons.mp h with rfl | hRest
      · exact Or.inr rfl
      · exact Or.inl (List.mem_cons_of_mem _ hRest)
    · rcases List.mem_cons.mp h with rfl | hRest
      · exact Or.inl List.mem_cons_self
      · exact (ih hRest).imp_left (List.mem_cons_of_mem _)

theorem Forgotten.write (h : Forgotten env entry tables) (hPacket : ¬ Mentions env entry packet) :
    Forgotten env entry (write_packet_rows env tables packet) := by
  obtain ⟨hSrc, hDst⟩ := not_or.mp hPacket
  have hEnds : ∀ row : Endpoints, row = ⟨endpoint env packet "src_ip", endpoint env packet "dst_ip"⟩ →
      ∀ text, text = row.src_ip ∨ text = row.dst_ip → ¬ Spells env entry text := by
    rintro row rfl text (rfl | rfl)
    · exact hSrc
    · exact hDst
  intro text hText
  rcases mem_addresses.mp hText with ⟨row, hRow, hEnd⟩ | ⟨flow, hFlow, hEnd⟩ | hIntel
  · rcases List.mem_append.mp hRow with hOld | hNew
    · exact h text (mem_addresses.mpr (Or.inl ⟨row, hOld, hEnd⟩))
    · exact hEnds row (List.mem_singleton.mp hNew) text hEnd
  · have hSides : flow ∈ tables.flows ∨
        flow.2 = ⟨endpoint env packet "src_ip", endpoint env packet "dst_ip"⟩ := by
      simp only [write_packet_rows] at hFlow
      split at hFlow
      · exact Or.inl hFlow
      · exact mem_set hFlow
    rcases hSides with hOld | hNew
    · exact h text (mem_addresses.mpr (Or.inr (Or.inl ⟨flow, hOld, hEnd⟩)))
    · exact hEnds flow.2 hNew text hEnd
  · exact h text (mem_addresses.mpr (Or.inr (Or.inr hIntel)))

theorem Forgotten.record (h : Forgotten env entry tables) {intel : Intel}
    (hIntel : ¬ Spells env entry intel.ip) : Forgotten env entry (tables.record intel) := by
  intro text hText
  cases intel with
  | domain name ip =>
    rcases mem_addresses.mp hText with hRow | hRow | ⟨domain, hDomain, rfl⟩ | hRow
    · exact h text (mem_addresses.mpr (Or.inl hRow))
    · exact h text (mem_addresses.mpr (Or.inr (Or.inl hRow)))
    · rcases mem_set hDomain with hOld | hNew
      · exact h _ (mem_addresses.mpr (Or.inr (Or.inr (Or.inl ⟨domain, hOld, rfl⟩))))
      · rw [hNew]
        exact hIntel
    · exact h text (mem_addresses.mpr (Or.inr (Or.inr (Or.inr hRow))))
  | path key ip =>
    rcases mem_addresses.mp hText with hRow | hRow | hRow | ⟨path, hPath, rfl⟩
    · exact h text (mem_addresses.mpr (Or.inl hRow))
    · exact h text (mem_addresses.mpr (Or.inr (Or.inl hRow)))
    · exact h text (mem_addresses.mpr (Or.inr (Or.inr (Or.inl hRow))))
    · rcases mem_set hPath with hOld | hNew
      · exact h _ (mem_addresses.mpr (Or.inr (Or.inr (Or.inr ⟨path, hOld, rfl⟩))))
      · rw [hNew]
        exact hIntel

theorem not_spells_intel (hPacket : ¬ Mentions env entry packet) :
    ∀ intel ∈ record_intel env packet, ¬ Spells env entry intel.ip := by
  obtain ⟨hSrc, hDst⟩ := not_or.mp hPacket
  have hIp : ¬ Spells env entry
      (strip (((packet "dst_ip").orElse (packet "src_ip")).text env.toRuntime)) := by
    rw [Value.orElse]
    split
    · exact hDst
    · exact hSrc
  have hAll : ∀ intel ∈ record_intel env packet,
      intel.ip = strip (((packet "dst_ip").orElse (packet "src_ip")).text env.toRuntime) := by
    intro intel hIntel
    simp only [record_intel, List.mem_append] at hIntel
    rcases hIntel with hDomain | hPath
    · split at hDomain
      · cases hDomain
      · rw [List.mem_singleton.mp hDomain]
        rfl
    · split at hPath
      · cases hPath
      · rw [List.mem_singleton.mp hPath]
        rfl
  intro intel hIntel
  rw [hAll intel hIntel]
  exact hIp

theorem mem_addresses_purge {ip text : String} (h : text ∈ (purge_ip_data tables ip).addresses) :
    text ∈ tables.addresses ∧ text ≠ ip := by
  have hRow : ∀ row : Endpoints, (row.src_ip ≠ ip && row.dst_ip ≠ ip) = true →
      text = row.src_ip ∨ text = row.dst_ip → text ≠ ip := by
    intro row hOther hEnd
    obtain ⟨hSrc, hDst⟩ := Bool.and_eq_true_iff.mp hOther
    rcases hEnd with rfl | rfl
    · exact of_decide_eq_true hSrc
    · exact of_decide_eq_true hDst
  rcases mem_addresses.mp h with ⟨row, hMem, hEnd⟩ | ⟨flow, hMem, hEnd⟩ | ⟨domain, hMem, hEnd⟩ |
    ⟨path, hMem, hEnd⟩
  · obtain ⟨hIn, hOther⟩ := List.mem_filter.mp hMem
    exact ⟨mem_addresses.mpr (Or.inl ⟨row, hIn, hEnd⟩), hRow row hOther hEnd⟩
  · obtain ⟨hIn, hOther⟩ := List.mem_filter.mp hMem
    exact ⟨mem_addresses.mpr (Or.inr (Or.inl ⟨flow, hIn, hEnd⟩)), hRow flow.2 hOther hEnd⟩
  · obtain ⟨hIn, hOther⟩ := List.mem_filter.mp hMem
    refine ⟨mem_addresses.mpr (Or.inr (Or.inr (Or.inl ⟨domain, hIn, hEnd⟩))), ?_⟩
    rw [hEnd]
    exact of_decide_eq_true hOther
  · obtain ⟨hIn, hOther⟩ := List.mem_filter.mp hMem
    refine ⟨mem_addresses.mpr (Or.inr (Or.inr (Or.inr ⟨path, hIn, hEnd⟩))), ?_⟩
    rw [hEnd]
    exact of_decide_eq_true hOther

end Rows

/-! ## Runs -/

section Runs

variable {env} {s s' : Forgetting}

def Forgetting.Silent (env : GateEnv) (s : Forgetting) : Prop :=
  ∀ entry, s.request = .returned entry →
    Forgotten env entry s.tables ∧ ∀ job ∈ s.jobs, job.Clear env entry

theorem clear_set {entry : WhitelistEntry} {jobs : List CaptureJob} {i : Nat} {job : CaptureJob}
    (h : ∀ job ∈ jobs, job.Clear env entry) (hJob : job.Clear env entry) :
    ∀ job' ∈ jobs.set i job, job'.Clear env entry := by
  intro job' hMem
  rcases List.mem_or_eq_of_mem_set hMem with hOld | rfl
  · exact h job' hOld
  · exact hJob

theorem silent_evaluate {i : Nat} {packet : Packet} {persist : Bool} (h : s.Silent env)
    (hGuard : s.Unmentioned env (.evaluate i packet persist))
    (hStep : s.step env (.evaluate i packet persist) = some s') : s'.Silent env := by
  obtain ⟨job, hJob, hStep⟩ := Option.bind_eq_some_iff.mp hStep
  split at hStep
  · cases hStep
  · split at hStep
    · next hKept =>
      cases hStep
      intro entry hReturned
      obtain ⟨hTables, hJobs⟩ := h entry hReturned
      have hRequest : s.request = .returned entry := hReturned
      rw [Forgetting.Unmentioned, hRequest] at hGuard
      have hClear := hJobs job (List.mem_of_getElem? hJob)
      refine ⟨hTables, clear_set hJobs ⟨?_, hClear.2⟩⟩
      intro waiting hWaiting
      rcases List.mem_append.mp hWaiting with hOld | hNew
      · exact hClear.1 waiting hOld
      · rw [List.mem_singleton.mp hNew]
        exact hGuard hKept
    · cases hStep
      exact h

theorem silent_flush {i : Nat} {outcomes : List Bool} (h : s.Silent env)
    (hStep : s.step env (.flush i outcomes) = some s') : s'.Silent env := by
  obtain ⟨job, hJob, hStep⟩ := Option.bind_eq_some_iff.mp hStep
  split at hStep
  · cases hStep
  · cases hStep
    intro entry hReturned
    obtain ⟨hTables, hJobs⟩ := h entry hReturned
    have hClear := hJobs job (List.mem_of_getElem? hJob)
    have hWritten : ∀ packet ∈ ((job.deferred.zip outcomes).filter Prod.snd).map Prod.fst,
        ¬ Mentions env entry packet := by
      intro packet hPacket
      obtain ⟨pair, hPair, rfl⟩ := List.mem_map.mp hPacket
      exact hClear.1 pair.1 (List.of_mem_zip (List.mem_filter.mp hPair).1).1
    constructor
    · show Forgotten env entry (List.foldl (write_packet_rows env) s.tables _)
      generalize ((job.deferred.zip outcomes).filter Prod.snd).map Prod.fst = written at hWritten
      generalize s.tables = tables at hTables
      induction written generalizing tables with
      | nil => exact hTables
      | cons packet written ih =>
        exact ih (fun later hLater => hWritten later (List.mem_cons_of_mem _ hLater)) _
          (hTables.write (hWritten packet List.mem_cons_self))
    · refine clear_set hJobs ⟨nofun, ?_⟩
      intro intel hIntel
      obtain ⟨packet, hPacket, hFrom⟩ := List.mem_flatMap.mp hIntel
      exact not_spells_intel (hWritten packet hPacket) intel hFrom

theorem silent_record {i : Nat} {lands : Bool} (h : s.Silent env)
    (hStep : s.step env (.record i lands) = some s') : s'.Silent env := by
  obtain ⟨job, hJob, hStep⟩ := Option.bind_eq_some_iff.mp hStep
  split at hStep
  · cases hStep
  · next intel rest hIntel =>
    cases hStep
    intro entry hReturned
    have hBefore : s.request = .returned entry := by
      cases lands
      · exact hReturned
      · exact hReturned
    obtain ⟨hTables, hJobs⟩ := h entry hBefore
    have hClear := hJobs job (List.mem_of_getElem? hJob)
    rw [CaptureJob.Clear, hIntel] at hClear
    have hRest : CaptureJob.Clear env entry { job with intel := rest } :=
      ⟨hClear.1, fun later hLater => hClear.2 later (List.mem_cons_of_mem _ hLater)⟩
    cases lands with
    | false => exact ⟨hTables, clear_set hJobs hRest⟩
    | true => exact ⟨hTables.record (hClear.2 intel List.mem_cons_self), clear_set hJobs hRest⟩

theorem silent_create {ip : String} (hStep : s.step env (.create ip) = some s') : s'.Silent env := by
  simp only [Forgetting.step] at hStep
  split at hStep
  · cases hStep
  · split at hStep
    · cases hStep
      nofun
    · cases hStep
      nofun

theorem silent_purge (hGuard : s.Unmentioned env .purge)
    (hStep : s.step env .purge = some s') : s'.Silent env := by
  simp only [Forgetting.step] at hStep
  split at hStep
  · next ip entry hRequest =>
    cases hStep
    rw [Forgetting.Unmentioned, hRequest] at hGuard
    rintro entry' hReturned
    cases hReturned
    refine ⟨?_, hGuard.2⟩
    intro text hText hSpells
    obtain ⟨hIn, hOther⟩ := mem_addresses_purge hText
    exact hOther (hGuard.1 text hIn hSpells)
  · cases hStep

theorem silent_step {move : ForgetMove} (h : s.Silent env) (hGuard : s.Unmentioned env move)
    (hStep : s.step env move = some s') : s'.Silent env := by
  cases move with
  | evaluate i packet persist => exact silent_evaluate h hGuard hStep
  | flush i outcomes => exact silent_flush h hStep
  | record i lands => exact silent_record h hStep
  | refresh =>
    cases hStep
    exact h
  | create ip => exact silent_create hStep
  | purge => exact silent_purge hGuard hStep

/-- The address stays forgotten from the end of the request on. -/
theorem forgotten_throughout {moves : List ForgetMove} {entry : WhitelistEntry}
    (hIdle : s.request = .idle)
    (hRun : StepRun.run (StepRun.guarded (Forgetting.Unmentioned env) (Forgetting.step env)) s
      moves = some s') (hReturned : s'.request = .returned entry) :
    Forgotten env entry s'.tables := by
  have hKept : StepRun.Invariant (StepRun.guarded (Forgetting.Unmentioned env)
      (Forgetting.step env)) (Forgetting.Silent env) := by
    intro t move u hSilent hStep
    obtain ⟨hGuard, hStep⟩ := StepRun.guarded_eq_some.mp hStep
    exact silent_step hSilent hGuard hStep
  refine (hKept.run ?_ hRun entry hReturned).1
  intro entry' hEarly
  rw [hIdle] at hEarly
  cases hEarly

end Runs

/-! ## Another spelling of the address -/

/-- `ipaddress` for the addresses below, which differ from their canonical form in case. -/
def forgetEnv : GateEnv := { GateEnv.ascii with compressed := some }

def openGates : Gates where
  dashboard_port := 45678
  whitelist_cache := []
  detection_exclude_scopes := []
  exclusion_filters := ⟨[], [], [], []⟩
  exclusion_networks := []

def storedHost : Forgetting where
  tables := ⟨[⟨"2001:db8::1", "2001:db8::2"⟩], [], [], [], []⟩
  gates := openGates
  jobs := [⟨[], []⟩]
  request := .idle

/-- The request names the address in upper case: the entry is stored and no row is deleted. -/
theorem spelling_kept : ¬ ∀ (env : GateEnv) (s s' : Forgetting) (moves : List ForgetMove)
    (entry : WhitelistEntry), s.request = .idle →
      StepRun.run (Forgetting.step env) s moves = some s' → s'.request = .returned entry →
      entry ∈ s'.gates.whitelist_cache → (∀ job ∈ s'.jobs, job.deferred = [] ∧ job.intel = []) →
      Forgotten env entry s'.tables := by
  intro hAll
  obtain ⟨s', hRun, hReturned, hListed, hIdle, hLeft⟩ : ∃ s', StepRun.run (Forgetting.step forgetEnv)
      storedHost [.create "2001:DB8::1", .purge, .refresh] = some s' ∧
      s'.request = .returned ⟨"ip", "exact", "2001:db8::1", true⟩ ∧
      ⟨"ip", "exact", "2001:db8::1", true⟩ ∈ s'.gates.whitelist_cache ∧
      s'.jobs = [⟨[], []⟩] ∧ ¬ Forgotten forgetEnv ⟨"ip", "exact", "2001:db8::1", true⟩ s'.tables :=
    ⟨_, rfl, by decide +kernel, by decide +kernel, rfl, by decide +kernel⟩
  refine hLeft (hAll _ _ s' _ _ rfl hRun hReturned hListed ?_)
  rw [hIdle]
  intro job hJob
  rw [List.mem_singleton.mp hJob]
  exact ⟨rfl, rfl⟩

def hostPacket : Packet :=
  Value.get [("src_ip", .str "10.0.0.5"), ("dst_ip", .str "10.0.0.6"), ("domain", .str "a.example")]

def forgetMoves : List ForgetMove :=
  [.evaluate 0 hostPacket true, .flush 0 [true], .record 0 true, .create " 10.0.0.5 ", .purge,
    .refresh, .evaluate 0 hostPacket true]

theorem forgotten_throughout_forgetMoves : ∃ s', StepRun.run (StepRun.guarded
    (Forgetting.Unmentioned forgetEnv) (Forgetting.step forgetEnv)) storedHost forgetMoves = some s' ∧
      Forgotten forgetEnv ⟨"ip", "exact", "10.0.0.5", true⟩ s'.tables := by
  have hEnds : (StepRun.run (StepRun.guarded (Forgetting.Unmentioned forgetEnv)
      (Forgetting.step forgetEnv)) storedHost forgetMoves).any (fun s' =>
        s'.request = .returned ⟨"ip", "exact", "10.0.0.5", true⟩) = true := by
    decide +kernel
  obtain ⟨s', hRun, hReturned⟩ := Option.any_eq_true _ _ |>.mp hEnds
  exact ⟨s', hRun, forgotten_throughout rfl hRun (of_decide_eq_true hReturned)⟩

end Sniff4Hound
