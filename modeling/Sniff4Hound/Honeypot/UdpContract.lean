import Sniff4Hound.Honeypot.UdpListener

/-!
# When a UDP listener dies

`_handle_udp` runs in the listener's own loop, and what it raises ends the listener. It raises where
the store does, where the reply to a RADIUS port is looked up for which there is no banner
(`UDP_BANNERS[port]`), and where the seconds of the NTP reply need a fifth byte; the replies to names
never raise, since a datagram has 4096 bytes at most (`build_dns_response_ok`). A listener whose
datagrams meet none of these serves until it is told to stop (`udp_serves`).
-/

namespace Sniff4Hound.Honeypot

/-! ## Names -/

theorem to_bytes_ok {width n : Nat} (h : n < 256 ^ width) :
    to_bytes width n = .ok (bigEndian width n) := if_pos h

theorem big_snoc (data : Bytes) (b : UInt8) : Bytes.big (data ++ [b]) = 256 * data.big + b.toNat := by
  rw [Bytes.big, List.foldl_append]
  rfl

theorem big_lt (data : Bytes) : data.big < 256 ^ data.length := by
  induction data using List.reverseRecOn with
  | nil => exact Nat.one_pos
  | append_singleton data b ih =>
    have hByte : b.toNat < 256 := b.toNat_lt
    rw [big_snoc, List.length_append, List.length_singleton, Nat.pow_succ]
    omega

theorem num_lt (data : Bytes) (i : Nat) : data.num i (i + 2) < 256 ^ 2 := by
  have hLength : (data.slice i (i + 2)).length ≤ 2 := by
    rw [Bytes.slice, List.length_take]
    omega
  exact (big_lt _).trans_le (Nat.pow_le_pow_right (by decide) hLength)

theorem questionsFrom_length (query : Bytes) (rounds idx : Nat) :
    (questionsFrom query rounds idx).length ≤ rounds := by
  induction rounds generalizing idx with
  | zero => exact Nat.le_refl 0
  | succ rounds ih =>
    rw [questionsFrom]
    split
    · exact Nat.zero_le _
    split
    · exact Nat.zero_le _
    split
    · exact Nat.zero_le _
    · exact Nat.succ_le_succ (ih _)

theorem questionsFrom_offset (query : Bytes) (rounds idx : Nat) :
    ∀ question ∈ questionsFrom query rounds idx, question.name_offset < query.length := by
  induction rounds generalizing idx with
  | zero => nofun
  | succ rounds ih =>
    intro question hMem
    rw [questionsFrom] at hMem
    split at hMem
    · cases hMem
    split at hMem
    · cases hMem
    split at hMem
    · cases hMem
    · rename_i hIdx _ _ _ _ _
      rcases List.mem_cons.mp hMem with rfl | hLater
      · exact Nat.lt_of_not_le hIdx
      · exact ih _ question hLater

theorem parse_dns_questions_length (query : Bytes) :
    (parse_dns_questions query).length < 256 ^ 2 := by
  rw [parse_dns_questions]
  split
  · exact Nat.pow_pos (by decide)
  · exact (questionsFrom_length query _ 12).trans_lt (num_lt query 4)

theorem parse_dns_questions_offset (query : Bytes) :
    ∀ question ∈ parse_dns_questions query, question.name_offset < query.length := by
  rw [parse_dns_questions]
  split
  · nofun
  · exact questionsFrom_offset query _ 12

theorem mapM_returns {α β ε : Type*} {f : α → Except ε β} {items : List α}
    (h : ∀ item ∈ items, ∃ b, f item = .ok b) :
    ∃ out, items.mapM f = .ok out ∧ out.length = items.length := by
  induction items with
  | nil => exact ⟨[], List.mapM_nil, rfl⟩
  | cons item items ih =>
    obtain ⟨b, hb⟩ := h item List.mem_cons_self
    obtain ⟨out, hOut, hLength⟩ := ih fun other hOther => h other (List.mem_cons_of_mem _ hOther)
    refine ⟨b :: out, ?_, congrArg Nat.succ hLength⟩
    rw [List.mapM_cons, hb, hOut]
    rfl

theorem build_dns_response_ok (inet_aton : String → Option Bytes) {query : Bytes}
    (hQuery : query.length ≤ MAX_PACKET_SIZE) (response_ip : String) :
    ∃ answer, build_dns_response inet_aton query response_ip = .ok answer := by
  rw [build_dns_response]
  split
  · exact ⟨_, rfl⟩
  dsimp only
  split
  · exact ⟨_, rfl⟩
  have hAnswer : ∀ question ∈ parse_dns_questions query, ∃ answer,
      dnsAnswer (normalize_dns_response_ip inet_aton response_ip) question = .ok answer := by
    intro question hMem
    have hOffset := parse_dns_questions_offset query question hMem
    have hPointer : 0xC000 ||| question.name_offset < 256 ^ 2 := by
      have hSmall : question.name_offset < 2 ^ 16 := by
        rw [MAX_PACKET_SIZE] at hQuery
        omega
      exact @Nat.or_lt_two_pow _ _ 16 (by decide) hSmall
    rw [dnsAnswer, to_bytes_ok hPointer]
    exact ⟨_, rfl⟩
  obtain ⟨answers, hMapped, hLength⟩ := mapM_returns hAnswer
  have hCount := parse_dns_questions_length query
  rw [hMapped, to_bytes_ok hCount]
  dsimp only [bind, Except.bind]
  rw [to_bytes_ok (hLength ▸ hCount)]
  exact ⟨_, rfl⟩

/-! ## Replies -/

theorem map_ok {α β ε : Type*} {f : α → β} {r : Except ε α} :
    (∃ b, r.map f = .ok b) ↔ ∃ a, r = .ok a := by
  cases r with
  | error e => exact ⟨nofun, nofun⟩
  | ok a => exact ⟨fun _ => ⟨a, rfl⟩, fun _ => ⟨f a, rfl⟩⟩

theorem build_ntp_response_ok (request_data : Bytes) (seconds : Nat) :
    (∃ reply, build_ntp_response request_data seconds = .ok reply) ↔ seconds < 256 ^ 4 := by
  rw [build_ntp_response]
  by_cases hSeconds : seconds < 256 ^ 4
  · rw [to_bytes_ok hSeconds]
    exact ⟨fun _ => hSeconds, fun _ => ⟨_, rfl⟩⟩
  · rw [to_bytes, if_neg hSeconds]
    exact ⟨nofun, fun h => absurd h hSeconds⟩

/-- A reply can be built: the port has a banner if it is one of RADIUS, and the clock fits into four
bytes if it is the one of NTP. -/
def Repliable (port seconds : Nat) : Prop :=
  port ≠ 1645 ∧ port ≠ 1646 ∧ (port = 123 → seconds < 256 ^ 4)

instance (port seconds : Nat) : Decidable (Repliable port seconds) :=
  inferInstanceAs (Decidable (_ ∧ _ ∧ (_ → _)))

theorem udpBanner_radius {port : Nat} (hPort : port ∈ RADIUS_UDP_PORTS) :
    (∃ reply, udpBanner port = .ok reply) ↔ port ≠ 1645 ∧ port ≠ 1646 := by
  simp only [RADIUS_UDP_PORTS, List.mem_cons, List.not_mem_nil, or_false] at hPort
  rcases hPort with rfl | rfl | rfl | rfl
  · exact ⟨nofun, fun h => absurd rfl h.1⟩
  · exact ⟨nofun, fun h => absurd rfl h.2⟩
  · exact ⟨fun _ => ⟨by decide, by decide⟩, fun _ => ⟨_, rfl⟩⟩
  · exact ⟨fun _ => ⟨by decide, by decide⟩, fun _ => ⟨_, rfl⟩⟩

theorem reply_for_ok (env : UdpEnv) (port : Nat) {data : Bytes}
    (hData : data.length ≤ MAX_PACKET_SIZE) (addr : Address) (moment : Moment) :
    (∃ reply, reply_for env port data addr moment = .ok reply) ↔
      Repliable port moment.ntp_seconds := by
  rw [reply_for]
  by_cases hDns : port ∈ DNS_UDP_PORTS
  · rw [if_pos hDns, map_ok]
    refine iff_of_true (build_dns_response_ok env.inet_aton hData moment.reply_ip) ?_
    rw [List.mem_singleton.mp hDns]
    exact ⟨by decide, by decide, nofun⟩
  rw [if_neg hDns]
  by_cases hNtp : port ∈ NTP_UDP_PORTS
  · rw [if_pos hNtp, map_ok, build_ntp_response_ok, List.mem_singleton.mp hNtp]
    exact ⟨fun h => ⟨by decide, by decide, fun _ => h⟩, fun h => h.2.2 rfl⟩
  rw [if_neg hNtp]
  have hClock : port = 123 → moment.ntp_seconds < 256 ^ 4 := fun h =>
    absurd (List.mem_singleton.mpr h) hNtp
  by_cases hRadius : port ∈ RADIUS_UDP_PORTS
  · have hOthers : port ∉ SIP_UDP_PORTS ∧ port ∉ SNMP_UDP_PORTS ∧ port ∉ SYSLOG_UDP_PORTS := by
      simp only [RADIUS_UDP_PORTS, List.mem_cons, List.not_mem_nil, or_false] at hRadius
      rcases hRadius with rfl | rfl | rfl | rfl <;> decide
    rw [if_neg hOthers.1, if_neg hOthers.2.1, if_neg hOthers.2.2, if_pos hRadius, map_ok,
      udpBanner_radius hRadius]
    exact ⟨fun h => ⟨h.1, h.2, hClock⟩, fun h => ⟨h.1, h.2.1⟩⟩
  · have hRepliable : Repliable port moment.ntp_seconds := by
      refine ⟨?_, ?_, hClock⟩
      all_goals
        rintro rfl
        exact hRadius (by decide)
    rw [if_neg hRadius]
    refine iff_of_true ?_ hRepliable
    split
    · exact ⟨_, rfl⟩
    split
    · exact ⟨_, rfl⟩
    split
    · exact ⟨_, rfl⟩
    split
    · exact ⟨_, rfl⟩
    · exact ⟨_, rfl⟩

def Allowed (env : UdpEnv) (l : UdpListener) (addr : Address) (moment : Moment) : Prop :=
  l.port ≠ 68 ∧ (udp_response_allowed env l.windows l.port addr moment.now).1 = true

instance (env : UdpEnv) (l : UdpListener) (addr : Address) (moment : Moment) :
    Decidable (Allowed env l addr moment) := inferInstanceAs (Decidable (_ ∧ _))

theorem udp_response_for_ok (env : UdpEnv) (l : UdpListener) {data : Bytes}
    (hData : data.length ≤ MAX_PACKET_SIZE) (addr : Address) (moment : Moment) :
    (∃ reply, (udp_response_for env l.windows l.port data addr moment).1 = .ok reply) ↔
      (Allowed env l addr moment → Repliable l.port moment.ntp_seconds) := by
  rw [udp_response_for]
  by_cases hPort : l.port = 68
  · rw [if_pos hPort]
    exact iff_of_true ⟨_, rfl⟩ fun h => absurd hPort h.1
  rw [if_neg hPort]
  cases hAllowed : udp_response_allowed env l.windows l.port addr moment.now with
  | mk allowed windows =>
    cases allowed with
    | false =>
      refine iff_of_true ⟨_, rfl⟩ fun h => ?_
      rw [Allowed, hAllowed] at h
      cases h.2
    | true =>
      dsimp only
      rw [reply_for_ok env l.port hData]
      exact ⟨fun h _ => h, fun h => h ⟨hPort, by rw [hAllowed]⟩⟩

/-! ## The session -/

theorem bind_ok {α β ε : Type} {r : Except ε α} {f : α → Except ε β} :
    (∃ b, (r >>= f) = .ok b) ↔ ∃ a, r = .ok a ∧ ∃ b, f a = .ok b := by
  cases r with
  | error e => exact ⟨nofun, nofun⟩
  | ok a => exact ⟨fun h => ⟨a, rfl, h⟩, fun ⟨_, hEq, h⟩ => by cases hEq; exact h⟩

instance decidableOkAnd {α ε : Type} (r : Except ε α) (p : α → Prop) [DecidablePred p] :
    Decidable (∃ a, r = .ok a ∧ p a) :=
  match r with
  | .error _ => isFalse nofun
  | .ok a => decidable_of_iff (p a) ⟨fun h => ⟨a, rfl, h⟩, fun ⟨_, hEq, h⟩ => by cases hEq; exact h⟩

/-- A session that is looked up where `c` holds; what follows is done unless it is found. -/
def Looked (store : StoreAnswers) (id : Int) (c : Prop) (next : Prop) : Prop :=
  (c → ∃ found, store.get_session id = .ok found) ∧
    (¬(c ∧ store.get_session id = .ok true) → next)

/-- Every call that `_session_id` makes of the store returns. -/
def StoreAnswers.Returns (store : StoreAnswers) (rt : Runtime) (current : Int) : Prop :=
  Looked store current (current > 0) (∃ config, store.get_runtime_config = .ok config ∧
    let existing := Value.safe_int rt (.str config) 0
    Looked store existing (existing ≠ 0) (∃ row, store.create_session = .ok row ∧
      (Value.safe_int rt row 0 ≠ 0 → store.set_runtime_config = .ok ())))

instance (store : StoreAnswers) (id : Int) (c next : Prop) [Decidable c] [Decidable next] :
    Decidable (Looked store id c next) := inferInstanceAs (Decidable (_ ∧ _))

instance (store : StoreAnswers) (rt : Runtime) (current : Int) :
    Decidable (store.Returns rt current) := inferInstanceAs (Decidable (Looked ..))

theorem looked_ok {α : Type} {store : StoreAnswers} {id : Int} {c : Prop} [Decidable c] {value : α}
    {rest : Except Raised α} :
    (∃ a, (do
      let found ← (if c then store.get_session id else .ok false)
      if found then return value
      rest) = .ok a) ↔ Looked store id c (∃ a, rest = .ok a) := by
  rw [bind_ok, Looked]
  by_cases hc : c
  · rw [if_pos hc]
    cases hFound : store.get_session id with
    | error e => exact ⟨nofun, fun h => by obtain ⟨_, h⟩ := h.1 hc; cases h⟩
    | ok found =>
      cases found with
      | true => exact iff_of_true ⟨true, rfl, value, rfl⟩ ⟨fun _ => ⟨true, rfl⟩, fun h =>
        absurd ⟨hc, rfl⟩ h⟩
      | false =>
        constructor
        · rintro ⟨_, hEq, h⟩
          cases hEq
          exact ⟨fun _ => ⟨false, rfl⟩, fun _ => h⟩
        · exact fun h => ⟨false, rfl, h.2 nofun⟩
  · rw [if_neg hc]
    constructor
    · rintro ⟨_, hEq, h⟩
      cases hEq
      exact ⟨fun h => absurd h hc, fun _ => h⟩
    · exact fun h => ⟨false, rfl, h.2 fun h => hc h.1⟩

theorem Looked.congr {store : StoreAnswers} {id : Int} {c p q : Prop} (h : p ↔ q) :
    Looked store id c p ↔ Looked store id c q := by
  rw [propext h]

theorem session_id_ok (rt : Runtime) (store : StoreAnswers) (current : Int) :
    (∃ id, session_id rt store current = .ok id) ↔ store.Returns rt current := by
  rw [session_id, looked_ok, StoreAnswers.Returns]
  have hCreated : ∀ created : Int, (∃ id, (do
      (if created ≠ 0 then store.set_runtime_config else .ok ())
      return created : Except Raised Int) = .ok id) ↔
        (created ≠ 0 → store.set_runtime_config = .ok ()) := by
    intro created
    rw [bind_ok]
    by_cases h : created ≠ 0
    · rw [if_pos h]
      exact ⟨fun ⟨_, h, _⟩ _ => h, fun hSet => ⟨(), hSet h, created, rfl⟩⟩
    · rw [if_neg h]
      exact iff_of_true ⟨(), rfl, created, rfl⟩ fun hNe => absurd hNe h
  refine Looked.congr ?_
  rw [bind_ok]
  refine exists_congr fun config => and_congr_right fun _ => ?_
  dsimp only
  rw [looked_ok]
  refine Looked.congr ?_
  rw [bind_ok]
  exact exists_congr fun row => and_congr_right fun _ => hCreated _

/-! ## A datagram -/

/-- Nothing that is done for the datagram raises: the store's calls return, and a reply that the limit
lets out can be built. -/
def Handled (env : UdpEnv) (l : UdpListener) (addr : Address) (moment : Moment) : Prop :=
  (Allowed env l addr moment → Repliable l.port moment.ntp_seconds) ∧
    moment.store.Returns env.rt l.session

instance (env : UdpEnv) (l : UdpListener) (addr : Address) (moment : Moment) :
    Decidable (Handled env l addr moment) := inferInstanceAs (Decidable (_ ∧ _))

theorem dns_meta_ok (env : UdpEnv) (port : Nat) {data : Bytes}
    (hData : data.length ≤ MAX_PACKET_SIZE) (moment : Moment) :
    ∃ dns, dns_meta env port data moment = .ok dns := by
  rw [dns_meta]
  split
  · exact map_ok.mpr (build_dns_response_ok env.inet_aton hData moment.listener_ip)
  · exact ⟨none, rfl⟩

theorem sendto_port (l : UdpListener) (addr : Address) (response : Option Bytes) :
    (l.sendto addr response).port = l.port := by
  cases response with
  | none => rfl
  | some reply =>
    rw [UdpListener.sendto]
    split <;> rfl

theorem sendto_session (l : UdpListener) (addr : Address) (response : Option Bytes) :
    (l.sendto addr response).session = l.session := by
  cases response with
  | none => rfl
  | some reply =>
    rw [UdpListener.sendto]
    split <;> rfl

theorem handle_udp_ok (env : UdpEnv) (l : UdpListener) (addr : Address) {data : Bytes}
    (hData : data.length ≤ MAX_PACKET_SIZE) (moment : Moment) :
    (handle_udp env l addr data moment).1 = .ok () ↔ Handled env l addr moment := by
  rw [Handled, ← udp_response_for_ok env l hData, ← session_id_ok, handle_udp]
  obtain ⟨dns, hDns⟩ := dns_meta_ok env l.port hData moment
  cases hReply : udp_response_for env l.windows l.port data addr moment with
  | mk response windows =>
    cases response with
    | error e => exact ⟨nofun, fun h => by obtain ⟨⟨_, h⟩, -⟩ := h; cases h⟩
    | ok response =>
      dsimp only
      rw [sendto_port, sendto_session, hDns]
      dsimp only
      cases session_id env.rt moment.store l.session with
      | error e => exact ⟨nofun, fun h => by obtain ⟨-, _, h⟩ := h; cases h⟩
      | ok session => exact iff_of_true rfl ⟨⟨response, rfl⟩, session, rfl⟩

/-! ## The listener -/

def harmless (env : UdpEnv) (s : UdpThread) : UdpEvent → Prop
  | .receives (.datagram data addr moment) => data ≠ [] → Handled env s.listener addr moment
  | _ => True

instance (env : UdpEnv) (s : UdpThread) (event : UdpEvent) : Decidable (harmless env s event) :=
  match event with
  | .receives (.datagram _ _ _) => inferInstanceAs (Decidable (_ → _))
  | .receives (.osError _) => isTrue trivial
  | .stopListener => isTrue trivial
  | .stopEngine => isTrue trivial
  | .looks => isTrue trivial
  | .selects _ => isTrue trivial
  | .roundEnds => isTrue trivial

theorem take_length (data : Bytes) : (data.take MAX_PACKET_SIZE).length ≤ MAX_PACKET_SIZE :=
  List.length_take_le ..

theorem receive_closed (env : UdpEnv) (s : UdpThread) (rest : List Nat) {data : Bytes}
    (hData : data ≠ []) (addr : Address) (moment : Moment) :
    (s.receive env rest (.datagram data addr moment)).phase = .closed ↔
      ¬ Handled env s.listener addr moment := by
  rw [← handle_udp_ok env s.listener addr (take_length data), UdpThread.receive, if_neg hData]
  cases handle_udp env s.listener addr (data.take MAX_PACKET_SIZE) moment with
  | mk outcome listener =>
    cases outcome with
    | error e => exact iff_of_true rfl nofun
    | ok _ => exact iff_of_false nofun (absurd rfl)

theorem receive_keeps {env : UdpEnv} {s : UdpThread} {rest : List Nat} {received : Received}
    (h : harmless env s (.receives received)) :
    (s.receive env rest received).phase ≠ .closed := by
  cases received with
  | osError message =>
    rw [UdpThread.receive]
    split <;> nofun
  | datagram data addr moment =>
    by_cases hData : data = []
    · rw [UdpThread.receive, if_pos hData]
      nofun
    · exact fun hClosed => (receive_closed env s rest hData addr moment).mp hClosed (h hData)

theorem serves_step {env : UdpEnv} {s s' : UdpThread} {event : UdpEvent}
    (hHarmless : harmless env s event) (hStep : s.step env event = some s') :
    s'.phase = .closed → s'.stopping = true := by
  cases event with
  | stopListener =>
    cases hStep
    exact fun _ => rfl
  | stopEngine =>
    cases hStep
    exact fun _ => Bool.or_true _
  | looks =>
    obtain ⟨-, hStep⟩ := Option.ite_none_right_eq_some.mp hStep
    cases hStep
    cases hStopping : s.stopping with
    | true => exact fun _ => hStopping
    | false => nofun
  | selects ready =>
    obtain ⟨-, hStep⟩ := Option.ite_none_right_eq_some.mp hStep
    cases ready with
    | some ready =>
      cases hStep
      nofun
    | none =>
      cases hStep
      cases hStopping : s.stopping with
      | true => exact fun _ => hStopping
      | false => nofun
  | receives received =>
    rw [UdpThread.step] at hStep
    split at hStep
    · cases hStep
      exact fun hClosed => absurd hClosed (receive_keeps hHarmless)
    · cases hStep
  | roundEnds =>
    obtain ⟨-, hStep⟩ := Option.ite_none_right_eq_some.mp hStep
    cases hStep
    nofun

/-- In a run whose datagrams all are harmless, the listener ends only when it is told to stop. The next
datagram ends it if and only if its handling raises. -/
theorem udp_serves (env : UdpEnv) (port : Nat) (events : List UdpEvent) {s : UdpThread}
    (hRun : StepRun.run (StepRun.guarded (harmless env) (UdpThread.step env)) (.initial port)
      events = some s) :
    (s.phase = .closed → s.stopping = true) ∧
    ∀ sock rest data addr moment, s.phase = .reading (sock :: rest) → data ≠ [] →
      ∃ s', s.step env (.receives (.datagram data addr moment)) = some s' ∧
        (s'.phase = .closed ↔ ¬ Handled env s.listener addr moment) := by
  constructor
  · have hInvariant : StepRun.Invariant (StepRun.guarded (harmless env) (UdpThread.step env))
        fun s => s.phase = .closed → s.stopping = true := by
      intro s event s' _ hStep
      obtain ⟨hHarmless, hStep⟩ := StepRun.guarded_eq_some.mp hStep
      exact serves_step hHarmless hStep
    exact hInvariant.run (fun hClosed => by cases hClosed) hRun
  · intro sock rest data addr moment hPhase hData
    refine ⟨s.receive env rest (.datagram data addr moment), ?_,
      receive_closed env s rest hData addr moment⟩
    rw [UdpThread.step, hPhase]

/-- A probe of a game server's port, with a new session. -/
theorem udp_serves_probe : ∃ s, StepRun.run (StepRun.guarded
      (harmless ⟨.ascii, fun _ => none, 1, 20, 4096⟩)
      (UdpThread.step ⟨.ascii, fun _ => none, 1, 20, 4096⟩)) (.initial 27015)
      [.looks, .selects (some [0]), .receives (.datagram [255] ⟨"203.0.113.7", 5000⟩
        ⟨0, 0, "10.0.0.1", "10.0.0.1", fun _ => .ok false, .ok "", .ok (.int 7), .ok ()⟩),
        .roundEnds] = some s ∧
    (s.phase = .closed → s.stopping = true) := by
  exact StepRun.exists_end rfl fun s hRun => (udp_serves _ 27015 _ hRun).1

/-- One byte to port 1645: the listener ends, and nobody has told it to. -/
theorem radius_silenced : ∃ s, StepRun.run (UdpThread.step ⟨.ascii, fun _ => none, 1, 20, 4096⟩)
      (.initial 1645)
      [.looks, .selects (some [0]), .receives (.datagram [1] ⟨"203.0.113.7", 5000⟩
        ⟨0, 0, "10.0.0.1", "10.0.0.1", fun _ => .ok false, .ok "", .ok (.int 7), .ok ()⟩)] = some s ∧
    s.phase = .closed ∧ s.stopping = false :=
  ⟨_, rfl, rfl, rfl⟩

end Sniff4Hound.Honeypot
