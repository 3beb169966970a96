import Sniff4Hound.Auth.RequestGuard

/-!
# WebSocket tickets

A browser cannot set headers on a WebSocket, so `app.py` hands out a ticket for the credential of an
authenticated request; the handshake presents it as a query parameter. A ticket is dropped when it is
presented, and the credential then stands in the headers that the guard reads.

The log is not in the code: what was issued and presented so far. A ticket is told apart by its place in
the log, since two tickets might be the same text.

* `handshakes_fair`: a ticket serves the client it was handed to, once, and in time.
-/

namespace Sniff4Hound.Auth

def WS_TICKET_TTL_SECONDS : Rat := 15

structure Ticket where
  token : String
  client : String
  expires_at : Rat

/-- A handshake as it was answered: the ticket it presented, the credential of its own headers, the
credential that its ticket gave (empty for none), and the one that the guard read. -/
structure Handshake where
  presented : String
  client : String
  now : Rat
  own : Option String
  given : String
  read : Option String
  verdict : Verdict

inductive TicketEvent
  | issued (ticket client token : String) (now : Rat)
  | answered (handshake : Handshake)

/-- The tickets, the limiter's table and what has happened. -/
structure TicketDesk where
  tickets : Dict String Ticket := []
  clients : Clients := []
  log : List TicketEvent := []

namespace TicketDesk

/-- `_prune_ws_tickets`. -/
def prune (tickets : Dict String Ticket) (now : Rat) : Dict String Ticket :=
  tickets.filter fun entry => ¬entry.2.expires_at ≤ now

/-- `_issue_ws_ticket`, with the random text of the new ticket. -/
def issue_ws_ticket (desk : TicketDesk) (now : Rat) (ticket : String) (request : Request) :
    Except String String × TicketDesk :=
  match extract_request_token request false with
  | none => (.error "Authenticated request required", desk)
  | some token =>
    let client := client_address request
    (.ok ticket,
      { desk with
        tickets := (prune desk.tickets now).set ticket
          { token := token
            client := client
            expires_at := now + WS_TICKET_TTL_SECONDS }
        log := desk.log ++ [.issued ticket client token now] })

def presented (request : Request) : String :=
  strip ((((request.query.lookup "ws_ticket").bind nonempty).or
    ((request.query.lookup "ticket").bind nonempty)).getD "")

/-- `_consume_ws_ticket`: the credential of the ticket, and the tickets that are left. -/
def consume_ws_ticket (tickets : Dict String Ticket) (now : Rat) (request : Request) :
    String × Dict String Ticket :=
  let ticket := presented request
  if ticket = "" then ("", tickets)
  else
    let tickets := prune tickets now
    match tickets.lookup ticket with
    | none => ("", tickets)
    | some data =>
      let tickets := tickets.erase ticket
      if data.expires_at ≤ now then ("", tickets)
      else if data.client ≠ client_address request then ("", tickets)
      else (strip data.token, tickets)

def inject (request : Request) (token : String) : Request :=
  if token = "" then request
  else { request with headers := request.headers.set "X-Security-Code" token }

def guard_websocket_auth {φ : Type} (m : GuardModule φ) (desk : TicketDesk) (moment : Moment)
    (request : Request) : Verdict × TicketDesk :=
  let (token, tickets) := consume_ws_ticket desk.tickets moment.now request
  let injected := inject request token
  let (verdict, clients) := m.guard_request_auth moment desk.clients injected false
  (verdict,
    { tickets := tickets
      clients := clients
      log := desk.log ++
        [.answered
          { presented := presented request
            client := client_address request
            now := moment.now
            own := extract_request_token request false
            given := token
            read := extract_request_token injected false
            verdict := verdict }] })

end TicketDesk

/-- A request for a ticket, or a handshake. -/
inductive TicketCall
  | issue (now : Rat) (ticket : String) (request : Request)
  | handshake (moment : Moment) (request : Request)

def TicketDesk.after {φ : Type} (m : GuardModule φ) (desk : TicketDesk) : TicketCall → TicketDesk
  | .issue now ticket request => (desk.issue_ws_ticket now ticket request).2
  | .handshake moment request => (desk.guard_websocket_auth m moment request).2

/-! ## What a ticket is good for -/

def TicketEvent.Names (ticket : String) : TicketEvent → Prop
  | .issued ticket' .. => ticket' = ticket
  | .answered handshake => ticket ≠ "" ∧ handshake.presented = ticket

/-- The ticket was handed out to the client for the credential, has not been presented since, and has
not expired. -/
def Granted (before : List TicketEvent) (ticket client token : String) (now : Rat) : Prop :=
  ∃ front since issuedAt, before = front ++ .issued ticket client token issuedAt :: since ∧
    (∀ e ∈ since, ¬e.Names ticket) ∧ now < issuedAt + WS_TICKET_TTL_SECONDS

/-- What a handshake is given its ticket grants, and what it reads is that or its own token. -/
structure Fair (before : List TicketEvent) (h : Handshake) : Prop where
  given : h.given ≠ "" → Granted before h.presented h.client h.given h.now
  read : h.read = h.own ∨ h.given ≠ "" ∧ h.read = some h.given

/-- A ticket of the table was issued with its data and has not been named since. -/
structure Ticket.Fits (data : Ticket) (ticket : String) (log : List TicketEvent) : Prop where
  handed : ∃ front since issuedAt,
    log = front ++ .issued ticket data.client data.token issuedAt :: since ∧
      (∀ e ∈ since, ¬e.Names ticket) ∧ data.expires_at = issuedAt + WS_TICKET_TTL_SECONDS
  stripped : strip data.token = data.token

theorem Ticket.Fits.snoc {data : Ticket} {ticket : String} {log : List TicketEvent}
    (h : data.Fits ticket log) {e : TicketEvent} (he : ¬e.Names ticket) :
    data.Fits ticket (log ++ [e]) := by
  obtain ⟨front, since, issuedAt, rfl, hSince, hExpires⟩ := h.handed
  refine ⟨⟨front, since ++ [e], issuedAt, by simp, ?_, hExpires⟩, h.stripped⟩
  intro d hd
  rcases List.mem_append.mp hd with hOld | hNew
  · exact hSince d hOld
  · rw [List.mem_singleton.mp hNew]
    exact he

/-! ## The credentials of a request -/

theorem nonempty_eq_some {value token : String} :
    nonempty value = some token ↔ value = token ∧ token ≠ "" := by
  unfold nonempty
  split
  · rename_i h
    constructor
    · exact nofun
    · rintro ⟨rfl, hToken⟩
      exact absurd h hToken
  · rename_i h
    constructor
    · intro hSome
      cases hSome
      exact ⟨rfl, h⟩
    · rintro ⟨rfl, -⟩
      rfl

theorem header_token_stripped {headers : Dict String String} {token : String}
    (h : header_token headers = some token) : strip token = token := by
  unfold header_token extract_token_from_header at h
  obtain ⟨value, hValue, hToken⟩ := Option.bind_eq_some_iff.mp h
  obtain ⟨header, -, hHeader⟩ := Option.map_eq_some_iff.mp hValue
  rw [← (nonempty_eq_some.mp hToken).1, ← hHeader]
  split
  · exact strip_strip _
  · exact strip_strip _

theorem extract_stripped {request : Request} {token : String}
    (h : extract_request_token request false = some token) : strip token = token := by
  unfold extract_request_token at h
  split at h
  · rename_i found hFound
    cases h
    exact header_token_stripped hFound
  · split at h
    · rw [← (nonempty_eq_some.mp h).1]
      exact strip_strip _
    · cases h

theorem extract_inject (request : Request) {token : String} (hToken : strip token = token)
    (hSome : token ≠ "") :
    extract_request_token (TicketDesk.inject request token) false =
      (header_token request.headers).or (some token) := by
  have hOther : ∀ name, name ≠ "X-Security-Code" →
      (request.headers.set "X-Security-Code" token).lookup name = request.headers.lookup name := by
    intro name hName
    rw [Dict.lookup_set, if_neg hName]
  have hHeader : header_token (request.headers.set "X-Security-Code" token) =
      header_token request.headers := by
    unfold header_token
    simp only [request_header]
    rw [hOther "Authorization" (by decide), hOther "authorization" (by decide),
      hOther (lowerName "Authorization") (by decide),
      hOther (lowerName "authorization") (by decide)]
  have hDirect : request_header (request.headers.set "X-Security-Code" token) DIRECT_HEADERS =
      some token := by
    unfold DIRECT_HEADERS
    rw [request_header, Dict.lookup_set, if_pos rfl, Option.bind_some,
      nonempty_eq_some.mpr ⟨rfl, hSome⟩]
    rfl
  unfold TicketDesk.inject
  rw [if_neg hSome]
  unfold extract_request_token
  dsimp only
  rw [hHeader, hDirect]
  cases header_token request.headers with
  | some own => rfl
  | none =>
    dsimp only [Option.none_or]
    rw [hToken]
    exact nonempty_eq_some.mpr ⟨rfl, hSome⟩

/-! ## The invariant -/

namespace TicketDesk

structure Sound (desk : TicketDesk) : Prop where
  keys : desk.tickets.keys.Nodup
  fits : ∀ ticket data, desk.tickets.lookup ticket = some data → data.Fits ticket desk.log
  fair : StepRun.Ordered (fun before e => ∀ h, e = .answered h → Fair before h) desk.log

variable {desk : TicketDesk}

theorem lookup_prune {tickets : Dict String Ticket} (hKeys : tickets.keys.Nodup) {now : Rat}
    {ticket : String} {data : Ticket} (h : (prune tickets now).lookup ticket = some data) :
    tickets.lookup ticket = some data :=
  Dict.lookup_of_lookup_filter hKeys h

theorem Sound.issue (h : desk.Sound) (now : Rat) (ticket : String) (request : Request) :
    (desk.issue_ws_ticket now ticket request).2.Sound := by
  unfold issue_ws_ticket
  split
  · exact h
  · rename_i token hToken
    constructor
    · exact Dict.nodup_keys_set (Dict.nodup_keys_filter h.keys _) _ _
    · intro ticket' data hData
      dsimp only at hData ⊢
      rw [Dict.lookup_set] at hData
      split at hData
      · rename_i hSame
        cases hData
        refine ⟨⟨desk.log, [], now, by rw [hSame], ?_, rfl⟩, extract_stripped hToken⟩
        exact fun e he => absurd he List.not_mem_nil
      · rename_i hOther
        have hFits := h.fits ticket' data (lookup_prune h.keys hData)
        exact hFits.snoc fun hNames => hOther hNames.symm
    · exact h.fair.snoc nofun

theorem lookup_consume (h : desk.Sound) (now : Rat) (request : Request) {ticket : String}
    {data : Ticket}
    (hData : (consume_ws_ticket desk.tickets now request).2.lookup ticket = some data) :
    desk.tickets.lookup ticket = some data ∧
      (presented request ≠ "" → ticket ≠ presented request) := by
  unfold consume_ws_ticket at hData
  dsimp only at hData
  split at hData
  · rename_i hEmpty
    exact ⟨hData, fun hSome => absurd hEmpty hSome⟩
  · split at hData
    · rename_i hNone
      refine ⟨lookup_prune h.keys hData, ?_⟩
      rintro - rfl
      rw [hNone] at hData
      cases hData
    · rename_i found hFound
      have hErased : ((prune desk.tickets now).erase (presented request)).lookup ticket =
          some data := by
        split_ifs at hData
        · exact hData
        · exact hData
        · exact hData
      rw [Dict.lookup_erase] at hErased
      split at hErased
      · cases hErased
      · rename_i hOther
        exact ⟨lookup_prune h.keys hErased, fun _ => hOther⟩

theorem nodup_consume (h : desk.Sound) (now : Rat) (request : Request) :
    (consume_ws_ticket desk.tickets now request).2.keys.Nodup := by
  have hPruned := Dict.nodup_keys_filter h.keys
    fun entry : String × Ticket => decide ¬entry.2.expires_at ≤ now
  unfold consume_ws_ticket
  dsimp only
  split
  · exact h.keys
  · split
    · exact hPruned
    · have hErased := Dict.nodup_keys_erase hPruned (presented request)
      split_ifs
      · exact hErased
      · exact hErased
      · exact hErased

theorem given_granted (h : desk.Sound) {now : Rat} {request : Request}
    (hGiven : (consume_ws_ticket desk.tickets now request).1 ≠ "") :
    Granted desk.log (presented request) (client_address request)
        (consume_ws_ticket desk.tickets now request).1 now ∧
      strip (consume_ws_ticket desk.tickets now request).1 =
        (consume_ws_ticket desk.tickets now request).1 := by
  unfold consume_ws_ticket at hGiven ⊢
  dsimp only at hGiven ⊢
  split at hGiven
  · exact absurd rfl hGiven
  · rename_i hPresented
    rw [if_neg hPresented]
    split at hGiven
    · exact absurd rfl hGiven
    · rename_i data hData
      split_ifs at hGiven ⊢ with hExpired hClient
      · exact absurd rfl hGiven
      · exact absurd rfl hGiven
      · have hFits := h.fits _ data (lookup_prune h.keys hData)
        obtain ⟨front, since, issuedAt, hLog, hSince, hExpires⟩ := hFits.handed
        have hSame : data.client = client_address request := not_not.mp hClient
        dsimp only
        rw [hFits.stripped]
        refine ⟨⟨front, since, issuedAt, hSame ▸ hLog, hSince, ?_⟩, hFits.stripped⟩
        rw [← hExpires]
        exact not_le.mp hExpired

theorem Sound.handshake {φ : Type} (m : GuardModule φ) (h : desk.Sound) (moment : Moment)
    (request : Request) : (desk.guard_websocket_auth m moment request).2.Sound := by
  have hKeys := nodup_consume h moment.now request
  have hLookup := fun ticket data => @lookup_consume desk h moment.now request ticket data
  have hGranted := @given_granted desk h moment.now request
  unfold guard_websocket_auth
  -- what is known of the tickets that are left is enough, and the call is not unfolded
  generalize consume_ws_ticket desk.tickets moment.now request = consumed at hKeys hLookup hGranted ⊢
  obtain ⟨given, tickets⟩ := consumed
  dsimp only at hKeys hLookup hGranted ⊢
  constructor
  · exact hKeys
  · intro ticket data hData
    obtain ⟨hOld, hOther⟩ := hLookup ticket data hData
    apply (h.fits ticket data hOld).snoc
    rintro ⟨hSome, rfl⟩
    exact hOther hSome rfl
  · apply h.fair.snoc
    rintro h' hEq
    cases hEq
    constructor
    · exact fun hGiven => (hGranted hGiven).1
    · dsimp only
      by_cases hGiven : given = ""
      · left
        unfold inject
        rw [if_pos hGiven]
      · obtain ⟨-, hStrip⟩ := hGranted hGiven
        rw [extract_inject request hStrip hGiven]
        cases hHeader : header_token request.headers with
        | none => exact Or.inr ⟨hGiven, rfl⟩
        | some own =>
          left
          unfold extract_request_token
          rw [hHeader]
          rfl

theorem sound_new (clients : Clients) : ({ clients := clients } : TicketDesk).Sound where
  keys := List.nodup_nil
  fits _ _ h := nomatch h
  fair := StepRun.Ordered.nil _

end TicketDesk

/-- Whatever requests and handshakes come from whomever at whatever times: a handshake is
authenticated by its own headers, or by a ticket handed out to its client, which has not expired and
was presented by no handshake before it. -/
theorem handshakes_fair {φ : Type} (m : GuardModule φ) (clients : Clients)
    (calls : List TicketCall) :
    StepRun.Ordered (fun before e => ∀ h, e = .answered h → Fair before h)
      (calls.foldl (TicketDesk.after m) { clients := clients }).log := by
  have hSound : (calls.foldl (TicketDesk.after m) { clients := clients }).Sound := by
    induction calls using List.reverseRecOn with
    | nil => exact TicketDesk.sound_new clients
    | append_singleton calls call ih =>
      rw [List.foldl_append, List.foldl_cons, List.foldl_nil]
      cases call with
      | issue now ticket request => exact ih.issue now ticket request
      | handshake moment request => exact ih.handshake m moment request
  exact hSound.fair

example : (TicketDesk.consume_ws_ticket [("t", ⟨"CODE", "192.168.1.7", 15⟩)] 14
    ⟨[], [("ticket", " t")], some "192.168.1.7"⟩).1 = "CODE" := rfl

end Sniff4Hound.Auth
