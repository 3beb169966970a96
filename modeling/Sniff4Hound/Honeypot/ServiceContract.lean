import Mathlib.Data.List.TakeWhile
import Sniff4Hound.Honeypot.Services
import Sniff4Hound.Honeypot.UdpContract

/-!
# Which connections are recorded

A handler records its connection where its receiving ends in a way that it catches. All of them catch a
time-out but the one of RTSP, and only the one of HTTP catches other errors, where it forgets the bytes
that it has (`Yields`). The one of DNS keeps the bytes of the first `recv` only, and returns where there
are fewer than two. The condition `Recordable` says so of the outcomes of `recv`, and it is exact
(`connections_recorded`).
-/

namespace Sniff4Hound.Honeypot

/-! ## What is received -/

/-- The outcomes of the calls of `recv`. -/
def recvs (script : List Outcome) : List RecvOutcome :=
  script.filterMap fun
    | .received outcome => some outcome
    | .sent _ => none

def RecvOutcome.bytes : RecvOutcome → Bytes
  | .data bytes => bytes
  | _ => []

def bytesOf (outcomes : List RecvOutcome) : Bytes := (outcomes.map RecvOutcome.bytes).flatten

def RecvOutcome.isFailed : RecvOutcome → Bool
  | .failed _ => true
  | _ => false

def RecvOutcome.isBroken : RecvOutcome → Bool
  | .data _ => false
  | _ => true

theorem recvs_append (front back : List Outcome) :
    recvs (front ++ back) = recvs front ++ recvs back := List.filterMap_append

theorem bytesOf_append (front back : List RecvOutcome) :
    bytesOf (front ++ back) = bytesOf front ++ bytesOf back := by
  rw [bytesOf, List.map_append, List.flatten_append]
  rfl

/-- Whatever the socket answers, the outcomes of `recv` and the result are related so. -/
def Meets {α : Type} (P : List RecvOutcome → Except TcpError α → Prop) (d : Talk α) : Prop :=
  ∀ script r, d.play fits script = some r → P (recvs script) r

/-- A program ends with the value of `f`, and raises where it has none. -/
abbrev Yields (f : List RecvOutcome → Option Bytes) (d : Talk Bytes) : Prop :=
  Meets (fun outcomes r => r.toOption = f outcomes) d

/-- What stands in front and all that is received, unless an outcome is met that is not caught. -/
def gathered (lost : RecvOutcome → Bool) (front : Bytes) (outcomes : List RecvOutcome) :
    Option Bytes :=
  if outcomes.any lost then none else some (front ++ bytesOf outcomes)

theorem gathered_append {lost : RecvOutcome → Bool} {first : List RecvOutcome}
    (hFirst : first.any lost = false) (front : Bytes) (later : List RecvOutcome) :
    gathered lost front (first ++ later) = gathered lost (front ++ bytesOf first) later := by
  rw [gathered, gathered, List.any_append, hFirst, Bool.false_or, bytesOf_append, List.append_assoc]

theorem gathered_eq_none {lost : RecvOutcome → Bool} {front : Bytes} {outcomes : List RecvOutcome} :
    gathered lost front outcomes = none ↔ outcomes.any lost = true := by
  rw [gathered]
  cases outcomes.any lost with
  | true => exact ⟨fun _ => rfl, fun _ => rfl⟩
  | false => exact ⟨nofun, nofun⟩

theorem gathered_eq_some {lost : RecvOutcome → Bool} {front data : Bytes}
    {outcomes : List RecvOutcome} :
    gathered lost front outcomes = some data ↔
      outcomes.any lost = false ∧ data = front ++ bytesOf outcomes := by
  rw [gathered]
  cases outcomes.any lost with
  | true => exact ⟨nofun, nofun⟩
  | false => exact ⟨fun h => ⟨rfl, (Option.some.inj h).symm⟩, fun h => congrArg some h.2.symm⟩

/-! ## Rules -/

section Rules

variable {lost : RecvOutcome → Bool} {front : Bytes} {f : List RecvOutcome → Option Bytes}
  {d : Talk Bytes}

theorem meets_send {α : Type} {P : List RecvOutcome → Except TcpError α → Prop} {d : Talk α}
    (payload : Bytes) (h : Meets P d) : Meets P (safe_send payload >>= fun _ => d) := by
  intro script r hPlay
  obtain ⟨answer, rest, rfl, hFits, hRest⟩ := Dialogue.play_call.mp hPlay
  cases answer with
  | received outcome => cases hFits
  | sent ok => exact h rest r hRest

theorem meets_send_all {α : Type} {P : List RecvOutcome → Except TcpError α → Prop} {d : Talk α}
    (replies : List Bytes) (h : Meets P d) : Meets P (send_all replies >>= fun _ => d) := by
  induction replies with
  | nil => exact h
  | cons reply replies ih => exact meets_send reply ih

theorem gathers_pure (front : Bytes) : Yields (gathered lost front) (pure front) := by
  intro script r hPlay
  obtain ⟨rfl, rfl⟩ := Dialogue.play_ret.mp hPlay
  exact congrArg some (List.append_nil front).symm

theorem gathers_bind {next : Bytes → Talk Bytes} (hFirst : Yields (gathered lost []) d)
    (hNext : ∀ chunk, Yields (gathered lost (front ++ chunk)) (next chunk)) :
    Yields (gathered lost front) (d >>= next) := by
  intro script r hPlay
  rcases Dialogue.play_bind hPlay with ⟨e, hError, rfl⟩ | ⟨chunk, first, later, rfl, hOk, hLater⟩
  · have hLost := gathered_eq_none.mp (hFirst script _ hError).symm
    exact (gathered_eq_none.mpr hLost).symm
  · obtain ⟨hLost, rfl⟩ := gathered_eq_some.mp (hFirst first _ hOk).symm
    rw [recvs_append, gathered_append hLost]
    exact hNext _ later r hLater

theorem gathers_recv (n : Nat) : Yields (gathered RecvOutcome.isBroken []) (recv n) := by
  intro script r hPlay
  obtain ⟨answer, rest, rfl, hFits, hRest⟩ := Dialogue.play_call.mp hPlay
  rcases answer with (bytes | _ | ssl) | ok
  · obtain ⟨rfl, rfl⟩ := Dialogue.play_ret.mp hRest
    exact congrArg some (List.append_nil bytes).symm
  · obtain ⟨rfl, rfl⟩ := Dialogue.play_raise.mp hRest
    rfl
  · obtain ⟨rfl, rfl⟩ := Dialogue.play_raise.mp hRest
    rfl
  · cases hFits

theorem gathers_recv_or_nothing (n : Nat) :
    Yields (gathered RecvOutcome.isFailed []) (recv_or_nothing n) := by
  intro script r hPlay
  obtain ⟨answer, rest, rfl, hFits, hRest⟩ := Dialogue.play_call.mp hPlay
  rcases answer with (bytes | _ | ssl) | ok
  · obtain ⟨rfl, rfl⟩ := Dialogue.play_ret.mp hRest
    exact congrArg some (List.append_nil bytes).symm
  · obtain ⟨rfl, rfl⟩ := Dialogue.play_ret.mp hRest
    rfl
  · obtain ⟨rfl, rfl⟩ := Dialogue.play_raise.mp hRest
    rfl
  · cases hFits

theorem gathers_unless {chunk : Bytes} (h : Yields (gathered lost (front ++ chunk)) d) :
    Yields (gathered lost (front ++ chunk)) (if chunk = [] then pure front else d) := by
  by_cases hChunk : chunk = []
  · rw [if_pos hChunk, hChunk, List.append_nil]
    exact gathers_pure front
  · rw [if_neg hChunk]
    exact h

theorem gathers_recv_line : Yields (gathered RecvOutcome.isFailed []) recv_line := by
  have hFrom : ∀ left data, Yields (gathered RecvOutcome.isFailed data) (recvLineFrom left data) := by
    intro left
    induction left with
    | zero => exact gathers_pure
    | succ left ih =>
      intro data
      refine gathers_bind (gathers_recv_or_nothing 1) fun chunk => gathers_unless ?_
      split
      · exact gathers_pure _
      · exact ih _
  exact hFrom MAX_PACKET_SIZE []

theorem gathers_rounds {σ : Type} {receive : Talk Bytes} (hReceive : Yields (gathered lost []) receive)
    (turn : σ → Bytes → Turn σ) (left : Nat) (state : σ) (data : Bytes) :
    Yields (gathered lost data) (rounds receive turn left state data) := by
  induction left generalizing state data with
  | zero => exact gathers_pure data
  | succ left ih =>
    refine gathers_bind hReceive fun chunk => gathers_unless (meets_send_all _ ?_)
    split
    · exact gathers_pure _
    · exact ih _ _

theorem gathers_one_recv (replies : Bytes → List Bytes) :
    Yields (gathered RecvOutcome.isFailed []) (one_recv replies) := by
  refine gathers_bind (gathers_recv_or_nothing _) fun chunk => ?_
  by_cases hChunk : chunk = []
  · rw [if_pos hChunk]
    exact gathers_pure chunk
  · rw [if_neg hChunk]
    exact meets_send_all _ (gathers_pure chunk)

theorem gathers_read_http_request :
    Yields (gathered RecvOutcome.isBroken []) read_http_request := by
  have hFrom : ∀ data, Yields (gathered RecvOutcome.isBroken data) (readRequestFrom data) := by
    intro data
    induction data using readRequestFrom.induct with
    | case1 data hGoOn ih =>
      rw [readRequestFrom, dif_pos hGoOn]
      refine gathers_bind (gathers_recv _) fun chunk => ?_
      by_cases hChunk : chunk = []
      · rw [dif_pos hChunk, hChunk, List.append_nil]
        exact gathers_pure data
      · rw [dif_neg hChunk]
        exact ih chunk hChunk
    | case2 data hStop =>
      rw [readRequestFrom, dif_neg hStop]
      exact gathers_pure data
  exact hFrom []

theorem gathers_readQuery (query_length : Nat) (query : Bytes) :
    Yields (gathered RecvOutcome.isBroken query) (readQuery query_length query) := by
  induction query using readQuery.induct query_length with
  | case1 query hShort ih =>
    rw [readQuery, dif_pos hShort]
    refine gathers_bind (gathers_recv _) fun chunk => ?_
    by_cases hChunk : chunk = []
    · rw [dif_pos hChunk, hChunk, List.append_nil]
      exact gathers_pure query
    · rw [dif_neg hChunk]
      exact ih chunk hChunk
  | case2 query hStop =>
    rw [readQuery, dif_neg hStop]
    exact gathers_pure query

theorem yields_reply (reply : Bytes → Bytes) (h : Yields f d) :
    Yields f (d >>= fun data => safe_send (reply data) >>= fun _ => pure data) := by
  intro script r hPlay
  rcases Dialogue.play_bind hPlay with ⟨e, hError, rfl⟩ | ⟨data, first, later, rfl, hOk, hLater⟩
  · exact h script _ hError
  · obtain ⟨answer, rest, rfl, hFits, hRest⟩ := Dialogue.play_call.mp hLater
    obtain ⟨rfl, rfl⟩ := Dialogue.play_ret.mp hRest
    cases answer with
    | received outcome => cases hFits
    | sent ok =>
      have hRecvs : recvs (first ++ [Outcome.sent ok]) = recvs first := by
        rw [recvs_append]
        exact List.append_nil _
      rw [hRecvs]
      exact h first _ hOk

end Rules

/-! ## Sessions -/

def httpRequest (outcomes : List RecvOutcome) : Option Bytes :=
  some ((gathered RecvOutcome.isBroken [] outcomes).getD [])

theorem yields_http_request : Yields httpRequest (read_http_request.tryCatch fun _ => .ret []) := by
  intro script r hPlay
  rcases Dialogue.play_tryCatch hPlay with ⟨data, hOk, rfl⟩ | ⟨e, front, back, rfl, hError, hBack⟩
  · rw [httpRequest, ← gathers_read_http_request script _ hOk]
    rfl
  · obtain ⟨rfl, rfl⟩ := Dialogue.play_ret.mp hBack
    rw [List.append_nil, httpRequest, ← gathers_read_http_request front _ hError]
    rfl

theorem gathers_password (username : Bytes) :
    Yields (gathered RecvOutcome.isFailed username) (if username = [] then pure []
      else do
        safe_send (Bytes.ofText "Password: ")
        let password ← recv_line
        return username ++ password : Talk Bytes) := by
  by_cases hUsername : username = []
  · rw [if_pos hUsername, hUsername]
    exact gathers_pure []
  · rw [if_neg hUsername]
    exact meets_send _ (gathers_bind gathers_recv_line fun password => gathers_pure _)

theorem gathers_startup (data : Bytes) (reply : Bytes) :
    Yields (gathered RecvOutcome.isFailed data) ((do
      let more ← recv MAX_PACKET_SIZE
      safe_send reply
      return data ++ more : Talk Bytes).tryCatch fun
        | .timeout => .ret data
        | e => .raise e) := by
  intro script r hPlay
  obtain ⟨answer, rest, rfl, hFits, hRest⟩ := Dialogue.play_call.mp hPlay
  rcases answer with (bytes | _ | ssl) | ok
  · obtain ⟨answer, rest, rfl, hSent, hRest⟩ := Dialogue.play_call.mp hRest
    obtain ⟨rfl, rfl⟩ := Dialogue.play_ret.mp hRest
    cases answer with
    | received outcome => cases hSent
    | sent ok => exact congrArg (fun more => some (data ++ more)) (List.append_nil bytes).symm
  · obtain ⟨rfl, rfl⟩ := Dialogue.play_ret.mp hRest
    exact congrArg some (List.append_nil data).symm
  · obtain ⟨rfl, rfl⟩ := Dialogue.play_raise.mp hRest
    rfl
  · cases hFits

theorem splitAtMost_colon {line : String} (h : ':' ∈ line.toList) :
    ∃ value, (splitAtMost ':' 1 line.toList)[1]? = some value := by
  have hRest : line.toList.dropWhile (· ≠ ':') ≠ [] := by
    rw [Ne, List.dropWhile_eq_nil_iff]
    exact fun hAll => of_decide_eq_true (hAll ':' h) rfl
  rw [splitAtMost]
  split
  · contradiction
  · exact ⟨_, rfl⟩

theorem build_rtsp_response_ok (env : TcpEnv) (request_text : String) :
    ∃ response, build_rtsp_response env request_text = some response := by
  rw [build_rtsp_response]
  cases hFind : ((splitLines request_text.toList).map String.ofList).find? fun line =>
      startswith (env.rt.lower line) "cseq:" with
  | none => exact ⟨_, rfl⟩
  | some line =>
    have hFound := List.find?_some hFind
    have hStarts : "cseq:".toList <+: (env.rt.lower line).toList := of_decide_eq_true hFound
    have hColon : ':' ∈ (env.rt.lower line).toList :=
      hStarts.subset (by rw [show "cseq:".toList = ['c', 's', 'e', 'q', ':'] from rfl]; decide)
    obtain ⟨value, hValue⟩ := splitAtMost_colon (env.lower_colon line hColon)
    dsimp only
    rw [hValue]
    exact ⟨_, rfl⟩

/-! ## Packets -/

def Connection.Stores (conn : Connection) : Prop :=
  conn.moment.store.Returns conn.env.rt conn.moment.session

def Kept (bytes : Bytes) (r : Except TcpError (Option TcpPacket)) : Prop :=
  ∃ packet, r = .ok (some packet) ∧ bytes <:+: packet.data

theorem emit_kept {conn : Connection} {data : Bytes} {banner_text summary : String}
    {dns : Option DnsMeta} {script : List Outcome} {r : Except TcpError (Option TcpPacket)}
    (h : (emit conn data banner_text summary dns).play fits script = some r) (bytes : Bytes) :
    script = [] ∧ (Kept bytes r ↔ bytes <:+: orNoData data ∧ conn.Stores) := by
  obtain ⟨rfl, rfl⟩ := Dialogue.play_lift.mp h
  refine ⟨rfl, ?_⟩
  rw [Connection.Stores, ← session_id_ok, build_packet]
  cases session_id conn.env.rt conn.moment.store conn.moment.session with
  | error e => exact ⟨nofun, fun h => by obtain ⟨-, _, h⟩ := h; cases h⟩
  | ok session =>
    constructor
    · rintro ⟨packet, hPacket, hBytes⟩
      cases hPacket
      exact ⟨hBytes, session, rfl⟩
    · exact fun h => ⟨_, rfl, h.1⟩

theorem serve_kept {conn : Connection} {banner : Option Banner} {gather : Talk Bytes}
    {banner_text summary : String} {f : List RecvOutcome → Option Bytes} (hGather : Yields f gather) :
    Meets (fun outcomes r => Kept (bytesOf outcomes) r ↔
        (∃ data, f outcomes = some data ∧ bytesOf outcomes <:+: orNoData data) ∧ conn.Stores)
      (serve conn banner gather banner_text summary) := by
  refine meets_send_all _ fun script r hPlay => ?_
  rcases Dialogue.play_bind hPlay with ⟨e, hError, rfl⟩ | ⟨data, first, later, rfl, hOk, hLater⟩
  · have hNone := hGather script _ hError
    constructor
    · rintro ⟨packet, hPacket, -⟩
      cases hPacket
    · rintro ⟨⟨data, hData, -⟩, -⟩
      rw [← hNone] at hData
      cases hData
  · obtain ⟨rfl, hKept⟩ := emit_kept hLater (bytesOf (recvs first))
    rw [List.append_nil, hKept, ← hGather first _ hOk]
    constructor
    · exact fun h => ⟨⟨data, rfl, h.1⟩, h.2⟩
    · rintro ⟨⟨_, hData, hBytes⟩, hStores⟩
      cases hData
      exact ⟨hBytes, hStores⟩

theorem infix_orNoData (bytes : Bytes) : bytes <:+: orNoData bytes := by
  rw [orNoData]
  split
  · rename_i hNone
    rw [hNone]
    exact List.nil_infix
  · exact List.infix_rfl

theorem gathered_holds (lost : RecvOutcome → Bool) (outcomes : List RecvOutcome) :
    (∃ data, gathered lost [] outcomes = some data ∧ bytesOf outcomes <:+: orNoData data) ↔
      outcomes.any lost = false := by
  constructor
  · rintro ⟨data, hData, -⟩
    exact (gathered_eq_some.mp hData).1
  · exact fun h => ⟨bytesOf outcomes, gathered_eq_some.mpr ⟨h, rfl⟩, infix_orNoData _⟩

theorem httpRequest_holds (outcomes : List RecvOutcome) :
    (∃ data, httpRequest outcomes = some data ∧ bytesOf outcomes <:+: orNoData data) ↔
      outcomes.any RecvOutcome.isBroken = false ∨ bytesOf outcomes <:+: NO_DATA := by
  rw [httpRequest]
  cases hBroken : outcomes.any RecvOutcome.isBroken with
  | true =>
    rw [gathered_eq_none.mpr hBroken]
    constructor
    · rintro ⟨data, hData, hBytes⟩
      cases hData
      exact .inr hBytes
    · rintro (h | h)
      · cases h
      · exact ⟨[], rfl, h⟩
  | false =>
    rw [gathered_eq_some.mpr ⟨hBroken, rfl⟩]
    exact iff_of_true ⟨bytesOf outcomes, rfl, infix_orNoData _⟩ (.inl rfl)

/-! ## Services -/

def Records (recordable : List RecvOutcome → Prop) (handler : Connection → Talk (Option TcpPacket)) :
    Prop :=
  ∀ conn, Meets (fun outcomes r => Kept (bytesOf outcomes) r ↔ recordable outcomes ∧ conn.Stores)
    (handler conn)

theorem serve_records {banner : Connection → Option Banner} {gather : Connection → Talk Bytes}
    {banner_text summary : Connection → String}
    (hGather : ∀ conn, Yields (gathered RecvOutcome.isFailed []) (gather conn)) :
    Records (fun outcomes => outcomes.any RecvOutcome.isFailed = false) fun conn =>
      serve conn (banner conn) (gather conn) (banner_text conn) (summary conn) := by
  intro conn script r hPlay
  exact (serve_kept (hGather conn) script r hPlay).trans
    (and_congr_left fun _ => gathered_holds _ (recvs script))

theorem line_session_records {banner : Connection → Option Banner}
    {turn : Connection → Bytes → Turn Unit} {banner_text summary : Connection → String} :
    Records (fun outcomes => outcomes.any RecvOutcome.isFailed = false) fun conn =>
      serve conn (banner conn) (line_session (turn conn)) (banner_text conn) (summary conn) :=
  serve_records fun conn => gathers_rounds gathers_recv_line (fun _ => turn conn) _ () []

theorem chunk_session_records {banner : Connection → Option Banner}
    {turn : Connection → Bytes → Turn Unit} {banner_text summary : Connection → String} :
    Records (fun outcomes => outcomes.any RecvOutcome.isFailed = false) fun conn =>
      serve conn (banner conn) (chunk_session (turn conn)) (banner_text conn) (summary conn) :=
  serve_records fun conn => gathers_rounds (gathers_recv_or_nothing _) (fun _ => turn conn) _ () []

theorem one_recv_records {banner : Connection → Option Banner}
    {replies : Connection → Bytes → List Bytes} {banner_text summary : Connection → String} :
    Records (fun outcomes => outcomes.any RecvOutcome.isFailed = false) fun conn =>
      serve conn (banner conn) (one_recv (replies conn)) (banner_text conn) (summary conn) :=
  serve_records fun conn => gathers_one_recv (replies conn)

theorem smtp_records :
    Records (fun outcomes => outcomes.any RecvOutcome.isFailed = false) handle_smtp_service :=
  serve_records fun conn => gathers_rounds gathers_recv_line (smtp_turn conn.env.rt) _ false []

theorem telnet_records :
    Records (fun outcomes => outcomes.any RecvOutcome.isFailed = false) handle_telnet_service :=
  serve_records fun _ => gathers_bind gathers_recv_line fun username =>
    yields_reply (fun _ => _) (gathers_password username)

theorem postgres_records :
    Records (fun outcomes => outcomes.any RecvOutcome.isFailed = false) handle_postgres_service := by
  refine serve_records fun _ => gathers_bind (gathers_recv_or_nothing _) fun data => ?_
  refine gathers_unless ?_
  split
  · exact meets_send _ (gathers_startup data _)
  · exact meets_send _ (gathers_pure data)

theorem http_records :
    Records (fun outcomes => outcomes.any RecvOutcome.isBroken = false ∨
      bytesOf outcomes <:+: NO_DATA) handle_http_service := by
  intro conn script r hPlay
  exact (serve_kept (yields_reply _ yields_http_request) script r hPlay).trans
    (and_congr_left fun _ => httpRequest_holds (recvs script))

theorem rtsp_records :
    Records (fun outcomes => outcomes.any RecvOutcome.isBroken = false) handle_rtsp_service := by
  intro conn script r hPlay
  refine (serve_kept ?_ script r hPlay).trans
    (and_congr_left fun _ => gathered_holds _ (recvs script))
  refine gathers_bind gathers_read_http_request fun request => gathers_unless ?_
  obtain ⟨response, hResponse⟩ := build_rtsp_response_ok conn.env request.utf8Replace
  rw [hResponse]
  exact meets_send response (gathers_pure request)

/-! ## The length of a reply to a query -/

theorem bigEndian_length (width n : Nat) : (bigEndian width n).length = width := by
  induction width generalizing n with
  | zero => rfl
  | succ width ih => rw [bigEndian, List.length_append, ih, List.length_singleton]

theorem to_bytes_length {width n : Nat} {out : Bytes} (h : to_bytes width n = .ok out) :
    out.length = width := by
  rw [to_bytes] at h
  split at h
  · cases h
    exact bigEndian_length width n
  · cases h

theorem decodeNameFrom_end {packet : Bytes} {labels : List String} {idx next_idx jumps : Nat}
    {jumped : Bool} {result : List String × Nat}
    (h : decodeNameFrom packet labels idx next_idx jumped jumps = some result) :
    if jumped then result.2 = next_idx else idx < result.2 := by
  fun_induction decodeNameFrom packet labels idx next_idx jumped jumps with
  | case1 labels idx next_idx jumped =>
    cases h
    cases jumped with
    | true => exact rfl
    | false => exact Nat.lt_succ_self idx
  | case5 labels idx next_idx jumped _ _ _ _ _ _ _ _ _ ih =>
    -- the pointer's target does not matter: the name ends behind the pointer
    have hEnd := ih h
    cases jumped with
    | true => exact hEnd
    | false =>
      have hEnd : result.2 = idx + 2 := hEnd
      exact hEnd ▸ Nat.lt_add_of_pos_right Nat.two_pos
  | case8 labels idx next_idx jumped _ _ _ _ _ _ _ ih =>
    have hEnd := ih h
    cases jumped with
    | true => exact hEnd
    | false =>
      change _ < result.2 at hEnd
      change idx < result.2
      omega
  | case2 | case3 | case4 | case6 | case7 | case9 => cases h

theorem decode_dns_name_end {packet : Bytes} {start_idx name_end : Nat} {domain : String}
    (h : decode_dns_name packet start_idx = some (domain, name_end)) : start_idx < name_end := by
  rw [decode_dns_name, Option.map_eq_some_iff] at h
  obtain ⟨result, hDecoded, hEq⟩ := h
  cases hEq
  exact decodeNameFrom_end hDecoded

theorem slice_length {data : Bytes} {i j : Nat} (hIn : j ≤ data.length) :
    (data.slice i j).length = j - i := by
  rw [Bytes.slice, List.length_take, List.length_drop]
  omega

theorem questionsFrom_wires (query : Bytes) (rounds idx : Nat) :
    5 * (questionsFrom query rounds idx).length ≤
        ((questionsFrom query rounds idx).map DnsQuestion.wire).flatten.length ∧
      ((questionsFrom query rounds idx).map DnsQuestion.wire).flatten.length ≤
        query.length - idx := by
  induction rounds generalizing idx with
  | zero => exact ⟨Nat.le_refl 0, Nat.zero_le _⟩
  | succ rounds ih =>
    rw [questionsFrom]
    split
    · exact ⟨Nat.le_refl 0, Nat.zero_le _⟩
    split
    · exact ⟨Nat.le_refl 0, Nat.zero_le _⟩
    rename_i domain name_end hName
    split
    · exact ⟨Nat.le_refl 0, Nat.zero_le _⟩
    · have hEnd := decode_dns_name_end hName
      have hLater := ih (name_end + 4)
      rw [List.map_cons, List.flatten_cons, List.length_append, List.length_cons,
        slice_length (by omega)]
      omega

theorem parse_dns_questions_wires (query : Bytes) :
    5 * (parse_dns_questions query).length ≤
        ((parse_dns_questions query).map DnsQuestion.wire).flatten.length ∧
      ((parse_dns_questions query).map DnsQuestion.wire).flatten.length ≤ query.length := by
  rw [parse_dns_questions]
  split
  · exact ⟨Nat.le_refl 0, Nat.zero_le _⟩
  · obtain ⟨hCount, hLength⟩ := questionsFrom_wires query (query.num 4 6) 12
    exact ⟨hCount, hLength.trans (Nat.sub_le _ _)⟩

theorem normalize_dns_response_ip_length (env : TcpEnv) (response_ip : String) :
    (normalize_dns_response_ip env.inet_aton response_ip).length = 4 := by
  rw [normalize_dns_response_ip]
  cases hAddress : env.inet_aton response_ip with
  | none => rfl
  | some address => exact env.inet_aton_length response_ip address hAddress

theorem dnsAnswer_length {ip_bytes answer : Bytes} {question : DnsQuestion}
    (hIp : ip_bytes.length = 4) (h : dnsAnswer ip_bytes question = .ok answer) :
    answer.length = 16 := by
  rw [dnsAnswer] at h
  cases hPointer : to_bytes 2 (0xC000 ||| question.name_offset) with
  | error e =>
    rw [hPointer] at h
    cases h
  | ok name_ptr =>
    rw [hPointer] at h
    cases h
    simp only [List.length_append, to_bytes_length hPointer, hIp, List.length_cons, List.length_nil]

theorem mapM_flatten_length {α ε : Type} {f : α → Except ε Bytes} {width : Nat}
    (hWidth : ∀ item out, f item = .ok out → out.length = width) {items : List α} {out : List Bytes}
    (h : items.mapM f = .ok out) : out.flatten.length = width * items.length := by
  induction items generalizing out with
  | nil =>
    cases h
    rfl
  | cons item items ih =>
    rw [List.mapM_cons] at h
    cases hItem : f item with
    | error e =>
      rw [hItem] at h
      cases h
    | ok first =>
      cases hRest : items.mapM f with
      | error e =>
        rw [hItem, hRest] at h
        cases h
      | ok rest =>
        rw [hItem, hRest] at h
        cases h
        rw [List.flatten_cons, List.length_append, ih hRest, hWidth item first hItem,
          List.length_cons, Nat.mul_succ, Nat.add_comm]

theorem build_dns_response_length {env : TcpEnv} {query : Bytes} {response_ip : String}
    (hQuery : query.length ≤ MAX_PACKET_SIZE) {answer : Bytes × List DnsQuestion}
    (h : build_dns_response env.inet_aton query response_ip = .ok answer) :
    answer.1.length < 256 ^ 2 := by
  rw [build_dns_response] at h
  split at h
  · cases h
    decide
  dsimp only at h
  have hHead : (query.take 2).length ≤ 2 := List.length_take_le ..
  split at h
  · cases h
    dsimp only
    rw [List.length_append, List.length_append]
    simp only [List.length_cons, List.length_nil]
    omega
  obtain ⟨hCount, hWires⟩ := parse_dns_questions_wires query
  cases hAnswers : (parse_dns_questions query).mapM
      (dnsAnswer (normalize_dns_response_ip env.inet_aton response_ip)) with
  | error e =>
    rw [hAnswers] at h
    cases h
  | ok answers =>
    rw [hAnswers] at h
    have hLength := mapM_flatten_length
      (fun question out => dnsAnswer_length (normalize_dns_response_ip_length env response_ip))
      hAnswers
    cases hAsked : to_bytes 2 (parse_dns_questions query).length with
    | error e =>
      rw [hAsked] at h
      cases h
    | ok asked =>
      cases hAnswered : to_bytes 2 answers.length with
      | error e =>
        dsimp only [bind, Except.bind] at h
        rw [hAsked, hAnswered] at h
        cases h
      | ok answered =>
        dsimp only [bind, Except.bind] at h
        rw [hAsked, hAnswered] at h
        cases h
        have hAskedLength := to_bytes_length hAsked
        have hAnsweredLength := to_bytes_length hAnswered
        rw [MAX_PACKET_SIZE] at hQuery
        simp only [List.length_append, List.length_cons, List.length_nil]
        omega

/-! ## Names over TCP -/

theorem failed_of_broken {outcomes : List RecvOutcome}
    (h : outcomes.any RecvOutcome.isBroken = false) : outcomes.any RecvOutcome.isFailed = false := by
  rw [List.any_eq_false] at h ⊢
  intro outcome hMem hFailed
  cases outcome with
  | data bytes => cases hFailed
  | timeout => cases hFailed
  | failed ssl => exact h _ hMem rfl

def Raises (outcomes : List RecvOutcome) (e : TcpError) : Prop :=
  if outcomes.any RecvOutcome.isFailed then ∃ ssl, e = .socket ssl else e = .timeout

theorem recv_raises {n : Nat} {script : List Outcome} {e : TcpError}
    (h : (recv n).play fits script = some (.error e)) : Raises (recvs script) e := by
  obtain ⟨answer, rest, rfl, hFits, hRest⟩ := Dialogue.play_call.mp h
  rcases answer with (bytes | _ | ssl) | ok
  · obtain ⟨-, hEq⟩ := Dialogue.play_ret.mp hRest
    cases hEq
  · obtain ⟨rfl, hEq⟩ := Dialogue.play_raise.mp hRest
    cases hEq
    exact rfl
  · obtain ⟨rfl, hEq⟩ := Dialogue.play_raise.mp hRest
    cases hEq
    exact ⟨ssl, rfl⟩
  · cases hFits

theorem readQuery_raises {query_length : Nat} {query : Bytes} {script : List Outcome} {e : TcpError}
    (h : (readQuery query_length query).play fits script = some (.error e)) :
    Raises (recvs script) e := by
  induction query using readQuery.induct query_length generalizing script with
  | case1 query hShort ih =>
    rw [readQuery, dif_pos hShort] at h
    rcases Dialogue.play_bind h with ⟨e', hError, hEq⟩ | ⟨chunk, first, later, rfl, hOk, hLater⟩
    · cases hEq
      exact recv_raises hError
    · have hFirst := failed_of_broken (gathered_eq_some.mp (gathers_recv _ first _ hOk).symm).1
      by_cases hChunk : chunk = []
      · rw [dif_pos hChunk] at hLater
        obtain ⟨-, hEq⟩ := Dialogue.play_ret.mp hLater
        cases hEq
      · rw [dif_neg hChunk] at hLater
        rw [Raises, recvs_append, List.any_append, hFirst, Bool.false_or]
        exact ih chunk hChunk hLater
  | case2 query hStop =>
    rw [readQuery, dif_neg hStop] at h
    obtain ⟨-, hEq⟩ := Dialogue.play_ret.mp h
    cases hEq

theorem dns_answer_ok (conn : Connection) {query : Bytes} (hQuery : query.length ≤ MAX_PACKET_SIZE) :
    ∃ answer, dns_answer conn query = .ok answer := by
  obtain ⟨answer, hAnswer⟩ := build_dns_response_ok conn.env.inet_aton hQuery conn.moment.listener_ip
  rw [dns_answer, hAnswer]
  dsimp only [bind, Except.bind]
  rw [to_bytes_ok (build_dns_response_length hQuery hAnswer)]
  exact ⟨_, rfl⟩

theorem reply_play {a : Except TcpError (Bytes × Option DnsMeta)} {script : List Outcome}
    {r : Except TcpError (Option DnsMeta)}
    (h : (do
      let (reply, dns) ← .lift a
      safe_send reply
      return dns : Talk (Option DnsMeta)).play fits script = some r) :
    recvs script = [] ∧ r = a.map Prod.snd := by
  cases a with
  | error e =>
    obtain ⟨rfl, rfl⟩ := Dialogue.play_raise.mp h
    exact ⟨rfl, rfl⟩
  | ok answer =>
    obtain ⟨outcome, rest, rfl, hFits, hRest⟩ := Dialogue.play_call.mp h
    obtain ⟨rfl, rfl⟩ := Dialogue.play_ret.mp hRest
    cases outcome with
    | received outcome => cases hFits
    | sent ok => exact ⟨rfl, rfl⟩

theorem answer_query_play {conn : Connection} {packet : Bytes} {script : List Outcome}
    {r : Except TcpError (Option DnsMeta)} (h : (answer_query conn packet).play fits script = some r) :
    (∃ e, r = .error e ∧ Raises (recvs script) e) ∨
    (recvs script).any RecvOutcome.isFailed = false ∧
      r = ((dns_answer conn ((packet.drop 2 ++ bytesOf (recvs script)).take
        (packet.num 0 2))).mapError TcpError.raised).map Prod.snd := by
  rcases Dialogue.play_bind h with ⟨e, hError, rfl⟩ | ⟨query, first, later, rfl, hOk, hLater⟩
  · exact .inl ⟨e, rfl, readQuery_raises hError⟩
  · obtain ⟨hNone, rfl⟩ := reply_play hLater
    obtain ⟨hBroken, rfl⟩ := gathered_eq_some.mp (gathers_readQuery _ _ first _ hOk).symm
    rw [recvs_append, hNone, List.append_nil]
    exact .inr ⟨failed_of_broken hBroken, rfl⟩

/-- An error other than a time-out leaves the `try` block. Without one, and with no bytes behind the
first ones, the block is done. -/
def Caught (outcomes : List RecvOutcome) (r : Except TcpError (Option DnsMeta)) : Prop :=
  if outcomes.any RecvOutcome.isFailed then ∃ e, r = .error e
  else bytesOf outcomes = [] → ∃ dns, r = .ok dns

theorem answer_query_caught (conn : Connection) {packet : Bytes}
    (hPacket : packet.length ≤ MAX_PACKET_SIZE) :
    Meets Caught ((answer_query conn packet).tryCatch fun
        | .timeout => .ret none
        | e => .raise e) := by
  intro script r hPlay
  have hQuery : ((packet.drop 2).take (packet.num 0 2)).length ≤ MAX_PACKET_SIZE := by
    rw [List.length_take, List.length_drop]
    omega
  obtain ⟨answer, hAnswer⟩ := dns_answer_ok conn hQuery
  rcases Dialogue.play_tryCatch hPlay with ⟨dns, hOk, rfl⟩ | ⟨e, front, back, rfl, hError, hBack⟩
  · rcases answer_query_play hOk with ⟨e, hEq, -⟩ | ⟨hFailed, -⟩
    · cases hEq
    · rw [Caught, hFailed]
      exact fun _ => ⟨dns, rfl⟩
  · rcases answer_query_play hError with ⟨e', hEq, hRaises⟩ | ⟨hFailed, hEq⟩
    · cases hEq
      rw [Raises] at hRaises
      cases hFailed : (recvs front).any RecvOutcome.isFailed with
      | true =>
        rw [hFailed] at hRaises
        obtain ⟨ssl, rfl⟩ := hRaises
        obtain ⟨rfl, rfl⟩ := Dialogue.play_raise.mp hBack
        rw [List.append_nil, Caught, hFailed]
        exact ⟨_, rfl⟩
      | false =>
        rw [hFailed] at hRaises
        cases hRaises
        obtain ⟨rfl, rfl⟩ := Dialogue.play_ret.mp hBack
        rw [List.append_nil, Caught, hFailed]
        exact fun _ => ⟨none, rfl⟩
    · have hRaised : ∃ e', e = .raised e' ∧ bytesOf (recvs front) ≠ [] := by
        by_cases hBytes : bytesOf (recvs front) = []
        · rw [hBytes, List.append_nil, hAnswer] at hEq
          cases hEq
        · cases hResult : dns_answer conn
              ((packet.drop 2 ++ bytesOf (recvs front)).take (packet.num 0 2)) with
          | ok answer =>
            rw [hResult] at hEq
            cases hEq
          | error e' =>
            rw [hResult] at hEq
            cases hEq
            exact ⟨e', rfl, hBytes⟩
      obtain ⟨e', rfl, hBytes⟩ := hRaised
      obtain ⟨rfl, rfl⟩ := Dialogue.play_raise.mp hBack
      rw [List.append_nil, Caught, hFailed]
      exact fun h => absurd h hBytes

/-- The connections that the handler of names records: nothing is received in time, or at least two
bytes are, in one piece. -/
def DnsRecordable : List RecvOutcome → Prop
  | [.timeout] => True
  | .data first :: later =>
    2 ≤ first.length ∧ later.any RecvOutcome.isFailed = false ∧ bytesOf later = []
  | _ => False

theorem append_infix_self {front back : Bytes} : front ++ back <:+: front ↔ back = [] := by
  constructor
  · intro h
    have hLength := h.length_le
    rw [List.length_append] at hLength
    exact List.eq_nil_of_length_eq_zero (by omega)
  · rintro rfl
    rw [List.append_nil]

theorem dns_packet_records {conn : Connection} {packet : Bytes}
    (hPacket : packet.length ≤ MAX_PACKET_SIZE) {script : List Outcome}
    {r : Except TcpError (Option TcpPacket)}
    (h : (if packet.length < 2 then pure none
      else do
        let dns ← (answer_query conn packet).tryCatch fun
          | .timeout => .ret none
          | e => .raise e
        emit conn packet "DNS query" "DNS query" dns : Talk (Option TcpPacket)).play fits script =
          some r) :
    Kept (packet ++ bytesOf (recvs script)) r ↔
      DnsRecordable (.data packet :: recvs script) ∧ conn.Stores := by
  by_cases hShort : packet.length < 2
  · rw [if_pos hShort] at h
    obtain ⟨rfl, rfl⟩ := Dialogue.play_ret.mp h
    constructor
    · rintro ⟨_, hNone, -⟩
      cases hNone
    · exact fun hRecordable => absurd hRecordable.1.1 (Nat.not_le_of_lt hShort)
  rw [if_neg hShort] at h
  rcases Dialogue.play_bind h with ⟨e, hError, rfl⟩ | ⟨dns, first, later, rfl, hOk, hLater⟩
  · have hCaught := answer_query_caught conn hPacket script _ hError
    constructor
    · rintro ⟨_, hNone, -⟩
      cases hNone
    · rintro ⟨⟨-, hFailed, hBytes⟩, -⟩
      rw [Caught, hFailed] at hCaught
      obtain ⟨dns, hEq⟩ := hCaught hBytes
      cases hEq
  · obtain ⟨rfl, hKept⟩ := emit_kept hLater (packet ++ bytesOf (recvs first))
    have hCaught := answer_query_caught conn hPacket first _ hOk
    have hFailed : (recvs first).any RecvOutcome.isFailed = false := by
      cases hAny : (recvs first).any RecvOutcome.isFailed with
      | false => rfl
      | true =>
        rw [Caught, hAny] at hCaught
        obtain ⟨e, hEq⟩ := hCaught
        cases hEq
    have hSome : packet ≠ [] := by
      rintro rfl
      exact hShort Nat.two_pos
    rw [List.append_nil, hKept, orNoData, if_neg hSome, append_infix_self]
    exact ⟨fun h => ⟨⟨Nat.le_of_not_lt hShort, hFailed, h.1⟩, h.2⟩, fun h => ⟨h.1.2.2, h.2⟩⟩

theorem dns_records : Records DnsRecordable handle_dns_tcp_service := by
  intro conn script r hPlay
  obtain ⟨answer, rest, rfl, hFits, hRest⟩ := Dialogue.play_call.mp hPlay
  rcases answer with (packet | _ | ssl) | ok
  · exact dns_packet_records (of_decide_eq_true hFits) hRest
  · obtain ⟨rfl, hKept⟩ := emit_kept hRest []
    exact hKept.trans ⟨fun h => ⟨trivial, h.2⟩, fun h => ⟨List.nil_infix, h.2⟩⟩
  · obtain ⟨rfl, rfl⟩ := Dialogue.play_raise.mp hRest
    constructor
    · rintro ⟨packet, hPacket, -⟩
      cases hPacket
    · exact fun h => absurd h.1 id
  · cases hFits

/-! ## Dispatch -/

/-- The outcomes of `recv` with which a connection to the port is recorded. -/
def Recordable (port : Nat) (outcomes : List RecvOutcome) : Prop :=
  if port ∈ HTTP_TCP_PORTS ∨ port ∈ HTTPS_TCP_PORTS then
    outcomes.any RecvOutcome.isBroken = false ∨ bytesOf outcomes <:+: NO_DATA
  else if port ∈ RTSP_PORTS then outcomes.any RecvOutcome.isBroken = false
  else if port ∈ DNS_TCP_PORTS then DnsRecordable outcomes
  else outcomes.any RecvOutcome.isFailed = false

theorem records_ite {recordable : List RecvOutcome → Prop} {c : Prop} [Decidable c]
    {handler other : Connection → Talk (Option TcpPacket)} (h : c → Records recordable handler)
    (hOther : ¬c → Records recordable other) : Records recordable (if c then handler else other) := by
  by_cases hc : c
  · rw [if_pos hc]
    exact h hc
  · rw [if_neg hc]
    exact hOther hc

theorem handlerOf_records (port : Nat) : Records (Recordable port) (handlerOf port) := by
  unfold Recordable
  by_cases hHttp : port ∈ HTTP_TCP_PORTS ∨ port ∈ HTTPS_TCP_PORTS
  · rw [handlerOf, if_pos hHttp]
    simp only [if_pos hHttp]
    exact http_records
  by_cases hRtsp : port ∈ RTSP_PORTS
  · rw [List.mem_singleton.mp hRtsp]
    exact rtsp_records
  by_cases hDns : port ∈ DNS_TCP_PORTS
  · rw [List.mem_singleton.mp hDns]
    exact dns_records
  simp only [if_neg hHttp, if_neg hRtsp, if_neg hDns]
  rw [handlerOf, if_neg hHttp]
  refine records_ite (fun _ => line_session_records) fun _ => ?_
  refine records_ite (fun _ => smtp_records) fun _ => ?_
  refine records_ite (fun _ => line_session_records) fun _ => ?_
  refine records_ite (fun _ => line_session_records) fun _ => ?_
  refine records_ite (fun _ => telnet_records) fun _ => ?_
  refine records_ite (fun _ => one_recv_records) fun _ => ?_
  refine records_ite (fun _ => one_recv_records) fun _ => ?_
  refine records_ite (fun _ => postgres_records) fun _ => ?_
  refine records_ite (fun _ => chunk_session_records) fun _ => ?_
  refine records_ite (fun _ => line_session_records) fun _ => ?_
  refine records_ite (fun _ => one_recv_records) fun _ => ?_
  refine records_ite (fun _ => chunk_session_records) fun _ => ?_
  refine records_ite (fun _ => one_recv_records) fun _ => ?_
  refine records_ite (fun _ => one_recv_records) fun _ => ?_
  refine records_ite (fun h => absurd h hRtsp) fun _ => ?_
  refine records_ite (fun h => absurd h hDns) fun _ => ?_
  refine records_ite (fun _ => one_recv_records) fun _ => ?_
  refine records_ite (fun _ => one_recv_records) fun _ => ?_
  refine records_ite (fun _ => one_recv_records) fun _ => ?_
  exact chunk_session_records

/-! ## Connections -/

/-- The connection ends in one packet, which holds the bytes in the order they came. -/
def Recorded (script : List Outcome) (e : TcpEnd) : Prop :=
  ∃ packet, e.events = [packet] ∧ bytesOf (recvs script) <:+: packet.data

theorem connection_play {conn : Connection} {port : Nat} {script : List Outcome}
    {r : Except TcpError TcpEnd}
    (h : ((handlerOf port conn >>= fun packet => pure ⟨packet.toList, []⟩ : Talk TcpEnd).tryCatch
      fun e => .ret ⟨[], [(errorKey port e, e)]⟩).play fits script = some r) :
    ∃ e, r = .ok e ∧ (Recorded script e ↔ Recordable port (recvs script) ∧ conn.Stores) := by
  rcases Dialogue.play_tryCatch h with ⟨e, hOk, rfl⟩ | ⟨e, front, back, rfl, hError, hBack⟩
  · rcases Dialogue.play_bind hOk with ⟨e, -, hEq⟩ | ⟨packet, first, later, rfl, hHandled, hLater⟩
    · cases hEq
    · obtain ⟨rfl, hEq⟩ := Dialogue.play_ret.mp hLater
      cases hEq
      rw [List.append_nil] at h ⊢
      refine ⟨_, rfl, Iff.trans ?_ (handlerOf_records port conn first _ hHandled)⟩
      constructor
      · rintro ⟨packet', hEvents, hBytes⟩
        exact ⟨packet', by rw [Option.toList_eq_singleton_iff.mp hEvents], hBytes⟩
      · rintro ⟨packet', hEq, hBytes⟩
        cases hEq
        exact ⟨packet', rfl, hBytes⟩
  · obtain ⟨rfl, rfl⟩ := Dialogue.play_ret.mp hBack
    rw [List.append_nil]
    rcases Dialogue.play_bind hError with ⟨e', hRaised, hEq⟩ | ⟨packet, first, later, rfl, -, hLater⟩
    · refine ⟨_, rfl, Iff.trans ?_ (handlerOf_records port conn front _ hRaised)⟩
      constructor
      · rintro ⟨_, hEvents, -⟩
        cases hEvents
      · rintro ⟨_, hPacket, -⟩
        cases hPacket
    · obtain ⟨-, hEq⟩ := Dialogue.play_ret.mp hLater
      cases hEq

/-- Every connection is handled to an end, whatever the client does. One whose handshake is not refused
is recorded if and only if the outcomes of `recv` are recordable on its port and the store's calls
return. -/
theorem connections_recorded (env : TcpEnv) (moment : TcpMoment) (addr : Address) (port : Nat)
    {handshake : Handshake} (hHandshake : ∀ ssl, handshake ≠ .refused ssl) :
    (∀ client : List Outcome → SocketCall → Outcome, (∀ past c, fits c (client past c) = true) →
      ∃ e, (handle_tcp env moment addr port handshake).play fits
        (Dialogue.follow client [] (handle_tcp env moment addr port handshake)) = some (.ok e)) ∧
    ∀ script r, (handle_tcp env moment addr port handshake).play fits script = some r →
      ∃ e, r = .ok e ∧ (Recorded script e ↔
        Recordable port (recvs script) ∧ moment.store.Returns env.rt moment.session) := by
  have hPlays : ∀ script r, (handle_tcp env moment addr port handshake).play fits script = some r →
      ∃ e, r = .ok e ∧ (Recorded script e ↔
        Recordable port (recvs script) ∧ moment.store.Returns env.rt moment.session) := by
    intro script r hPlay
    cases handshake with
    | none => exact @connection_play ⟨env, moment, port, addr, false, none⟩ port script r hPlay
    | refused ssl => exact absurd rfl (hHandshake ssl)
    | established tls_sock =>
      exact @connection_play
        ⟨env, moment, port, addr, true, some (capture_tls_session tls_sock)⟩ port script r hPlay
  refine ⟨fun client hClient => ?_, hPlays⟩
  obtain ⟨r, hr⟩ := Dialogue.exists_play_follow hClient []
    (handle_tcp env moment addr port handshake)
  obtain ⟨e, rfl, -⟩ := hPlays _ r hr
  exact ⟨e, hr⟩

def plainMoment : TcpMoment :=
  ⟨⟨fun _ => .ok false, .ok "", .ok (.int 7), .ok ()⟩, 0, "", 0, "10.0.0.1"⟩

theorem toLower_eq_colon {c : Char} (h : c.toLower = ':') : c = ':' := by
  have hNat : c.toLower.toNat = 58 := congrArg Char.toNat h
  rw [toNat_toLower] at hNat
  split at hNat
  · omega
  · exact Char.toNat_inj.mp hNat

theorem lower_ascii_colon (s : String) (h : ':' ∈ (Runtime.ascii.lower s).toList) :
    ':' ∈ s.toList := by
  rw [Runtime.ascii, String.toList_ofList] at h
  obtain ⟨c, hMem, hLower⟩ := List.mem_map.mp h
  exact toLower_eq_colon hLower ▸ hMem

def plainEnv : TcpEnv where
  rt := .ascii
  lower_colon := lower_ascii_colon
  bytes_repr _ := ""
  getservbyport _ := none
  inet_aton _ := none
  inet_aton_length := nofun

def typed (line : String) : List Outcome :=
  (Bytes.ofText line).map fun b => .received (.data [b])

/-- A name and a password, typed letter by letter at the Telnet port. -/
def loginScript : List Outcome :=
  .sent true :: typed "root\n" ++ .sent true :: typed "1234\n" ++ [.sent true]

theorem connections_recorded_login : ∃ e,
    (handle_tcp plainEnv plainMoment ⟨"203.0.113.7", 5000⟩ 23 .none).play fits loginScript =
      some (.ok e) ∧
    Recorded loginScript e := by
  obtain ⟨r, hPlay⟩ : ∃ r, (handle_tcp plainEnv plainMoment ⟨"203.0.113.7", 5000⟩ 23 .none).play
      fits loginScript = some r := Option.isSome_iff_exists.mp (by decide +kernel)
  obtain ⟨e, rfl, hRecorded⟩ := (@connections_recorded plainEnv plainMoment ⟨"203.0.113.7", 5000⟩ 23
    .none nofun).2 loginScript r hPlay
  have hReceived : (recvs loginScript).any RecvOutcome.isFailed = false := by decide +kernel
  exact ⟨e, hPlay, hRecorded.mpr ⟨hReceived, by decide +kernel⟩⟩

/-- A client that resets the connection to port 22 instead of sending anything leaves no packet. -/
theorem reset_unrecorded : ∃ e,
    (handle_tcp plainEnv plainMoment ⟨"203.0.113.7", 5000⟩ 22 .none).play fits
      [.sent true, .received (.failed false)] = some (.ok e) ∧
    ¬ Recorded [.sent true, .received (.failed false)] e := by
  refine ⟨⟨[], [("tcp/22", .socket false)]⟩, rfl, ?_⟩
  rintro ⟨packet, hEvents, -⟩
  cases hEvents

end Sniff4Hound.Honeypot
