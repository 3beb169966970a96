import Sniff4Hound.Mobile.PairingService

/-!
# Which pairing gets a token

Only the device that opened a pairing first gets a token, with the first code it types after the
operator accepted it (`tokens_granted`). The invariant relates each stored pairing to what was done
for it so far. A code typed before the pairing is accepted closes nothing, since no code exists yet;
and a time of 0 reads as what has not happened (`refused_then_issued`).
-/

namespace Sniff4Hound.Mobile

/-! ## Histories -/

def Event.isDenied : Event → Bool
  | denied .. => true
  | _ => false

def Event.isOpened : Event → Bool
  | opened .. => true
  | _ => false

def history (log : List Event) (serial : Nat) : List Event :=
  log.filter fun e => e.serial = serial

/-- The device at `client` was the first to open the pairing, which has not been accepted. -/
def Knocked (serial : Nat) (client : String) (h : List Event) : Prop :=
  ∃ waiting knocks t, h = waiting ++ .opened serial client t :: knocks ∧
    (∀ e ∈ waiting, e.isDenied = true) ∧ ∀ e ∈ knocks, e.isOpened = true ∨ e.isDenied = true

/-- The pairing was accepted once, after the device at `client` had opened it first, and since then
no code has been refused. -/
def Accepted (serial : Nat) (client code : String) (approvedAt : Rat) (h : List Event) : Prop :=
  ∃ before later, h = before ++ .approved serial code approvedAt :: later ∧
    Knocked serial client before ∧ ∀ e ∈ later, e.isOpened = true

/-- What was done before a token is issued to `client` for `code`. -/
structure Granted (before : List Event) (serial : Nat) (client code : String) (now : Rat) :
    Prop where
  accepted : ∃ approvedAt, Accepted serial client (strip code) approvedAt (history before serial) ∧
    approvedAt ≤ now ∧ now < approvedAt + PAIRING_TTL_SECONDS
  first : ∀ client' code' token t, .issued serial client' code' token t ∉ before

/-- Every token was issued after the events that grant it. -/
def TokensGranted (log : List Event) : Prop :=
  StepRun.Ordered (fun before e => ∀ serial client code token now,
    e = .issued serial client code token now → Granted before serial client code now) log

theorem history_snoc (log : List Event) (e : Event) (serial : Nat) :
    history (log ++ [e]) serial =
      if e.serial = serial then history log serial ++ [e] else history log serial := by
  unfold history
  rw [List.filter_append]
  split
  · rename_i h
    rw [List.filter_cons_of_pos (by simpa using h), List.filter_nil]
  · rename_i h
    rw [List.filter_cons_of_neg (by simpa using h), List.filter_nil, List.append_nil]

namespace Knocked

variable {serial : Nat} {client : String} {h : List Event}

theorem first (hWaiting : ∀ e ∈ h, e.isDenied = true) (now : Rat) :
    Knocked serial client (h ++ [.opened serial client now]) :=
  ⟨h, [], now, rfl, hWaiting, nofun⟩

theorem snoc (hKnocked : Knocked serial client h) {e : Event}
    (he : e.isOpened = true ∨ e.isDenied = true) : Knocked serial client (h ++ [e]) := by
  obtain ⟨waiting, knocks, t, rfl, hWaiting, hKnocks⟩ := hKnocked
  refine ⟨waiting, knocks ++ [e], t, by simp, hWaiting, ?_⟩
  intro d hd
  rcases List.mem_append.mp hd with hOld | hNew
  · exact hKnocks d hOld
  · rw [List.mem_singleton.mp hNew]
    exact he

theorem no_token (hKnocked : Knocked serial client h) {client' code token : String} {now : Rat} :
    .issued serial client' code token now ∉ h := by
  obtain ⟨waiting, knocks, t, rfl, hWaiting, hKnocks⟩ := hKnocked
  intro hMem
  rcases List.mem_append.mp hMem with hBefore | hAfter
  · cases hWaiting _ hBefore
  · rcases List.mem_cons.mp hAfter with hEq | hKnock
    · cases hEq
    · rcases hKnocks _ hKnock with hOpened | hDenied
      · cases hOpened
      · cases hDenied

end Knocked

namespace Accepted

variable {serial : Nat} {client code : String} {approvedAt : Rat} {h : List Event}

theorem snoc (hAccepted : Accepted serial client code approvedAt h) {e : Event}
    (he : e.isOpened = true) : Accepted serial client code approvedAt (h ++ [e]) := by
  obtain ⟨before, later, rfl, hKnocked, hLater⟩ := hAccepted
  refine ⟨before, later ++ [e], by simp, hKnocked, ?_⟩
  intro d hd
  rcases List.mem_append.mp hd with hOld | hNew
  · exact hLater d hOld
  · rw [List.mem_singleton.mp hNew]
    exact he

theorem no_token (hAccepted : Accepted serial client code approvedAt h)
    {client' code' token : String} {now : Rat} : .issued serial client' code' token now ∉ h := by
  obtain ⟨before, later, rfl, hKnocked, hLater⟩ := hAccepted
  intro hMem
  rcases List.mem_append.mp hMem with hBefore | hAfter
  · exact hKnocked.no_token hBefore
  · rcases List.mem_cons.mp hAfter with hEq | hSince
    · cases hEq
    · cases hLater _ hSince

end Accepted

/-! ## The invariant -/

theorem sixDigits_ne_empty (draw : Fin 1000000) : sixDigits draw ≠ "" := by
  intro hEmpty
  have hChars := congrArg String.toList hEmpty
  unfold sixDigits padLeft at hChars
  rw [String.toList_append, String.toList_empty, List.append_eq_nil_iff] at hChars
  exact Nat.repr_ne_empty (String.toList_inj.mp hChars.2)

/-- What the events of a pairing so far say of its record. -/
structure Pairing.Fits (p : Pairing) (h : List Event) (time : Rat) : Prop where
  consumed : p.consumed_at = 0
  unseen : p.seen_at = 0 → p.approved_at = 0 ∧ ∀ e ∈ h, e.isDenied = true
  seen : p.seen_at ≠ 0 → p.client ≠ ""
  coded : p.approved_at ≠ 0 → p.code ≠ ""
  waiting : p.seen_at ≠ 0 → p.approved_at = 0 → Knocked p.serial p.client h
  approved : p.approved_at ≠ 0 →
    p.approved_at ≤ time ∧ p.expires_at = p.approved_at + PAIRING_TTL_SECONDS
  accepted : p.approved_at ≠ 0 → p.failed_at = 0 → time < p.expires_at →
    Accepted p.serial p.client p.code p.approved_at h

namespace Pairing.Fits

variable {p : Pairing} {h : List Event} {time : Rat}

theorem mono (hFits : p.Fits h time) {later : Rat} (hLe : time ≤ later) : p.Fits h later where
  consumed := hFits.consumed
  unseen := hFits.unseen
  seen := hFits.seen
  coded := hFits.coded
  waiting := hFits.waiting
  approved hApproved :=
    ⟨(hFits.approved hApproved).1.trans hLe, (hFits.approved hApproved).2⟩
  accepted hApproved hFailed hTime := hFits.accepted hApproved hFailed (hLe.trans_lt hTime)

theorem opened (hFits : p.Fits h time) (hTime : time ≠ 0) (hLive : time < p.expires_at)
    (hFailed : p.failed_at = 0) {client : String} (hClient : client ≠ "") (utc agent : String) :
    (p.knock time utc client agent).Fits (h ++ [.opened p.serial client time]) time := by
  unfold knock
  split
  · rename_i hNew
    obtain ⟨hApproved, hSeen⟩ := hNew
    constructor
    · exact hFits.consumed
    · exact fun hZero => absurd hZero hTime
    · exact fun _ => hClient
    · exact fun hSome => absurd hApproved hSome
    · exact fun _ _ => Knocked.first (hFits.unseen hSeen).2 time
    · exact fun hSome => absurd hApproved hSome
    · exact fun hSome => absurd hApproved hSome
  · rename_i hOld
    have hSeen : p.seen_at ≠ 0 := fun hZero => hOld ⟨(hFits.unseen hZero).1, hZero⟩
    constructor
    · exact hFits.consumed
    · exact fun hZero => absurd hZero hSeen
    · exact hFits.seen
    · exact hFits.coded
    · exact fun _ hZero => (hFits.waiting hSeen hZero).snoc (Or.inl rfl)
    · exact hFits.approved
    · exact fun hSome _ _ => (hFits.accepted hSome hFailed hLive).snoc rfl

theorem accept (hFits : p.Fits h time) (hTime : time ≠ 0) (hSeen : p.seen_at ≠ 0)
    (hApproved : p.approved_at = 0) {code : String} (hCode : code ≠ "") :
    (p.accept time code).Fits (h ++ [.approved p.serial code time]) time where
  consumed := hFits.consumed
  unseen hZero := absurd hZero hSeen
  seen := hFits.seen
  coded _ := hCode
  waiting _ hZero := absurd hZero hTime
  approved _ := ⟨le_refl _, rfl⟩
  accepted _ _ _ := ⟨h, [], rfl, hFits.waiting hSeen hApproved, nofun⟩

theorem deny (hFits : p.Fits h time) {failed_at : Rat}
    (hClosed : p.approved_at = 0 ∨ failed_at ≠ 0 ∨ p.expires_at ≤ time) (client code : String) :
    ({ p with failed_at := failed_at } : Pairing).Fits
      (h ++ [.denied p.serial client code time]) time where
  consumed := hFits.consumed
  unseen hZero := by
    refine ⟨(hFits.unseen hZero).1, ?_⟩
    intro e he
    rcases List.mem_append.mp he with hOld | hNew
    · exact (hFits.unseen hZero).2 e hOld
    · rw [List.mem_singleton.mp hNew]
      rfl
  seen := hFits.seen
  coded := hFits.coded
  waiting hSeen hZero := (hFits.waiting hSeen hZero).snoc (Or.inr rfl)
  approved := hFits.approved
  accepted hSome hNone hLive := by
    rcases hClosed with hZero | hFailed | hExpired
    · exact absurd hZero hSome
    · exact absurd hNone hFailed
    · exact absurd hLive (not_lt.mpr hExpired)

end Pairing.Fits

namespace MobileStreamService

structure Sound (s : MobileStreamService) (time : Rat) : Prop where
  keys : s.pairings.keys.Nodup
  ids : ∀ id p, s.pairings.lookup id = some p → p.id = id
  serials : ∀ id p, s.pairings.lookup id = some p → p.serial < s.created
  apart : ∀ id id' p p', s.pairings.lookup id = some p → s.pairings.lookup id' = some p' →
    p.serial = p'.serial → id = id'
  fits : ∀ id p, s.pairings.lookup id = some p → p.Fits (history s.log p.serial) time
  past : ∀ e ∈ s.log, e.serial < s.created
  granted : TokensGranted s.log

structure Fewer (s s' : MobileStreamService) : Prop where
  keys : s.pairings.keys.Nodup → s'.pairings.keys.Nodup
  lookup : s.pairings.keys.Nodup → ∀ id p, s'.pairings.lookup id = some p →
    s.pairings.lookup id = some p
  created : s'.created = s.created
  log : s'.log = s.log

variable {s s' s'' : MobileStreamService} {time : Rat}

theorem Fewer.refl (s : MobileStreamService) : Fewer s s := ⟨id, fun _ _ _ h => h, rfl, rfl⟩

theorem Fewer.trans (h : Fewer s s') (h' : Fewer s' s'') : Fewer s s'' where
  keys hKeys := h'.keys (h.keys hKeys)
  lookup hKeys id p hLookup := h.lookup hKeys id p (h'.lookup (h.keys hKeys) id p hLookup)
  created := h'.created.trans h.created
  log := h'.log.trans h.log

theorem Fewer.of_eq (hPairings : s'.pairings = s.pairings) (hCreated : s'.created = s.created)
    (hLog : s'.log = s.log) : Fewer s s' where
  keys hKeys := by rwa [hPairings]
  lookup _ id p hLookup := by rwa [hPairings] at hLookup
  created := hCreated
  log := hLog

theorem Sound.fewer (h : s.Sound time) (hFewer : Fewer s s') : s'.Sound time where
  keys := hFewer.keys h.keys
  ids id p hLookup := h.ids id p (hFewer.lookup h.keys id p hLookup)
  serials id p hLookup := hFewer.created ▸ h.serials id p (hFewer.lookup h.keys id p hLookup)
  apart id id' p p' hLookup hLookup' :=
    h.apart id id' p p' (hFewer.lookup h.keys id p hLookup) (hFewer.lookup h.keys id' p' hLookup')
  fits id p hLookup := hFewer.log ▸ h.fits id p (hFewer.lookup h.keys id p hLookup)
  past := by
    rw [hFewer.log, hFewer.created]
    exact h.past
  granted := hFewer.log ▸ h.granted

theorem Sound.mono (h : s.Sound time) {later : Rat} (hLe : time ≤ later) : s.Sound later :=
  { h with fits := fun id p hLookup => (h.fits id p hLookup).mono hLe }

variable {id : String} {p : Pairing}

theorem Sound.event (h : s.Sound time) {e : Event} (hLookup : s.pairings.lookup id = some p)
    (hSerial : e.serial = p.serial) (hLog : s'.log = s.log ++ [e])
    (hCreated : s'.created = s.created) (hKeys : s'.pairings.keys.Nodup)
    (hSelf : ∀ q, s'.pairings.lookup id = some q → q.id = id ∧ q.serial = p.serial ∧
      q.Fits (history s.log p.serial ++ [e]) time)
    (hRest : ∀ id' q, id' ≠ id → s'.pairings.lookup id' = some q → s.pairings.lookup id' = some q)
    (hGranted : ∀ serial client code token now, e = .issued serial client code token now →
    Granted s.log serial client code now) :
    s'.Sound time where
  keys := hKeys
  ids id' q hq := by
    by_cases hId : id' = id
    · subst hId
      exact (hSelf q hq).1
    · exact h.ids id' q (hRest id' q hId hq)
  serials id' q hq := by
    rw [hCreated]
    by_cases hId : id' = id
    · subst hId
      rw [(hSelf q hq).2.1]
      exact h.serials id' p hLookup
    · exact h.serials id' q (hRest id' q hId hq)
  apart id₁ id₂ q₁ q₂ h₁ h₂ hEq := by
    -- the record of `id` has the serial it had, so each side is found where it was
    have hOld : ∀ id' q, s'.pairings.lookup id' = some q →
        ∃ r, s.pairings.lookup id' = some r ∧ r.serial = q.serial := by
      intro id' q hq
      by_cases hId : id' = id
      · subst hId
        exact ⟨p, hLookup, (hSelf q hq).2.1.symm⟩
      · exact ⟨q, hRest id' q hId hq, rfl⟩
    obtain ⟨r₁, hr₁, hs₁⟩ := hOld id₁ q₁ h₁
    obtain ⟨r₂, hr₂, hs₂⟩ := hOld id₂ q₂ h₂
    exact h.apart id₁ id₂ r₁ r₂ hr₁ hr₂ (hs₁.trans (hEq.trans hs₂.symm))
  fits id' q hq := by
    rw [hLog, history_snoc]
    by_cases hId : id' = id
    · subst hId
      obtain ⟨-, hSame, hFits⟩ := hSelf q hq
      rw [hSame, if_pos hSerial]
      exact hFits
    · have hOld := hRest id' q hId hq
      have hApart : e.serial ≠ q.serial := by
        intro hEq
        exact hId (h.apart id' id q p hOld hLookup (hEq.symm.trans hSerial))
      rw [if_neg hApart]
      exact h.fits id' q hOld
  past d hd := by
    rw [hLog] at hd
    rw [hCreated]
    rcases List.mem_append.mp hd with hOld | hNew
    · exact h.past d hOld
    · rw [List.mem_singleton.mp hNew, hSerial]
      exact h.serials id p hLookup
  granted := by
    rw [hLog]
    exact h.granted.snoc hGranted

/-! ## The calls -/

theorem fewer_erase (s : MobileStreamService) (id : String) :
    Fewer s { s with pairings := s.pairings.erase id } where
  keys hKeys := Dict.nodup_keys_erase hKeys id
  lookup _ id' p hLookup := by
    rw [Dict.lookup_erase] at hLookup
    split at hLookup
    · cases hLookup
    · exact hLookup
  created := rfl
  log := rfl

theorem fewer_prune (s : MobileStreamService) (clock : Clock) : Fewer s (s.prune clock) where
  keys hKeys := Dict.nodup_keys_filter hKeys _
  lookup hKeys _ _ hLookup := Dict.lookup_of_lookup_filter hKeys hLookup
  created := rfl
  log := rfl

theorem fewer_stop (s : MobileStreamService) (clock : Clock) : Fewer s (s.stop clock) := by
  refine Fewer.trans ?_ (fewer_prune _ clock)
  constructor
  · exact fun _ => List.nodup_nil
  · exact fun _ _ _ hLookup => nomatch hLookup
  · rfl
  · rfl

theorem fewer_listen (s : MobileStreamService) (clock : Clock) (network : Network)
    (interface address : String) (port : Int) :
    Fewer s (s.listen clock network interface address port).2 := by
  unfold listen
  split
  · exact Fewer.refl s
  · dsimp only
    refine Fewer.trans ?_ (fewer_prune _ clock)
    exact Fewer.of_eq rfl rfl rfl

theorem fewer_start (rt : Runtime) (s : MobileStreamService) (clock : Clock) (network : Network)
    (interface : String) (port : Value) :
    Fewer s (s.start rt clock network interface port).2 := by
  unfold start
  dsimp only
  split
  · exact Fewer.refl s
  · split
    · exact Fewer.refl s
    · split
      · exact Fewer.refl s
      · split
        · exact fewer_prune s clock
        · exact (fewer_stop s clock).trans (fewer_listen _ clock network _ _ _)

theorem Sound.drawn (h : s.Sound time) (hId : p.id = id) (hSerial : p.serial = s.created)
    (hFits : p.Fits [] time) :
    ({ s with
      pairings := s.pairings.set id p
      created := s.created + 1 } : MobileStreamService).Sound time := by
  have hEmpty : history s.log p.serial = [] := by
    refine List.filter_eq_nil_iff.mpr ?_
    intro e he
    have hPast := h.past e he
    simp only [decide_eq_true_eq]
    omega
  have hFound : ∀ id' q, (s.pairings.set id p).lookup id' = some q →
      (id' = id ∧ q = p) ∨ (id' ≠ id ∧ s.pairings.lookup id' = some q) := by
    intro id' q hq
    rw [Dict.lookup_set] at hq
    split at hq
    · rename_i hSame
      cases hq
      exact Or.inl ⟨hSame, rfl⟩
    · rename_i hOther
      exact Or.inr ⟨hOther, hq⟩
  constructor
  · exact Dict.nodup_keys_set h.keys id p
  · intro id' q hq
    rcases hFound id' q hq with ⟨rfl, rfl⟩ | ⟨-, hOld⟩
    · exact hId
    · exact h.ids id' q hOld
  · intro id' q hq
    dsimp only
    rcases hFound id' q hq with ⟨rfl, rfl⟩ | ⟨-, hOld⟩
    · omega
    · have := h.serials id' q hOld
      omega
  · intro id₁ id₂ q₁ q₂ h₁ h₂ hEq
    rcases hFound id₁ q₁ h₁ with ⟨rfl, rfl⟩ | ⟨-, hOld₁⟩
    · rcases hFound id₂ q₂ h₂ with ⟨rfl, rfl⟩ | ⟨-, hOld₂⟩
      · rfl
      · have := h.serials id₂ q₂ hOld₂
        omega
    · rcases hFound id₂ q₂ h₂ with ⟨rfl, rfl⟩ | ⟨-, hOld₂⟩
      · have := h.serials id₁ q₁ hOld₁
        omega
      · exact h.apart id₁ id₂ q₁ q₂ hOld₁ hOld₂ hEq
  · intro id' q hq
    dsimp only
    rcases hFound id' q hq with ⟨rfl, rfl⟩ | ⟨-, hOld⟩
    · rw [hEmpty]
      exact hFits
    · exact h.fits id' q hOld
  · intro e he
    exact (h.past e he).trans (Nat.lt_succ_self _)
  · exact h.granted

variable {clock : Clock}

theorem Sound.create (rt : Runtime) (h : s.Sound clock.now) (network : Network)
    (pairing_id interface : String) (port : Value) :
    (s.create_pairing rt clock network pairing_id interface port).2.Sound clock.now := by
  have hFewer := fewer_start rt s clock network interface port
  unfold create_pairing
  split
  · rename_i reason s' hStart
    rw [hStart] at hFewer
    exact h.fewer hFewer
  · rename_i s' hStart
    rw [hStart] at hFewer
    refine (h.fewer hFewer).drawn rfl rfl ?_
    constructor
    · rfl
    · exact fun _ => ⟨rfl, nofun⟩
    · exact fun hSeen => absurd rfl hSeen
    · exact fun hSome => absurd rfl hSome
    · exact fun hSeen => absurd rfl hSeen
    · exact fun hSome => absurd rfl hSome
    · exact fun hSome => absurd rfl hSome

theorem Sound.stored (h : s.Sound time) {q : Pairing} {e : Event}
    (hLookup : s.pairings.lookup id = some p) (hSerial : e.serial = p.serial) (hId : q.id = p.id)
    (hSame : q.serial = p.serial) (hFits : q.Fits (history s.log p.serial ++ [e]) time)
    (hNone : ∀ serial client code token now, e ≠ .issued serial client code token now) :
    ({ s with
      pairings := s.pairings.set id q
      log := s.log ++ [e] } : MobileStreamService).Sound time := by
  refine h.event hLookup hSerial rfl rfl (Dict.nodup_keys_set h.keys id q) ?_ ?_ ?_
  · intro r hr
    rw [Dict.lookup_set, if_pos rfl] at hr
    cases hr
    exact ⟨hId.trans (h.ids id p hLookup), hSame, hFits⟩
  · intro id' r hOther hr
    rwa [Dict.lookup_set, if_neg hOther] at hr
  · exact fun _ _ _ _ _ hEq => absurd hEq (hNone _ _ _ _ _)

theorem knock_same (p : Pairing) (now : Rat) (utc client agent : String) :
    (p.knock now utc client agent).id = p.id ∧
      (p.knock now utc client agent).serial = p.serial := by
  unfold Pairing.knock
  split <;> exact ⟨rfl, rfl⟩

theorem Sound.opening (h : s.Sound clock.now) (hTime : clock.now ≠ 0) {client : String}
    (hClient : client ≠ "") (utc pairing_id user_agent : String) :
    (s.open_pairing clock utc pairing_id client user_agent).2.Sound clock.now := by
  have hPruned := h.fewer (fewer_prune s clock)
  unfold open_pairing
  dsimp only
  split
  · exact hPruned
  · rename_i p hLookup
    split_ifs with hClosed hExpired
    · exact hPruned
    · exact hPruned.fewer (fewer_erase _ p.id)
    · have hFits := hPruned.fits pairing_id p hLookup
      have hFailed : p.failed_at = 0 := by
        by_contra hSome
        exact hClosed (Or.inr hSome)
      obtain ⟨hId, hSerial⟩ := knock_same p clock.now utc client user_agent
      have hKnock := hFits.opened hTime (not_le.mp hExpired) hFailed hClient utc user_agent
      rw [hSerial]
      exact hPruned.stored hLookup rfl hId hSerial hKnock nofun

theorem Sound.approval (h : s.Sound clock.now) (hTime : clock.now ≠ 0) (draw : Fin 1000000)
    (pairing_id : String) : (s.approve_pairing clock draw pairing_id).2.Sound clock.now := by
  have hPruned := h.fewer (fewer_prune s clock)
  unfold approve_pairing
  dsimp only
  split
  · exact hPruned
  · rename_i p hLookup
    split_ifs with hClosed hExpired hUnseen hFirst
    · exact hPruned
    · exact hPruned.fewer (fewer_erase _ p.id)
    · exact hPruned
    · have hFits := hPruned.fits pairing_id p hLookup
      exact hPruned.stored hLookup rfl rfl rfl
        (hFits.accept hTime hUnseen hFirst (sixDigits_ne_empty draw)) nofun
    · exact hPruned

theorem Sound.deny (h : s.Sound time) (hLookup : s.pairings.lookup id = some p)
    (client code : String) {failed_at : Rat}
    (hClosed : p.approved_at = 0 ∨ failed_at ≠ 0 ∨ p.expires_at ≤ time) :
    ({ s with
      pairings := s.pairings.set id { p with failed_at := failed_at }
      log := s.log ++ [.denied p.serial client code time] } : MobileStreamService).Sound time :=
  h.stored hLookup rfl rfl rfl ((h.fits id p hLookup).deny hClosed client code) nofun

theorem Sound.issue (h : s.Sound time) (hLookup : s.pairings.lookup id = some p)
    {client code : String} (hLive : time < p.expires_at) (hFailed : p.failed_at = 0)
    (hApproved : p.approved_at ≠ 0) (hClient : client = p.client) (hCode : strip code = p.code)
    (token : String) (session : MobileSession) :
    ({ s with
      sessions := s.sessions.set token session
      pairings := (s.pairings.set id { p with consumed_at := time }).erase p.id
      log := s.log ++ [.issued p.serial client code token time] } :
        MobileStreamService).Sound time := by
  have hFits := h.fits id p hLookup
  have hAccepted := hFits.accepted hApproved hFailed hLive
  obtain ⟨hPast, hExpires⟩ := hFits.approved hApproved
  have hId := h.ids id p hLookup
  refine h.event hLookup rfl rfl rfl ?_ ?_ ?_ ?_
  · exact Dict.nodup_keys_erase (Dict.nodup_keys_set h.keys id _) p.id
  · intro q hq
    rw [Dict.lookup_erase, if_pos hId.symm] at hq
    cases hq
  · intro id' q hOther hq
    rwa [Dict.lookup_erase, hId, if_neg hOther, Dict.lookup_set, if_neg hOther] at hq
  · intro serial client' code' token' now hEq
    cases hEq
    constructor
    · refine ⟨p.approved_at, ?_, hPast, hExpires ▸ hLive⟩
      rw [hClient, hCode]
      exact hAccepted
    · intro client' code' token' t hMem
      refine hAccepted.no_token (List.mem_filter.mpr ⟨hMem, ?_⟩)
      exact decide_eq_true rfl

theorem Sound.verification (h : s.Sound time) (hTime : time ≠ 0)
    (token pairing_id code client user_agent : String) :
    (s.verify_pairing time token pairing_id code client user_agent).2.Sound time := by
  unfold verify_pairing
  split
  · exact h
  · rename_i p hLookup
    have hFits := h.fits pairing_id p hLookup
    -- a refused code leaves the record of a pairing as it is, unless it closes it
    have hDenied : p.approved_at = 0 ∨ p.failed_at ≠ 0 ∨ p.expires_at ≤ time →
        ({ s with log := s.log ++ [.denied p.serial client code time] } :
          MobileStreamService).Sound time := by
      intro hClosed
      have hSet := h.deny hLookup client code hClosed
      rwa [Dict.set_of_lookup hLookup] at hSet
    have hFailed := h.deny hLookup client code (Or.inr (Or.inl hTime))
    split_ifs with hClosed hUncoded hStranger hWrong
    · apply hDenied
      rcases hClosed with hExpired | hConsumed | hFailed
      · exact Or.inr (Or.inr hExpired)
      · exact absurd hFits.consumed hConsumed
      · exact Or.inr (Or.inl hFailed)
    · apply hDenied
      rcases hUncoded with hZero | hEmpty
      · exact Or.inl hZero
      · by_contra hOpen
        exact hFits.coded (fun hZero => hOpen (Or.inl hZero)) hEmpty
    · exact hFailed
    · exact hFailed
    · push Not at hClosed hUncoded hStranger hWrong
      have hSeen : p.seen_at ≠ 0 := fun hZero => hUncoded.1 (hFits.unseen hZero).1
      exact h.issue hLookup hClosed.1 hClosed.2.2 hUncoded.1 (hStranger (hFits.seen hSeen)) hWrong
        token _

end MobileStreamService

def Call.opener : Call → Option String
  | .open _ _ client _ => some client
  | _ => none

def Label.Proper (label : Label) : Prop :=
  label.clock.now ≠ 0 ∧ label.call.opener ≠ some ""

instance (label : Label) : Decidable label.Proper := inferInstanceAs (Decidable (_ ∧ _))

theorem Machine.sound_step (rt : Runtime) {m m' : Machine} {label : Label} (hProper : label.Proper)
    (h : m.service.Sound m.time) (hStep : m.step rt label = some m') :
    m'.service.Sound m'.time := by
  obtain ⟨clock, call⟩ := label
  unfold Machine.step at hStep
  split at hStep
  · rename_i hTime
    cases hStep
    have hLater := h.mono (hTime.trans (clock.revoked_le.trans (clock.prune_le.trans
      clock.sessions_le)))
    cases call with
    | create network pairing_id interface port =>
      have hCreated := hLater.create rt network pairing_id interface port
      dsimp only [MobileStreamService.answer]
      exact hCreated
    | «open» utc pairing_id client user_agent =>
      have hClient : client ≠ "" := fun hEmpty => hProper.2 (congrArg some hEmpty)
      exact hLater.opening hProper.1 hClient utc pairing_id user_agent
    | approve draw pairing_id => exact hLater.approval hProper.1 draw pairing_id
    | verify token pairing_id code client user_agent =>
      exact hLater.verification hProper.1 token pairing_id code client user_agent
    | status => exact hLater.fewer (MobileStreamService.fewer_prune _ clock)
    | stop => exact hLater.fewer (MobileStreamService.fewer_stop _ clock)
  · cases hStep

theorem sound_new (time : Rat) : ({} : MobileStreamService).Sound time := by
  have hNone : ∀ id p, ({} : MobileStreamService).pairings.lookup id ≠ some p := by
    intro id p hLookup
    cases hLookup
  constructor
  · exact List.nodup_nil
  · exact fun id p hLookup => absurd hLookup (hNone id p)
  · exact fun id p hLookup => absurd hLookup (hNone id p)
  · exact fun id _ p _ hLookup => absurd hLookup (hNone id p)
  · exact fun id p hLookup => absurd hLookup (hNone id p)
  · exact fun e he => absurd he List.not_mem_nil
  · exact StepRun.Ordered.nil _

/-- Whatever the operator and the devices do, a token is issued to the device that opened its
pairing first, for the first code typed after the operator accepted that device, within the window
of the code, and once. -/
theorem tokens_granted (rt : Runtime) {time : Rat} {labels : List Label} {m : Machine}
    (hProper : ∀ label ∈ labels, label.Proper)
    (hRun : StepRun.run (Machine.step rt) { time := time } labels = some m) :
    TokensGranted m.service.log :=
  (StepRun.run_keeps (fun _ _ _ hProper h hStep => Machine.sound_step rt hProper h hStep)
    (sound_new time) hProper hRun).granted

/-! ## Runs -/

def homeNetwork : Network where
  interfaces := [⟨"wlan0", "192.168.1.2", false⟩]
  fails := none
  mdns_hostname := ""

def drawn (now : Rat) : Label :=
  ⟨Clock.at now, .create homeNetwork "p" "wlan0" (.int 45679)⟩

def opens (now : Rat) (client : String) : Label := ⟨Clock.at now, .open "" "p" client ""⟩

def accepts (now : Rat) : Label := ⟨Clock.at now, .approve 42 "p"⟩

def types (now : Rat) (client code : String) : Label :=
  ⟨Clock.at now, .verify "token" "p" code client ""⟩

theorem tokens_granted_pairing :
    (StepRun.run (Machine.step Runtime.ascii) { time := 0 }
        [drawn 1, opens 2 "192.168.1.7", accepts 3, types 5 "192.168.1.7" " 000042"]).map
          (fun m => m.service.log) =
      some [.opened 0 "192.168.1.7" 2, .approved 0 "000042" 3,
        .issued 0 "192.168.1.7" " 000042" "token" 5] ∧
    ∀ m, StepRun.run (Machine.step Runtime.ascii) { time := 0 }
        [drawn 1, opens 2 "192.168.1.7", accepts 3, types 5 "192.168.1.7" " 000042"] = some m →
      TokensGranted m.service.log :=
  ⟨by decide +kernel, fun _ hRun => tokens_granted Runtime.ascii (by decide +kernel) hRun⟩

def ClosedByRefusal (log : List Event) : Prop :=
  StepRun.Ordered (fun before e => ∀ serial client code token now,
    e = .issued serial client code token now →
      ∀ client' code' t, .denied serial client' code' t ∉ before) log

def IssuedToFirst (log : List Event) : Prop :=
  StepRun.Ordered (fun before e => ∀ serial client code token now,
    e = .issued serial client code token now →
      ((history before serial).find? Event.isOpened).map (fun
        | .opened _ client _ => client
        | _ => "") = some client) log

/-- A code refused before the operator accepts the device does not close the pairing; and a device
that opens it at the time 0 is not recorded. -/
theorem refused_then_issued :
    (∃ m, StepRun.run (Machine.step Runtime.ascii) { time := 0 }
        [drawn 1, opens 2 "192.168.1.7", types 3 "192.168.1.9" "111111", accepts 4,
          types 5 "192.168.1.7" "000042"] = some m ∧ ¬ClosedByRefusal m.service.log) ∧
    ∃ m, StepRun.run (Machine.step Runtime.ascii) { time := 0 }
        [drawn 0, opens 0 "192.168.1.7", opens 1 "192.168.1.9", accepts 2,
          types 3 "192.168.1.9" "000042"] = some m ∧ ¬IssuedToFirst m.service.log := by
  constructor
  · refine ⟨_, rfl, ?_⟩
    intro hClosed
    exact hClosed [.opened 0 "192.168.1.7" 2, .denied 0 "192.168.1.9" "111111" 3,
      .approved 0 "000042" 4] (.issued 0 "192.168.1.7" "000042" "token" 5) []
      (by decide +kernel) 0 "192.168.1.7" "000042" "token" 5 rfl "192.168.1.9" "111111" 3
      (by decide)
  · refine ⟨_, rfl, ?_⟩
    intro hFirst
    exact absurd (hFirst [.opened 0 "192.168.1.7" 0, .opened 0 "192.168.1.9" 1,
      .approved 0 "000042" 2] (.issued 0 "192.168.1.9" "000042" "token" 3) []
      (by decide +kernel) 0 "192.168.1.9" "000042" "token" 3 rfl) (by decide)

end Sniff4Hound.Mobile
