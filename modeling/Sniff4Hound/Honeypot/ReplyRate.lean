import Sniff4Hound.Honeypot.UdpListener
import Sniff4Hound.Library.JoinedText
import Sniff4Hound.Library.RateWindow

/-!
# The rate of the replies

The engine keeps for every port and source the times of the replies it allowed. The rate and the
refusals are right in every run, whatever is evicted: what goes is out of the window. The table is
another matter. Beyond its limit it drops the idle entries only, so that a flood of fresh sources
fills it without end; it is bounded exactly as long as an idle one is there for every newcomer
(`replies_limited_iff`).
-/

namespace Sniff4Hound.Honeypot

open RateWindow

structure Datagram where
  port : Nat
  addr : Address
  now : Rat
  named : addr.ip ≠ ""

def Datagram.key (d : Datagram) : Nat × String := (d.port, d.addr.ip)

structure Rated where
  windows : RateWindows
  log : List (Datagram × Bool)

variable (env : UdpEnv)

def Rated.receive (s : Rated) (d : Datagram) : Rated :=
  let answer := udp_response_allowed env s.windows d.port d.addr d.now
  ⟨answer.2, s.log ++ [(d, answer.1)]⟩

def received (ds : List Datagram) : Rated := ds.foldl (Rated.receive env) ⟨[], []⟩

def Timely (ds : List Datagram) : Prop := ds.Pairwise fun d d' => d.now ≤ d'.now

def repliesTo (key : Nat × String) (log : List (Datagram × Bool)) : List Rat :=
  (log.filter fun entry => entry.2 && decide (entry.1.key = key)).map fun entry => entry.1.now

/-- No window has more replies to a source than the limit, a refusal comes when there were that many
in the window before, and the table is bounded. -/
structure Limited (s : Rated) : Prop where
  rate : ∀ key last, count env.window last (repliesTo key s.log) ≤ env.limit
  refusals : ∀ before d after, s.log = before ++ (d, false) :: after →
    count env.window d.now (repliesTo d.key before) = env.limit
  size : s.windows.length ≤ env.max_clients + 1

/-- The table has a place for the sender, before or after idle senders are dropped. -/
def Roomy (windows : RateWindows) (d : Datagram) : Prop :=
  d.key ∈ windows.keys ∨ windows.length ≤ env.max_clients ∨
    ∃ entry ∈ windows, ∀ last ∈ entry.2.getLast?, last ≤ d.now - env.window

/-! ## One datagram -/

section Step

variable {env} {s : Rated} {now : Rat}

structure Tracks (env : UdpEnv) (s : Rated) (now : Rat) : Prop where
  nodup : s.windows.keys.Nodup
  kept : ∀ key, Kept env.window now (repliesTo key s.log) (s.windows.getList key)

def afterEviction (env : UdpEnv) (windows : RateWindows) (now : Rat) : RateWindows :=
  if windows.length > env.max_clients then
    windows.filter fun item => !(item.2.getLast?.all fun last => decide (last ≤ now - env.window))
  else windows

theorem idle_iff {cutoff : Rat} {seen : List Rat} :
    (seen.getLast?.all fun last => decide (last ≤ cutoff)) = true ↔
      ∀ last ∈ seen.getLast?, last ≤ cutoff := by
  cases seen.getLast? with
  | none => exact iff_of_true rfl nofun
  | some last => simp

theorem beq_source : (instBEqOfDecidableEq : BEq (Nat × String)) = instBEqProd :=
  lawful_beq_subsingleton _ _

theorem nodup_afterEviction (h : s.windows.keys.Nodup) :
    (afterEviction env s.windows now).keys.Nodup := by
  unfold afterEviction
  split
  · exact Dict.nodup_keys_filter h _
  · exact h

theorem Tracks.evict (h : Tracks env s now) (key : Nat × String) :
    Kept env.window now (repliesTo key s.log) ((afterEviction env s.windows now).getList key) := by
  unfold afterEviction
  split
  · have hKept := h.kept key
    rw [Dict.getList] at hKept
    rw [Dict.getList, Dict.lookup_filter h.nodup]
    generalize @List.lookup _ _ instBEqOfDecidableEq key s.windows = entry at hKept
    cases entry with
    | none => exact hKept
    | some seen =>
      by_cases hOld : (seen.getLast?.all fun last => decide (last ≤ now - env.window)) = true
      · rw [Option.filter_some, hOld]
        exact hKept.forget (idle_iff.mp hOld)
      · rw [Option.filter_some, Bool.not_eq_true _ |>.mp hOld]
        exact hKept
  · exact h.kept key

theorem allowed_eq (d : Datagram) (windows : RateWindows) :
    udp_response_allowed env windows d.port d.addr d.now =
      let table := afterEviction env windows d.now
      let seen := (table.getList d.key).dropWhile fun t => decide (t ≤ d.now - env.window)
      if env.limit ≤ seen.length then (false, table.set d.key seen)
      else (true, table.set d.key (seen ++ [d.now])) := by
  rw [udp_response_allowed, if_neg d.named, ← beq_source]
  rfl

theorem repliesTo_snoc (key : Nat × String) (log : List (Datagram × Bool)) (d : Datagram)
    (answer : Bool) : repliesTo key (log ++ [(d, answer)]) =
      if answer = true ∧ d.key = key then repliesTo key log ++ [d.now] else repliesTo key log := by
  rw [repliesTo, List.filter_append, List.map_append]
  by_cases hCounts : answer = true ∧ d.key = key
  · rw [if_pos hCounts, List.filter_cons_of_pos (by simpa using hCounts)]
    rfl
  · rw [if_neg hCounts, List.filter_cons_of_neg (by simpa using hCounts)]
    exact List.append_nil _

theorem Tracks.receive (h : Tracks env s now) (d : Datagram) (hClock : now ≤ d.now) :
    Tracks env (s.receive env d) d.now ∧ ∃ answer, (s.receive env d).log = s.log ++ [(d, answer)] ∧
      (answer = true ↔ count env.window d.now (repliesTo d.key s.log) < env.limit) := by
  have hNow : Tracks env s d.now := ⟨h.nodup, fun key => (h.kept key).later hClock⟩
  have hTable := hNow.evict
  have hNodup := @nodup_afterEviction env s d.now h.nodup
  have hCount := (hTable d.key).count_eq
  unfold Rated.receive
  rw [allowed_eq]
  generalize hTableEq : afterEviction env s.windows d.now = table at hTable hNodup hCount
  generalize hSeen : ((table.getList d.key).dropWhile fun t =>
    decide (t ≤ d.now - env.window)) = seen at hCount
  have hPruned := (hTable d.key).prune
  rw [hSeen] at hPruned
  dsimp only
  rw [hSeen]
  by_cases hFull : env.limit ≤ seen.length
  · rw [if_pos hFull]
    refine ⟨⟨Dict.nodup_keys_set hNodup _ _, fun key => ?_⟩, false, rfl, ?_⟩
    · rw [repliesTo_snoc, if_neg (by simp), Dict.getList_set]
      split
      · next hKey => rwa [hKey]
      · exact hTable key
    · rw [hCount]
      exact iff_of_false Bool.false_ne_true (Nat.not_lt.mpr hFull)
  · rw [if_neg hFull]
    refine ⟨⟨Dict.nodup_keys_set hNodup _ _, fun key => ?_⟩, true, rfl, ?_⟩
    · rw [repliesTo_snoc, Dict.getList_set]
      by_cases hKey : key = d.key
      · rw [if_pos hKey, if_pos ⟨rfl, hKey.symm⟩, hKey]
        exact hPruned.allow
      · rw [if_neg hKey, if_neg fun hSame => hKey hSame.2.symm]
        exact hTable key
    · rw [hCount]
      exact ⟨fun _ => Nat.not_le.mp hFull, fun _ => rfl⟩

theorem size_receive (hSize : s.windows.length ≤ env.max_clients + 1) (d : Datagram) :
    (s.receive env d).windows.length ≤ env.max_clients + 1 ↔ Roomy env s.windows d := by
  have hLength : ∀ seen, ((afterEviction env s.windows d.now).set d.key seen).length ≤
      env.max_clients + 1 ↔ Roomy env s.windows d := by
    intro seen
    simp only [Dict.length_set, Dict.isSome_lookup]
    rw [Roomy, afterEviction]
    by_cases hOver : s.windows.length > env.max_clients
    · rw [if_pos hOver]
      by_cases hIdle : ∃ entry ∈ s.windows, ∀ last ∈ entry.2.getLast?, last ≤ d.now - env.window
      · obtain ⟨entry, hEntry, hOld⟩ := hIdle
        have hLess := List.length_filter_lt_length_iff_exists (l := s.windows)
          (p := fun item : (Nat × String) × List Rat =>
            !(item.2.getLast?.all fun last => decide (last ≤ d.now - env.window))) |>.mpr
          ⟨entry, hEntry, by rw [idle_iff.mpr hOld]; decide⟩
        refine iff_of_true ?_ (Or.inr (Or.inr ⟨entry, hEntry, hOld⟩))
        split
        · omega
        · omega
      · have hAll : s.windows.filter (fun item : (Nat × String) × List Rat =>
            !(item.2.getLast?.all fun last => decide (last ≤ d.now - env.window))) = s.windows := by
          refine List.filter_eq_self.mpr fun entry hEntry => ?_
          by_contra hStale
          refine hIdle ⟨entry, hEntry, idle_iff.mp ?_⟩
          simpa using hStale
        rw [hAll]
        by_cases hKnown : d.key ∈ s.windows.keys
        · rw [if_pos hKnown]
          exact iff_of_true hSize (Or.inl hKnown)
        · rw [if_neg hKnown]
          refine iff_of_false (by omega) ?_
          rintro (hKey | hFree | hEntry)
          · exact hKnown hKey
          · omega
          · exact hIdle hEntry
    · rw [if_neg hOver]
      refine iff_of_true ?_ (Or.inr (Or.inl (Nat.not_lt.mp hOver)))
      split
      · omega
      · omega
  rw [Rated.receive, allowed_eq]
  dsimp only
  split
  · exact hLength _
  · exact hLength _

end Step

/-! ## Runs -/

section Runs

variable {env} {ds : List Datagram}

theorem received_snoc (ds : List Datagram) (d : Datagram) :
    received env (ds ++ [d]) = (received env ds).receive env d := by
  rw [received, List.foldl_append]
  rfl

theorem Timely.of_prefix {ds' : List Datagram} (h : Timely ds) (hPrefix : ds' <+: ds) :
    Timely ds' :=
  List.Pairwise.sublist hPrefix.sublist h

theorem Timely.snoc {d : Datagram} (h : Timely (ds ++ [d])) :
    Timely ds ∧ ∀ other ∈ ds, other.now ≤ d.now := by
  obtain ⟨hBefore, -, hLast⟩ := List.pairwise_append.mp h
  exact ⟨hBefore, fun other hOther => hLast other hOther d (List.mem_singleton.mpr rfl)⟩

theorem tracks_received (h : Timely ds) {now : Rat} (hNow : ∀ d ∈ ds, d.now ≤ now) :
    Tracks env (received env ds) now := by
  induction ds using List.reverseRecOn generalizing now with
  | nil => exact ⟨List.nodup_nil, fun key => kept_nil env.window now⟩
  | append_singleton ds d ih =>
    obtain ⟨hBefore, hPast⟩ := h.snoc
    rw [received_snoc]
    obtain ⟨⟨hNodup, hKept⟩, -⟩ := (ih hBefore hPast).receive d le_rfl
    have hLater := hNow d (List.mem_append_right _ (List.mem_singleton.mpr rfl))
    exact ⟨hNodup, fun key => (hKept key).later hLater⟩

theorem rate_received (h : Timely ds) (key : Nat × String) (last : Rat) :
    count env.window last (repliesTo key (received env ds).log) ≤ env.limit := by
  induction ds using List.reverseRecOn generalizing last with
  | nil => exact Nat.zero_le _
  | append_singleton ds d ih =>
    obtain ⟨hBefore, hPast⟩ := h.snoc
    have hTracks := @tracks_received env _ hBefore _ hPast
    obtain ⟨-, answer, hLog, hRoom⟩ := hTracks.receive d le_rfl
    rw [received_snoc, hLog, repliesTo_snoc]
    split
    · next hReply =>
      obtain ⟨hAllowed, rfl⟩ := hReply
      exact bounded_snoc (hTracks.kept d.key).past (hRoom.mp hAllowed) (ih hBefore) last
    · exact ih hBefore last

theorem refusals_received (h : Timely ds) {before after : List (Datagram × Bool)} {d : Datagram}
    (hLog : (received env ds).log = before ++ (d, false) :: after) :
    count env.window d.now (repliesTo d.key before) = env.limit := by
  induction ds using List.reverseRecOn generalizing after with
  | nil =>
    have hLength := congrArg List.length hLog
    rw [List.length_append] at hLength
    exact absurd hLength (by simp [received])
  | append_singleton ds final ih =>
    obtain ⟨hBefore, hPast⟩ := h.snoc
    obtain ⟨-, answer, hFinal, hRoom⟩ :=
      (@tracks_received env _ hBefore _ hPast).receive final le_rfl
    rw [received_snoc, hFinal] at hLog
    obtain rfl | ⟨front, last, rfl⟩ := List.eq_nil_or_concat' after
    · obtain ⟨rfl, hEntry⟩ := List.append_inj' hLog rfl
      obtain ⟨rfl, rfl⟩ := Prod.mk.inj (List.singleton_inj.mp hEntry)
      have hFull : ¬count env.window final.now (repliesTo final.key (received env ds).log) <
          env.limit := fun hLess => absurd (hRoom.mpr hLess) (by simp)
      have hRate := @rate_received env _ hBefore final.key final.now
      omega
    · rw [← List.cons_append, ← List.append_assoc] at hLog
      exact ih hBefore (List.append_inj' hLog rfl).1

theorem size_received (h : Timely ds)
    (hRoomy : ∀ before d after, ds = before ++ d :: after →
      Roomy env (received env before).windows d) :
    (received env ds).windows.length ≤ env.max_clients + 1 := by
  induction ds using List.reverseRecOn with
  | nil => exact Nat.zero_le _
  | append_singleton ds d ih =>
    obtain ⟨hBefore, hPast⟩ := h.snoc
    have hSize := ih hBefore fun before other after hSplit =>
      hRoomy before other (after ++ [d]) (by rw [hSplit, List.append_assoc, List.cons_append])
    rw [received_snoc]
    exact (size_receive hSize d).mpr (hRoomy ds d [] rfl)

/-- In a run all of whose states are to be within the limits there has to be room for every
newcomer, and that is enough. -/
theorem replies_limited_iff (h : Timely ds) :
    (∀ ds', ds' <+: ds → Limited env (received env ds')) ↔
      ∀ before d after, ds = before ++ d :: after → Roomy env (received env before).windows d := by
  constructor
  · rintro hLimited before d after rfl
    have hBefore := hLimited before (List.prefix_append _ _)
    have hPrefix : before ++ [d] <+: before ++ d :: after := ⟨after, by simp⟩
    have hAfter := hLimited (before ++ [d]) hPrefix
    obtain ⟨hTimely, hPast⟩ := (h.of_prefix hPrefix).snoc
    rw [received_snoc] at hAfter
    exact (size_receive hBefore.size d).mp hAfter.size
  · rintro hRoomy ds' ⟨rest, rfl⟩
    have hTimely := h.of_prefix (List.prefix_append ds' rest)
    refine ⟨rate_received hTimely, fun before d after hLog => refusals_received hTimely hLog,
      size_received hTimely ?_⟩
    rintro before d after rfl
    exact hRoomy before d (after ++ rest) (by rw [List.append_assoc, List.cons_append])

def defaultRates : UdpEnv := ⟨.ascii, fun _ => none, 1, 20, 4096⟩

/-- A burst of one source, a datagram of another, and the first source two seconds later. -/
def burst : List Datagram :=
  List.replicate 22 ⟨53, ⟨"203.0.113.7", 5000⟩, 0, by decide⟩ ++
    [⟨53, ⟨"203.0.113.8", 5000⟩, 1 / 2, by decide⟩, ⟨53, ⟨"203.0.113.7", 5000⟩, 2, by decide⟩]

theorem replies_limited_burst :
    (received defaultRates burst).log.map Prod.snd =
      List.replicate 20 true ++ [false, false, true, true] ∧
    ∀ ds, ds <+: burst → Limited defaultRates (received defaultRates ds) := by
  have hTimely : Timely burst := by
    unfold Timely
    decide +kernel
  refine ⟨by decide +kernel, (replies_limited_iff hTimely).mpr fun before d after hSplit => ?_⟩
  have hShort : ∀ n ≤ burst.length, (received defaultRates (burst.take n)).windows.length ≤ 2 := by
    decide +kernel
  have hTake : burst.take before.length = before := by rw [hSplit, List.take_left']; rfl
  have hFew := hShort before.length (by rw [hSplit]; simp)
  rw [hTake] at hFew
  exact Or.inr (Or.inl (hFew.trans (by decide)))

end Runs

/-! ## A flood -/

section Flood

variable {env}

theorem flood_fills {ds : List Datagram} {now : Rat} (hWindow : 0 < env.window)
    (hLimit : 0 < env.limit) (hFresh : (ds.map Datagram.key).Nodup) (hNow : ∀ d ∈ ds, d.now = now) :
    (received env ds).windows = ds.map fun d => (d.key, [now]) := by
  induction ds using List.reverseRecOn with
  | nil => rfl
  | append_singleton ds d ih =>
    rw [List.map_append] at hFresh
    obtain ⟨hBefore, -, hNew⟩ := List.nodup_append.mp hFresh
    have hTable := ih hBefore fun other hOther => hNow other (List.mem_append_left _ hOther)
    have hAt : d.now = now := hNow d (List.mem_append_right _ (List.mem_singleton.mpr rfl))
    have hStays : afterEviction env (received env ds).windows now =
      (received env ds).windows := by
      rw [afterEviction]
      split
      · rw [hTable]
        refine List.filter_eq_self.mpr fun entry hEntry => ?_
        obtain ⟨other, -, rfl⟩ := List.mem_map.mp hEntry
        simpa using hWindow
      · rfl
    have hAbsent : d.key ∉ (received env ds).windows.keys := by
      rw [hTable, Dict.keys, List.map_map]
      intro hKey
      exact hNew d.key hKey d.key (List.mem_singleton.mpr rfl) rfl
    rw [received_snoc, Rated.receive, allowed_eq, hAt]
    dsimp only
    rw [hStays, Dict.getList_of_notMem hAbsent, List.dropWhile_nil, if_neg
      (by simpa using hLimit.ne'),
      Dict.set_of_notMem hAbsent, hTable, List.map_append]
    rfl

def decimal (n : Nat) : List Char := Nat.toDigits 10 n

/-- An address of 10.0.0.0/16, for numbers below 65536. -/
def floodSource (n : Nat) : String :=
  String.ofList (['1', '0', '.', '0', '.'] ++ (decimal (n / 256) ++ '.' :: decimal (n % 256)))

theorem floodSource_inj {n m : Nat} (h : floodSource n = floodSource m) : n = m := by
  have hChars := List.append_cancel_left (String.ofList_injective h)
  have hPlain (k : Nat) : '.' ∉ decimal k :=
    notMem_toDigits (by decide) (by decide) (by decide) k
  obtain ⟨hHigh, hLow⟩ := append_sep_inj (hPlain _) (hPlain _) hChars
  have hQuotient : n / 256 = m / 256 := toDigits_inj (by decide : 1 < 10) (by decide) hHigh
  have hRest : n % 256 = m % 256 := toDigits_inj (by decide : 1 < 10) (by decide) hLow
  omega

theorem floodSource_ne (n : Nat) : floodSource n ≠ "" := by
  intro h
  rw [floodSource, String.ofList_eq_empty_iff] at h
  exact List.cons_ne_nil _ _ h

def flood (size : Nat) : List Datagram :=
  (List.range size).map fun n => ⟨53, ⟨floodSource n, 5353⟩, 0, floodSource_ne n⟩

theorem length_flood (hWindow : 0 < env.window) (hLimit : 0 < env.limit) (size : Nat) :
    (received env (flood size)).windows.length = size := by
  rw [@flood_fills env _ 0 hWindow hLimit ?_ ?_]
  · rw [List.length_map, flood, List.length_map, List.length_range]
  · rw [flood, List.map_map]
    refine List.Pairwise.map _ (fun n m hne hSame => hne ?_) List.nodup_range
    exact floodSource_inj (Prod.mk.inj hSame).2
  · intro d hd
    obtain ⟨n, -, rfl⟩ := List.mem_map.mp hd
    rfl

/-- With the default settings, 4098 sources within one moment. -/
theorem flood_unbounded : Timely (flood 4098) ∧
    ¬Limited ⟨.ascii, fun _ => none, 1, 20, 4096⟩
      (received ⟨.ascii, fun _ => none, 1, 20, 4096⟩ (flood 4098)) := by
  constructor
  · refine List.pairwise_of_forall_mem_list fun d hd d' hd' => ?_
    obtain ⟨n, -, rfl⟩ := List.mem_map.mp hd
    obtain ⟨m, -, rfl⟩ := List.mem_map.mp hd'
    exact le_rfl
  · intro hLimited
    have hSize := hLimited.size
    rw [length_flood (by decide) (by decide)] at hSize
    exact absurd hSize (by decide)

end Flood

end Sniff4Hound.Honeypot
