import Sniff4Hound.Detection.StoredMatch
import Sniff4Hound.Store.AlertFeed

/-!
# What the readers of the tags find

The store finds the hits of a packet one by one, with their own tags, whatever is registered,
reviewed or deleted beside it (`Shown.feed`, `alertRows_packet`). The frontend finds the same ones
but for the blanks: `trim` takes the byte order mark for one, which `str.strip` leaves in the texts
of a monitor. So the readers agree exactly when no text of a hit begins or ends with that mark
(`readers_agree_iff`).
-/

namespace Sniff4Hound.Store

open MarkedRuns

variable {κ : Type} {rt : Runtime}

/-! ## Pages -/

section Pages

variable {β : Type} {f : β → Nat}

theorem split_at_key {l : List β} (h : l.Pairwise fun a b => f b ≤ f a) (k : Nat) :
    l = l.filter (fun b => k < f b) ++
      (l.filter (fun b => f b = k) ++ l.filter fun b => f b < k) := by
  induction h with
  | nil => rfl
  | cons hHead hTail ih =>
    rename_i a l
    rcases Nat.lt_trichotomy k (f a) with hAbove | hHere | hBelow
    · simp only [List.filter_cons, hAbove, decide_true, if_true, Nat.ne_of_gt hAbove,
        Nat.not_lt_of_gt hAbove, decide_false, Bool.false_eq_true, if_false, List.cons_append]
      exact congrArg (a :: ·) ih
    · have hNone : l.filter (fun b => k < f b) = [] :=
        List.filter_eq_nil_iff.mpr fun b hb => by simp [hHere, hHead b hb]
      rw [hNone, List.nil_append] at ih
      simp only [List.filter_cons, ← hHere, Nat.lt_irrefl, decide_true, if_true, decide_false,
        Bool.false_eq_true, if_false, hNone, List.nil_append, List.cons_append]
      exact congrArg (a :: ·) ih
    · have hNone : ∀ b ∈ l, f b < k := fun b hb => Nat.lt_of_le_of_lt (hHead b hb) hBelow
      have hAbove : l.filter (fun b => k < f b) = [] :=
        List.filter_eq_nil_iff.mpr fun b hb => by simp [Nat.le_of_lt (hNone b hb)]
      have hHere : l.filter (fun b => f b = k) = [] :=
        List.filter_eq_nil_iff.mpr fun b hb => by simp [Nat.ne_of_lt (hNone b hb)]
      have hAll : l.filter (fun b => f b < k) = l :=
        List.filter_eq_self.mpr fun b hb => decide_eq_true (hNone b hb)
      simp only [List.filter_cons, Nat.not_lt_of_gt hBelow, Nat.ne_of_lt hBelow, hBelow,
        decide_true, if_true, decide_false, Bool.false_eq_true, if_false, hAbove, hHere, hAll,
        List.nil_append]

theorem filter_page {l : List β} (h : l.Pairwise fun a b => f b ≤ f a) {k : Nat}
    {limit offset : Int} (hOffset : offset.toNat ≤ l.countP fun b => k < f b)
    (hLimit : 0 ≤ limit → (l.countP fun b => k < f b) + (l.countP fun b => f b = k) ≤
      offset.toNat + limit.toNat) :
    (page limit offset l).filter (fun b => f b = k) = l.filter fun b => f b = k := by
  have hSplit := split_at_key h k
  rw [List.countP_eq_length_filter] at hOffset
  simp only [List.countP_eq_length_filter] at hLimit
  generalize hAbove : l.filter (fun b => k < f b) = above at hSplit hOffset hLimit
  generalize hHere : l.filter (fun b => f b = k) = here at hSplit hLimit ⊢
  generalize hBelow : l.filter (fun b => f b < k) = below at hSplit
  have hOthers : ∀ some : List β, (∀ b ∈ some, f b ≠ k) →
      some.filter (fun b => f b = k) = [] := fun some hSome =>
    List.filter_eq_nil_iff.mpr fun b hb => by simp [hSome b hb]
  have hFront : (above.drop offset.toNat).filter (fun b => f b = k) = [] := by
    refine hOthers _ fun b hb => Nat.ne_of_gt ?_
    have hMem := List.mem_of_mem_drop hb
    rw [← hAbove] at hMem
    exact of_decide_eq_true (List.mem_filter.mp hMem).2
  have hBack : ∀ b ∈ below, f b ≠ k := fun b hb => by
    rw [← hBelow] at hb
    exact Nat.ne_of_lt (of_decide_eq_true (List.mem_filter.mp hb).2)
  have hOwn : here.filter (fun b => f b = k) = here := by
    rw [← hHere, List.filter_filter]
    simp
  have hRest : l.drop offset.toNat = above.drop offset.toNat ++ (here ++ below) := by
    conv_lhs => rw [hSplit, List.drop_append_of_le_length hOffset]
  rw [page, hRest]
  split
  · rw [List.filter_append, List.filter_append, hFront, hOwn, hOthers below hBack,
      List.append_nil, List.nil_append]
  · next hSome =>
    have hLength : (above.drop offset.toNat).length ≤ limit.toNat := by
      rw [List.length_drop]
      have := hLimit (by omega)
      omega
    have hMore : here.length ≤ limit.toNat - (above.drop offset.toNat).length := by
      rw [List.length_drop]
      have := hLimit (by omega)
      omega
    rw [List.take_append, List.take_of_length_le hLength, List.take_append,
      List.take_of_length_le hMore, List.filter_append, List.filter_append, hFront, hOwn,
      hOthers _ fun b hb => hBack b (List.mem_of_mem_take hb), List.append_nil, List.nil_append]

end Pages

/-! ## The tags of a packet while others come and go -/

def HIT_KEYS : List String := ["monitor", "monitor_id", "detail"]

def Db.hitRows (db : Db κ) (packet_id : Nat) : List (Nat × TagRow κ) :=
  db.tags.rows.filter fun tag => tag.2.packet_id = packet_id && decide (tag.2.key ∈ HIT_KEYS)

def Filed (db : Db κ) : Prop := ∀ tag ∈ db.tags.rows, tag.2.packet_id ≤ db.packets.seq

structure Shown (packet_id : Nat) (row : PacketRow κ) (tags : List (TagRow κ)) (db : Db κ) :
    Prop where
  packet : (packet_id, row) ∈ db.packets.rows
  tags : (db.hitRows packet_id).map Prod.snd = tags

def FeedStep.Spares (packet_id : Nat) : FeedStep κ → Prop
  | .delete packets tags =>
    packets packet_id = true ∧ ∀ tag, tag.2.packet_id = packet_id → tags tag = true
  | _ => True

theorem rows_insertTags (w : PacketWrite κ) (packet_id : Nat) (tags : List PacketTag)
    (db : Db κ) : ∃ more, (db.insertTags w packet_id tags).tags.rows = db.tags.rows ++ more ∧
      more.map Prod.snd = (tags.filter fun tag => tag.key ≠ "").map (w.tagRow packet_id) := by
  induction tags generalizing db with
  | nil => exact ⟨[], (List.append_nil _).symm, rfl⟩
  | cons tag tags ih =>
    rw [Db.insertTags_cons]
    by_cases hKey : tag.key = ""
    · obtain ⟨more, hRows, hMore⟩ := ih db
      exact ⟨more, by rw [if_pos hKey, hRows], by simpa [hKey] using hMore⟩
    · obtain ⟨more, hRows, hMore⟩ := ih (db.insertTag w packet_id tag)
      refine ⟨(db.tags.seq + 1, w.tagRow packet_id tag) :: more, ?_, ?_⟩
      · rw [if_neg hKey, hRows]
        exact (List.append_cons _ _ _).symm
      · simpa [hKey] using hMore

theorem rows_tags_land (w : PacketWrite κ) (db : Db κ) :
    ∃ more, (db.land w).tags.rows = db.tags.rows ++ more ∧
      more.map Prod.snd = (w.tags.filter fun tag => tag.key ≠ "").map
        (w.tagRow (db.packets.seq + 1)) := by
  rw [tags_land]
  obtain ⟨more, hRows, hMore⟩ := rows_insertTags w (db.packets.seq + 1) w.tags
    (((db.ensureSession w.session_id).2.insertPacket w
      (db.ensureSession w.session_id).1).2.upsertFlow w)
  refine ⟨more, ?_, hMore⟩
  rw [hRows, Db.tags_upsertFlow]
  exact congrArg (·.rows ++ more) (tags_ensureSession w.session_id)

theorem seq_land (w : PacketWrite κ) (db : Db κ) :
    (db.land w).packets.seq = db.packets.seq + 1 := by
  rw [Db.packets_land]
  rfl

variable {packet_id : Nat} {db : Db κ}

theorem save_packet_review_ok {label : String} {db' : Db κ}
    (h : save_packet_review rt packet_id label db = .ok db') :
    packet_id ≤ db.packets.seq ∧ db'.packets = db.packets ∧
      ∃ more, db'.tags.rows = (db.tags.rows.filter fun tag =>
        !(tag.2.packet_id = packet_id && tag.2.key = "review_label")) ++ more ∧
          ∀ tag ∈ more, tag.2.packet_id = packet_id ∧ tag.2.key = "review_label" := by
  unfold save_packet_review at h
  dsimp only at h
  split at h
  · cases h
  · split at h
    · cases h
    · next row hRow =>
      have hThere : packet_id ≤ db.packets.seq := by
        obtain ⟨before, after, hSplit, -⟩ := List.lookup_eq_some_iff.mp hRow
        refine db.packets.le_seq (packet_id, row) ?_
        rw [hSplit]
        exact List.mem_append_right _ List.mem_cons_self
      cases h
      refine ⟨hThere, rfl, ?_⟩
      split
      · exact ⟨[], (List.append_nil _).symm, nofun⟩
      · refine ⟨[_], rfl, fun tag hTag => ?_⟩
        obtain rfl := List.mem_singleton.mp hTag
        exact ⟨rfl, rfl⟩

theorem feed_tags (rt : Runtime) (db : Db κ) (step : FeedStep κ) :
    ∃ keep more, (db.feed rt step).tags.rows = db.tags.rows.filter keep ++ more ∧
      (∀ tag ∈ more, tag.2.packet_id ≤ (db.feed rt step).packets.seq ∧
        (tag.2.packet_id ≤ db.packets.seq → tag.2.key ∉ HIT_KEYS)) ∧
      ∀ packet_id, step.Spares packet_id → ∀ tag, tag.2.packet_id = packet_id →
        tag.2.key ∈ HIT_KEYS → keep tag = true := by
  cases step with
  | register w =>
    obtain ⟨more, hRows, hMore⟩ := rows_tags_land w db
    refine ⟨fun _ => true, more, ?_, fun tag hTag => ?_, fun _ _ _ _ _ => rfl⟩
    · rw [List.filter_true]
      exact hRows
    · have hTag' : tag.2 ∈ more.map Prod.snd := List.mem_map_of_mem hTag
      rw [hMore] at hTag'
      obtain ⟨_, -, hNew⟩ := List.mem_map.mp hTag'
      have hId : tag.2.packet_id = db.packets.seq + 1 := by
        rw [← hNew]
        rfl
      exact ⟨Nat.le_of_eq (hId.trans (seq_land w db).symm), fun hOld => by omega⟩
  | review packet_id label =>
    cases hReview : save_packet_review rt packet_id label db with
    | error message =>
      have hSame : db.feed rt (.review packet_id label) = db := by
        rw [Db.feed, hReview]
        rfl
      rw [hSame]
      exact ⟨fun _ => true, [], by simp, nofun, fun _ _ _ _ _ => rfl⟩
    | ok db' =>
      have hNext : db.feed rt (.review packet_id label) = db' := by
        rw [Db.feed, hReview]
        rfl
      obtain ⟨hThere, hPackets, more, hRows, hMore⟩ := save_packet_review_ok hReview
      have hLabel : "review_label" ∉ HIT_KEYS := by decide
      rw [hNext]
      refine ⟨_, more, hRows, fun tag hTag => ?_, fun _ _ tag _ hKey => ?_⟩
      · obtain ⟨hId, hKey⟩ := hMore tag hTag
        rw [hPackets, hId, hKey]
        exact ⟨hThere, fun _ => hLabel⟩
      · have hOther : tag.2.key ≠ "review_label" := fun hSame => hLabel (hSame ▸ hKey)
        simp [hOther]
  | delete packets tags =>
    refine ⟨tags, [], (List.append_nil _).symm, nofun, fun packet_id hSpares tag hId _ => ?_⟩
    exact hSpares.2 tag hId

theorem seq_feed (db : Db κ) (step : FeedStep κ) :
    db.packets.seq ≤ (db.feed rt step).packets.seq := by
  cases step with
  | register w => exact Nat.le_trans (Nat.le_succ _) (Nat.le_of_eq (seq_land w db).symm)
  | review packet_id label =>
    rw [Db.feed]
    cases hReview : save_packet_review rt packet_id label db with
    | error message => exact Nat.le_refl _
    | ok db' => exact Nat.le_of_eq (congrArg _ (save_packet_review_ok hReview).2.1.symm)
  | delete packets tags => exact Nat.le_refl _

theorem Filed.feed (h : Filed db) (step : FeedStep κ) : Filed (db.feed rt step) := by
  obtain ⟨keep, more, hRows, hMore, -⟩ := feed_tags rt db step
  intro tag hTag
  rw [hRows] at hTag
  rcases List.mem_append.mp hTag with hOld | hNew
  · exact Nat.le_trans (h tag (List.mem_of_mem_filter hOld)) (seq_feed db step)
  · exact (hMore tag hNew).1

theorem Filed.shown (h : Filed db) (w : PacketWrite κ) :
    Shown (db.packets.seq + 1) (db.landedRow w)
      ((w.tags.filter fun tag => tag.key ∈ HIT_KEYS).map (w.tagRow (db.packets.seq + 1)))
      (db.land w) := by
  refine ⟨mem_packets_land, ?_⟩
  obtain ⟨more, hRows, hMore⟩ := rows_tags_land w db
  have hOld : (db.tags.rows.filter fun tag => tag.2.packet_id = db.packets.seq + 1 &&
      decide (tag.2.key ∈ HIT_KEYS)) = [] := by
    refine List.filter_eq_nil_iff.mpr fun tag hTag => ?_
    have := h tag hTag
    simp only [Bool.and_eq_true, decide_eq_true_eq, not_and]
    omega
  have hNew : (more.filter fun tag => tag.2.packet_id = db.packets.seq + 1 &&
      decide (tag.2.key ∈ HIT_KEYS)).map Prod.snd = (more.map Prod.snd).filter fun tag =>
        tag.packet_id = db.packets.seq + 1 && decide (tag.key ∈ HIT_KEYS) := by
    rw [List.filter_map]
    rfl
  rw [Db.hitRows, hRows, List.filter_append, hOld, List.nil_append, hNew, hMore, List.filter_map,
    List.filter_filter]
  refine congrArg _ (List.filter_congr fun tag _ => ?_)
  show ((decide (db.packets.seq + 1 = db.packets.seq + 1) && decide (tag.key ∈ HIT_KEYS)) &&
    decide (tag.key ≠ "")) = decide (tag.key ∈ HIT_KEYS)
  by_cases hKey : tag.key = ""
  · simp [hKey, HIT_KEYS]
  · simp [hKey]

variable {row : PacketRow κ} {tags : List (TagRow κ)}

theorem Shown.feed (h : Shown packet_id row tags db) {step : FeedStep κ}
    (hSpares : step.Spares packet_id) : Shown packet_id row tags (db.feed rt step) := by
  constructor
  · cases step with
    | register w => exact packets_subset_land h.packet
    | review q label =>
      rw [Db.feed]
      cases hReview : save_packet_review rt q label db with
      | error message => exact h.packet
      | ok db' =>
        have hPackets := (save_packet_review_ok hReview).2.1
        show _ ∈ db'.packets.rows
        rw [hPackets]
        exact h.packet
    | delete packets tags => exact List.mem_filter.mpr ⟨h.packet, hSpares.1⟩
  · obtain ⟨keep, more, hRows, hMore, hKept⟩ := feed_tags rt db step
    have hThere : packet_id ≤ db.packets.seq := db.packets.le_seq _ h.packet
    have hNone : (more.filter fun tag => tag.2.packet_id = packet_id &&
        decide (tag.2.key ∈ HIT_KEYS)) = [] := by
      refine List.filter_eq_nil_iff.mpr fun tag hTag => ?_
      simp only [Bool.and_eq_true, decide_eq_true_eq, not_and]
      intro hId
      exact (hMore tag hTag).2 (by omega)
    have hSame : (db.feed rt step).hitRows packet_id = db.hitRows packet_id := by
      rw [Db.hitRows, hRows, List.filter_append, hNone, List.append_nil, List.filter_filter]
      refine List.filter_congr fun tag _ => ?_
      by_cases hOwn : tag.2.packet_id = packet_id ∧ tag.2.key ∈ HIT_KEYS
      · simp [hOwn, hKept packet_id hSpares tag hOwn.1 hOwn.2]
      · simp only [← Bool.decide_and, hOwn, decide_false, Bool.false_and]
    rw [hSame, h.tags]

/-! ## The rows of the feed -/

def firstValue (key : String) (tags : List (TagRow κ)) : String :=
  ((tags.find? fun tag => tag.key = key).map fun tag => tag.value).getD ""

theorem firstValue_filter {key : String} (hKey : key ∈ HIT_KEYS) (tags : List (TagRow κ)) :
    firstValue key (tags.filter fun tag => tag.key ∈ HIT_KEYS) = firstValue key tags := by
  have hSame : (tags.filter fun tag => tag.key ∈ HIT_KEYS).filter (fun tag => tag.key = key) =
      tags.filter fun tag => tag.key = key := by
    rw [List.filter_filter]
    refine List.filter_congr fun tag _ => ?_
    by_cases hTag : tag.key = key
    · simp [hTag, hKey]
    · simp [hTag]
  rw [firstValue, firstValue, ← List.head?_filter, ← List.head?_filter, hSame]

theorem sibling_eq (db : Db κ) (key : String) (tag : Nat × TagRow κ) :
    db.sibling key tag = firstValue key
      ((window isMonitor (db.tagsOf tag.2.packet_id) tag.1).map Prod.snd) := by
  have hOrdered : (db.tagsOf tag.2.packet_id).Pairwise fun row row' => row.1 < row'.1 :=
    db.tags.ordered.filter _
  unfold Db.sibling
  dsimp only
  rw [firstById_window hOrdered, firstValue, List.find?_map, Option.map_map]
  rfl

def groupRow (packet_id : Nat) (packet : κ) (group : TagRow κ × List (TagRow κ)) : AlertRow κ where
  packet_id := packet_id
  packet := packet
  monitor := group.1.value
  severity := group.1.severity
  monitor_id := firstValue "monitor_id" group.2
  detail := firstValue "detail" group.2

theorem groupRow_filter (packet_id : Nat) (packet : κ) (group : TagRow κ × List (TagRow κ)) :
    groupRow packet_id packet (group.1, group.2.filter fun tag => tag.key ∈ HIT_KEYS) =
      groupRow packet_id packet group := by
  have hId : "monitor_id" ∈ HIT_KEYS := by decide
  have hDetail : "detail" ∈ HIT_KEYS := by decide
  simp only [groupRow, firstValue_filter hId, firstValue_filter hDetail]

theorem flatMap_if {α β : Type} (p : α → Bool) (f : α → β) (l : List α) :
    (l.flatMap fun a => if p a then [f a] else []) = (l.filter p).map f := by
  induction l with
  | nil => rfl
  | cons a l ih =>
    rw [List.flatMap_cons, List.filter_cons, ih]
    split
    · rfl
    · rfl

theorem filter_packet (h : (packet_id, row) ∈ db.packets.rows) (p : Nat × PacketRow κ → Bool) :
    (db.packets.rows.filter fun r => r.1 = packet_id && p r) =
      if p (packet_id, row) then [(packet_id, row)] else [] := by
  obtain ⟨before, after, hRows⟩ := List.append_of_mem h
  have hOrdered := db.packets.ordered
  rw [hRows] at hOrdered
  obtain ⟨-, hRest, hBefore⟩ := List.pairwise_append.mp hOrdered
  have hAfter := (List.pairwise_cons.mp hRest).1
  have hNone : ∀ rows : List (Nat × PacketRow κ), (∀ r ∈ rows, r.1 ≠ packet_id) →
      (rows.filter fun r => r.1 = packet_id && p r) = [] := fun rows hOther =>
    List.filter_eq_nil_iff.mpr fun r hr => by simp [hOther r hr]
  rw [hRows, List.filter_append, List.filter_cons,
    hNone before fun r hr => Nat.ne_of_lt (hBefore r hr _ List.mem_cons_self),
    hNone after fun r hr => Nat.ne_of_gt (hAfter r hr), List.nil_append]
  simp

/-- The rows of a packet come one from each window, and its own tags decide what they say. -/
theorem alertRows_packet (filter : AlertFilter κ) (h : Shown packet_id row tags db) :
    ((db.alertRows rt filter).filter fun alert => alert.packet_id = packet_id) =
      ((groups isMonitor tags).filter fun group =>
        alert_filter rt filter group.1 row.packet).map (groupRow packet_id row.packet) := by
  let mine := db.tagsOf packet_id
  have hOrdered : mine.Pairwise fun tag tag' => tag.1 < tag'.1 := db.tags.ordered.filter _
  -- the join gives one row for each tag of the packet that is let through
  have hJoin : ((db.alertRows rt filter).filter fun alert => alert.packet_id = packet_id) =
      (mine.filter fun tag => alert_filter rt filter tag.2 row.packet).map fun tag =>
        groupRow packet_id row.packet (tag.2, (window isMonitor mine tag.1).map Prod.snd) := by
    have hEach : ∀ tag : Nat × TagRow κ,
        (((db.packets.rows.filter fun r => r.1 = tag.2.packet_id &&
          alert_filter rt filter tag.2 r.2.packet).map fun r =>
            (⟨r.1, r.2.packet, tag.2.value, tag.2.severity, db.sibling "monitor_id" tag,
              db.sibling "detail" tag⟩ : AlertRow κ)).filter fun alert =>
                alert.packet_id = packet_id) =
          if tag.2.packet_id = packet_id && alert_filter rt filter tag.2 row.packet then
            [groupRow packet_id row.packet (tag.2, (window isMonitor mine tag.1).map Prod.snd)]
          else [] := by
      intro tag
      by_cases hId : tag.2.packet_id = packet_id
      · subst hId
        rw [filter_packet h.packet fun r => alert_filter rt filter tag.2 r.2.packet]
        by_cases hLet : alert_filter rt filter tag.2 row.packet = true
        · simp [hLet, groupRow, sibling_eq, mine]
        · simp [hLet]
      · rw [List.filter_eq_nil_iff.mpr]
        · simp [hId]
        · intro alert hAlert
          obtain ⟨r, hr, rfl⟩ := List.mem_map.mp hAlert
          have hSame := (List.mem_filter.mp hr).2
          simp only [Bool.and_eq_true, decide_eq_true_eq] at hSame
          simpa [hSame.1] using hId
    rw [Db.alertRows, List.filter_flatMap]
    simp only [hEach]
    rw [flatMap_if]
    refine congrArg (List.map _) ?_
    show _ = (List.filter _ (db.tags.rows.filter _))
    rw [List.filter_filter]
    exact List.filter_congr fun tag _ => Bool.and_comm _ _
  have hMarked : (mine.filter fun tag => alert_filter rt filter tag.2 row.packet) =
      (mine.filter fun tag => isMonitor tag.2).filter fun tag =>
        alert_filter rt filter tag.2 row.packet := by
    rw [List.filter_filter]
    refine List.filter_congr fun tag _ => ?_
    simp only [alert_filter, isMonitor, Bool.and_assoc]
    cases decide (tag.2.key = "monitor") <;> simp
  have hTags : tags = (mine.map Prod.snd).filter fun tag => tag.key ∈ HIT_KEYS := by
    rw [← h.tags, List.filter_map]
    show (db.tags.rows.filter _).map Prod.snd = ((db.tags.rows.filter _).filter _).map Prod.snd
    rw [List.filter_filter]
    exact congrArg _ (List.filter_congr fun tag _ => Bool.and_comm _ _)
  have hWindows : ((mine.filter fun tag => isMonitor tag.2).map fun tag =>
      (tag, window isMonitor mine tag.1)) = groups (fun tag => isMonitor tag.2) mine :=
    windows_eq_groups hOrdered
  have hGroups : groups isMonitor tags = ((mine.filter fun tag => isMonitor tag.2).map fun tag =>
      (tag.2, ((window isMonitor mine tag.1).map Prod.snd).filter fun tag =>
        tag.key ∈ HIT_KEYS)) := by
    have hMark : ∀ tag : TagRow κ, isMonitor tag = true →
        decide (tag.key ∈ HIT_KEYS) = true := by
      intro tag hTag
      have hKey : tag.key = "monitor" := of_decide_eq_true hTag
      rw [hKey]
      decide
    rw [hTags, groups_filter hMark, groups_map, ← hWindows, List.map_map, List.map_map]
    rfl
  rw [hJoin, hMarked, hGroups, List.filter_map, List.map_map]
  exact List.map_congr_left fun tag _ => (groupRow_filter _ _ (tag.2, _)).symm

/-! ## The tags of the hits -/

/-- A hit of a monitor that `normalize_monitor` accepts, with what a detector and the throttle
add to it. -/
def Raised (env : Env) (hit : MonitorHit) : Prop :=
  ∃ m detail silenced, Normalized env m ∧
    hit = { m.hit.raised with detail := detail, silenced := silenced }

structure Worded (rt : Runtime) (hit : MonitorHit) : Prop where
  label : strip hit.label = hit.label
  label_ne : hit.label ≠ ""
  monitor_id : strip hit.monitor_id = hit.monitor_id
  monitor_id_ne : hit.monitor_id ≠ ""
  severity : strip hit.severity = hit.severity
  severity_ne : hit.severity ≠ ""
  lowered : ∃ s, ∀ c ∈ hit.severity.toList, c ∈ (rt.lower s).toList

theorem strip_or {default : String} (hDefault : strip default = default) (hSome : default ≠ "")
    (s : String) : strip (if strip s = "" then default else strip s) =
        (if strip s = "" then default else strip s) ∧
      (if strip s = "" then default else strip s) ≠ "" := by
  split
  · exact ⟨hDefault, hSome⟩
  · next hNamed => exact ⟨strip_strip s, hNamed⟩

section Texts

variable {env : Env} (hLower : env.LowersText)

theorem normalized_texts {m : Monitor} (h : Normalized env m) :
    (strip m.id = m.id ∧ m.id ≠ "") ∧ (strip m.name = m.name ∧ m.name ≠ "") ∧
      strip m.action.label = m.action.label ∧ ∃ s, m.action.severity =
        if env.lower (strip s) = "" then "info" else env.lower (strip s) := by
  obtain ⟨data, allow_source, validate_regex, hNormal⟩ := h
  simp only [normalize_monitor, bind_eq_ok, pure_eq_ok] at hNormal
  obtain ⟨enabled, -, rule, -, _, -, _, -, rfl⟩ := hNormal
  have hId := strip_or (by decide : strip "custom-monitor" = "custom-monitor") (by decide)
    ((((Value.get data "id").orElse (Value.get data "slug")).orElse (Value.get data "name")).text
      env.toRuntime)
  dsimp only
  generalize (if strip ((((Value.get data "id").orElse (Value.get data "slug")).orElse
    (Value.get data "name")).text env.toRuntime) = "" then "custom-monitor" else
    strip ((((Value.get data "id").orElse (Value.get data "slug")).orElse
      (Value.get data "name")).text env.toRuntime)) = id at hId ⊢
  exact ⟨hId, strip_or hId.1 hId.2 _, strip_strip _, _, rfl⟩

include hLower in
theorem severity_stored (s : String) :
    let severity := if env.lower (strip s) = "" then "info" else env.lower (strip s)
    strip severity = severity ∧ severity ≠ "" ∧
      ∃ text, ∀ c ∈ severity.toList, c ∈ (env.lower text).toList := by
  dsimp only
  split
  · refine ⟨by decide, by decide, "info", fun c hc => ?_⟩
    have hLetters : ("info".toList.all fun c => decide (c.toNat < 128)) = true := by decide
    have hSame : String.ofList ("info".toList.map Char.toLower) = "info" := by decide
    rw [hLower.ascii "info" fun c hc => of_decide_eq_true (List.all_eq_true.mp hLetters c hc),
      hSame]
    exact hc
  · next hNamed => exact ⟨strip_stored hLower s, hNamed, strip s, fun c hc => hc⟩

include hLower in
theorem Raised.worded {hit : MonitorHit} (h : Raised env hit) : Worded env.toRuntime hit := by
  obtain ⟨m, detail, silenced, hNormal, rfl⟩ := h
  obtain ⟨⟨hId, hIdSome⟩, ⟨hName, hNameSome⟩, hLabel, s, hSeverity⟩ := normalized_texts hNormal
  obtain ⟨hStrip, hSome, hLetters⟩ := severity_stored hLower s
  rw [← hSeverity] at hStrip hSome hLetters
  have hLabel' : strip m.hit.label = m.hit.label ∧ m.hit.label ≠ "" := by
    have hShown : m.hit.label = if m.action.label = "" then m.name else m.action.label := rfl
    rw [hShown]
    split
    · exact ⟨hName, hNameSome⟩
    · next hNamed => exact ⟨hLabel, hNamed⟩
  have hSeverity' : m.hit.severity = m.action.severity := if_neg hSome
  exact {
    label := hLabel'.1
    label_ne := hLabel'.2
    monitor_id := hId
    monitor_id_ne := hIdSome
    severity := by
      show strip m.hit.severity = m.hit.severity
      rw [hSeverity', hStrip]
    severity_ne := by
      show m.hit.severity ≠ ""
      rw [hSeverity']
      exact hSome
    lowered := by
      show ∃ text, ∀ c ∈ m.hit.severity.toList, _
      rw [hSeverity']
      exact hLetters }

end Texts

/-- The tag `monitor` of a hit. -/
def labelTag (hit : MonitorHit) : Sniff4Hound.PacketTag := ⟨"monitor", hit.label, some hit.severity⟩

def moreTags (hit : MonitorHit) : List Sniff4Hound.PacketTag :=
  ⟨"monitor_id", hit.monitor_id, some hit.severity⟩ :: textTag "detail" hit.detail hit.severity

theorem mem_textTag {key text severity : String} {tag : Sniff4Hound.PacketTag}
    (h : tag ∈ textTag key text severity) : tag.key = key := by
  unfold textTag at h
  split at h
  · cases h
  · rw [List.mem_singleton.mp h]

variable {hit : MonitorHit}

theorem filter_hitTags (h : Worded rt hit) :
    (hitTags hit).filter (fun tag => tag.key ∈ HIT_KEYS) = labelTag hit :: moreTags hit := by
  have hLabel : labelOf hit.label hit.tag hit.monitor_name = hit.label := if_pos h.label_ne
  have hFirst : textTag "monitor" hit.label hit.severity = [labelTag hit] := by
    rw [textTag, h.label, if_neg h.label_ne]
    rfl
  have hSecond : textTag "monitor_id" hit.monitor_id hit.severity =
      [⟨"monitor_id", hit.monitor_id, some hit.severity⟩] := by
    rw [textTag, h.monitor_id, if_neg h.monitor_id_ne]
  have hDetail : (textTag "detail" hit.detail hit.severity).filter
      (fun tag => tag.key ∈ HIT_KEYS) = textTag "detail" hit.detail hit.severity := by
    refine List.filter_eq_self.mpr fun tag hTag => ?_
    rw [mem_textTag hTag]
    decide
  have hCount : (if 0 < hit.silenced then
      [(⟨"monitor_suppressed_count", toString hit.silenced, some hit.severity⟩ :
        Sniff4Hound.PacketTag)] else []).filter (fun tag => tag.key ∈ HIT_KEYS) = [] := by
    split
    · rfl
    · rfl
  unfold hitTags
  dsimp only
  rw [if_neg h.severity_ne, hLabel, hFirst, hSecond, List.filter_append, List.filter_append,
    List.filter_append, hDetail, hCount, List.append_nil]
  rfl

theorem filter_suppressedTags (hit : MonitorHit) :
    (suppressedTags hit).filter (fun tag => tag.key ∈ HIT_KEYS) = [] := by
  refine List.filter_eq_nil_iff.mpr fun tag hTag => ?_
  rcases List.mem_append.mp hTag with hTag | hTag
  · rw [mem_textTag hTag]
    decide
  · rw [mem_textTag hTag]
    decide

variable {hits : List MonitorHit}

theorem filter_build_packet_tags {packet : Packet} {rule_hits : List RuleHit}
    {suppressed : List MonitorHit} (hHits : ∀ hit ∈ hits, Worded rt hit) :
    (build_packet_tags rt packet rule_hits hits suppressed).filter (fun tag => tag.key ∈ HIT_KEYS) =
      hits.flatMap fun hit => labelTag hit :: moreTags hit := by
  have hPort : ∀ key : String, key ∉ HIT_KEYS →
      (portTag rt packet key).filter (fun tag => tag.key ∈ HIT_KEYS) = [] := by
    intro key hKey
    unfold portTag
    split
    · simp [hKey]
    · rfl
  have hRules : (rule_hits.flatMap fun hit => textTag "rule"
      (labelOf hit.label hit.tag hit.rule_name)
      (if hit.severity = "" then "info" else hit.severity)).filter
        (fun tag => tag.key ∈ HIT_KEYS) = [] := by
    refine List.filter_eq_nil_iff.mpr fun tag hTag => ?_
    obtain ⟨hit, -, hTag⟩ := List.mem_flatMap.mp hTag
    rw [mem_textTag hTag]
    decide
  have hSuppressed : (suppressed.flatMap suppressedTags).filter
      (fun tag => tag.key ∈ HIT_KEYS) = [] := by
    rw [List.filter_flatMap]
    simp [filter_suppressedTags]
  have hOwn : (hits.flatMap hitTags).filter (fun tag => tag.key ∈ HIT_KEYS) =
      hits.flatMap fun hit => labelTag hit :: moreTags hit := by
    rw [List.filter_flatMap]
    exact List.flatMap_congr fun hit hHit => filter_hitTags (hHits hit hHit)
  rw [build_packet_tags, List.filter_append, List.filter_append, List.filter_append,
    List.filter_append, List.filter_append, hPort "src_port" (by decide),
    hPort "dst_port" (by decide), hRules, hSuppressed, hOwn]
  simp [HIT_KEYS]

/-! ## What the store finds -/

/-- The keys that `_build_packet_tags` writes. -/
def TAG_KEYS : List String :=
  ["proto", "state", "direction", "src_port", "dst_port", "rule", "monitor", "monitor_id", "detail",
    "monitor_suppressed_count", "monitor_suppressed", "monitor_suppressed_id"]

theorem key_mem {packet : Packet} {rule_hits : List RuleHit} {suppressed : List MonitorHit}
    {tag : Sniff4Hound.PacketTag}
    (h : tag ∈ build_packet_tags rt packet rule_hits hits suppressed) :
    tag.key ∈ TAG_KEYS := by
  have hPort : ∀ key : String, key ∈ TAG_KEYS → tag ∈ portTag rt packet key →
      tag.key ∈ TAG_KEYS := by
    intro key hKey hTag
    unfold portTag at hTag
    split at hTag
    · rwa [List.mem_singleton.mp hTag]
    · cases hTag
  have hText : ∀ {key text severity : String}, key ∈ TAG_KEYS → tag ∈ textTag key text severity →
      tag.key ∈ TAG_KEYS := fun hKey hTag => (mem_textTag hTag).symm ▸ hKey
  have hHit : ∀ hit : MonitorHit, tag ∈ hitTags hit → tag.key ∈ TAG_KEYS := by
    intro hit hTag
    simp only [hitTags, List.mem_append] at hTag
    rcases hTag with ((hTag | hTag) | hTag) | hTag
    · exact hText (by decide) hTag
    · exact hText (by decide) hTag
    · exact hText (by decide) hTag
    · split at hTag
      · have hKey : tag.key = "monitor_suppressed_count" := by rw [List.mem_singleton.mp hTag]
        rw [hKey]
        decide
      · cases hTag
  have hSilenced : ∀ hit : MonitorHit, tag ∈ suppressedTags hit → tag.key ∈ TAG_KEYS := by
    intro hit hTag
    rcases List.mem_append.mp hTag with hTag | hTag
    · exact hText (by decide) hTag
    · exact hText (by decide) hTag
  simp only [build_packet_tags, List.mem_append, List.mem_flatMap] at h
  rcases h with ((((h | h) | h) | ⟨hit, -, h⟩) | ⟨hit, -, h⟩) | ⟨hit, -, h⟩
  · rcases List.mem_cons.mp h with rfl | h
    · exact List.mem_cons_self
    · rcases List.mem_cons.mp h with rfl | h
      · exact List.mem_cons_of_mem _ List.mem_cons_self
      · rw [List.mem_singleton.mp h]
        exact List.mem_cons_of_mem _ (List.mem_cons_of_mem _ List.mem_cons_self)
  · exact hPort _ (by decide) h
  · exact hPort _ (by decide) h
  · exact hText (by decide) h
  · exact hHit hit h
  · exact hSilenced hit h

theorem strip_key : ∀ key ∈ TAG_KEYS, strip key = key := by decide

def feedRow (packet_id : Nat) (packet : κ) (hit : MonitorHit) : AlertRow κ :=
  ⟨packet_id, packet, hit.label, hit.severity, hit.monitor_id, strip hit.detail⟩

section Stored

variable {packet : Packet} {rule_hits : List RuleHit} {hits suppressed : List MonitorHit}
  {w : PacketWrite κ}

theorem stored_hits (hHits : ∀ hit ∈ hits, Worded rt hit)
    (hTags : w.tags = (build_packet_tags rt packet rule_hits hits suppressed).map (storedTag rt))
    (packet_id : Nat) : (w.tags.filter fun tag => tag.key ∈ HIT_KEYS).map (w.tagRow packet_id) =
      hits.flatMap fun hit => w.tagRow packet_id (storedTag rt (labelTag hit)) ::
        (moreTags hit).map fun tag => w.tagRow packet_id (storedTag rt tag) := by
  have hKeys : (build_packet_tags rt packet rule_hits hits suppressed).filter
      (fun tag => (storedTag rt tag).key ∈ HIT_KEYS) =
        (build_packet_tags rt packet rule_hits hits suppressed).filter
          fun tag => tag.key ∈ HIT_KEYS := by
    refine List.filter_congr fun tag hTag => ?_
    show decide (strip tag.key ∈ HIT_KEYS) = _
    rw [strip_key tag.key (key_mem hTag)]
  rw [hTags, List.filter_map]
  show (((build_packet_tags rt packet rule_hits hits suppressed).filter
    fun tag => (storedTag rt tag).key ∈ HIT_KEYS).map (storedTag rt)).map _ = _
  rw [hKeys, filter_build_packet_tags hHits, List.map_map, List.map_flatMap]
  rfl

theorem groups_stored (hHits : ∀ hit ∈ hits, Worded rt hit)
    (hTags : w.tags = (build_packet_tags rt packet rule_hits hits suppressed).map (storedTag rt))
    (packet_id : Nat) :
    groups isMonitor ((w.tags.filter fun tag => tag.key ∈ HIT_KEYS).map (w.tagRow packet_id)) =
      hits.map fun hit => (w.tagRow packet_id (storedTag rt (labelTag hit)),
        (moreTags hit).map fun tag => w.tagRow packet_id (storedTag rt tag)) := by
  rw [stored_hits hHits hTags]
  refine groups_flatMap (fun hit _ => ?_) fun hit _ row hRow => ?_
  · show decide (strip "monitor" = "monitor") = true
    decide
  · obtain ⟨tag, hTag, rfl⟩ := List.mem_map.mp hRow
    rcases List.mem_cons.mp hTag with rfl | hTag
    · show decide (strip "monitor_id" = "monitor") = false
      decide
    · show decide (strip tag.key = "monitor") = false
      rw [mem_textTag hTag]
      decide

end Stored

theorem Worded.lower (h : Worded rt hit) (hLower : rt.LowersText) :
    rt.lower hit.severity = hit.severity := by
  obtain ⟨s, hLetters⟩ := h.lowered
  exact hLower.settled s _ hLetters

theorem groupRow_stored (h : Worded rt hit) (hLower : rt.LowersText) (w : PacketWrite κ)
    (packet_id : Nat) (packet : κ) :
    groupRow packet_id packet (w.tagRow packet_id (storedTag rt (labelTag hit)),
      (moreTags hit).map fun tag => w.tagRow packet_id (storedTag rt tag)) =
        feedRow packet_id packet hit := by
  have hMonitor : strip "monitor_id" = "monitor_id" := by decide
  have hDetail : strip "detail" = "detail" := by decide
  have hSeverity : rt.lower (strip hit.severity) = hit.severity := by
    rw [h.severity, h.lower hLower]
  have hMore : firstValue "detail" ((moreTags hit).map fun tag =>
      w.tagRow packet_id (storedTag rt tag)) = strip hit.detail := by
    unfold moreTags textTag
    split
    · next hNone => simp [firstValue, PacketWrite.tagRow, storedTag, hMonitor, hNone]
    · simp [firstValue, PacketWrite.tagRow, storedTag, hMonitor, hDetail, strip_strip]
  have hId : firstValue "monitor_id" ((moreTags hit).map fun tag =>
      w.tagRow packet_id (storedTag rt tag)) = hit.monitor_id := by
    simp [firstValue, moreTags, PacketWrite.tagRow, storedTag, hMonitor, h.monitor_id]
  rw [groupRow, hMore, hId, feedRow]
  simp [PacketWrite.tagRow, storedTag, labelTag, h.label, hSeverity]

def Reaches (limit offset : Int) (packet_id : Nat) (rows : List (AlertRow κ)) : Prop :=
  (offset.toNat ≤ rows.countP fun row => packet_id < row.packet_id) ∧
    (0 ≤ limit → (rows.countP fun row => packet_id < row.packet_id) +
      (rows.countP fun row => row.packet_id = packet_id) ≤ offset.toNat + limit.toNat)

/-- A page of the feed that reaches over the rows of the packet has one row for every hit that the
filter lets through. -/
def StoreFinds (rt : Runtime) (packet_id : Nat) (packet : κ) (hits : List MonitorHit)
    (db : Db κ) : Prop :=
  ∀ limit offset filter rows, list_recent_alerts rt limit offset filter db rows →
    Reaches limit offset packet_id (db.alertRows rt filter) →
      (rows.filter fun row => row.packet_id = packet_id).Perm
        ((hits.filter fun hit => filter.lets rt hit.severity packet).map
          (feedRow packet_id packet))

theorem Shown.finds (h : Shown packet_id row tags db) (hLower : rt.LowersText)
    (hHits : ∀ hit ∈ hits, Worded rt hit) {w : PacketWrite κ}
    (hGroups : groups isMonitor tags = hits.map fun hit =>
    (w.tagRow packet_id (storedTag rt (labelTag hit)),
    (moreTags hit).map fun tag => w.tagRow packet_id (storedTag rt tag))) :
    StoreFinds rt packet_id row.packet hits db := by
  rintro limit offset filter rows ⟨ordered, hPerm, hOrdered, rfl⟩ ⟨hOffset, hLimit⟩
  rw [← hPerm.countP_eq] at hOffset
  rw [← hPerm.countP_eq, ← hPerm.countP_eq] at hLimit
  rw [filter_page (f := AlertRow.packet_id) hOrdered hOffset hLimit]
  refine (hPerm.filter _).trans (List.Perm.of_eq ?_)
  have hLets : ∀ hit ∈ hits, alert_filter rt filter (w.tagRow packet_id
      (storedTag rt (labelTag hit))) row.packet = filter.lets rt hit.severity row.packet := by
    intro hit hHit
    have hKey : strip "monitor" = "monitor" := by decide
    have hSeverity : rt.lower (strip hit.severity) = hit.severity := by
      rw [(hHits hit hHit).severity, (hHits hit hHit).lower hLower]
    simp [alert_filter, PacketWrite.tagRow, storedTag, labelTag, hKey, hSeverity,
      (hHits hit hHit).severity_ne]
  rw [alertRows_packet filter h, hGroups, List.filter_map, List.map_map]
  simp only [Function.comp_def]
  rw [List.filter_congr hLets]
  refine List.map_congr_left fun hit hHit => ?_
  exact groupRow_stored (hHits hit (List.mem_of_mem_filter hHit)) hLower w packet_id row.packet

/-! ## What the frontend finds -/

/-- `toLowerCase` leaves the letters alone that `str.lower` has made. -/
def LeavesLowered (rt : Runtime) (toLowerCase : String → String) : Prop :=
  ∀ s t : String, (∀ c ∈ t.toList, c ∈ (rt.lower s).toList) → toLowerCase t = t

def detection (hit : MonitorHit) : DetectionHit := ⟨hit.label, hit.severity, hit.monitor_id⟩

/-- The interface reads the hits back, whatever review label the packet has. -/
def FrontendFinds (toLowerCase : String → String) (tags : List Sniff4Hound.PacketTag)
    (hits : List MonitorHit) : Prop :=
  ∀ tags', tags'.filter (fun tag => tag.key ≠ "review_label") = tags →
    extractMonitorHitsFromTags toLowerCase tags' = hits.map detection

def foundHit (toLowerCase : String → String) (hit : MonitorHit) : Option DetectionHit :=
  if trimmed hit.label = "" then none
  else some ⟨trimmed hit.label, toLowerCase (trimmed hit.severity), trimmed hit.monitor_id⟩

theorem foldl_extendHit_filter (tags : List Sniff4Hound.PacketTag) (hit : DetectionHit) :
    (tags.filter fun tag => tag.key ∈ HIT_KEYS).foldl extendHit hit = tags.foldl extendHit hit := by
  have hOther : ∀ (hit : DetectionHit) (tag : Sniff4Hound.PacketTag), tag.key ∉ HIT_KEYS →
      extendHit hit tag = hit := by
    intro hit tag hKey
    refine if_neg fun hId => hKey ?_
    rw [hId]
    decide
  induction tags generalizing hit with
  | nil => rfl
  | cons tag tags ih =>
    rw [List.foldl_cons, ← ih, List.filter_cons]
    split
    · rw [List.foldl_cons]
    · next hKey => rw [hOther hit tag (by simpa using hKey)]

theorem extract_eq {toLowerCase : String → String} {tags : List Sniff4Hound.PacketTag}
    (hHits : ∀ hit ∈ hits, Worded rt hit)
    (hTags : (tags.filter fun tag => tag.key ∈ HIT_KEYS) = hits.flatMap fun hit => labelTag hit ::
    moreTags hit) :
    extractMonitorHitsFromTags toLowerCase tags = hits.filterMap (foundHit toLowerCase) := by
  have hMark : ∀ tag : Sniff4Hound.PacketTag, decide (tag.key = "monitor") = true →
      decide (tag.key ∈ HIT_KEYS) = true := by
    intro tag hTag
    rw [of_decide_eq_true hTag]
    decide
  have hGroups : groups (fun tag : Sniff4Hound.PacketTag => decide (tag.key = "monitor"))
      (tags.filter fun tag => tag.key ∈ HIT_KEYS) =
        hits.map fun hit => (labelTag hit, moreTags hit) := by
    rw [hTags]
    refine groups_flatMap (fun _ _ => rfl) fun hit _ tag hTag => ?_
    rcases List.mem_cons.mp hTag with rfl | hTag
    · rfl
    · rw [mem_textTag hTag]
      decide
  have hFound : ∀ hit ∈ hits, ((beginHit toLowerCase (labelTag hit)).map fun b =>
      (moreTags hit).foldl extendHit b) = foundHit toLowerCase hit := by
    intro hit hHit
    have hSeverity : givenSeverity (some hit.severity) = hit.severity :=
      if_neg (hHits hit hHit).severity_ne
    have hRest : ∀ b : DetectionHit, (textTag "detail" hit.detail hit.severity).foldl extendHit b =
        b := by
      intro b
      unfold textTag
      split
      · rfl
      · rfl
    have hBegin : beginHit toLowerCase (labelTag hit) = if trimmed hit.label = "" then none
        else some ⟨trimmed hit.label, toLowerCase (trimmed (givenSeverity (some hit.severity))),
          ""⟩ := rfl
    rw [hBegin, hSeverity, foundHit]
    by_cases hLabel : trimmed hit.label = ""
    · rw [if_pos hLabel, if_pos hLabel]
      rfl
    · rw [if_neg hLabel, if_neg hLabel, Option.map_some, moreTags, List.foldl_cons, hRest]
      rfl
  rw [groups_filter hMark] at hGroups
  have hAll : (groups (fun tag : Sniff4Hound.PacketTag => decide (tag.key = "monitor")) tags).map
      (fun g => (beginHit toLowerCase g.1).map fun b => g.2.foldl extendHit b) =
        hits.map (foundHit toLowerCase) := by
    have hMapped := congrArg (List.map fun g : Sniff4Hound.PacketTag × List Sniff4Hound.PacketTag =>
      (beginHit toLowerCase g.1).map fun b => g.2.foldl extendHit b) hGroups
    rw [List.map_map, List.map_map] at hMapped
    simp only [Function.comp_def, foldl_extendHit_filter] at hMapped
    exact hMapped.trans (List.map_congr_left hFound)
  have hMerged := congrArg (List.filterMap id) hAll
  rw [List.filterMap_map, List.filterMap_map, Function.id_comp, Function.id_comp] at hMerged
  rw [extractMonitorHitsFromTags, collect_eq]
  exact hMerged

/-! ## Blanks -/

def Unmarked (s : String) : Prop :=
  s.toList.head? ≠ some '\uFEFF' ∧ s.toList.getLast? ≠ some '\uFEFF'

instance (s : String) : Decidable (Unmarked s) := inferInstanceAs (Decidable (_ ∧ _))

theorem dropWhile_eq_self {p : Char → Bool} {letters : List Char} :
    letters.dropWhile p = letters ↔ ∀ c ∈ letters.head?, p c = false := by
  cases letters with
  | nil => exact ⟨fun _ => nofun, fun _ => rfl⟩
  | cons c letters =>
    rw [List.dropWhile_cons]
    split
    · next hDropped =>
      constructor
      · intro hSame
        have hShort := (List.dropWhile_sublist p (l := letters)).length_le
        rw [hSame, List.length_cons] at hShort
        omega
      · intro hKept
        rw [hKept c rfl] at hDropped
        cases hDropped
    · next hKept => simpa using hKept

theorem trim_eq_self {p : Char → Bool} {letters : List Char} :
    ((letters.dropWhile p).reverse.dropWhile p).reverse = letters ↔
      (∀ c ∈ letters.head?, p c = false) ∧ ∀ c ∈ letters.getLast?, p c = false := by
  rw [← List.head?_reverse, ← dropWhile_eq_self, ← dropWhile_eq_self]
  constructor
  · intro hSame
    have hFront : letters.dropWhile p = letters := by
      refine (List.dropWhile_sublist p).eq_of_length_le ?_
      have hShort := (List.dropWhile_sublist p (l := (letters.dropWhile p).reverse)).length_le
      have hLength := congrArg List.length hSame
      rw [List.length_reverse] at hLength hShort
      rwa [hLength] at hShort
    refine ⟨hFront, ?_⟩
    rw [hFront] at hSame
    exact List.reverse_eq_iff.mp hSame
  · rintro ⟨hFront, hBack⟩
    rw [hFront, hBack, List.reverse_reverse]

theorem isTrimmed_cases {c : Char} (h : Realtime.ChannelState.isTrimmed c = true) :
    isSpace c = true ∨ c = '\uFEFF' := by
  by_cases hMark : c.toNat = 0xFEFF
  · exact Or.inr (Char.toNat_inj.mp hMark)
  · left
    simp only [Realtime.ChannelState.isTrimmed, Bool.or_eq_true, Bool.and_eq_true,
      decide_eq_true_eq, isSpace, beq_iff_eq] at h ⊢
    omega

theorem strip_eq_self_iff {s : String} : strip s = s ↔
    (∀ c ∈ s.toList.head?, isSpace c = false) ∧ ∀ c ∈ s.toList.getLast?, isSpace c = false := by
  rw [← trim_eq_self, ← String.toList_inj, strip, String.toList_ofList]

theorem trimmed_eq_self {s : String} (h : strip s = s) : trimmed s = s ↔ Unmarked s := by
  obtain ⟨hFirst, hLast⟩ := strip_eq_self_iff.mp h
  have hMark : Realtime.ChannelState.isTrimmed '\uFEFF' = true := by decide
  have hEnd : ∀ end? : Option Char, (∀ c ∈ end?, isSpace c = false) →
      ((∀ c ∈ end?, Realtime.ChannelState.isTrimmed c = false) ↔ end? ≠ some '\uFEFF') := by
    intro end? hVisible
    constructor
    · rintro hKept rfl
      rw [hKept _ rfl] at hMark
      cases hMark
    · intro hOther c hc
      refine Bool.eq_false_iff.mpr fun hTrimmed => ?_
      rcases isTrimmed_cases hTrimmed with hSpace | rfl
      · rw [hVisible c hc] at hSpace
        cases hSpace
      · exact hOther hc
  rw [trimmed, ← String.toList_inj, String.toList_ofList, Realtime.ChannelState.trim, trim_eq_self,
    hEnd _ hFirst, hEnd _ hLast, Unmarked]

theorem foundHit_iff {toLowerCase : String → String} (hBrowser : LeavesLowered rt toLowerCase)
    (h : Worded rt hit) : foundHit toLowerCase hit = some (detection hit) ↔
      Unmarked hit.label ∧ Unmarked hit.severity ∧ Unmarked hit.monitor_id := by
  have hCase : toLowerCase (trimmed hit.severity) = trimmed hit.severity := by
    obtain ⟨s, hLetters⟩ := h.lowered
    refine hBrowser s _ fun c hc => hLetters c ?_
    rw [trimmed, String.toList_ofList, Realtime.ChannelState.trim, List.mem_reverse] at hc
    have hMem := (List.dropWhile_sublist _).subset hc
    exact (List.dropWhile_sublist _).subset (List.mem_reverse.mp hMem)
  rw [← trimmed_eq_self h.label, ← trimmed_eq_self h.severity, ← trimmed_eq_self h.monitor_id,
    foundHit, hCase]
  constructor
  · intro hFound
    split at hFound
    · cases hFound
    · have hSame := Option.some.inj hFound
      exact ⟨congrArg DetectionHit.label hSame, congrArg DetectionHit.severity hSame,
        congrArg DetectionHit.monitorId hSame⟩
  · rintro ⟨hLabel, hSeverity, hId⟩
    rw [hLabel, hSeverity, hId, if_neg h.label_ne]
    rfl

theorem filterMap_eq_map {α β : Type} {f : α → Option β} {g : α → β} {l : List α} :
    l.filterMap f = l.map g ↔ ∀ a ∈ l, f a = some (g a) := by
  induction l with
  | nil => simp
  | cons a l ih =>
    rw [List.filterMap_cons, List.map_cons, List.forall_mem_cons, ← ih]
    cases hFirst : f a with
    | none =>
      constructor
      · intro hSame
        have hShort := List.length_filterMap_le f l
        have hLength := congrArg List.length hSame
        rw [List.length_cons, List.length_map] at hLength
        exact absurd (hLength ▸ hShort) (Nat.not_succ_le_self _)
      · rintro ⟨hSome, -⟩
        cases hSome
    | some b => simp

/-! ## Both readers -/

def Db.fed (rt : Runtime) (db : Db κ) (steps : List (FeedStep κ)) : Db κ :=
  steps.foldl (Db.feed rt) db

theorem filed_fed (steps : List (FeedStep κ)) (h : Filed db) : Filed (db.fed rt steps) := by
  induction steps generalizing db with
  | nil => exact h
  | cons step steps ih => exact ih (h.feed step)

theorem Shown.fed (rt : Runtime) {steps : List (FeedStep κ)}
    (hSpares : ∀ step ∈ steps, step.Spares packet_id) (h : Shown packet_id row tags db) :
    Shown packet_id row tags (db.fed rt steps) := by
  induction steps generalizing db with
  | nil => exact h
  | cons step steps ih =>
    exact ih (fun later hLater => hSpares later (List.mem_cons_of_mem _ hLater))
      (h.feed (hSpares step List.mem_cons_self))

theorem filed_empty : Filed (Db.empty : Db κ) := nofun

/-- A packet is registered with the tags of its hits, after any steps and before any that leave it
alone. Then the feed finds its hits and the frontend finds the same ones exactly when no label, no
severity and no id of a hit begins or ends with a byte order mark. -/
theorem readers_agree_iff (env : Env) (hLower : env.LowersText) {toLowerCase : String → String}
    (hBrowser : LeavesLowered env.toRuntime toLowerCase) {packet : Packet}
    {rule_hits : List RuleHit} {hits suppressed : List MonitorHit}
    (hHits : ∀ hit ∈ hits, Raised env hit) {w : PacketWrite κ}
    (hTags : w.tags = (build_packet_tags env.toRuntime packet rule_hits hits suppressed).map
      (storedTag env.toRuntime)) (before after : List (FeedStep κ)) :
    let db := Db.empty.fed env.toRuntime before
    let packet_id := db.packets.seq + 1
    (∀ step ∈ after, step.Spares packet_id) →
      (StoreFinds env.toRuntime packet_id w.packet hits ((db.land w).fed env.toRuntime after) ∧
          FrontendFinds toLowerCase
            (build_packet_tags env.toRuntime packet rule_hits hits suppressed) hits ↔
        ∀ hit ∈ hits, Unmarked hit.label ∧ Unmarked hit.severity ∧ Unmarked hit.monitor_id) := by
  intro db packet_id hSpares
  have hWorded : ∀ hit ∈ hits, Worded env.toRuntime hit := fun hit hHit =>
    (hHits hit hHit).worded hLower
  have hShown := ((filed_fed before filed_empty : Filed db).shown w).fed
    env.toRuntime hSpares
  have hStore : StoreFinds env.toRuntime packet_id w.packet hits
      ((db.land w).fed env.toRuntime after) :=
    hShown.finds hLower hWorded (groups_stored hWorded hTags packet_id)
  have hLabels : ∀ tags' : List Sniff4Hound.PacketTag,
      tags'.filter (fun tag => tag.key ≠ "review_label") =
        build_packet_tags env.toRuntime packet rule_hits hits suppressed →
      extractMonitorHitsFromTags toLowerCase tags' = hits.filterMap (foundHit toLowerCase) := by
    intro tags' hReviewed
    refine extract_eq hWorded ?_
    rw [← filter_build_packet_tags hWorded, ← hReviewed, List.filter_filter]
    refine List.filter_congr fun tag _ => ?_
    by_cases hKey : tag.key = "review_label"
    · simp [hKey, HIT_KEYS]
    · simp [hKey]
  have hOwn : (build_packet_tags env.toRuntime packet rule_hits hits suppressed).filter
      (fun tag => tag.key ≠ "review_label") =
        build_packet_tags env.toRuntime packet rule_hits hits suppressed := by
    have hNone : "review_label" ∉ TAG_KEYS := by decide
    refine List.filter_eq_self.mpr fun tag hTag => decide_eq_true fun hKey => hNone ?_
    rw [← hKey]
    exact key_mem hTag
  constructor
  · rintro ⟨-, hFrontend⟩ hit hHit
    have hSame := (hLabels _ hOwn).symm.trans (hFrontend _ hOwn)
    exact (foundHit_iff hBrowser (hWorded hit hHit)).mp (filterMap_eq_map.mp hSame hit hHit)
  · intro hPlain
    refine ⟨hStore, fun tags' hReviewed => ?_⟩
    rw [hLabels tags' hReviewed]
    exact filterMap_eq_map.mpr fun hit hHit =>
      (foundHit_iff hBrowser (hWorded hit hHit)).mpr (hPlain hit hHit)

/-! ## A mark in a name -/

def namedData (name : String) : List (String × Value) :=
  [("id", .str "sample"), ("name", .str name), ("match", .dict [("ports", .list [.int 80])])]

def namedHit (name : String) : MonitorHit :=
  ⟨"sample", name, "sample", name, "info", "port 80", 2⟩

def namedTags (name : String) : List Sniff4Hound.PacketTag :=
  build_packet_tags Runtime.ascii (fun _ => .null) [] [namedHit name] [namedHit name]

def namedWrite (name : String) : PacketWrite Unit :=
  ⟨0, "tcp:10.0.0.5:80", 60, 0, "", none, "open", "active", "[]",
    (namedTags name).map (storedTag Runtime.ascii), "", "", 0, ()⟩

theorem raised_beacon : Raised Env.ascii (namedHit "beacon") :=
  ⟨_, "port 80", 2, ⟨namedData "beacon", false, true, rfl⟩, by decide⟩

theorem raised_marked : Raised Env.ascii (namedHit "\uFEFFbeacon") :=
  ⟨_, "port 80", 2, ⟨namedData "\uFEFFbeacon", false, true, rfl⟩, by decide⟩

/-- A monitor may have a byte order mark in front of its name; the frontend shows the name without
it. -/
theorem marked_name_differs : ¬ ∀ (hits suppressed : List MonitorHit) (w : PacketWrite Unit)
    (before after : List (FeedStep Unit)), (∀ hit ∈ hits, Raised Env.ascii hit) →
      (∀ hit ∈ suppressed, Raised Env.ascii hit) →
      w.tags = (build_packet_tags Runtime.ascii (fun _ => .null) [] hits suppressed).map
        (storedTag Runtime.ascii) →
      (∀ step ∈ after, step.Spares ((Db.empty.fed Runtime.ascii before).packets.seq + 1)) →
      StoreFinds Runtime.ascii ((Db.empty.fed Runtime.ascii before).packets.seq + 1) w.packet hits
          (((Db.empty.fed Runtime.ascii before).land w).fed Runtime.ascii after) ∧
        FrontendFinds Runtime.ascii.lower
          (build_packet_tags Runtime.ascii (fun _ => .null) [] hits suppressed) hits := by
  intro hAll
  have hRaised : ∀ hit ∈ [namedHit "\uFEFFbeacon"], Raised Env.ascii hit :=
    List.forall_mem_singleton.mpr raised_marked
  obtain ⟨-, hFrontend⟩ := hAll [namedHit "\uFEFFbeacon"] [namedHit "\uFEFFbeacon"]
    (namedWrite "\uFEFFbeacon") [] [] hRaised hRaised rfl nofun
  have hShown : extractMonitorHitsFromTags Runtime.ascii.lower (namedTags "\uFEFFbeacon") =
      [⟨"beacon", "info", "sample"⟩] := by decide
  have hSame := hShown.symm.trans (hFrontend (namedTags "\uFEFFbeacon") (by decide))
  exact absurd hSame (by decide)

/-- Without the mark both find the hit, also after a review and another packet. -/
theorem readers_agree_beacon :
    StoreFinds Runtime.ascii 2 () [namedHit "beacon"]
        (((Db.empty.fed Runtime.ascii [.register (namedWrite "beacon")]).land
          (namedWrite "beacon")).fed Runtime.ascii
            [.review 2 "malicious", .register (namedWrite "beacon"), .delete (· ≠ 1)
              fun tag => tag.2.packet_id ≠ 1]) ∧
      FrontendFinds Runtime.ascii.lower (namedTags "beacon") [namedHit "beacon"] := by
  have hTags : (namedWrite "beacon").tags = (build_packet_tags Env.ascii.toRuntime (fun _ => .null)
      [] [namedHit "beacon"] [namedHit "beacon"]).map (storedTag Env.ascii.toRuntime) := rfl
  refine (readers_agree_iff Env.ascii Runtime.lowersText_ascii Runtime.lowersText_ascii.settled
    (List.forall_mem_singleton.mpr raised_beacon) hTags
    [.register (namedWrite "beacon")] _ ?_).mpr ?_
  · intro step hStep
    simp only [List.mem_cons, List.not_mem_nil, or_false] at hStep
    rcases hStep with rfl | rfl | rfl
    · trivial
    · trivial
    · refine ⟨by decide, fun tag hTag => ?_⟩
      show decide (tag.2.packet_id ≠ 1) = true
      rw [hTag]
      decide
  · intro hit hHit
    rw [List.mem_singleton.mp hHit]
    decide

end Sniff4Hound.Store
