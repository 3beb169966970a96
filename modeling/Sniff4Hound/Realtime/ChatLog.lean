import Mathlib.Data.List.Nodup
import Sniff4Hound.Library.JoinedText
import Sniff4Hound.Text.Value

/-!
# The chat log

A message takes its id from the length of the log, and the log keeps the newest 500 messages, so
that beyond those every message is the 501st. Up to 501 messages the ids are distinct, from 502 on
never (`ids_distinct_iff`).
-/

namespace Sniff4Hound.Realtime

/-- An entry of `_CHAT_MESSAGES`. -/
structure ChatMessage where
  id : String
  author : String
  kind : String
  content : String
  /-- the `meta` entry -/
  details : List (String × Value)
  created_at : String

/-- The arguments of `append_chat_message`; `meta` may be `None`. -/
structure ChatEntry where
  content : String
  author : String
  kind : String
  details : Option (List (String × Value))
  broadcast : Bool

/-- `_CHAT_MESSAGES`, what the hub was given to send and what was echoed onto the console. -/
structure Chat where
  messages : List ChatMessage
  sent : List ChatMessage
  console : List String

def CHAT_LIMIT : Nat := 500

def chatId (held : Nat) : String := "chat-" ++ toString (held + 1)

/-- The message that `append_chat_message` makes at the time `now`. -/
def newMessage (messages : List ChatMessage) (entry : ChatEntry) (now : String) : ChatMessage where
  id := chatId messages.length
  author := if entry.author = "" then "operator" else entry.author
  kind := if entry.kind = "" then "note" else entry.kind
  content := strip entry.content
  details := entry.details.getD []
  created_at := now

/-- `del _CHAT_MESSAGES[:-500]` when there are more. -/
def trimChat (messages : List ChatMessage) : List ChatMessage :=
  if messages.length > CHAT_LIMIT then messages.drop (messages.length - CHAT_LIMIT) else messages

/-- `append_chat_message`. A message without content is returned and nothing else happens. -/
def append_chat_message (chat : Chat) (entry : ChatEntry) (now : String) : ChatMessage × Chat :=
  let message := newMessage chat.messages entry now
  if message.content = "" then (message, chat)
  else
    (message, {
      messages := trimChat (chat.messages ++ [message])
      sent := if entry.broadcast then chat.sent ++ [message] else chat.sent
      console :=
        if message.author = "operator" then chat.console
        else chat.console ++ ["[chat] " ++ message.author ++ ": " ++ message.content] })

/-- What is done with the log: an append at some time, or `_CHAT_MESSAGES.clear()`. -/
inductive ChatOp where
  | append (entry : ChatEntry) (now : String)
  | clear

def Chat.apply (chat : Chat) : ChatOp → Chat
  | .append entry now => (append_chat_message chat entry now).2
  | .clear => { chat with messages := [] }

def chatAfter (ops : List ChatOp) : Chat := ops.foldl Chat.apply ⟨[], [], []⟩

def countOp (count : Nat) : ChatOp → Nat
  | .append entry _ => if strip entry.content = "" then count else count + 1
  | .clear => 0

def appended (ops : List ChatOp) : Nat := ops.foldl countOp 0

/-! ## The ids -/

/-- The ids that are in the log behind `n` messages. -/
def idsHeld (n : Nat) : List String :=
  ((List.range n).map fun i => chatId (min i CHAT_LIMIT)).drop (n - CHAT_LIMIT)

theorem length_idsHeld (n : Nat) : (idsHeld n).length = min n CHAT_LIMIT := by
  rw [idsHeld, List.length_drop, List.length_map, List.length_range]
  omega

theorem idsHeld_succ (n : Nat) :
    idsHeld (n + 1) = ((idsHeld n) ++ [chatId (min n CHAT_LIMIT)]).drop
    (min n CHAT_LIMIT + 1 - CHAT_LIMIT) := by
  unfold idsHeld
  rw [List.range_succ, List.map_append, List.map_singleton]
  rcases Nat.lt_or_ge n CHAT_LIMIT with hFew | hMany
  · rw [Nat.min_eq_left hFew.le, Nat.sub_eq_zero_of_le hFew, Nat.sub_eq_zero_of_le hFew.le,
      List.drop_zero, List.drop_zero, List.drop_zero]
  · have hDrop : n + 1 - CHAT_LIMIT = (n - CHAT_LIMIT) + 1 := by omega
    have hOne : CHAT_LIMIT + 1 - CHAT_LIMIT = 1 := by omega
    rw [Nat.min_eq_right hMany, hOne, hDrop, ← List.drop_drop, List.drop_append_of_le_length]
    rw [List.length_map, List.length_range]
    exact Nat.sub_le n CHAT_LIMIT

theorem ids_trimChat (messages : List ChatMessage) :
    (trimChat messages).map ChatMessage.id =
      (messages.map ChatMessage.id).drop (messages.length - CHAT_LIMIT) := by
  rw [trimChat]
  split
  · rw [List.map_drop]
  · next hFew => rw [Nat.sub_eq_zero_of_le (Nat.not_lt.mp hFew), List.drop_zero]

theorem ids_apply {chat : Chat} {n : Nat} (h : chat.messages.map ChatMessage.id = idsHeld n)
    (op : ChatOp) : (chat.apply op).messages.map ChatMessage.id = idsHeld (countOp n op) := by
  have hLength : chat.messages.length = min n CHAT_LIMIT := by
    rw [← length_idsHeld, ← h, List.length_map]
  cases op with
  | clear =>
    rw [countOp, idsHeld, Nat.zero_sub, List.drop_zero]
    rfl
  | append entry now =>
    have hContent : (newMessage chat.messages entry now).content = strip entry.content := rfl
    rw [Chat.apply, append_chat_message, countOp, hContent]
    by_cases hBlank : strip entry.content = ""
    · rw [if_pos hBlank, if_pos hBlank]
      exact h
    · rw [if_neg hBlank, if_neg hBlank, idsHeld_succ]
      dsimp only
      rw [ids_trimChat, List.map_append, h, List.length_append, hLength, List.map_singleton]
      dsimp only [newMessage, List.length_singleton]
      rw [hLength]

theorem ids_chatAfter (ops : List ChatOp) :
    (chatAfter ops).messages.map ChatMessage.id = idsHeld (appended ops) := by
  suffices hFrom : ∀ (chat : Chat) n, chat.messages.map ChatMessage.id = idsHeld n →
      (ops.foldl Chat.apply chat).messages.map ChatMessage.id = idsHeld (ops.foldl countOp n) from
    hFrom ⟨[], [], []⟩ 0 rfl
  induction ops with
  | nil => exact fun chat n h => h
  | cons op ops ih => exact fun chat n h => ih _ _ (ids_apply h op)

theorem chatId_inj {n m : Nat} (h : chatId n = chatId m) : n = m := by
  have hChars := congrArg String.toList h
  rw [chatId, chatId, String.toList_append, String.toList_append] at hChars
  have hDigits : Nat.toDigits 10 (n + 1) = Nat.toDigits 10 (m + 1) :=
    String.ofList_injective (String.toList_inj.mp (List.append_cancel_left hChars))
  exact Nat.succ.inj (toDigits_inj (by decide : 1 < 10) (by decide) hDigits)

theorem nodup_idsHeld_iff (n : Nat) : (idsHeld n).Nodup ↔ n ≤ CHAT_LIMIT + 1 := by
  constructor
  · intro hNodup
    by_contra hMany
    obtain ⟨k, rfl⟩ : ∃ k, n = k + 2 := ⟨n - 2, by simp only [CHAT_LIMIT] at hMany; omega⟩
    have hLate : CHAT_LIMIT ≤ k := by omega
    rw [idsHeld, List.range_succ, List.range_succ, List.map_append, List.map_append,
      List.append_assoc, List.drop_append_of_le_length
        (by simp; simp only [CHAT_LIMIT]; omega)] at hNodup
    obtain ⟨-, hTwo, -⟩ := List.nodup_append.mp hNodup
    rw [List.map_singleton, List.map_singleton, List.singleton_append, List.nodup_cons,
      Nat.min_eq_right hLate, Nat.min_eq_right (hLate.trans (Nat.le_succ k))] at hTwo
    exact hTwo.1 (List.mem_singleton.mpr rfl)
  · intro hFew
    refine List.Nodup.sublist (List.drop_sublist _ _) ?_
    refine List.Nodup.map_on (fun i hi j hj hSame => ?_) List.nodup_range
    rw [List.mem_range] at hi hj
    have hMin := chatId_inj hSame
    omega

/-- The ids in the log are distinct exactly while at most 501 messages came since it was cleared. -/
theorem ids_distinct_iff (ops : List ChatOp) :
    ((chatAfter ops).messages.map ChatMessage.id).Nodup ↔ appended ops ≤ CHAT_LIMIT + 1 := by
  rw [ids_chatAfter]
  exact nodup_idsHeld_iff (appended ops)

def manyNotes : List ChatOp :=
  List.replicate 502 (.append ⟨"scan done", "operator", "note", none, false⟩ "2026-01-01T00:00:00Z")

theorem many_notes_share_ids :
    ¬∀ ops : List ChatOp, ((chatAfter ops).messages.map ChatMessage.id).Nodup := by
  intro hDistinct
  have hNodup := hDistinct manyNotes
  have hCount : ∀ n count, (List.replicate n (ChatOp.append
    ⟨"scan done", "operator", "note", none, false⟩
      "2026-01-01T00:00:00Z")).foldl countOp count = count + n := by
    intro n
    induction n with
    | zero => exact fun count => rfl
    | succ n ih =>
      intro count
      rw [List.replicate_succ, List.foldl_cons, ih, countOp, if_neg (by decide)]
      omega
  rw [ids_chatAfter, nodup_idsHeld_iff, appended, manyNotes, hCount] at hNodup
  exact absurd hNodup (by decide)

end Sniff4Hound.Realtime
