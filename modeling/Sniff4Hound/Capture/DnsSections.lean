import Sniff4Hound.Capture.DnsNames

/-!
# The answers of a DNS message

`parse_dns_message` reads questions and answers with one offset, and at most 32 of each. A message
is well formed here when its counts tell how many questions and records follow the header, all of
them inside the payload, with names that `_read_dns_name` reads whole.

The answers are then the records of the answer section, as long as the questions were all read.
The 33rd question stops the first loop, but not the message: the second loop reads it as an answer.

* `answers_exact_iff`: that is, when there are at most 32 questions, or no answers.
-/

namespace Sniff4Hound

/-! ## Well-formed messages -/

/-- A name within the limits of `_read_dns_name`, with the message going on at `next`. -/
def NameWithin (payload : Bytes) (offset : Nat) (labels : List Bytes) (next : Nat) : Prop :=
  ∃ pointers, NameAt payload offset labels pointers next ∧ pointers ≤ 20 ∧ labels.length ≤ 128

inductive QuestionsAt (payload : Bytes) : Nat → Nat → Nat → Prop
  | nil {offset : Nat} : QuestionsAt payload offset 0 offset
  | cons {offset next count stop : Nat} {labels : List Bytes}
      (hName : NameWithin payload offset labels next) (hInside : next + 4 ≤ payload.length)
      (hRest : QuestionsAt payload (next + 4) count stop) :
      QuestionsAt payload offset (count + 1) stop

structure DnsRecord where
  offset : Nat
  labels : List Bytes
  rtype : Nat
  ttl : Nat

/-- Where the record whose name ends at `next` ends. -/
def recordEnd (payload : Bytes) (next : Nat) : Nat :=
  next + 10 + payload.num (next + 8) (next + 10)

inductive RecordsAt (payload : Bytes) : Nat → List DnsRecord → Nat → Prop
  | nil {offset : Nat} : RecordsAt payload offset [] offset
  | cons {offset next stop : Nat} {labels : List Bytes} {records : List DnsRecord}
      (hName : NameWithin payload offset labels next)
      (hInside : recordEnd payload next ≤ payload.length)
      (hRest : RecordsAt payload (recordEnd payload next) records stop) :
      RecordsAt payload offset
        (⟨offset, labels, payload.num next (next + 2), payload.num (next + 4) (next + 8)⟩ ::
          records) stop

def qdcount (payload : Bytes) : Nat := payload.num 4 6

def ancount (payload : Bytes) : Nat := payload.num 6 8

structure WellFormedMessage (payload : Bytes) (records : List DnsRecord) : Prop where
  header : 12 ≤ payload.length
  sections : ∃ middle stop, QuestionsAt payload 12 (qdcount payload) middle ∧
    RecordsAt payload middle records stop
  counted : records.length = ancount payload

/-! ## Where answers are read -/

def answerOffsets (rt : Runtime) (payload : Bytes) : Nat → Nat → List Nat
  | 0, _ => []
  | count + 1, offset =>
    if payload.length ≤ offset then []
    else
      let next := (read_dns_name rt payload offset).2
      if payload.length < next + 10 then []
      else offset :: answerOffsets rt payload count (recordEnd payload next)

def answerAt (rt : Runtime) (payload : Bytes) (offset : Nat) : DnsAnswer :=
  let (name, next) := read_dns_name rt payload offset
  let rtype := payload.num next (next + 2)
  let start := next + 10
  let rdlength := payload.num (next + 8) (next + 10)
  let rdata : Bytes := if start + rdlength ≤ payload.length then
    payload.slice start (start + rdlength) else []
  ⟨name, rtype, payload.num (next + 4) (next + 8),
    dns_rdata_preview rt rtype rdata payload start⟩

/-- The offsets of the answers of `parse_dns_message`. -/
def messageOffsets (rt : Runtime) (payload : Bytes) : List Nat :=
  if payload.length < 12 then []
  else answerOffsets rt payload (min (ancount payload) 32)
    (readQuestions rt payload (min (qdcount payload) 32) 12).2

variable {rt : Runtime} {payload : Bytes} {records : List DnsRecord} {labels : List Bytes}
variable {offset next middle stop count : Nat}

theorem readAnswers_eq :
    readAnswers rt payload count offset =
      (answerOffsets rt payload count offset).map (answerAt rt payload) := by
  induction count generalizing offset with
  | zero => rfl
  | succ count ih =>
    rw [readAnswers, answerOffsets]
    split
    · rfl
    · dsimp only
      split
      · rfl
      · rw [List.map_cons, ← ih]
        rfl

theorem answers_eq :
    (parse_dns_message rt payload).answers =
      (messageOffsets rt payload).map (answerAt rt payload) := by
  rw [parse_dns_message, messageOffsets]
  split
  · rfl
  · exact readAnswers_eq

/-! ## The sections of a well-formed message -/

theorem NameWithin.read (h : NameWithin payload offset labels next) :
    read_dns_name rt payload offset = (nameText rt labels, next) := by
  obtain ⟨pointers, hName, hPointers, hLabels⟩ := h
  exact hName.read rt hLabels hPointers

theorem NameWithin.bounds (h : NameWithin payload offset labels next) :
    offset < payload.length ∧ offset < next ∧ next ≤ payload.length := by
  obtain ⟨_, hName, -, -⟩ := h
  exact ⟨hName.inside, hName.after_bounds.1, hName.after_bounds.2⟩

theorem QuestionsAt.le (h : QuestionsAt payload offset count stop) : offset ≤ stop := by
  induction h with
  | nil => exact Nat.le_refl _
  | cons hName _ _ ih =>
    obtain ⟨-, hNext, -⟩ := hName.bounds
    omega

theorem RecordsAt.le_offset (h : RecordsAt payload offset records stop) :
    ∀ record ∈ records, offset ≤ record.offset := by
  induction h with
  | nil => nofun
  | cons hName _ _ ih =>
    intro record hRecord
    rcases List.mem_cons.mp hRecord with rfl | hRest
    · exact Nat.le_refl _
    · obtain ⟨-, hNext, -⟩ := hName.bounds
      have hLater := ih record hRest
      rw [recordEnd] at hLater
      omega

theorem QuestionsAt.read (h : QuestionsAt payload offset count stop) :
    (readQuestions rt payload count offset).2 = stop := by
  induction h with
  | nil => rfl
  | cons hName hInside _ ih =>
    rw [readQuestions, if_neg (Nat.not_le.mpr hName.bounds.1), hName.read]
    dsimp only
    rw [if_neg (Nat.not_lt.mpr hInside)]
    exact ih

theorem QuestionsAt.read_some {rest : Nat} (h : QuestionsAt payload offset (count + rest) stop) :
    ∃ middle, QuestionsAt payload offset count middle ∧ QuestionsAt payload middle rest stop := by
  induction count generalizing offset with
  | zero =>
    rw [Nat.zero_add] at h
    exact ⟨offset, .nil, h⟩
  | succ count ih =>
    rw [Nat.succ_add] at h
    cases h with
    | cons hName hInside hRest =>
      obtain ⟨middle, hFront, hBack⟩ := ih hRest
      exact ⟨middle, .cons hName hInside hFront, hBack⟩

theorem RecordsAt.offsets (h : RecordsAt payload offset records stop)
    (hCount : count ≤ records.length) :
    answerOffsets rt payload count offset = (records.take count).map DnsRecord.offset := by
  induction h generalizing count with
  | nil =>
    obtain rfl := Nat.le_zero.mp hCount
    rfl
  | @cons offset next stop labels records hName hInside _ ih =>
    cases count with
    | zero => rfl
    | succ count =>
      rw [recordEnd] at hInside
      rw [answerOffsets, if_neg (Nat.not_le.mpr hName.bounds.1), hName.read]
      dsimp only
      rw [if_neg (by omega), ih (Nat.le_of_succ_le_succ hCount), List.take_succ_cons,
        List.map_cons]

theorem RecordsAt.answerAt (rt : Runtime) (h : RecordsAt payload offset records stop) :
    ∀ record ∈ records, (answerAt rt payload record.offset).name = nameText rt record.labels ∧
      (answerAt rt payload record.offset).qtype = record.rtype ∧
      (answerAt rt payload record.offset).ttl = record.ttl := by
  induction h with
  | nil => nofun
  | cons hName _ _ ih =>
    intro record hRecord
    rcases List.mem_cons.mp hRecord with rfl | hRest
    · rw [Sniff4Hound.answerAt, hName.read]
      exact ⟨rfl, rfl, rfl⟩
    · exact ih record hRest

/-! ## The answers that are reported -/

/-- The parser stands where the records stand, up to 32, and answers with what they say. -/
structure AnswersExact (rt : Runtime) (payload : Bytes) (records : List DnsRecord) : Prop where
  offsets : messageOffsets rt payload =
    (records.take (min (ancount payload) 32)).map DnsRecord.offset
  answers : (parse_dns_message rt payload).answers.map (fun answer =>
      (answer.name, answer.qtype, answer.ttl)) =
    (records.take (min (ancount payload) 32)).map fun record =>
      (nameText rt record.labels, record.rtype, record.ttl)

theorem answersExact_of_offsets (hRecords : RecordsAt payload middle records stop)
    (h : messageOffsets rt payload =
      (records.take (min (ancount payload) 32)).map DnsRecord.offset) :
    AnswersExact rt payload records := by
  refine ⟨h, ?_⟩
  rw [answers_eq, h, List.map_map, List.map_map]
  apply List.map_congr_left
  intro record hRecord
  obtain ⟨hName, hType, hTtl⟩ :=
    hRecords.answerAt rt record (List.mem_of_mem_take hRecord)
  exact congrArg₂ Prod.mk hName (congrArg₂ Prod.mk hType hTtl)

theorem question_as_answer (rt : Runtime) (hSome : 0 < ancount payload)
    (h : WellFormedMessage payload records) (hMany : 32 < qdcount payload) :
    ∃ question rest, messageOffsets rt payload = question :: rest ∧
      ∀ record ∈ records, question < record.offset := by
  obtain ⟨hHeader, ⟨middle, stop, hQuestions, hRecords⟩, hCounted⟩ := h
  obtain ⟨rest, hRest⟩ : ∃ rest, qdcount payload = 32 + (rest + 1) :=
    ⟨qdcount payload - 33, by omega⟩
  have hRead := hRest ▸ hQuestions
  obtain ⟨question, hFront, hBack⟩ := hRead.read_some
  cases hBack with
  | @cons _ next _ _ _ hName hInside hLater =>
    have hMiddle := hLater.le
    obtain ⟨-, hNext, -⟩ := hName.bounds
    -- the first record lies behind the question, so that its bytes are there to be read
    have hRoom : next + 10 ≤ payload.length := by
      cases hRecords with
      | nil => exact absurd hCounted hSome.ne
      | cons hFirst hEnd _ =>
        obtain ⟨-, hBehind, -⟩ := hFirst.bounds
        rw [recordEnd] at hEnd
        omega
    obtain ⟨count, hCount⟩ : ∃ count, min (ancount payload) 32 = count + 1 :=
      ⟨min (ancount payload) 32 - 1, by omega⟩
    refine ⟨question, answerOffsets rt payload count (recordEnd payload next), ?_, ?_⟩
    · rw [messageOffsets, if_neg (Nat.not_lt.mpr hHeader), Nat.min_eq_right hMany.le,
        hFront.read, hCount, answerOffsets, if_neg (Nat.not_le.mpr hName.bounds.1), hName.read]
      dsimp only
      rw [if_neg (Nat.not_lt.mpr hRoom)]
    · intro record hRecord
      have hBehind := hRecords.le_offset record hRecord
      omega

/-- The answers of a well-formed message are its records exactly when there are no more than 32
questions, or no answers that could be missed. -/
theorem answers_exact_iff (rt : Runtime) (payload : Bytes) (records : List DnsRecord)
    (h : WellFormedMessage payload records) :
    AnswersExact rt payload records ↔ qdcount payload ≤ 32 ∨ ancount payload = 0 := by
  constructor
  · intro hExact
    by_contra hCondition
    rw [not_or, Nat.not_le] at hCondition
    obtain ⟨question, rest, hFirst, hBefore⟩ :=
      question_as_answer rt (Nat.pos_of_ne_zero hCondition.2) h hCondition.1
    have hMem : question ∈ (records.take (min (ancount payload) 32)).map DnsRecord.offset := by
      rw [← hExact.offsets, hFirst]
      exact List.mem_cons_self
    obtain ⟨record, hRecord, hSame⟩ := List.mem_map.mp hMem
    exact (hBefore record (List.mem_of_mem_take hRecord)).ne' hSame
  · intro hCondition
    obtain ⟨hHeader, ⟨middle, stop, hQuestions, hRecords⟩, hCounted⟩ := h
    apply answersExact_of_offsets hRecords
    rw [messageOffsets, if_neg (Nat.not_lt.mpr hHeader)]
    rcases hCondition with hFew | hNone
    · rw [Nat.min_eq_left hFew, hQuestions.read]
      exact hRecords.offsets (hCounted ▸ Nat.min_le_left _ _)
    · rw [hNone, Nat.zero_min]
      rfl

/-! ## Messages with many questions -/

/-- A response with `count` questions for the root and one answer. -/
def rootMessage (count : UInt8) : Bytes :=
  [0, 0, 0x80, 0, 0, count, 0, 1, 0, 0, 0, 0] ++
    (List.replicate count.toNat [0, 0, 1, 0, 1]).flatten ++
    [0, 0, 1, 0, 1, 0, 0, 0, 60, 0, 4, 192, 0, 2, 1]

/-- The answer of `rootMessage`, behind the questions. -/
def rootRecord (offset : Nat) : DnsRecord := ⟨offset, [], 1, 60⟩

theorem root_name (hInside : offset < payload.length) (hZero : payload.byte offset = 0) :
    NameWithin payload offset [] (offset + 1) :=
  ⟨0, .root hInside hZero, Nat.zero_le _, Nat.zero_le _⟩

theorem root_questions (hInside : offset + 5 * count ≤ payload.length)
    (hZero : ∀ i < count, payload.byte (offset + 5 * i) = 0) :
    QuestionsAt payload offset count (offset + 5 * count) := by
  induction count generalizing offset with
  | zero => exact .nil
  | succ count ih =>
    have hRest : QuestionsAt payload (offset + 5) count (offset + 5 + 5 * count) := by
      apply ih
      · omega
      · intro i hi
        have hNext := hZero (i + 1) (Nat.succ_lt_succ hi)
        rwa [Nat.mul_succ, Nat.add_comm (5 * i), ← Nat.add_assoc] at hNext
    rw [show offset + 5 * (count + 1) = offset + 5 + 5 * count by omega]
    exact .cons (root_name (by omega) (hZero 0 (Nat.zero_lt_succ _))) (by omega) hRest

theorem root_record (hInside : stop ≤ payload.length) (hOffset : offset < stop)
    (hZero : payload.byte offset = 0) (hType : payload.num (offset + 1) (offset + 3) = 1)
    (hTtl : payload.num (offset + 5) (offset + 9) = 60)
    (hEnd : recordEnd payload (offset + 1) = stop) :
    RecordsAt payload offset [rootRecord offset] stop := by
  have hNil : RecordsAt payload (recordEnd payload (offset + 1)) [] stop := hEnd ▸ .nil
  have hRecord := RecordsAt.cons (root_name (hOffset.trans_le hInside) hZero)
    (hEnd.trans_le hInside) hNil
  rw [hType, hTtl] at hRecord
  exact hRecord

theorem answers_exact_small : AnswersExact .ascii (rootMessage 1) [rootRecord 17] := by
  have hQuestions : QuestionsAt (rootMessage 1) 12 1 (12 + 5 * 1) :=
    root_questions (by decide) (by decide)
  have hRecords : RecordsAt (rootMessage 1) 17 [rootRecord 17] 32 :=
    root_record (by decide) (by decide) (by decide) (by decide) (by decide) (by decide)
  exact (answers_exact_iff .ascii (rootMessage 1) [rootRecord 17]
    ⟨by decide, ⟨_, _, hQuestions, hRecords⟩, rfl⟩).mpr (.inl (by decide))

theorem rootMessage_wellFormed : WellFormedMessage (rootMessage 33) [rootRecord 177] := by
  have hQuestions : QuestionsAt (rootMessage 33) 12 33 (12 + 5 * 33) :=
    root_questions (by decide +kernel) (by decide +kernel)
  have hRecords : RecordsAt (rootMessage 33) 177 [rootRecord 177] 192 :=
    root_record (by decide +kernel) (by decide) (by decide +kernel) (by decide +kernel)
      (by decide +kernel) (by decide +kernel)
  have hCount : qdcount (rootMessage 33) = 33 := by decide +kernel
  exact ⟨by decide +kernel, ⟨_, _, hCount ▸ hQuestions, hRecords⟩, by decide +kernel⟩

/-- The last of 33 questions is reported as the answer. -/
theorem last_question_answered : ¬∀ (rt : Runtime) (payload : Bytes) (records : List DnsRecord),
    WellFormedMessage payload records → AnswersExact rt payload records := by
  intro h
  have hExact := h .ascii _ _ rootMessage_wellFormed
  obtain ⟨question, rest, hFirst, hBefore⟩ :=
    question_as_answer .ascii (by decide +kernel) rootMessage_wellFormed (by decide +kernel)
  have hOffsets : question :: rest = [177] := hFirst.symm.trans hExact.offsets
  have hBehind := hBefore _ List.mem_cons_self
  rw [(List.cons.inj hOffsets).1] at hBehind
  exact Nat.lt_irrefl _ hBehind

end Sniff4Hound
