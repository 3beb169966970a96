import Sniff4Hound.Honeypot.ServiceContract

/-!
# The answers to a query for names

The reply repeats the questions behind its header, and every answer points back to the name of its
question by the offset the name has in the query. The questions stand at the same places in both, so
that a pointer is right as long as it has room for the offset. It has 14 bits: over TCP a question
may stand further behind, and the answer then points to what is at the offset modulo 2^14. Nor does
anything keep the reply below the 65535 bytes of its length prefix (`replies_iff`). The query
alone decides where all names start in front of that offset (`replies_iff_room`).
-/

namespace Sniff4Hound.Honeypot

inductive PlainName (packet : Bytes) : Nat → Nat → Prop
  | root {idx : Nat} (inside : idx < packet.length) (zero : packet.byte idx = 0) :
      PlainName packet idx (idx + 1)
  | label {idx stop : Nat} (some : 0 < packet.byte idx) (short : packet.byte idx ≤ 63)
      (rest : PlainName packet (idx + 1 + packet.byte idx) stop) : PlainName packet idx stop

/-- No name of a question is reached through a pointer. -/
def Uncompressed (query : Bytes) : Prop :=
  ∀ question ∈ parse_dns_questions query, ∃ stop, PlainName query question.name_offset stop

def questionSection (query : Bytes) : Bytes :=
  ((parse_dns_questions query).map DnsQuestion.wire).flatten

/-- What is demanded of the reply: the id, the counts, the questions, an answer to every question
whose name reads as its domain, and room in the length prefix. -/
structure Answered (query response : Bytes) (questions answers : List Bytes) : Prop where
  id : response.take 2 = query.take 2
  asked : response.num 4 6 = questions.length
  answered : response.num 6 8 = answers.length
  layout : response.drop 12 = questions.flatten ++ answers.flatten
  records : ∀ answer ∈ answers, ∃ name address : Bytes, name.length = 2 ∧ address.length = 4 ∧
    answer = name ++ [0, 1, 0, 1] ++ [0, 0, 0, 60] ++ [0, 4] ++ address
  names : (List.range answers.length).map (fun i =>
      (decode_dns_name response (12 + questions.flatten.length +
        (answers.take i).flatten.length)).map Prod.fst) =
      (parse_dns_questions query).map fun question => some question.domain
  fits : response.length ≤ 65535

/-- `_build_dns_response` returns such a reply to the parsed questions. -/
def Replies (inet_aton : String → Option Bytes) (query : Bytes) (response_ip : String) : Prop :=
  ∃ response answers, build_dns_response inet_aton query response_ip =
      .ok (response, parse_dns_questions query) ∧
    Answered query response ((parse_dns_questions query).map DnsQuestion.wire) answers

/-! ## Names without pointers -/

section Names

variable {packet packet' : Bytes} {idx stop : Nat}

theorem PlainName.lt (h : PlainName packet idx stop) : idx < stop ∧ stop ≤ packet.length := by
  induction h with
  | root inside zero => exact ⟨Nat.lt_succ_self _, inside⟩
  | label some short rest ih => exact ⟨by omega, ih.2⟩

theorem no_pointer {length : Nat} (h : length ≤ 63) : length &&& 0xC0 ≠ 0xC0 := by
  have hAll : ∀ n < 64, n &&& 0xC0 ≠ 0xC0 := by decide
  exact hAll length (by omega)

theorem PlainName.decode (h : PlainName packet idx stop) :
    ∃ names : List String, ∀ packet' : Bytes,
      (∀ k, idx ≤ k → k < stop → packet'[k]? = packet[k]?) →
      ∀ labels next_idx jumped jumps, decodeNameFrom packet' labels idx next_idx jumped jumps =
        some (labels ++ names, if jumped then next_idx else stop) := by
  have hByte : ∀ {packet' : Bytes} {k : Nat}, packet'[k]? = packet[k]? →
      packet'.byte k = packet.byte k := by
    intro packet' k hSame
    rw [Bytes.byte, Bytes.byte, List.getD_eq_getElem?_getD, List.getD_eq_getElem?_getD, hSame]
  have hInside : ∀ {packet' : Bytes} {k : Nat}, packet'[k]? = packet[k]? → k < packet.length →
      k < packet'.length := by
    intro packet' k hSame hIn
    rw [List.getElem?_eq_getElem hIn] at hSame
    exact (List.getElem?_eq_some_iff.mp hSame).1
  induction h with
  | @root idx inside zero =>
    refine ⟨[], fun packet' hSame labels next_idx jumped jumps => ?_⟩
    have hHere := hSame idx le_rfl (Nat.lt_succ_self idx)
    rw [decodeNameFrom, dif_pos (hInside hHere inside), hByte hHere, if_pos zero,
      List.append_nil]
  | @label idx stop some short rest ih =>
    obtain ⟨names, hNames⟩ := ih
    refine ⟨(packet.slice (idx + 1) (idx + 1 + packet.byte idx)).utf8Replace :: names,
      fun packet' hSame labels next_idx jumped jumps => ?_⟩
    obtain ⟨hBefore, hStop⟩ := rest.lt
    have hHere := hSame idx le_rfl (by omega)
    have hRest := hSame (idx + 1 + packet.byte idx) (by omega) hBefore
    have hLabel : packet'.slice (idx + 1) (idx + 1 + packet.byte idx) =
        packet.slice (idx + 1) (idx + 1 + packet.byte idx) := by
      refine List.ext_getElem? fun k => ?_
      rw [Bytes.slice, Bytes.slice, List.getElem?_take, List.getElem?_take, List.getElem?_drop,
        List.getElem?_drop]
      split
      · exact hSame _ (by omega) (by omega)
      · rfl
    have hEnough := hInside hRest (hBefore.trans_le hStop)
    rw [decodeNameFrom, dif_pos (hInside hHere (by omega)), hByte hHere, if_neg (by omega),
      if_neg (no_pointer short), if_neg (Nat.not_lt.mpr short),
      if_neg (Nat.not_lt.mpr hEnough.le), hLabel, hNames packet' (fun k hk => hSame k (by omega)),
      List.append_assoc, List.singleton_append]

end Names

/-! ## Where the questions stand -/

theorem questionsFrom_section (query : Bytes) (rounds idx : Nat) : ∃ rest,
    query.drop idx = ((questionsFrom query rounds idx).map DnsQuestion.wire).flatten ++ rest := by
  induction rounds generalizing idx with
  | zero => exact ⟨query.drop idx, rfl⟩
  | succ rounds ih =>
    rw [questionsFrom]
    split
    · exact ⟨query.drop idx, rfl⟩
    split
    · exact ⟨query.drop idx, rfl⟩
    rename_i domain name_end hName
    split
    · exact ⟨query.drop idx, rfl⟩
    · obtain ⟨rest, hRest⟩ := ih (name_end + 4)
      have hEnd := decode_dns_name_end hName
      refine ⟨rest, ?_⟩
      have hPlace : idx + (name_end + 4 - idx) = name_end + 4 := by omega
      have hSplit := List.take_append_drop (name_end + 4 - idx) (query.drop idx)
      rw [List.drop_drop, hPlace] at hSplit
      rw [List.map_cons, List.flatten_cons, List.append_assoc, ← hRest]
      exact hSplit.symm

theorem questionsFrom_reads (query : Bytes) (rounds idx : Nat) :
    ∀ question ∈ questionsFrom query rounds idx, idx ≤ question.name_offset ∧ ∃ stop,
      decode_dns_name query question.name_offset = some (question.domain, stop) ∧
      stop ≤ idx + ((questionsFrom query rounds idx).map DnsQuestion.wire).flatten.length := by
  induction rounds generalizing idx with
  | zero => exact fun _ hMem => absurd hMem List.not_mem_nil
  | succ rounds ih =>
    rw [questionsFrom]
    split
    · exact fun _ hMem => absurd hMem List.not_mem_nil
    split
    · exact fun _ hMem => absurd hMem List.not_mem_nil
    rename_i domain name_end hName
    split
    · exact fun _ hMem => absurd hMem List.not_mem_nil
    · next hShort =>
      have hEnd := decode_dns_name_end hName
      have hWire : (query.slice idx (name_end + 4)).length = name_end + 4 - idx :=
        slice_length (by omega)
      intro question hMem
      rw [List.map_cons, List.flatten_cons, List.length_append, hWire]
      rcases List.mem_cons.mp hMem with rfl | hLater
      · exact ⟨le_rfl, name_end, hName, by omega⟩
      · obtain ⟨hFrom, stop, hReads, hStop⟩ := ih (name_end + 4) question hLater
        exact ⟨by omega, stop, hReads, by omega⟩

section Section

variable {query : Bytes} (hHeader : 12 ≤ query.length)

include hHeader

theorem questionSection_prefix : ∃ rest, query.drop 12 = questionSection query ++ rest := by
  rw [questionSection, parse_dns_questions, if_neg (Nat.not_lt.mpr hHeader)]
  exact questionsFrom_section query (query.num 4 6) 12

theorem parse_dns_questions_reads : ∀ question ∈ parse_dns_questions query,
    12 ≤ question.name_offset ∧ ∃ stop,
      decode_dns_name query question.name_offset = some (question.domain, stop) ∧
      stop ≤ 12 + (questionSection query).length := by
  rw [questionSection, parse_dns_questions, if_neg (Nat.not_lt.mpr hHeader)]
  exact questionsFrom_reads query (query.num 4 6) 12

end Section

/-! ## The pointers -/

def nameOf (labels : List String) : String := if labels = [] then "." else join "." labels

def pointerReads (message : Bytes) (offset : Nat) : Option String :=
  (decodeNameFrom message [] (offset % 2 ^ 14) 0 true 1).map fun result => nameOf result.1

theorem decodeNameFrom_jumped (packet : Bytes) (labels : List String)
    (idx next_idx next_idx' jumps : Nat) :
    (decodeNameFrom packet labels idx next_idx true jumps).map Prod.fst =
      (decodeNameFrom packet labels idx next_idx' true jumps).map Prod.fst := by
  rw [decodeNameFrom, decodeNameFrom]
  by_cases hIdx : idx < packet.length
  · rw [dif_pos hIdx, dif_pos hIdx]
    dsimp only
    by_cases hZero : packet.byte idx = 0
    · rw [if_pos hZero, if_pos hZero]
      rfl
    · rw [if_neg hZero, if_neg hZero]
      by_cases hPointer : packet.byte idx &&& 0xC0 = 0xC0
      · rw [if_pos hPointer, if_pos hPointer]
        split
        · rfl
        split
        · rfl
        split
        · rfl
        · exact decodeNameFrom_jumped packet labels _ _ _ _
      · rw [if_neg hPointer, if_neg hPointer]
        split
        · rfl
        split
        · rfl
        · exact decodeNameFrom_jumped packet _ _ _ _ _
  · rw [dif_neg hIdx, dif_neg hIdx]
termination_by (20 - jumps, packet.length - idx)
decreasing_by
  · exact Prod.Lex.left _ _ (by omega)
  · exact Prod.Lex.right _ (by omega)

theorem pointer_high {offset : Nat} (h : offset < 2 ^ 16) :
    (UInt8.ofNat ((0xC000 ||| offset) / 256)).toNat = 0xC0 ||| offset / 256 := by
  have hHigh : (0xC000 ||| offset) / 2 ^ 8 = 0xC000 / 2 ^ 8 ||| offset / 2 ^ 8 := by
    rw [← Nat.shiftRight_eq_div_pow, Nat.shiftRight_or_distrib, Nat.shiftRight_eq_div_pow,
      Nat.shiftRight_eq_div_pow]
  have hSmall : 0xC0 ||| offset / 256 < 2 ^ 8 := Nat.or_lt_two_pow (by decide) (by omega)
  rw [UInt8.toNat_ofNat', show (256 : Nat) = 2 ^ 8 from rfl, hHigh]
  exact Nat.mod_eq_of_lt hSmall

theorem pointer_low {offset : Nat} :
    (UInt8.ofNat (0xC000 ||| offset)).toNat = offset % 256 := by
  rw [UInt8.toNat_ofNat', Nat.or_mod_two_pow, show 0xC000 % 2 ^ 8 = 0 from rfl, Nat.zero_or]

theorem pointer_value {offset : Nat} (h : offset < 2 ^ 16) :
    (0xC0 ||| offset / 256) &&& 0xC0 = 0xC0 ∧
      (((0xC0 ||| offset / 256) &&& 0x3F) <<< 8) ||| offset % 256 = offset % 2 ^ 14 := by
  have hAll : ∀ high < 256, (0xC0 ||| high) &&& 0xC0 = 0xC0 ∧
      (0xC0 ||| high) &&& 0x3F = high % 64 := by decide +kernel
  obtain ⟨hMark, hRest⟩ := hAll (offset / 256) (by omega)
  refine ⟨hMark, ?_⟩
  rw [hRest, ← Nat.shiftLeft_add_eq_or_of_lt (Nat.mod_lt _ (by decide)), Nat.shiftLeft_eq]
  omega

theorem bigEndian_two (n : Nat) : bigEndian 2 n = [UInt8.ofNat (n / 256), UInt8.ofNat n] := rfl

theorem decode_pointer {packet rest : Bytes} {place offset : Nat} (hOffset : offset < 2 ^ 16)
    (hHere : packet.drop place = bigEndian 2 (0xC000 ||| offset) ++ rest)
    (hInside : offset % 2 ^ 14 < packet.length) :
    (decode_dns_name packet place).map Prod.fst = pointerReads packet offset := by
  rw [bigEndian_two] at hHere
  have hLength := congrArg List.length hHere
  rw [List.length_drop, List.length_append, List.length_cons, List.length_singleton] at hLength
  have hFirst : packet[place]? = some (UInt8.ofNat ((0xC000 ||| offset) / 256)) := by
    rw [← Nat.add_zero place, ← List.getElem?_drop, hHere]
    rfl
  have hSecond : packet[place + 1]? = some (UInt8.ofNat (0xC000 ||| offset)) := by
    rw [← List.getElem?_drop, hHere]
    rfl
  have hHigh : packet.byte place = 0xC0 ||| offset / 256 := by
    rw [Bytes.byte, List.getD_eq_getElem?_getD, hFirst]
    exact pointer_high hOffset
  have hLow : packet.byte (place + 1) = offset % 256 := by
    rw [Bytes.byte, List.getD_eq_getElem?_getD, hSecond]
    exact pointer_low
  obtain ⟨hMark, hValue⟩ := pointer_value hOffset
  have hSome : 0xC0 ||| offset / 256 ≠ 0 := by
    intro hZero
    rw [hZero] at hMark
    exact absurd hMark (by decide)
  rw [decode_dns_name, decodeNameFrom, dif_pos (by omega)]
  dsimp only
  rw [hHigh, hLow, if_neg hSome, if_pos hMark, if_neg (by omega), hValue,
    if_neg (Nat.not_le.mpr hInside), dif_neg (by decide), pointerReads, if_neg (by decide),
    Nat.zero_add]
  have hFree := decodeNameFrom_jumped packet [] (offset % 2 ^ 14) (place + 2) 0 1
  have hNames := congrArg (Option.map nameOf) hFree
  rw [Option.map_map, Option.map_map] at hNames
  rw [Option.map_map]
  exact hNames

/-! ## The reply -/

def answerTo (ip_bytes : Bytes) (question : DnsQuestion) : Bytes :=
  bigEndian 2 (0xC000 ||| question.name_offset) ++ [0, 1, 0, 1] ++ [0, 0, 0, 60] ++ [0, 4]
    ++ ip_bytes

def replyHead (query : Bytes) : Bytes :=
  let questions := parse_dns_questions query
  query.take 2 ++ [0x81, if questions = [] then 0x82 else 0x80] ++ bigEndian 2 questions.length ++
    bigEndian 2 questions.length ++ [0, 0, 0, 0]

def messageOf (ip_bytes query : Bytes) : Bytes :=
  replyHead query ++ questionSection query ++
    ((parse_dns_questions query).map (answerTo ip_bytes)).flatten

theorem mapM_map {α β ε : Type*} {f : α → Except ε β} {g : α → β} {items : List α}
    (h : ∀ item ∈ items, f item = .ok (g item)) : items.mapM f = .ok (items.map g) := by
  induction items with
  | nil => exact List.mapM_nil
  | cons item items ih =>
    rw [List.mapM_cons, h item List.mem_cons_self,
      ih fun other hOther => h other (List.mem_cons_of_mem _ hOther)]
    rfl

section Reply

variable {query : Bytes} (inet_aton : String → Option Bytes) (response_ip : String)
  (hHeader : 12 ≤ query.length) (hLong : query.length ≤ 65535)

include hHeader hLong

theorem build_dns_response_eq : build_dns_response inet_aton query response_ip =
    .ok (messageOf (normalize_dns_response_ip inet_aton response_ip) query,
      parse_dns_questions query) := by
  rw [build_dns_response, if_neg (Nat.not_lt.mpr hHeader), messageOf, questionSection, replyHead]
  dsimp only
  by_cases hNone : parse_dns_questions query = []
  · rw [if_pos hNone, hNone]
    rw [if_pos rfl]
    simp [bigEndian_two]
  · have hAnswer : ∀ question ∈ parse_dns_questions query,
        dnsAnswer (normalize_dns_response_ip inet_aton response_ip) question =
          .ok (answerTo (normalize_dns_response_ip inet_aton response_ip) question) := by
      intro question hMem
      have hOffset := parse_dns_questions_offset query question hMem
      have hPointer : 0xC000 ||| question.name_offset < 256 ^ 2 :=
        @Nat.or_lt_two_pow _ _ 16 (by decide) (by omega)
      rw [dnsAnswer, to_bytes_ok hPointer]
      rfl
    have hCount := to_bytes_ok (parse_dns_questions_length query)
    rw [if_neg hNone, if_neg hNone, mapM_map hAnswer]
    dsimp only [bind, Except.bind]
    rw [List.length_map, hCount]
    rfl

end Reply

section Layout

variable {query ip_bytes : Bytes} (hHeader : 12 ≤ query.length) (hIp : ip_bytes.length = 4)

theorem answerTo_length (hIp : ip_bytes.length = 4) (question : DnsQuestion) :
    (answerTo ip_bytes question).length = 16 := by
  rw [answerTo, List.length_append, hIp]
  rfl

theorem answers_length (hIp : ip_bytes.length = 4) (questions : List DnsQuestion) :
    (questions.map (answerTo ip_bytes)).flatten.length = 16 * questions.length := by
  induction questions with
  | nil => rfl
  | cons question questions ih =>
    rw [List.map_cons, List.flatten_cons, List.length_append, answerTo_length hIp, ih,
      List.length_cons]
    omega

theorem big_bigEndian_two {n : Nat} (h : n < 256 ^ 2) : (bigEndian 2 n).big = n := by
  rw [bigEndian_two, Bytes.big, List.foldl_cons, List.foldl_cons, List.foldl_nil,
    UInt8.toNat_ofNat',
    UInt8.toNat_ofNat']
  omega

include hHeader

theorem replyHead_eq : ∃ a b flag, query.take 2 = [a, b] ∧ replyHead query = [a, b, 0x81, flag] ++
    bigEndian 2 (parse_dns_questions query).length ++
    bigEndian 2 (parse_dns_questions query).length ++ [0, 0, 0, 0] := by
  have hTwo : (query.take 2).length = 2 := by
    rw [List.length_take]
    omega
  obtain ⟨a, b, hId⟩ := List.length_eq_two.mp hTwo
  refine ⟨a, b, if parse_dns_questions query = [] then 0x82 else 0x80, hId, ?_⟩
  rw [replyHead, hId]
  rfl

theorem replyHead_length : (replyHead query).length = 12 := by
  obtain ⟨a, b, flag, -, hHead⟩ := replyHead_eq hHeader
  rw [hHead, bigEndian_two]
  rfl

theorem drop_messageOf : (messageOf ip_bytes query).drop 12 = questionSection query ++
    ((parse_dns_questions query).map (answerTo ip_bytes)).flatten := by
  rw [messageOf, List.append_assoc]
  exact List.drop_left' (replyHead_length hHeader)

theorem messageOf_header : (messageOf ip_bytes query).take 2 = query.take 2 ∧
    (messageOf ip_bytes query).num 4 6 = (parse_dns_questions query).length ∧
    (messageOf ip_bytes query).num 6 8 = (parse_dns_questions query).length := by
  obtain ⟨a, b, flag, hId, hHead⟩ := replyHead_eq hHeader
  have hCount := big_bigEndian_two (parse_dns_questions_length query)
  rw [messageOf, List.append_assoc, hHead, hId, bigEndian_two]
  exact ⟨rfl, hCount, hCount⟩

theorem messageOf_get {k : Nat} (hFrom : 12 ≤ k) (hTo : k < 12 + (questionSection query).length) :
    (messageOf ip_bytes query)[k]? = query[k]? := by
  obtain ⟨rest, hRest⟩ := questionSection_prefix hHeader
  obtain ⟨i, rfl⟩ := Nat.exists_eq_add_of_le hFrom
  rw [← List.getElem?_drop, ← List.getElem?_drop, drop_messageOf hHeader, hRest,
    List.getElem?_append_left (by omega), List.getElem?_append_left (by omega)]

theorem pointerReads_near {question : DnsQuestion} (hMem : question ∈ parse_dns_questions query)
    (hPlain : ∃ stop, PlainName query question.name_offset stop)
    (hNear : question.name_offset < 2 ^ 14) :
    pointerReads (messageOf ip_bytes query) question.name_offset = some question.domain := by
  obtain ⟨stop, hName⟩ := hPlain
  obtain ⟨names, hNames⟩ := hName.decode
  obtain ⟨hFrom, stop', hReads, hStop⟩ := parse_dns_questions_reads hHeader question hMem
  rw [decode_dns_name, hNames query fun _ _ _ => rfl] at hReads
  obtain ⟨hDomain, rfl⟩ := Prod.mk.inj (Option.some.inj hReads)
  rw [pointerReads, Nat.mod_eq_of_lt hNear,
    hNames _ fun k hk hStop' => messageOf_get hHeader (hFrom.trans hk) (hStop'.trans_le hStop)]
  exact congrArg some hDomain

include hIp

theorem messageOf_length : (messageOf ip_bytes query).length =
    12 + (questionSection query).length + 16 * (parse_dns_questions query).length := by
  rw [messageOf, List.length_append, List.length_append, replyHead_length hHeader,
    answers_length hIp]

theorem drop_answers {i : Nat} {question : DnsQuestion}
    (hQuestion : (parse_dns_questions query)[i]? = some question) :
    ∃ rest, (messageOf ip_bytes query).drop (12 + (questionSection query).length + 16 * i) =
      bigEndian 2 (0xC000 ||| question.name_offset) ++ rest := by
  obtain ⟨front, after, hSplit, hLength⟩ : ∃ front after,
      parse_dns_questions query = front ++ question :: after ∧ front.length = i := by
    obtain ⟨hIn, hAt⟩ := List.getElem?_eq_some_iff.mp hQuestion
    refine ⟨(parse_dns_questions query).take i, (parse_dns_questions query).drop (i + 1), ?_, ?_⟩
    · rw [← hAt, List.getElem_cons_drop, List.take_append_drop]
    · rw [List.length_take]
      omega
  have hFront := answers_length hIp front
  rw [hLength] at hFront
  refine ⟨[0, 1, 0, 1] ++ ([0, 0, 0, 60] ++ ([0, 4] ++ (ip_bytes ++
    (after.map (answerTo ip_bytes)).flatten))), ?_⟩
  rw [Nat.add_assoc, ← List.drop_drop, drop_messageOf hHeader, ← List.drop_drop, List.drop_left,
    hSplit, List.map_append, List.flatten_append, List.drop_left' hFront, List.map_cons,
    List.flatten_cons, answerTo, List.append_assoc, List.append_assoc, List.append_assoc,
    List.append_assoc]

theorem names_messageOf (hLong : query.length ≤ 65535) :
    (List.range (parse_dns_questions query).length).map (fun i =>
      (decode_dns_name (messageOf ip_bytes query) (12 + (questionSection query).length +
        (((parse_dns_questions query).map (answerTo ip_bytes)).take i).flatten.length)).map
          Prod.fst) =
      (parse_dns_questions query).map fun question =>
        pointerReads (messageOf ip_bytes query) question.name_offset := by
  refine List.ext_getElem (by rw [List.length_map, List.length_map, List.length_range])
    fun i hi hi' => ?_
  rw [List.length_map] at hi'
  rw [List.getElem_map, List.getElem_map, List.getElem_range, ← List.map_take,
    answers_length hIp, List.length_take, Nat.min_eq_left hi'.le]
  have hMem := List.getElem_mem hi'
  obtain ⟨rest, hHere⟩ := drop_answers hHeader hIp (List.getElem?_eq_getElem hi')
  have hOffset := parse_dns_questions_offset query _ hMem
  obtain ⟨-, stop, hReads, hStop⟩ := parse_dns_questions_reads hHeader _ hMem
  have hEnd := decode_dns_name_end hReads
  have hLength := messageOf_length hHeader hIp
  refine decode_pointer (by omega) hHere ?_
  exact (Nat.mod_le _ _).trans_lt (by omega)

theorem Answered.answers_eq {answers : List Bytes}
    (h : Answered query (messageOf ip_bytes query)
      ((parse_dns_questions query).map DnsQuestion.wire) answers) :
    answers = (parse_dns_questions query).map (answerTo ip_bytes) := by
  have hCount : (parse_dns_questions query).length = answers.length :=
    (messageOf_header hHeader).2.2.symm.trans h.answered
  have hLayout := (drop_messageOf hHeader).symm.trans h.layout
  refine List.eq_iff_flatten_eq.mpr ⟨(List.append_cancel_left hLayout).symm, ?_⟩
  have hSixteen : answers.map List.length = answers.map fun _ => 16 := by
    refine List.map_congr_left fun answer hAnswer => ?_
    obtain ⟨name, address, hName, hAddress, rfl⟩ := h.records answer hAnswer
    rw [List.length_append, hAddress]
    simp [hName]
  have hOwn : ((parse_dns_questions query).map (answerTo ip_bytes)).map List.length =
      (parse_dns_questions query).map fun _ => 16 := by
    rw [List.map_map]
    exact List.map_congr_left fun question _ => answerTo_length hIp question
  rw [hSixteen, hOwn, List.map_const', List.map_const', hCount]

end Layout

/-- There is room for the reply, and a pointer to a question behind the first 16384 bytes, if there is
one, happens to read as the domain in the reply all the same. -/
structure Answerable (ip_bytes query : Bytes) : Prop where
  room : 12 + (questionSection query).length + 16 * (parse_dns_questions query).length ≤ 65535
  near : ∀ question ∈ parse_dns_questions query, question.name_offset < 2 ^ 14 ∨
    pointerReads (messageOf ip_bytes query) question.name_offset = some question.domain

section Contract

variable {env : TcpEnv} {query : Bytes} {response_ip : String} (hHeader : 12 ≤ query.length)
  (hLong : query.length ≤ 65535)

include hHeader hLong

theorem answered_messageOf_iff {ip_bytes : Bytes} (hIp : ip_bytes.length = 4)
    (hPlain : Uncompressed query) :
    Answered query (messageOf ip_bytes query) ((parse_dns_questions query).map DnsQuestion.wire)
        ((parse_dns_questions query).map (answerTo ip_bytes)) ↔ Answerable ip_bytes query := by
  obtain ⟨hId, hAsked, hAnswered⟩ := @messageOf_header query ip_bytes hHeader
  have hNames := names_messageOf hHeader hIp hLong
  have hLength := messageOf_length hHeader hIp
  constructor
  · intro h
    have hRead := h.names
    rw [List.length_map, ← questionSection, hNames] at hRead
    refine ⟨hLength ▸ h.fits, fun question hMem => Or.inr ?_⟩
    exact List.map_inj_left.mp hRead question hMem
  · rintro ⟨hRoom, hNear⟩
    refine ⟨hId, ?_, ?_, drop_messageOf hHeader, ?_, ?_, hLength ▸ hRoom⟩
    · rw [List.length_map, hAsked]
    · rw [List.length_map, hAnswered]
    · intro answer hAnswer
      obtain ⟨question, -, rfl⟩ := List.mem_map.mp hAnswer
      exact ⟨_, ip_bytes, bigEndian_length 2 _, hIp, rfl⟩
    · rw [List.length_map, ← questionSection, hNames]
      refine List.map_congr_left fun question hMem => ?_
      rcases hNear question hMem with hOffset | hReads
      · exact pointerReads_near hHeader hMem (hPlain question hMem) hOffset
      · exact hReads

theorem replies_iff_answerable (hPlain : Uncompressed query) :
    Replies env.inet_aton query response_ip ↔
      Answerable (normalize_dns_response_ip env.inet_aton response_ip) query := by
  have hIp := normalize_dns_response_ip_length env response_ip
  have hReply := build_dns_response_eq env.inet_aton response_ip hHeader hLong
  rw [← answered_messageOf_iff hHeader hLong hIp hPlain, Replies, hReply]
  constructor
  · rintro ⟨response, answers, hEq, h⟩
    obtain ⟨rfl, -⟩ := Prod.mk.inj (Except.ok.inj hEq)
    rw [h.answers_eq hHeader hIp] at h
    exact h
  · exact fun h => ⟨_, _, rfl, h⟩

/-- Where every question starts within the first 16384 bytes, room for the reply is all it takes. -/
theorem replies_iff_room (hPlain : Uncompressed query)
    (hNear : ∀ question ∈ parse_dns_questions query, question.name_offset < 2 ^ 14) :
    Replies env.inet_aton query response_ip ↔
      12 + (questionSection query).length + 16 * (parse_dns_questions query).length ≤ 65535 :=
  (replies_iff_answerable hHeader hLong hPlain).trans
    ⟨Answerable.room, fun hRoom => ⟨hRoom, fun question hMem => Or.inl (hNear question hMem)⟩⟩

theorem replies_udp (hPlain : Uncompressed query) (hShort : query.length ≤ MAX_PACKET_SIZE) :
    Replies env.inet_aton query response_ip := by
  obtain ⟨hFew, hSection⟩ := parse_dns_questions_wires query
  simp only [MAX_PACKET_SIZE] at hShort
  rw [← questionSection] at hFew hSection
  refine (replies_iff_room hHeader hLong hPlain fun question hMem => ?_).mpr (by omega)
  have hOffset := parse_dns_questions_offset query question hMem
  omega

end Contract

/-- A query is answered as demanded exactly when there is room for the reply and every pointer leads
to its name, which is always so over UDP. -/
theorem replies_iff (env : TcpEnv) {query : Bytes} (response_ip : String)
    (hHeader : 12 ≤ query.length) (hLong : query.length ≤ 65535) (hPlain : Uncompressed query) :
    (Replies env.inet_aton query response_ip ↔
        Answerable (normalize_dns_response_ip env.inet_aton response_ip) query) ∧
      (query.length ≤ MAX_PACKET_SIZE → Replies env.inet_aton query response_ip) :=
  ⟨replies_iff_answerable hHeader hLong hPlain, replies_udp hHeader hLong hPlain⟩

def rootQuery (count : Nat) : Bytes :=
  [0, 1, 1, 0] ++ bigEndian 2 count ++ [0, 0, 0, 0, 0, 0] ++
    (List.replicate count [0, 0, 1, 0, 1]).flatten

section Root

theorem questionsFrom_root {query : Bytes} {rounds idx : Nat}
    (h : query.drop idx = (List.replicate rounds [0, 0, 1, 0, 1]).flatten) :
    (questionsFrom query rounds idx).map DnsQuestion.wire = List.replicate rounds [0, 0, 1, 0, 1] ∧
      ∀ question ∈ questionsFrom query rounds idx, question.name_offset < query.length ∧
        query.byte question.name_offset = 0 := by
  induction rounds generalizing idx with
  | zero => exact ⟨rfl, nofun⟩
  | succ rounds ih =>
    rw [List.replicate_succ, List.flatten_cons] at h
    have hRest : query.drop (idx + 1 + 4) = (List.replicate rounds [0, 0, 1, 0, 1]).flatten := by
      rw [Nat.add_assoc, ← List.drop_drop, h]
      rfl
    have hLength := congrArg List.length h
    rw [List.length_drop, List.length_append] at hLength
    have hFive : idx + 5 ≤ query.length := by
      simp only [List.length_cons, List.length_nil] at hLength
      omega
    have hByte : query.byte idx = 0 := by
      rw [Bytes.byte, List.getD_eq_getElem?_getD, ← Nat.add_zero idx, ← List.getElem?_drop, h]
      rfl
    have hName : decode_dns_name query idx = some (".", idx + 1) := by
      rw [decode_dns_name, decodeNameFrom, dif_pos (by omega)]
      dsimp only
      rw [if_pos hByte]
      rfl
    have hWire : query.slice idx (idx + 1 + 4) = [0, 0, 1, 0, 1] := by
      rw [Bytes.slice, h, Nat.add_assoc, Nat.add_sub_cancel_left]
      rfl
    obtain ⟨hWires, hBytes⟩ := ih hRest
    rw [questionsFrom, if_neg (by omega), hName]
    dsimp only
    rw [if_neg (by omega), List.map_cons, hWires, hWire, List.replicate_succ]
    refine ⟨rfl, fun question hMem => ?_⟩
    rcases List.mem_cons.mp hMem with rfl | hLater
    · exact ⟨by dsimp only; omega, hByte⟩
    · exact hBytes question hLater

theorem parse_rootQuery {count : Nat} (h : count < 256 ^ 2) :
    (parse_dns_questions (rootQuery count)).map DnsQuestion.wire =
        List.replicate count [0, 0, 1, 0, 1] ∧ Uncompressed (rootQuery count) := by
  have hCount : (rootQuery count).num 4 6 = count := big_bigEndian_two h
  have hQuestions : (rootQuery count).drop 12 =
      (List.replicate count [0, 0, 1, 0, 1]).flatten := rfl
  have hHeader : ¬(rootQuery count).length < 12 := by
    rw [rootQuery, bigEndian_two, List.length_append]
    simp
  obtain ⟨hWires, hBytes⟩ := questionsFrom_root hQuestions
  rw [Uncompressed, parse_dns_questions, if_neg hHeader, hCount]
  refine ⟨hWires, fun question hMem => ?_⟩
  obtain ⟨hInside, hZero⟩ := hBytes question hMem
  exact ⟨_, .root hInside hZero⟩

theorem length_rootQuery (count : Nat) : (rootQuery count).length = 12 + 5 * count := by
  rw [rootQuery, bigEndian_two, List.length_append, List.length_flatten, List.map_replicate,
    List.sum_replicate_nat]
  simp [mul_comm]

end Root

/-- A query for the root's address. -/
theorem replies_root : Replies plainEnv.inet_aton (rootQuery 1) "192.0.2.1" :=
  (replies_iff plainEnv "192.0.2.1" (by decide) (by decide) (parse_rootQuery (by decide)).2).2
    (by decide)

/-- 3121 of these questions over TCP: the reply would have 65553 bytes. -/
theorem roots_overflow : (rootQuery 3121).length = 15617 ∧ Uncompressed (rootQuery 3121) ∧
    ¬Replies plainEnv.inet_aton (rootQuery 3121) "192.0.2.1" := by
  have hLength := length_rootQuery 3121
  obtain ⟨hWires, hPlain⟩ := parse_rootQuery (show 3121 < 256 ^ 2 by decide)
  refine ⟨hLength, hPlain, fun hReplies => ?_⟩
  have hIff := @replies_iff_answerable plainEnv _ "192.0.2.1" (by omega) (by omega) hPlain
  have hRoom := (hIff.mp hReplies).room
  have hMany := congrArg List.length hWires
  rw [List.length_map, List.length_replicate] at hMany
  rw [questionSection, hWires, hMany, List.length_flatten, List.map_replicate,
    List.sum_replicate_nat] at hRoom
  exact absurd hRoom (by decide)

end Sniff4Hound.Honeypot
