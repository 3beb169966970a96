import Sniff4Hound.Library.JsonRoundTrip
import Sniff4Hound.Realtime.EventFrames
import Sniff4Hound.Realtime.RealtimeChannel

/-!
# What the channel hands on

The frames of the server are blocks made of lines (`frame_eq`, `lined_block`), so that the channel
finds them again however the text was cut (`consume_eq`, `after_frames`), and reads from each what
was written in it (`handleBlock_block`). `stream_round_trip` puts them together for every list of
events and every way to cut their text.
-/

namespace Sniff4Hound.Realtime

open BlankLines

/-! ## The payload of a close event -/

theorem stringBody_jsonEscape (fuel : Nat) (c : Char) (rest : List Char) :
    Json.stringBody (fuel + 1) (jsonEscape c ++ rest) =
      (Json.stringBody fuel rest).map fun found => (c :: found.1, found.2) := by
  rw [jsonEscape]
  split
  · rename_i hLarge
    have hNot : ∀ d : Char, d.toNat < 0x7F → c ≠ d := by
      rintro d hd rfl
      omega
    rw [List.singleton_append, Json.stringBody, if_neg (hNot '"' (by decide)),
      if_neg (hNot '\\' (by decide)), if_neg (by omega)]
    cases Json.stringBody fuel rest with
    | none => rfl
    | some found => rfl
  · exact Json.stringBody_escape fuel c rest

theorem one_le_length_jsonEscape (c : Char) : 1 ≤ (jsonEscape c).length := by
  rw [jsonEscape]
  split
  · exact Nat.le_refl 1
  · exact Json.one_le_length_escape c

variable {codec : Json.Codec Bool} {fuel : Nat}

theorem value_jsonString {s : String} (hFuel : s.toList.length < fuel) (rest : List Char) :
    Json.value codec (fuel + 1) (jsonString s ++ rest) = some (.str s, rest) := by
  rw [jsonString, List.cons_append, Json.value, if_pos rfl, List.append_assoc,
    List.singleton_append, Json.stringBody_escaped stringBody_jsonEscape hFuel]
  simp only [Option.map_some, String.ofList_toList]

theorem value_jsonInt {i : Int} {rest : List Char}
    (hDigits : (Nat.toDigits 10 i.natAbs).length ≤ codec.maxDigits) (hRest : Json.Closed rest) :
    Json.value codec (fuel + 1) (jsonInt i ++ rest) = some (.int i, rest) := by
  rw [jsonInt, List.append_assoc]
  refine (Json.number?_append (decide (i < 0)) (Json.isWhole_toDigits i.natAbs) (Or.inl rfl)
    (Or.inl rfl) hRest).trans ?_
  rw [Json.numeralValue_int
    ((Nat.length_toDigits_le_iff (by decide) codec.maxDigits_pos).mp hDigits)]
  rfl

theorem closeText_eq (code : Int) (reason : String) :
    closeText code reason = '{' :: (Json.writeString "code" ++ ':' :: (' ' :: (jsonInt code ++
      ',' :: ' ' ::
        (Json.writeString "reason" ++ ':' :: (' ' :: (jsonString reason ++ ['}'])))))) := by
  have hCode : Json.writeString "code" = "\"code\"".toList := by decide
  have hReason : Json.writeString "reason" = "\"reason\"".toList := by decide
  rw [closeText, hCode, hReason]
  rfl

theorem skip_blank (text : List Char) (h : Json.Opens text) (more : List Char) :
    Json.skip (' ' :: (text ++ more)) = text ++ more := by
  have hBlank : Json.skip (' ' :: (text ++ more)) = Json.skip (text ++ more) := rfl
  rw [hBlank, h.skip]

theorem value_closeText {code : Int} {reason : String}
    (hDigits : (Nat.toDigits 10 code.natAbs).length ≤ codec.maxDigits)
    (hFuel : reason.toList.length + 6 < fuel) :
    Json.value codec (fuel + 4) (closeText code reason) =
      some (.dict [("code", .int code), ("reason", .str reason)], []) := by
  have hOpensInt : Json.Opens (jsonInt code) := by
    rw [jsonInt, ← List.append_nil (Nat.toDigits 10 code.natAbs)]
    exact Json.opens_numeral _ (Json.isWhole_toDigits _) []
  have hOpensString : Json.Opens (jsonString reason) := ⟨'"', _, rfl, rfl, by decide, by decide⟩
  have hCode : Json.value codec (fuel + 2) (Json.skip (' ' :: (jsonInt code ++
      ',' :: ' ' :: (Json.writeString "reason" ++ ':' :: (' ' :: (jsonString reason ++ ['}'])))))) =
      some (.int code, ',' :: ' ' :: (Json.writeString "reason" ++ ':' ::
        (' ' :: (jsonString reason ++ ['}'])))) := by
    rw [skip_blank _ hOpensInt]
    exact value_jsonInt hDigits (Json.closed_cons (Or.inl rfl) _)
  have hReason : Json.value codec (fuel + 1)
      (Json.skip (' ' :: (jsonString reason ++ ['}']))) = some (.str reason, ['}']) := by
    rw [skip_blank _ hOpensString]
    exact value_jsonString (by omega) _
  have hSecond : Json.entries codec (fuel + 2) [("code", .int code)]
      (Json.writeString "reason" ++ ':' :: (' ' :: (jsonString reason ++ ['}']))) =
      some ([("code", .int code), ("reason", .str reason)], []) := by
    refine (Json.entries_spaced (by simp; omega) hReason).trans ?_
    rfl
  have hKey : "code".toList.length < fuel + 2 := by
    simp
    omega
  rw [closeText_eq, Json.value, if_neg (by decide), if_neg (by decide), if_pos rfl,
    if_neg (by simp [Json.writeString, Json.skip, Json.isBlank])]
  have hSkip : ∀ text, Json.skip (Json.writeString "code" ++ text) =
      Json.writeString "code" ++ text := fun _ => rfl
  have hNext : ∀ text, Json.skip (' ' :: (Json.writeString "reason" ++ text)) =
      Json.writeString "reason" ++ text := fun _ => rfl
  have hComma : ∀ text, Json.skip (',' :: text) = ',' :: text := fun _ => rfl
  rw [hSkip, Json.entries_spaced hKey hCode, hComma]
  dsimp only
  rw [if_neg (by decide), if_pos rfl, hNext]
  have hFound : Dict.set [] "code" (Json.int code) = [("code", (Json.int code : Json Bool))] := rfl
  rw [hFound, hSecond]
  rfl

theorem parse_closeText (code : Int) (reason : String) :
    parseJson (String.ofList (closeText code reason)) =
      some (.dict [("code", .int code), ("reason", .str reason)]) := by
  have hText : (closeText code reason).length = (jsonInt code).length +
      (jsonString reason).length + 22 := by
    simp [closeText]
    omega
  have hInt : (Nat.toDigits 10 code.natAbs).length ≤ (jsonInt code).length := by
    rw [jsonInt, List.length_append]
    omega
  have hString : reason.toList.length ≤ (jsonString reason).length := by
    have hChars := Json.length_le_flatMap one_le_length_jsonEscape reason.toList
    rw [jsonString, List.length_cons, List.length_append]
    omega
  have hSkip : Json.skip (closeText code reason) = closeText code reason := rfl
  have hFuel : 2 * (closeText code reason).length + 1 =
      2 * (closeText code reason).length - 3 + 4 := by omega
  rw [parseJson, Json.loads, String.toList_ofList, hSkip, hFuel, value_closeText]
  · rfl
  · rw [jsCodec]
    dsimp only
    omega
  · omega

/-! ## Frames as blocks -/

/-- `data: `. -/
def mark : List Char := ['d', 'a', 't', 'a', ':', ' ']

theorem mark_eq : "data: ".toList = mark := by decide

def dataLine (line : List Char) : List Char := mark ++ line

def frameLines : Option Event → List (List Char)
  | none => [": keep-alive".toList]
  | some (.data value) => (value.toList.splitOn '\n').map dataLine
  | some .ping => [": ping".toList]
  | some (.close code reason) =>
    ["event: close".toList, dataLine (closeText code reason)]

def block (item : Option Event) : List Char := ['\n'].intercalate (frameLines item)

variable {line : List Char}

theorem replaceNewlines_line (h : '\n' ∉ line) : replaceNewlines line = line := by
  induction line with
  | nil => rfl
  | cons c line ih =>
    rw [List.mem_cons, not_or] at h
    rw [replaceNewlines, List.flatMap_cons, if_neg fun hSame => h.1 hSame.symm]
    exact congrArg _ (ih h.2)

theorem replaceNewlines_joined {parts : List (List Char)} (h : ∀ part ∈ parts, '\n' ∉ part)
    (hNe : parts ≠ []) : dataLine (replaceNewlines (['\n'].intercalate parts)) =
      ['\n'].intercalate (parts.map dataLine) := by
  induction parts with
  | nil => exact absurd rfl hNe
  | cons part rest ih =>
    have hPart := replaceNewlines_line (h part List.mem_cons_self)
    have hNewline : replaceNewlines ['\n'] = '\n' :: mark := by decide
    cases rest with
    | nil => rw [List.intercalate_singleton, hPart, List.map_singleton,
      List.intercalate_singleton]
    | cons next rest =>
      have hRest := ih (fun part hPart => h part (List.mem_cons_of_mem _ hPart))
        (List.cons_ne_nil _ _)
      have hAppend : ∀ a b, replaceNewlines (a ++ b) = replaceNewlines a ++ replaceNewlines b :=
        fun _ _ => List.flatMap_append
      have hMore : (next :: rest).map dataLine ≠ [] := by simp
      rw [List.intercalate_cons_cons, hAppend, hAppend, hPart, hNewline, List.map_cons,
        List.intercalate_cons_of_ne_nil hMore, ← hRest]
      simp only [dataLine, List.append_assoc, List.cons_append, List.nil_append]

theorem frame_eq (item : Option Event) : frame item = block item ++ ['\n', '\n'] := by
  have hNewlines : "\n\n".toList = ['\n', '\n'] := by decide
  cases item with
  | none =>
    change ": keep-alive\n\n".toList = ['\n'].intercalate [": keep-alive".toList] ++ _
    rw [List.intercalate_singleton]
    decide
  | some event =>
    cases event with
    | data value =>
      change "data: ".toList ++ replaceNewlines value.toList ++ "\n\n".toList =
        ['\n'].intercalate ((value.toList.splitOn '\n').map dataLine) ++ _
      have hParts := replaceNewlines_joined (notMem_splitOn value.toList)
        (List.splitOn_ne_nil '\n' value.toList)
      rw [List.intercalate_splitOn, dataLine] at hParts
      rw [mark_eq, hParts, hNewlines]
    | ping =>
      change ": ping\n\n".toList = ['\n'].intercalate [": ping".toList] ++ _
      rw [List.intercalate_singleton]
      decide
    | close code reason =>
      have hMark : "event: close\ndata: ".toList = "event: close".toList ++ '\n' :: mark := by
        decide
      have hJoin : ∀ first line : List Char, (first ++ '\n' :: mark) ++ line ++ ['\n', '\n'] =
          ['\n'].intercalate [first, dataLine line] ++ ['\n', '\n'] := by
        intro first line
        rw [List.intercalate_cons_cons, List.intercalate_singleton, dataLine]
        simp only [List.append_assoc, List.cons_append, List.nil_append]
      change "event: close\ndata: ".toList ++ closeText code reason ++ "\n\n".toList =
        ['\n'].intercalate ["event: close".toList, dataLine (closeText code reason)] ++ _
      rw [hMark, hNewlines]
      exact hJoin _ _

theorem frames_eq (items : List (Option Event)) :
    frames items = written '\n' (items.map block) := by
  rw [frames, written, List.flatMap_map]
  exact congrArg (List.flatMap · items) (funext frame_eq)

theorem newline_notMem_escape (c : Char) : '\n' ∉ Json.escape c := by
  have hDigit : ∀ n, '\n' ≠ Json.hexDigit n := by
    intro n
    by_cases hn : n < 16
    · revert n
      decide
    · rw [Json.hexDigit, List.getD_eq_getElem?_getD, List.getElem?_eq_none (Nat.not_lt.mp hn)]
      decide
  have hUnicode : ∀ n, '\n' ∉ Json.unicodeEscape n := by
    intro n
    simp only [Json.unicodeEscape, List.mem_cons, List.not_mem_nil, or_false, not_or]
    exact ⟨by decide, by decide, hDigit _, hDigit _, hDigit _, hDigit _⟩
  rcases Json.escape_cases c with ⟨d, hd, h⟩ | ⟨hVisible, h⟩ | ⟨n, h⟩ | ⟨n, m, h⟩
  · rw [h, List.mem_cons, List.mem_singleton]
    rintro (hBackslash | rfl)
    · revert hBackslash
      decide
    · revert hd
      decide
  · rw [h, List.mem_singleton]
    rintro rfl
    revert hVisible
    decide
  · rw [h]
    exact hUnicode n
  · rw [h, List.mem_append]
    rintro (hMem | hMem)
    · exact hUnicode n hMem
    · exact hUnicode m hMem

theorem newline_notMem_closeText (code : Int) (reason : String) : '\n' ∉ closeText code reason := by
  have hChar : ∀ c, '\n' ∉ jsonEscape c := by
    intro c
    rw [jsonEscape]
    split
    · rename_i hLarge
      intro hMem
      rw [← List.mem_singleton.mp hMem] at hLarge
      revert hLarge
      decide
    · exact newline_notMem_escape c
  have hString : '\n' ∉ jsonString reason := by
    rw [jsonString, List.mem_cons, List.mem_append, List.mem_flatMap]
    rintro (h | ⟨c, -, h⟩ | h)
    · revert h
      decide
    · exact hChar c h
    · revert h
      decide
  have hInt : '\n' ∉ jsonInt code := by
    rw [jsonInt, List.mem_append]
    rintro (h | h)
    · rw [Json.minus] at h
      split at h
      · revert h
        decide
      · cases h
    · exact notMem_toDigits (by decide) (by decide) (by decide) _ h
  rw [closeText]
  simp only [List.mem_cons, List.mem_append]
  rintro (h | h | h | h | h | h | h)
  · revert h
    decide
  · revert h
    decide
  · exact hInt h
  · revert h
    decide
  · exact hString h
  · revert h
    decide
  · cases h

theorem separable_line (hNe : line ≠ []) (h : '\n' ∉ line) : Separable '\n' [line] := by
  intro part hPart
  rw [List.mem_singleton.mp hPart]
  exact ⟨hNe, h⟩

theorem newline_notMem_dataLine (h : '\n' ∉ line) : '\n' ∉ dataLine line := by
  rw [dataLine, mark, List.mem_append]
  rintro (hMark | hLine)
  · revert hMark
    decide
  · exact h hLine

theorem separable_frame (item : Option Event) :
    Separable '\n' (frameLines item) ∧ frameLines item ≠ [] := by
  have hData : ∀ line, dataLine line ≠ [] := fun line => by simp [dataLine, mark]
  cases item with
  | none => exact ⟨separable_line (by decide) (by decide), List.cons_ne_nil _ _⟩
  | some event =>
    cases event with
    | data value =>
      refine ⟨fun line hLine => ?_, fun h => List.splitOn_ne_nil _ _ (List.map_eq_nil_iff.mp h)⟩
      obtain ⟨part, hPart, rfl⟩ := List.mem_map.mp hLine
      exact ⟨hData part, newline_notMem_dataLine (notMem_splitOn _ part hPart)⟩
    | ping => exact ⟨separable_line (by decide) (by decide), List.cons_ne_nil _ _⟩
    | close code reason =>
      refine ⟨fun line hLine => ?_, List.cons_ne_nil _ _⟩
      rcases List.mem_cons.mp hLine with rfl | hLine
      · exact ⟨by decide, by decide⟩
      · rw [List.mem_singleton.mp hLine]
        exact ⟨hData _, newline_notMem_dataLine (newline_notMem_closeText code reason)⟩

theorem lined_block (item : Option Event) : Lined '\n' (block item) :=
  ⟨frameLines item, rfl, separable_frame item⟩

/-! ## Frames as they are handled -/

namespace ChannelState

theorem readBlock_block (item : Option Event) :
    readBlock (block item) = (frameLines item).foldl readLine ⟨"message".toList, []⟩ := by
  obtain ⟨hLines, hNe⟩ := separable_frame item
  rw [readBlock, block, List.splitOn_intercalate '\n' (fun line hLine => (hLines line hLine).2) hNe]

theorem readLine_dataLine (fields : Fields) (line : List Char) :
    readLine fields (dataLine line) = { fields with data := fields.data ++ [line] } := by
  have hEventName : "event:".toList = ['e', 'v', 'e', 'n', 't', ':'] := by decide
  have hDataName : "data:".toList = ['d', 'a', 't', 'a', ':'] := by decide
  have hEvent : ¬"event:".toList <+: dataLine line := by
    rw [hEventName, dataLine, mark, List.cons_append, List.cons_prefix_cons]
    exact fun h => absurd h.1 (by decide)
  have hData : "data:".toList <+: dataLine line := by
    rw [hDataName]
    exact ⟨' ' :: line, rfl⟩
  rw [readLine, if_neg hEvent, if_pos hData]
  rfl

theorem foldl_dataLine (fields : Fields) (lines : List (List Char)) :
    (lines.map dataLine).foldl readLine fields = { fields with data := fields.data ++ lines } := by
  induction lines generalizing fields with
  | nil => simp
  | cons line lines ih =>
    rw [List.map_cons, List.foldl_cons, readLine_dataLine, ih]
    simp

def take (listeners : Listeners) (c : ChannelState) : Option Event → ChannelState
  | some (.data text) => c.handleMessage listeners text
  | some (.close code reason) =>
    { c with handed := c.handed ++ [Handed.serverClose (some (closeCode code)) (some reason)]
      }.finish
      (some (closeCode code)) (some reason)
  | _ => c

theorem handleBlock_of_fields {listeners : Listeners} {c : ChannelState} {text name : List Char}
    {data : List (List Char)} (h : readBlock text = ⟨name, data⟩) (hData : data ≠ []) :
    c.handleBlock listeners text =
      if name = "close".toList then c.handleServerClose (String.ofList (['\n'].intercalate data))
      else c.handleMessage listeners (String.ofList (['\n'].intercalate data)) := by
  rw [handleBlock, h]
  exact if_neg hData

theorem handleServerClose_closeText (c : ChannelState) (code : Int) (reason : String) :
    c.handleServerClose (String.ofList (closeText code reason)) =
      { c with handed := c.handed ++
        [Handed.serverClose (some (closeCode code)) (some reason)] }.finish
          (some (closeCode code)) (some reason) := by
  have hNe : String.ofList (closeText code reason) ≠ "" := by
    intro h
    have hList := congrArg String.toList h
    rw [String.toList_ofList] at hList
    cases hList
  rw [handleServerClose, if_neg hNe, parse_closeText]
  rfl

theorem handleBlock_block (listeners : Listeners) (c : ChannelState) (item : Option Event) :
    c.handleBlock listeners (block item) = c.take listeners item := by
  have hRead := readBlock_block item
  cases item with
  | none =>
    rw [handleBlock, hRead]
    rfl
  | some event =>
    cases event with
    | data value =>
      have hLines := foldl_dataLine ⟨"message".toList, []⟩ (value.toList.splitOn '\n')
      rw [handleBlock_of_fields (hRead.trans hLines) (List.splitOn_ne_nil _ _),
        if_neg (by decide), List.nil_append, List.intercalate_splitOn, String.ofList_toList]
      rfl
    | ping =>
      rw [handleBlock, hRead]
      rfl
    | close code reason =>
      have hName : readLine ⟨"message".toList, []⟩ "event: close".toList =
          ⟨"close".toList, []⟩ := by rfl
      have hLines : (frameLines (some (.close code reason))).foldl readLine
          ⟨"message".toList, []⟩ = ⟨"close".toList, [closeText code reason]⟩ := by
        change readLine (readLine ⟨"message".toList, []⟩ "event: close".toList)
          (dataLine (closeText code reason)) = _
        rw [hName, readLine_dataLine]
        rfl
      rw [handleBlock_of_fields (hRead.trans hLines) (List.cons_ne_nil _ _), if_pos rfl,
        List.intercalate_singleton, handleServerClose_closeText]
      rfl

end ChannelState

/-! ## Streams -/

def handedOf : Option Event → Option Handed
  | some (.data text) => some (.message text)
  | some (.close code reason) => some (.serverClose (some (closeCode code)) (some reason))
  | _ => none

section Handed

variable (listeners : Listeners) (c : ChannelState)

theorem handed_finish (code : Option Int) (reason : Option String) :
    (c.finish code reason).handed = c.handed := by
  rw [ChannelState.finish]
  split
  · rfl
  · rfl

theorem handed_close (code : Int) (reason : String) : (c.close code reason).handed = c.handed := by
  rw [ChannelState.close]
  split
  · rfl
  · rw [handed_finish]

theorem handed_dispatch (event : Dispatched) : (c.dispatch listeners event).handed = c.handed := by
  rw [ChannelState.dispatch]
  split
  · rfl
  · rw [handed_close]

theorem handed_take (item : Option Event) :
    (c.take listeners item).handed = c.handed ++ (handedOf item).toList := by
  cases item with
  | none => exact (List.append_nil _).symm
  | some event =>
    cases event with
    | data text =>
      change (c.handleMessage listeners text).handed = c.handed ++ [.message text]
      rw [ChannelState.handleMessage]
      split
      · rw [handed_dispatch]
      · split
        · rw [handed_finish, handed_dispatch]
        · rw [handed_dispatch]
    | ping => exact (List.append_nil _).symm
    | close code reason => exact handed_finish _ _ _

theorem handed_foldl_take (items : List (Option Event)) :
    (items.foldl (ChannelState.take listeners) c).handed =
    c.handed ++ items.filterMap handedOf := by
  induction items generalizing c with
  | nil => exact (List.append_nil _).symm
  | cons item items ih =>
    rw [List.foldl_cons, ih, handed_take, List.append_assoc, List.filterMap_cons]
    cases handedOf item with
    | none => rfl
    | some handed => rfl

end Handed

variable (listeners : Listeners)

theorem consume_eq {rounds : Nat} {buffer : List Char}
    (h : buffer.length ≤ rounds) (c : ChannelState) : Channel.consume listeners rounds c buffer =
      ((blocks '\n' buffer).1.foldl (ChannelState.handleBlock listeners) c,
        (blocks '\n' buffer).2) := by
  induction rounds generalizing c buffer with
  | zero =>
    rw [List.length_eq_zero_iff.mp (Nat.le_zero.mp h), blocks_of_none rfl]
    rfl
  | succ rounds ih =>
    rw [Channel.consume]
    cases hCut : cut '\n' buffer with
    | none =>
      rw [blocks_of_none hCut]
      rfl
    | some found =>
      have hLength := length_cut hCut
      rw [blocks_of_some hCut]
      exact ih (by omega) _

def Channel.feed (listeners : Listeners) (ch : Channel) (chunk : String) : Channel :=
  ch.handleStreamMessage listeners ⟨ch.streamId, .data chunk⟩

def Channel.after (listeners : Listeners) (ch : Channel) (text : List Char) : Channel :=
  { ch with
    toChannelState := (blocks '\n' text).1.foldl (ChannelState.handleBlock listeners)
      ch.toChannelState
    buffer := (blocks '\n' text).2 }

theorem feed_eq (ch : Channel) (chunk : String) :
    ch.feed listeners chunk = ch.after listeners (ch.buffer ++ chunk.toList) := by
  rw [Channel.feed, Channel.handleStreamMessage, if_neg (fun h => h rfl)]
  dsimp only
  rw [Channel.consumeEvents, consume_eq listeners (Nat.le_refl _)]
  rfl

theorem feed_after (ch : Channel) (text : List Char) (chunk : String) :
    (ch.after listeners text).feed listeners chunk =
      ch.after listeners (text ++ chunk.toList) := by
  rw [feed_eq, Channel.after, Channel.after, Channel.after, blocks_append text chunk.toList,
    List.foldl_append]

variable {ch : Channel}

theorem after_empty (h : ch.buffer = []) : ch.after listeners [] = ch := by
  rw [Channel.after, blocks_of_none rfl, ← h]
  rfl

theorem foldl_feed (ch : Channel) (text : List Char)
    (chunks : List String) : chunks.foldl (Channel.feed listeners) (ch.after listeners text) =
      ch.after listeners (text ++ chunks.flatMap String.toList) := by
  induction chunks generalizing text with
  | nil => rw [List.flatMap_nil, List.append_nil, List.foldl_nil]
  | cons chunk chunks ih =>
    rw [List.foldl_cons, feed_after, ih, List.flatMap_cons, List.append_assoc]

theorem after_frames (ch : Channel) (items : List (Option Event)) :
    ch.after listeners (frames items) =
      { ch with
        toChannelState := items.foldl (ChannelState.take listeners) ch.toChannelState
        buffer := [] } := by
  have hBlocks : blocks '\n' (frames items) = (items.map block, []) := by
    rw [frames_eq]
    refine blocks_written fun text hText => ?_
    obtain ⟨item, -, rfl⟩ := List.mem_map.mp hText
    exact lined_block item
  rw [Channel.after, hBlocks, List.foldl_map]
  congr 2
  funext c item
  exact ChannelState.handleBlock_block listeners c item

/-! ## The bridge -/

/-- A message after which the channel is still open: it is no `auth_required`, and the listeners do
not close the channel on it. -/
def Quiet (listeners : Listeners) (text : String) : Prop :=
  if isType (parseJson text) "session" then listeners .opened = none
  else listeners (.message text) = none ∧ isType (parseJson text) "auth_required" = false

theorem listening_take {c : ChannelState} {item : Option Event}
    (hQuiet : ∀ text, item = some (.data text) → Quiet listeners text)
    (hClose : ∀ code reason, item ≠ some (.close code reason)) :
    (c.take listeners item).listening = c.listening := by
  cases item with
  | none => rfl
  | some event =>
    cases event with
    | data text =>
      have hText := hQuiet text rfl
      rw [Quiet] at hText
      change (c.handleMessage listeners text).listening = c.listening
      rw [ChannelState.handleMessage]
      dsimp only
      split at hText
      · rename_i hSession
        rw [if_pos hSession, ChannelState.dispatch, hText]
      · rename_i hOther
        rw [if_neg hOther, hText.2, if_neg Bool.false_ne_true, ChannelState.dispatch, hText.1]
    | ping => rfl
    | close code reason => exact absurd rfl (hClose code reason)

def Channel.receiveChunk (listeners : Listeners) (ch : Channel) (chunk : String) : Channel :=
  ch.receive listeners ⟨ch.streamId, .data chunk⟩

def EndsClosed (items : List (Option Event)) : Prop :=
  ∀ front code reason back, items = front ++ some (.close code reason) :: back → back = []

/-- A channel that does not listen any more has taken the close event, behind which no text stands.
-/
theorem more_empty {listeners : Listeners} {items : List (Option Event)} {text more : List Char}
    (hListening : ch.listening = true)
    (hQuiet : ∀ text, some (.data text) ∈ items → Quiet listeners text) (hEnds : EndsClosed items)
    (hText : text ++ more = frames items) (hDeaf : (ch.after listeners text).listening = false) :
    more = [] := by
  have hBlocks : blocks '\n' (text ++ more) = (items.map block, []) := by
    rw [hText, frames_eq]
    refine blocks_written fun text hText => ?_
    obtain ⟨item, -, rfl⟩ := List.mem_map.mp hText
    exact lined_block item
  rw [blocks_append] at hBlocks
  obtain ⟨hFirst, hRest⟩ := Prod.mk.inj hBlocks
  obtain ⟨front, back, hItems, hFront, hBack⟩ := List.map_eq_append_iff.mp hFirst.symm
  have hTaken : (ch.after listeners text).listening =
      (front.foldl (ChannelState.take listeners) ch.toChannelState).listening := by
    rw [Channel.after, ← hFront, List.foldl_map]
    have hTake : (fun c item => ChannelState.handleBlock listeners c (block item)) =
        ChannelState.take listeners :=
      funext fun c => funext fun item => ChannelState.handleBlock_block listeners c item
    rw [hTake]
  have hKeeps : ∀ (front : List (Option Event)) (c : ChannelState),
      (∀ item ∈ front, item ∈ items) → (∀ code reason, some (.close code reason) ∉ front) →
      (front.foldl (ChannelState.take listeners) c).listening = c.listening := by
    intro front c hMem hOpen
    induction front generalizing c with
    | nil => rfl
    | cons item front ih =>
      rw [List.foldl_cons, ih _ (fun item h => hMem item (List.mem_cons_of_mem _ h))
        fun code reason h => hOpen code reason (List.mem_cons_of_mem _ h)]
      refine listening_take listeners (fun text hItem => hQuiet text ?_)
        fun code reason hItem => ?_
      · exact hItem ▸ hMem item List.mem_cons_self
      · exact hOpen code reason (hItem ▸ List.mem_cons_self)
  have hClosed : ∃ code reason, some (.close code reason) ∈ front := by
    by_contra hOpen
    push Not at hOpen
    rw [hTaken, hKeeps front _ (fun item h => hItems ▸ List.mem_append_left _ h) hOpen] at hDeaf
    exact Bool.false_ne_true (hDeaf.symm.trans hListening)
  obtain ⟨code, reason, hMem⟩ := hClosed
  obtain ⟨pre, post, rfl⟩ := List.append_of_mem hMem
  have hNone := hEnds pre code reason (post ++ back) (by rw [hItems, List.append_assoc]; rfl)
  rw [(List.append_eq_nil_iff.mp hNone).2, List.map_nil] at hBack
  rw [blocks_snd hBack.symm] at hRest
  exact (List.append_eq_nil_iff.mp hRest).2

theorem foldl_deaf (h : ch.listening = false) (chunks : List String) :
    chunks.foldl (Channel.receiveChunk listeners) ch = ch := by
  induction chunks with
  | nil => rfl
  | cons chunk chunks ih =>
    rw [List.foldl_cons, Channel.receiveChunk, Channel.receive, if_neg (by simp [h]), ih]

theorem foldl_receive {listeners : Listeners} {items : List (Option Event)}
    (hListening : ch.listening = true)
    (hQuiet : ∀ text, some (.data text) ∈ items → Quiet listeners text) (hEnds : EndsClosed items)
    (chunks : List String) (text : List Char)
    (hText : text ++ chunks.flatMap String.toList = frames items) :
    chunks.foldl (Channel.receiveChunk listeners) (ch.after listeners text) =
      ch.after listeners (frames items) := by
  induction chunks generalizing text with
  | nil => rw [← hText, List.flatMap_nil, List.append_nil, List.foldl_nil]
  | cons chunk chunks ih =>
    by_cases hHears : (ch.after listeners text).listening = true
    · rw [List.flatMap_cons, ← List.append_assoc] at hText
      rw [List.foldl_cons, Channel.receiveChunk, Channel.receive, if_pos hHears, ← Channel.feed,
        feed_after, ih _ hText]
    · have hDeaf := Bool.eq_false_iff.mpr hHears
      rw [foldl_deaf listeners hDeaf, ← hText,
        more_empty hListening hQuiet hEnds hText hDeaf, List.append_nil]

/-- A stream of frames, in whatever pieces it comes: `handleMessage` is handed the strings that were
sent, in their order, and `handleServerClose` finds the code and the reason of the close event. If
no message ends the channel before, it listens until the last piece. -/
theorem stream_round_trip (listeners : Listeners) (ch : Channel) (hBuffer : ch.buffer = [])
    (items : List (Option Event)) (chunks : List String)
    (hChunks : chunks.flatMap String.toList = frames items) :
    let handled := chunks.foldl (Channel.feed listeners) ch
    handled.handed = ch.handed ++ items.filterMap handedOf ∧ handled.buffer = [] ∧
      (ch.listening = true → (∀ text, some (.data text) ∈ items → Quiet listeners text) →
        EndsClosed items → chunks.foldl (Channel.receiveChunk listeners) ch = handled) := by
  have hStart := after_empty listeners hBuffer
  have hFeed := foldl_feed listeners ch [] chunks
  rw [hStart, List.nil_append, hChunks] at hFeed
  dsimp only
  rw [hFeed, after_frames]
  refine ⟨handed_foldl_take listeners _ items, rfl, fun hListening hQuiet hEnds => ?_⟩
  have hReceive := foldl_receive hListening hQuiet hEnds chunks [] hChunks
  rw [hStart, after_frames] at hReceive
  exact hReceive

def newChannel : Channel where
  readyState := .connecting
  finished := false
  listening := true
  dispatched := []
  handed := []
  streamId := "realtime-1"
  buffer := []

theorem stream_round_trip_lines :
    (["da", "ta: a\n", "data: b\n", "\n: ping\n\nevent: close\ndata: \x7b\"code\": 1013, \"reason\": \"slow",
      " consumer\"\x7d\n\n"].foldl (Channel.feed fun _ => none) newChannel).handed =
    [.message "a\nb", .serverClose (some 1013) (some "slow consumer")] := by
  have hRead := (stream_round_trip (fun _ => none) newChannel rfl
    [some (.data "a\nb"), some .ping, some (.close 1013 "slow consumer")]
    ["da", "ta: a\n", "data: b\n", "\n: ping\n\nevent: close\ndata: \x7b\"code\": 1013, \"reason\": \"slow",
      " consumer\"\x7d\n\n"] (by decide +kernel)).1
  exact hRead

end Sniff4Hound.Realtime
