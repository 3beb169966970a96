import Sniff4Hound.Auth.Jwt
import Sniff4Hound.Library.JsonRoundTrip

/-!
# What a token proves, and for how long

Each layer of a token is taken apart again: segments, base64, UTF-8 and JSON. So the verifier sees
the claims that were minted (`decode_encode`), and what it accepts carries the signature of its
own text (`decode_signed`). How long a minted token is accepted is decided by the last value of
`exp`, wherever it came from.

* `token_faithful`: both, for every dictionary of claims and every text.
-/

namespace Sniff4Hound.Auth

open JwtModule

variable {φ : Type} {m : JwtModule φ} {s token : String}

/-! ## Segments -/

theorem decodeUtf8_encodeUtf8 (s : String) : decodeUtf8 (encodeUtf8 s) = some s := by
  have hBytes : (⟨(encodeUtf8 s).toArray⟩ : ByteArray) = s.toByteArray := by
    rw [encodeUtf8, Array.toArray_toList]
  have hValid : s.toByteArray.IsValidUTF8 := s.isValidUTF8
  rw [decodeUtf8, hBytes, String.fromUTF8?, dif_pos hValid]
  rfl

theorem of_mem_b64url_encode {c : Char} {data : Bytes} (h : c ∈ (b64url_encode data).toList) :
    c.toNat < 128 ∧ c ≠ '.' := by
  rw [b64url_encode, String.toList_ofList] at h
  obtain ⟨n, rfl⟩ := Base64.mem_encode h
  exact Base64.forall_symbol (P := fun c => c.toNat < 128 ∧ c ≠ '.') (by decide) n

theorem isascii_b64url_encode (data : Bytes) : isascii (b64url_encode data) = true := by
  rw [isascii, List.all_eq_true]
  intro c hc
  exact decide_eq_true (of_mem_b64url_encode hc).1

theorem dot_notMem_b64url_encode (data : Bytes) : '.' ∉ (b64url_encode data).toList :=
  fun h => (of_mem_b64url_encode h).2 rfl

theorem b64url_decode_encode (data : Bytes) : b64url_decode (b64url_encode data) = some data := by
  rw [b64url_decode, if_pos (isascii_b64url_encode data), b64url_encode, String.toList_ofList,
    Base64.decode_encode]

theorem load_segment_encode {claims : Claims φ} {text : String}
    (hDistinct : (Json.dict claims).Distinct)
    (hText : Json.dumps m.codec (.dict claims) = some text) :
    m.load_segment (b64url_encode (encodeUtf8 text)) = some claims := by
  have hRead := Json.loads_dumps hDistinct hText
  simp only [load_segment, b64url_decode_encode, Option.bind_eq_bind, Option.bind_some,
    decodeUtf8_encodeUtf8, hRead]

theorem splitAtMost_append {sep : Char} {front : List Char} (h : sep ∉ front) (n : Nat)
    (back : List Char) : splitAtMost sep (n + 1) (front ++ sep :: back) =
      String.ofList front :: splitAtMost sep n back := by
  have hFront : ∀ c ∈ front, decide (c ≠ sep) = true := by
    rintro c hc
    exact decide_eq_true fun hEq => h (hEq ▸ hc)
  rw [splitAtMost, List.dropWhile_append_of_pos hFront, List.takeWhile_append_of_pos hFront,
    List.dropWhile_cons_of_neg (by simp), List.takeWhile_cons_of_neg (by simp), List.append_nil]

theorem eq_of_splitAtMost {sep : Char} {n : Nat} {chars : List Char} {part next : String}
    {more : List String} (h : splitAtMost sep (n + 1) chars = part :: next :: more) :
    ∃ back, chars = part.toList ++ sep :: back ∧ sep ∉ part.toList ∧
      splitAtMost sep n back = next :: more := by
  rw [splitAtMost] at h
  cases hDrop : chars.dropWhile (· ≠ sep) with
  | nil =>
    rw [hDrop] at h
    cases h
  | cons c back =>
    rw [hDrop] at h
    obtain ⟨hPart, hMore⟩ := List.cons.inj h
    have hSep : c = sep := by
      have hStop := List.head_dropWhile_not (· ≠ sep) (l := chars) (by rw [hDrop]; simp)
      simp only [hDrop] at hStop
      exact not_not.mp (of_decide_eq_false hStop)
    refine ⟨back, ?_, ?_, hMore⟩
    · rw [← hPart, String.toList_ofList, ← hSep, ← hDrop, hSep]
      exact (List.takeWhile_append_dropWhile).symm
    · rw [← hPart, String.toList_ofList]
      intro hMem
      have hKept := List.all_takeWhile (p := (· ≠ sep)) (l := chars)
      rw [List.all_eq_true] at hKept
      exact of_decide_eq_true (hKept sep hMem) rfl

/-! ## The key id -/

theorem toList_join_empty (parts : List String) :
    (join "" parts).toList = parts.flatMap String.toList := by
  induction parts with
  | nil => rfl
  | cons part rest ih =>
    cases rest with
    | nil => simp [join]
    | cons next rest =>
      rw [show join "" (part :: next :: rest) = part ++ "" ++ join "" (next :: rest) from rfl,
        String.toList_append, String.toList_append, ih, List.flatMap_cons]
      simp

theorem hexDigit_ascii (n : Nat) : (hexDigit n).toNat < 128 := by
  by_cases hSmall : n < 16
  · revert hSmall
    revert n
    decide
  · rw [hexDigit, List.getD_eq_getElem?_getD,
      List.getElem?_eq_none (Nat.not_lt.mp hSmall)]
    decide

theorem isascii_key_id : isascii m.JWT_KEY_ID = true := by
  rw [isascii, List.all_eq_true]
  intro c hc
  rw [JWT_KEY_ID, slice, String.toList_ofList, Bytes.hex, toList_join_empty,
    List.flatMap_map] at hc
  obtain ⟨b, -, hDigit⟩ := List.mem_flatMap.mp (List.mem_of_mem_take hc)
  rw [hexByte, String.toList_ofList, List.mem_cons, List.mem_singleton] at hDigit
  refine decide_eq_true ?_
  rcases hDigit with rfl | rfl
  · exact hexDigit_ascii _
  · exact hexDigit_ascii _

theorem key_id_ne_empty : m.JWT_KEY_ID ≠ "" := by
  have hLength := m.hashes.length_sha256 m.SIGNING_KEY
  intro hEmpty
  have hList := congrArg String.toList hEmpty
  rw [JWT_KEY_ID, slice, String.toList_ofList, Bytes.hex, toList_join_empty] at hList
  cases hData : m.hashes.sha256 m.SIGNING_KEY with
  | nil =>
    rw [hData] at hLength
    cases hLength
  | cons b rest =>
    rw [hData, List.map_cons, List.flatMap_cons, hexByte, String.toList_ofList] at hList
    cases hList

theorem header_names_header : m.header_names m.header = some true := by
  have hAlg : (m.get m.header "alg").text m.rt = JWT_ALGORITHM := text_str m.rt _
  have hKid : (m.get m.header "kid").text m.rt = m.JWT_KEY_ID := text_str m.rt _
  rw [header_names, hAlg, if_neg (not_not.mpr rfl), hKid]
  dsimp only
  rw [if_neg key_id_ne_empty, compare_digest, isascii_key_id, Bool.and_self, if_pos rfl,
    decide_eq_true rfl]

theorem header_distinct : (Json.dict m.header).Distinct := by
  refine ⟨?_, trivial, trivial, trivial, trivial⟩
  rw [show Dict.keys m.header = ["alg", "typ", "kid"] from rfl]
  decide

theorem dumps_header : ∃ text, Json.dumps m.codec (.dict m.header) = some text :=
  Option.isSome_iff_exists.mp
    ((Json.dumps_isSome_iff _).mpr ⟨trivial, trivial, trivial, trivial⟩)

/-! ## Claims -/

variable {revoked : List String} {time : NNRat} {now : Nat} {claims payload : Claims φ}

theorem lookup_setdefault (claims : Claims φ) (key key' : String) (v : Json φ) :
    (setdefault claims key v).lookup key' =
      if key' = key then some ((claims.lookup key).getD v) else claims.lookup key' := by
  rw [setdefault]
  split
  · rename_i hHas
    obtain ⟨found, hFound⟩ := Option.isSome_iff_exists.mp hHas
    split
    · rename_i hKey
      rw [hKey, hFound]
      rfl
    · rfl
  · rename_i hNew
    rw [Dict.lookup_set, Option.not_isSome_iff_eq_none.mp hNew]
    rfl

theorem lookup_stamp (claims : Claims φ) (key : String) : (stamp claims).lookup key =
    if key = "aud" then some ((claims.lookup "aud").getD (.str JWT_AUDIENCE))
    else if key = "iss" then some ((claims.lookup "iss").getD (.str JWT_ISSUER))
    else claims.lookup key := by
  rw [stamp, lookup_setdefault, lookup_setdefault, lookup_setdefault,
    if_neg (show "aud" ≠ "iss" by decide)]

theorem get_stamp {key : String} (hIss : key ≠ "iss") (hAud : key ≠ "aud") :
    m.get (stamp claims) key = m.get claims key := by
  rw [JwtModule.get, JwtModule.get, lookup_stamp, if_neg hAud, if_neg hIss]

theorem distinctEntries_set {v : Json φ} (hClaims : Json.DistinctEntries claims)
    (hValue : v.Distinct) (key : String) : Json.DistinctEntries (claims.set key v) := by
  induction claims with
  | nil => exact ⟨hValue, trivial⟩
  | cons entry rest ih =>
    obtain ⟨k, item⟩ := entry
    rw [Dict.set]
    split
    · exact ⟨hValue, hClaims.2⟩
    · exact ⟨hClaims.1, ih hClaims.2⟩

theorem distinct_set {v : Json φ} (hClaims : (Json.dict claims).Distinct) (hValue : v.Distinct)
    (key : String) : (Json.dict (claims.set key v)).Distinct :=
  ⟨Dict.nodup_keys_set hClaims.1 key v, distinctEntries_set hClaims.2 hValue key⟩

theorem shortEntries_set {v : Json φ} {digits : Nat} (hClaims : Json.ShortEntries digits claims)
    (hValue : v.Short digits) (key : String) : Json.ShortEntries digits (claims.set key v) := by
  induction claims with
  | nil => exact ⟨hValue, trivial⟩
  | cons entry rest ih =>
    obtain ⟨k, item⟩ := entry
    rw [Dict.set]
    split
    · exact ⟨hValue, hClaims.2⟩
    · exact ⟨hClaims.1, ih hClaims.2⟩

theorem stamp_distinct (h : (Json.dict claims).Distinct) :
    (Json.dict (stamp claims)).Distinct := by
  have hDefault : ∀ {d : Claims φ} {key : String} {s : String}, (Json.dict d).Distinct →
      (Json.dict (setdefault d key (.str s))).Distinct := by
    intro d key s hd
    rw [setdefault]
    split
    · exact hd
    · exact distinct_set (v := .str s) hd trivial key
  exact hDefault (hDefault h)

theorem stamp_short {digits : Nat} (h : (Json.dict claims).Short digits) :
    (Json.dict (stamp claims)).Short digits := by
  have hDefault : ∀ {d : Claims φ} {key : String} {s : String}, Json.ShortEntries digits d →
      Json.ShortEntries digits (setdefault d key (.str s)) := by
    intro d key s hd
    rw [setdefault]
    split
    · exact hd
    · exact shortEntries_set (v := .str s) hd trivial key
  exact hDefault (hDefault h)

theorem claims_hold_iff : m.claims_hold revoked now claims = some true ↔
    (m.get claims "iss").text m.rt = JWT_ISSUER ∧
    audience_matches ((claims.lookup "aud").getD .null) = true ∧
    m.time_fails (fun exp => exp < now) (m.get claims "exp") = some false ∧
    m.time_fails (fun nbf => nbf > now + JWT_CLOCK_SKEW_SECONDS) (m.get claims "nbf") =
      some false ∧
    m.is_jwt_revoked revoked (m.get claims "jti") = false := by
  rw [claims_hold]
  by_cases hIss : (m.get claims "iss").text m.rt = JWT_ISSUER
  · rw [if_neg (not_not.mpr hIss)]
    cases audience_matches ((claims.lookup "aud").getD .null) with
    | false => simp
    | true =>
      rcases m.time_fails (fun exp => exp < now) (m.get claims "exp") with _ | _ | _
      · simp
      · rcases m.time_fails (fun nbf => nbf > now + JWT_CLOCK_SKEW_SECONDS)
          (m.get claims "nbf") with _ | _ | _
        · simp
        · simp [hIss]
        · simp
      · simp
  · simp [hIss]

/-! ## Tokens -/

theorem decode_jwt_segments {head body : String} (hHead : '.' ∉ head.toList)
    (hBody : '.' ∉ body.toList) (signature : String) :
    m.decode_jwt revoked time (some (head ++ "." ++ body ++ "." ++ signature)) = (do
      let header ← m.load_segment head
      if (← m.header_names header) = false then none
      else if (← compare_digest signature (m.jwt_sign (head ++ "." ++ body))) = false then none
      else do
        let payload ← m.load_segment body
        if (← m.claims_hold revoked ⌊time⌋₊ payload) = false then none else some payload) := by
  have hSplit : splitAtMost '.' 2 (head ++ "." ++ body ++ "." ++ signature).toList =
      [head, body, signature] := by
    have hDot : ".".toList = ['.'] := rfl
    simp only [String.toList_append, hDot, List.append_assoc, List.nil_append,
      List.cons_append]
    rw [splitAtMost_append hHead, splitAtMost_append hBody, splitAtMost]
    simp only [String.ofList_toList]
  rw [decode_jwt, Option.getD_some, hSplit]

theorem isascii_jwt_sign (s : String) : isascii (m.jwt_sign s) = true := isascii_b64url_encode _

theorem decode_encode (hDistinct : (Json.dict payload).Distinct)
    (h : m.encode_jwt payload = some token) (revoked : List String) (time : NNRat) :
    m.decode_jwt revoked time (some token) =
      if m.claims_hold revoked ⌊time⌋₊ (stamp payload) = some true then some (stamp payload)
      else none := by
  rw [encode_jwt] at h
  simp only [Option.bind_eq_bind, Option.bind_eq_some_iff, Option.some.injEq] at h
  obtain ⟨header, hHeader, body, hBody, rfl⟩ := h
  rw [decode_jwt_segments (dot_notMem_b64url_encode _) (dot_notMem_b64url_encode _),
    load_segment_encode header_distinct hHeader,
    load_segment_encode (stamp_distinct hDistinct) hBody]
  simp only [Option.bind_eq_bind, Option.bind_some, header_names_header, compare_digest,
    isascii_jwt_sign, Bool.and_self, if_true, decide_true, Bool.true_eq_false, if_false]
  rcases m.claims_hold revoked ⌊time⌋₊ (stamp payload) with _ | _ | _
  · rfl
  · rfl
  · rfl

theorem encode_isSome_iff :
    (m.encode_jwt payload).isSome ↔ (Json.dict (stamp payload)).Short INT_MAX_STR_DIGITS := by
  obtain ⟨header, hHeader⟩ := dumps_header (m := m)
  rw [encode_jwt, hHeader, ← m.codec_digits, ← Json.dumps_isSome_iff]
  cases Json.dumps m.codec (.dict (stamp payload)) with
  | none => simp
  | some text => simp

theorem of_checked {α : Type} {check : Option Bool} {next : Option α} {result : α}
    (h : (check.bind fun held => if held = false then none else next) = some result) :
    check = some true ∧ next = some result := by
  rcases check with _ | _ | _
  · cases h
  · cases h
  · exact ⟨rfl, h⟩

theorem eq_of_compare_digest {a b : String} (h : compare_digest a b = some true) : a = b := by
  rw [compare_digest] at h
  split at h
  · exact of_decide_eq_true (Option.some.inj h)
  · cases h

theorem of_header_names {header : Claims φ} (h : m.header_names header = some true) :
    (m.get header "alg").text m.rt = JWT_ALGORITHM ∧
      (m.get header "kid").text m.rt = m.JWT_KEY_ID := by
  rw [header_names] at h
  split at h
  · cases h
  rename_i hAlg
  dsimp only at h
  split at h
  · cases h
  · exact ⟨not_not.mp hAlg, eq_of_compare_digest h⟩

theorem decode_signed (h : m.decode_jwt revoked time (some s) = some claims) :
    ∃ head body header, s = head ++ "." ++ body ++ "." ++ m.jwt_sign (head ++ "." ++ body) ∧
      '.' ∉ head.toList ∧ '.' ∉ body.toList ∧ m.load_segment head = some header ∧
      (m.get header "alg").text m.rt = JWT_ALGORITHM ∧
      (m.get header "kid").text m.rt = m.JWT_KEY_ID ∧ m.load_segment body = some claims := by
  have hAccept := h
  rw [decode_jwt, Option.getD_some] at h
  split at h
  · rename_i head body signature hSplit
    obtain ⟨back, hChars, hHead, hRest⟩ := eq_of_splitAtMost hSplit
    obtain ⟨tail, hBack, hBody, hTail⟩ := eq_of_splitAtMost hRest
    rw [splitAtMost, List.cons.injEq] at hTail
    have hText : s = head ++ "." ++ body ++ "." ++ signature := by
      rw [← String.toList_inj, hChars, hBack, ← hTail.1]
      simp only [String.toList_append, String.toList_ofList, show ".".toList = ['.'] from rfl,
        List.append_assoc, List.nil_append, List.cons_append]
    rw [hText, decode_jwt_segments hHead hBody] at hAccept
    obtain ⟨header, hHeader, hAccept⟩ := Option.bind_eq_some_iff.mp hAccept
    obtain ⟨hNamed, hAccept⟩ := of_checked hAccept
    obtain ⟨hSame, hAccept⟩ := of_checked hAccept
    obtain ⟨payload, hPayload, hAccept⟩ := Option.bind_eq_some_iff.mp hAccept
    obtain ⟨-, hPayload'⟩ := of_checked hAccept
    cases hPayload'
    have hSignature := eq_of_compare_digest hSame
    obtain ⟨hAlg, hKid⟩ := of_header_names hNamed
    rw [hSignature] at hText
    exact ⟨head, body, header, hText, hHead, hBody, hHeader, hAlg, hKid, hPayload⟩
  · cases h

/-! ## The round trip -/

/-- What `decode_jwt` asks of the claims; a claim that is absent is no obstacle. -/
structure Acceptable (m : JwtModule φ) (revoked : List String) (time : NNRat)
    (claims : Claims φ) : Prop where
  exp : m.get claims "exp" = .null ∨
    ∃ exp, (m.get claims "exp").toInt? m.rt = some exp ∧ ⌊time⌋₊ ≤ exp
  nbf : m.get claims "nbf" = .null ∨
    ∃ nbf, (m.get claims "nbf").toInt? m.rt = some nbf ∧
      nbf ≤ (⌊time⌋₊ : Int) + JWT_CLOCK_SKEW_SECONDS
  iss : (claims.lookup "iss").isSome → (m.get claims "iss").text m.rt = JWT_ISSUER
  aud : ∀ aud, claims.lookup "aud" = some aud → audience_matches aud = true
  jti : m.is_jwt_revoked revoked (m.get claims "jti") = false

theorem time_fails_of_int {value : Value} {n : Int} (fails : Int → Bool)
    (h : value.toInt? m.rt = some n) : m.time_fails fails value = some (fails n) := by
  cases value with
  | null => cases h
  | _ => exact (congrArg (Option.map fails) h).trans rfl

theorem Acceptable.claims_hold (h : Acceptable m revoked time claims) :
    m.claims_hold revoked ⌊time⌋₊ (stamp claims) = some true := by
  have hExp : m.get (stamp claims) "exp" = m.get claims "exp" := get_stamp (by decide) (by decide)
  have hNbf : m.get (stamp claims) "nbf" = m.get claims "nbf" := get_stamp (by decide) (by decide)
  have hJti : m.get (stamp claims) "jti" = m.get claims "jti" := get_stamp (by decide) (by decide)
  rw [claims_hold_iff, hExp, hNbf, hJti]
  refine ⟨?_, ?_, ?_, ?_, h.jti⟩
  · rw [JwtModule.get, lookup_stamp, if_neg (by decide), if_pos rfl, Option.getD_some]
    cases hIss : claims.lookup "iss" with
    | none => exact text_str m.rt _
    | some iss =>
      have hText := h.iss (by rw [hIss]; rfl)
      rw [JwtModule.get, hIss] at hText
      exact hText
  · rw [lookup_stamp, if_pos rfl, Option.getD_some]
    cases hAud : claims.lookup "aud" with
    | none => rfl
    | some aud => exact h.aud aud hAud
  · rcases h.exp with hNull | ⟨exp, hInt, hLater⟩
    · rw [hNull]
      rfl
    · rw [time_fails_of_int _ hInt, decide_eq_false (not_lt.mpr hLater)]
  · rcases h.nbf with hNull | ⟨nbf, hInt, hEarlier⟩
    · rw [hNull]
      rfl
    · rw [time_fails_of_int _ hInt, decide_eq_false (not_lt.mpr hEarlier)]

/-- A dictionary whose integers can be written comes back from its token, and whatever token is
accepted was signed as it stands. -/
theorem token_faithful (m : JwtModule φ) (revoked : List String) (time : NNRat) :
    (∀ claims : Claims φ, (Json.dict claims).Distinct →
      (Json.dict claims).Short INT_MAX_STR_DIGITS → Acceptable m revoked time claims →
      ∃ token, m.encode_jwt claims = some token ∧
        m.decode_jwt revoked time (some token) = some (stamp claims)) ∧
    ∀ s claims, m.decode_jwt revoked time (some s) = some claims →
      ∃ head body header, s = head ++ "." ++ body ++ "." ++
          b64url_encode (m.hashes.hmac_sha256 m.SIGNING_KEY (encodeUtf8 (head ++ "." ++ body))) ∧
        '.' ∉ head.toList ∧ '.' ∉ body.toList ∧ m.load_segment head = some header ∧
        (m.get header "alg").text m.rt = "HS256" ∧
        (m.get header "kid").text m.rt = m.JWT_KEY_ID ∧ m.load_segment body = some claims := by
  refine ⟨?_, fun s claims h => decode_signed h⟩
  intro claims hDistinct hShort hAcceptable
  obtain ⟨token, hToken⟩ :=
    Option.isSome_iff_exists.mp (encode_isSome_iff (m := m).mpr (stamp_short hShort))
  refine ⟨token, hToken, ?_⟩
  rw [decode_encode hDistinct hToken, if_pos hAcceptable.claims_hold]

/-- An installation whose floats are all `nan`, with hashes that can be followed by hand. -/
def plainModule : JwtModule Unit where
  rt := .ascii
  codec :=
    { maxDigits := INT_MAX_STR_DIGITS
      write _ := "NaN".toList
      read _ := ()
      nan := ()
      infinity := ()
      negInfinity := ()
      maxDigits_pos := by decide
      write_spec _ := Or.inr (Or.inl ⟨rfl, rfl⟩) }
  float_value _ := none
  float_text _ := "nan"
  hashes :=
    { hmac_sha256 key message := (key ++ message).take 32
      sha256 data := (data ++ List.replicate 32 0).take 32
      length_sha256 data := by
        rw [List.length_take, List.length_append, List.length_replicate]
        omega }
  JWT_SECRET := "secret"
  JWT_MAX_TTL_SECONDS := 86400
  codec_digits := rfl
  ttl_bound := by decide

theorem token_faithful_session : ∃ token,
    plainModule.encode_jwt [("user", .str "operator"), ("exp", .int 100)] = some token ∧
    plainModule.decode_jwt [] 50 (some token) = some [("user", .str "operator"), ("exp", .int 100),
      ("iss", .str "sniff4hound"), ("aud", .str "sniff4hound-api")] := by
  refine (token_faithful plainModule [] 50).1 _ ⟨by decide, trivial, trivial, trivial⟩
    ⟨trivial, ?_, trivial⟩ ⟨Or.inr ⟨100, rfl, ?_⟩, Or.inl rfl, ?_, ?_, rfl⟩
  · calc (100 : Nat) < 10 ^ 3 := by decide
      _ ≤ 10 ^ INT_MAX_STR_DIGITS := Nat.pow_le_pow_right (by decide) (by decide)
  · have hFloor : ⌊(50 : NNRat)⌋₊ = 50 := Nat.floor_ofNat 50
    rw [hFloor]
    decide
  · intro h
    cases h
  · intro aud h
    cases h

/-- An integer of more digits than the interpreter writes makes no token. -/
theorem long_claim_unwritten : ∃ claims : Claims Unit, (Json.dict claims).Distinct ∧
    Acceptable plainModule [] 50 claims ∧ plainModule.encode_jwt claims = none := by
  refine ⟨[("serial", .int (10 ^ INT_MAX_STR_DIGITS))], ⟨by decide, trivial, trivial⟩,
    ⟨Or.inl rfl, Or.inl rfl, ?_, ?_, rfl⟩, ?_⟩
  · intro h
    cases h
  · intro aud h
    cases h
  · rw [← Option.not_isSome_iff_eq_none, encode_isSome_iff]
    rintro ⟨hShort, -⟩
    have hAbs : ∀ digits : Nat, ((10 : Int) ^ digits).natAbs = 10 ^ digits :=
      fun digits => Int.natAbs_pow 10 digits
    rw [Json.Short, hAbs] at hShort
    exact lt_irrefl _ hShort

end Sniff4Hound.Auth
