import Sniff4Hound.Auth.JwtContract

/-!
# The longest life of a token

`generate_token` cuts the lifetime that is asked for down to the allowed maximum, and then lets
the extra claims of the caller replace the expiry. `token_bounded_iff` says for which requests
the token is dead by the end of the maximum: the expiry that counts has to come before it, with
the whole seconds in which the verifier reads the clock.
-/

namespace Sniff4Hound.Auth

open JwtModule

variable {φ : Type} {m : JwtModule φ} {token : String} {time : NNRat} {extra : Claims φ}

namespace JwtModule

def claim (m : JwtModule φ) (extra : Claims φ) (key : String) (default : Value) : Value :=
  (extra.lookup key).elim default m.ofJson

/-- The expiry of a token for which `expires_in` seconds are asked. -/
def claimed_exp (m : JwtModule φ) (time : NNRat) (expires_in : Int) (extra : Claims φ) : Value :=
  m.claim extra "exp" (.int (⌊time⌋₊ + m.ttl expires_in))

def claimed_nbf (m : JwtModule φ) (time : NNRat) (extra : Claims φ) : Value :=
  m.claim extra "nbf" (.int ⌊time⌋₊)

/-- A time that is there and that `int` does not read. -/
def unreadable (m : JwtModule φ) (value : Value) : Prop :=
  value ≠ .null ∧ value.toInt? m.rt = none

/-- The requests whose tokens are dead when the longest lifetime is over: no verifier takes the
issuer, the audience or a time, the expiry comes before the end of that lifetime, or the token
does not begin to be valid before it expires. -/
def Bounded (m : JwtModule φ) (time : NNRat) (expires_in : Int) (extra : Claims φ) : Prop :=
  (m.claim extra "iss" (.str JWT_ISSUER)).text m.rt ≠ JWT_ISSUER ∨
  audience_matches ((extra.lookup "aud").getD (.str JWT_AUDIENCE)) = false ∨
  m.unreadable (m.claimed_exp time expires_in extra) ∨
  m.unreadable (m.claimed_nbf time extra) ∨
  ∃ exp, (m.claimed_exp time expires_in extra).toInt? m.rt = some exp ∧
    (exp < ⌊time⌋₊ + m.JWT_MAX_TTL_SECONDS ∨
      ∃ nbf, (m.claimed_nbf time extra).toInt? m.rt = some nbf ∧
        exp + JWT_CLOCK_SKEW_SECONDS < nbf)

end JwtModule

/-! ## Clocks -/

theorem exists_later {ttl second : Nat} (h : ⌊time⌋₊ + ttl ≤ second) :
    ∃ later : NNRat, time + ttl < later ∧ ⌊later⌋₊ = second := by
  have hFloor : time < (⌊time⌋₊ : NNRat) + 1 := Nat.lt_floor_add_one time
  obtain ⟨middle, hLow, hHigh⟩ := exists_between hFloor
  obtain ⟨extra, rfl⟩ := Nat.exists_eq_add_of_le h
  have hMiddle : ⌊middle⌋₊ = ⌊time⌋₊ := by
    refine (Nat.floor_eq_iff zero_le).mpr ⟨?_, hHigh⟩
    exact (Nat.floor_le zero_le).trans hLow.le
  refine ⟨middle + (ttl + extra : Nat), ?_, ?_⟩
  · push_cast
    exact add_lt_add_of_lt_of_le hLow (le_add_of_nonneg_right zero_le)
  · rw [Nat.floor_add_natCast zero_le, hMiddle, Nat.add_assoc]

theorem floor_later {ttl : Nat} {later : NNRat} (h : time + ttl < later) :
    ⌊time⌋₊ + ttl ≤ ⌊later⌋₊ := by
  rw [← Nat.floor_add_natCast zero_le]
  exact Nat.floor_mono h.le

/-! ## Times that are checked -/

variable {value : Value}

theorem readable_cases (m : JwtModule φ) (value : Value) :
    value = .null ∨ m.unreadable value ∨ ∃ n, value.toInt? m.rt = some n := by
  by_cases hNull : value = .null
  · exact Or.inl hNull
  · rcases Option.eq_none_or_eq_some (value.toInt? m.rt) with hNone | hSome
    · exact Or.inr (Or.inl ⟨hNull, hNone⟩)
    · exact Or.inr (Or.inr hSome)

theorem time_fails_of_unreadable (fails : Int → Bool) (h : m.unreadable value) :
    m.time_fails fails value = none := by
  cases value with
  | null => exact absurd rfl h.1
  | _ => exact (congrArg (Option.map fails) h.2).trans rfl

/-! ## Minted claims -/

variable {user scope jti : String} {expires_in : Value} {seconds : Int}

def minted (m : JwtModule φ) (time : NNRat) (user scope : String) (expires_in : Int)
    (jti : String) : Claims φ :=
  [("iss", .str JWT_ISSUER), ("aud", .str JWT_AUDIENCE),
    ("user", .str (if user = "" then "operator" else user)),
    ("scope", .str (if scope = "" then "session" else scope)), ("jti", .str jti),
    ("iat", .int ⌊time⌋₊), ("nbf", .int ⌊time⌋₊), ("exp", .int (⌊time⌋₊ + m.ttl expires_in))]

theorem minted_of_generate
    (h : m.generate_token time user scope expires_in extra jti = some token) :
    ∃ seconds, expires_in.toInt? m.rt = some seconds ∧
      m.encode_jwt ((minted m time user scope seconds jti).update extra) = some token :=
  Option.bind_eq_some_iff.mp h

variable {claims : Claims φ}

theorem distinct_update (hClaims : (Json.dict claims).Distinct)
    (hExtra : Json.DistinctEntries extra) : (Json.dict (claims.update extra)).Distinct := by
  induction extra generalizing claims with
  | nil => exact hClaims
  | cons entry rest ih => exact ih (distinct_set hClaims hExtra.1 entry.1) hExtra.2

theorem short_update {digits : Nat} (hClaims : Json.ShortEntries digits claims)
    (hExtra : Json.ShortEntries digits extra) : (Json.dict (claims.update extra)).Short digits := by
  induction extra generalizing claims with
  | nil => exact hClaims
  | cons entry rest ih => exact ih (shortEntries_set hClaims hExtra.1 entry.1) hExtra.2

variable (hExtra : (Json.dict extra).Distinct)

include hExtra

theorem distinct_minted :
    (Json.dict ((minted m time user scope seconds jti).update extra)).Distinct := by
  refine distinct_update ⟨?_, ?_⟩ hExtra.2
  · rw [show Dict.keys (minted m time user scope seconds jti) =
      ["iss", "aud", "user", "scope", "jti", "iat", "nbf", "exp"] from rfl]
    decide
  · exact ⟨trivial, trivial, trivial, trivial, trivial, trivial, trivial, trivial, trivial⟩

variable {key : String} {v : Json φ}

omit hExtra in
theorem lookup_stamp_of_lookup (h : claims.lookup key = some v) :
    (stamp claims).lookup key = some v := by
  rw [lookup_stamp]
  split
  · rename_i hKey
    rw [← hKey, h]
    rfl
  split
  · rename_i hKey
    rw [← hKey, h]
    rfl
  · exact h

theorem lookup_minted (hKey : (minted m time user scope seconds jti).lookup key = some v) :
    (stamp ((minted m time user scope seconds jti).update extra)).lookup key =
      some ((extra.lookup key).getD v) := by
  refine lookup_stamp_of_lookup ?_
  rw [Dict.lookup_update _ hExtra.1, hKey]
  cases extra.lookup key with
  | none => rfl
  | some found => rfl

theorem get_minted (hKey : (minted m time user scope seconds jti).lookup key = some v) :
    m.get (stamp ((minted m time user scope seconds jti).update extra)) key =
      m.claim extra key (m.ofJson v) := by
  rw [JwtModule.get, lookup_minted hExtra hKey, JwtModule.claim]
  cases extra.lookup key with
  | none => rfl
  | some found => rfl

theorem minted_hold_iff (second : Nat) :
    (∃ revoked, m.claims_hold revoked second
      (stamp ((minted m time user scope seconds jti).update extra)) = some true) ↔
    (m.claim extra "iss" (.str JWT_ISSUER)).text m.rt = JWT_ISSUER ∧
    audience_matches ((extra.lookup "aud").getD (.str JWT_AUDIENCE)) = true ∧
    m.time_fails (fun exp => exp < second) (m.claimed_exp time seconds extra) = some false ∧
    m.time_fails (fun nbf => nbf > second + JWT_CLOCK_SKEW_SECONDS) (m.claimed_nbf time extra) =
      some false := by
  have hAud : (stamp ((minted m time user scope seconds jti).update extra)).lookup "aud" =
      some ((extra.lookup "aud").getD (.str JWT_AUDIENCE)) := lookup_minted hExtra rfl
  have hIss : m.get (stamp ((minted m time user scope seconds jti).update extra)) "iss" =
      m.claim extra "iss" (.str JWT_ISSUER) := get_minted (v := .str JWT_ISSUER) hExtra rfl
  have hExp : m.get (stamp ((minted m time user scope seconds jti).update extra)) "exp" =
      m.claimed_exp time seconds extra :=
    get_minted (v := .int (⌊time⌋₊ + m.ttl seconds)) hExtra rfl
  have hNbf : m.get (stamp ((minted m time user scope seconds jti).update extra)) "nbf" =
      m.claimed_nbf time extra := get_minted (v := .int ⌊time⌋₊) hExtra rfl
  simp only [claims_hold_iff, hAud, hIss, hExp, hNbf, Option.getD_some]
  constructor
  · rintro ⟨revoked, hText, hMatch, hLive, hBegun, -⟩
    exact ⟨hText, hMatch, hLive, hBegun⟩
  · rintro ⟨hText, hMatch, hLive, hBegun⟩
    refine ⟨[], hText, hMatch, hLive, hBegun, ?_⟩
    simp [is_jwt_revoked]

omit hExtra

theorem bounded_iff (user scope jti : String) (hExtra : (Json.dict extra).Distinct) :
    m.Bounded time seconds extra ↔ ∀ second : Nat, ⌊time⌋₊ + m.JWT_MAX_TTL_SECONDS ≤ second →
      ∀ revoked, m.claims_hold revoked second
        (stamp ((minted m time user scope seconds jti).update extra)) ≠ some true := by
  constructor
  · intro hBounded second hSecond revoked hHold
    obtain ⟨hIss, hAud, hExp, hNbf⟩ := (minted_hold_iff hExtra second).mp ⟨revoked, hHold⟩
    rcases hBounded with h | h | h | h | ⟨exp, hInt, h⟩
    · exact h hIss
    · rw [h] at hAud
      cases hAud
    · rw [time_fails_of_unreadable _ h] at hExp
      cases hExp
    · rw [time_fails_of_unreadable _ h] at hNbf
      cases hNbf
    · rw [time_fails_of_int _ hInt, Option.some.injEq, decide_eq_false_iff_not] at hExp
      rcases h with hEarly | ⟨nbf, hInt', hLate⟩
      · omega
      · rw [time_fails_of_int _ hInt', Option.some.injEq, decide_eq_false_iff_not] at hNbf
        omega
  · intro hDead
    by_contra hNot
    simp only [JwtModule.Bounded, not_or, not_exists, not_and, not_not, Bool.not_eq_false,
      not_lt] at hNot
    obtain ⟨hIss, hAud, hExp, hNbf, hTimes⟩ := hNot
    -- the second in which the token expires, or for want of an expiry a late one
    have hLive : ∃ second : Nat, ⌊time⌋₊ + m.JWT_MAX_TTL_SECONDS ≤ second ∧
        m.time_fails (fun exp => exp < second) (m.claimed_exp time seconds extra) = some false ∧
        ∀ nbf, (m.claimed_nbf time extra).toInt? m.rt = some nbf →
          nbf ≤ second + JWT_CLOCK_SKEW_SECONDS := by
      rcases readable_cases m (m.claimed_exp time seconds extra) with hNull | h | ⟨exp, hInt⟩
      · rcases Option.eq_none_or_eq_some ((m.claimed_nbf time extra).toInt? m.rt) with
          hNone | ⟨nbf, hSome⟩
        · refine ⟨_, le_rfl, by rw [hNull]; rfl, ?_⟩
          rw [hNone]
          rintro _ ⟨⟩
        · refine ⟨⌊time⌋₊ + m.JWT_MAX_TTL_SECONDS + nbf.toNat, Nat.le_add_right _ _,
            by rw [hNull]; rfl, ?_⟩
          rw [hSome]
          rintro _ ⟨⟩
          have hFit := Int.self_le_toNat nbf
          omega
      · exact absurd h hExp
      · obtain ⟨hLong, hBegun⟩ := hTimes exp hInt
        refine ⟨exp.toNat, by omega, ?_, ?_⟩
        · rw [time_fails_of_int _ hInt, decide_eq_false (by omega)]
        · intro nbf hNbf'
          have hLe := hBegun nbf hNbf'
          omega
    obtain ⟨second, hSecond, hLive, hBegun⟩ := hLive
    have hBegins : m.time_fails (fun nbf => nbf > second + JWT_CLOCK_SKEW_SECONDS)
        (m.claimed_nbf time extra) = some false := by
      rcases readable_cases m (m.claimed_nbf time extra) with hNull | h | ⟨nbf, hInt⟩
      · rw [hNull]
        rfl
      · exact absurd h hNbf
      · rw [time_fails_of_int _ hInt, decide_eq_false (not_lt.mpr (hBegun nbf hInt))]
    obtain ⟨revoked, hHold⟩ := (minted_hold_iff hExtra second).mpr ⟨hIss, hAud, hLive, hBegins⟩
    exact hDead second hSecond revoked hHold

theorem decode_minted (hExtra : (Json.dict extra).Distinct)
    (hEncode : m.encode_jwt ((minted m time user scope seconds jti).update extra) = some token)
    (revoked : List String) (later : NNRat) :
    m.decode_jwt revoked later (some token) = none ↔ m.claims_hold revoked ⌊later⌋₊
      (stamp ((minted m time user scope seconds jti).update extra)) ≠ some true := by
  rw [decode_encode (distinct_minted hExtra) hEncode]
  split
  · rename_i hHold
    exact iff_of_false (Option.some_ne_none _) (not_not.mpr hHold)
  · rename_i hHold
    exact iff_of_true rfl hHold

theorem exists_token (hSeconds : expires_in.toInt? m.rt = some seconds)
    (hMinted : Json.ShortEntries INT_MAX_STR_DIGITS (minted m time user scope seconds jti))
    (hExtra : Json.ShortEntries INT_MAX_STR_DIGITS extra) :
    ∃ token, m.generate_token time user scope expires_in extra jti = some token ∧
      m.encode_jwt ((minted m time user scope seconds jti).update extra) = some token := by
  obtain ⟨token, hToken⟩ := Option.isSome_iff_exists.mp
    ((encode_isSome_iff (m := m)).mpr (stamp_short (short_update hMinted hExtra)))
  refine ⟨token, ?_, hToken⟩
  rw [generate_token, hSeconds]
  exact hToken

theorem short_minted_start (user scope jti : String) :
    Json.ShortEntries INT_MAX_STR_DIGITS (minted plainModule 0 user scope 3600 jti) := by
  have hSmall : ∀ i : Int, i.natAbs < 10 ^ 4 → i.natAbs < 10 ^ INT_MAX_STR_DIGITS := fun i hi =>
    hi.trans_le (Nat.pow_le_pow_right (by decide) (by decide))
  have hFloor : ⌊(0 : NNRat)⌋₊ = 0 := Nat.floor_zero
  rw [minted, hFloor]
  exact ⟨trivial, trivial, trivial, trivial, trivial, hSmall _ (by decide), hSmall _ (by decide),
    hSmall _ (by decide), trivial⟩

/-- The token of a request is dead when the longest lifetime is over just when the request is
bounded. -/
theorem token_bounded_iff (hExtra : (Json.dict extra).Distinct)
    (hSeconds : expires_in.toInt? m.rt = some seconds)
    (hToken : m.generate_token time user scope expires_in extra jti = some token) :
    (∀ later : NNRat, time + m.JWT_MAX_TTL_SECONDS < later →
      ∀ revoked, m.decode_jwt revoked later (some token) = none) ↔
    m.Bounded time seconds extra := by
  obtain ⟨seconds', hSeconds', hEncode⟩ := minted_of_generate hToken
  rw [hSeconds] at hSeconds'
  cases hSeconds'
  rw [bounded_iff user scope jti hExtra]
  constructor
  · intro hDead second hSecond revoked
    obtain ⟨later, hLater, hFloor⟩ := exists_later hSecond
    rw [← hFloor]
    exact (decode_minted hExtra hEncode revoked later).mp (hDead later hLater revoked)
  · intro hDead later hLater revoked
    exact (decode_minted hExtra hEncode revoked later).mpr
      (hDead _ (floor_later hLater) revoked)

theorem token_bounded_hour : ∃ token, plainModule.generate_token 0 "operator" "session" (.int 3600)
      [] "00ff" = some token ∧ ∀ later : NNRat, 0 + ((86400 : Nat) : NNRat) < later →
        ∀ revoked, plainModule.decode_jwt revoked later (some token) = none := by
  have hExtra : (Json.dict [] : Json Unit).Distinct := ⟨List.nodup_nil, trivial⟩
  obtain ⟨token, hToken, -⟩ : ∃ token, plainModule.generate_token 0 "operator" "session"
      (.int 3600) [] "00ff" = some token ∧ _ :=
    exists_token rfl (short_minted_start "operator" "session" "00ff") trivial
  have hFloor : ⌊(0 : NNRat)⌋₊ = 0 := Nat.floor_zero
  refine ⟨token, hToken, (token_bounded_iff hExtra rfl hToken).mpr ?_⟩
  refine Or.inr (Or.inr (Or.inr (Or.inr ⟨_, rfl, Or.inl ?_⟩)))
  rw [hFloor]
  decide

/-- A caller that asks for no expiry gets a token that is accepted for ever. -/
theorem unexpiring_token : ∃ token later, plainModule.generate_token 0 "operator" "session"
      (.int 3600) [("exp", .null)] "00ff" = some token ∧
    (0 : NNRat) + ((86400 : Nat) : NNRat) < later ∧
    ∃ revoked, plainModule.decode_jwt revoked later (some token) ≠ none := by
  have hExtra : (Json.dict [("exp", .null)] : Json Unit).Distinct := ⟨by decide, trivial, trivial⟩
  obtain ⟨token, hToken, hEncode⟩ : ∃ token, plainModule.generate_token 0 "operator" "session"
      (.int 3600) [("exp", .null)] "00ff" = some token ∧ _ :=
    exists_token rfl (short_minted_start "operator" "session" "00ff") ⟨trivial, trivial⟩
  have hFloor : ⌊(0 : NNRat)⌋₊ = 0 := Nat.floor_zero
  obtain ⟨later, hLater, hSecond⟩ :
      ∃ later : NNRat, 0 + ((86400 : Nat) : NNRat) < later ∧ ⌊later⌋₊ = 86400 :=
    exists_later (by rw [hFloor])
  have hNbf : plainModule.time_fails (fun nbf => nbf > (86400 : Nat) + JWT_CLOCK_SKEW_SECONDS)
      (plainModule.claimed_nbf 0 [("exp", .null)]) = some false := by
    rw [claimed_nbf, hFloor]
    rfl
  obtain ⟨revoked, hHold⟩ := (minted_hold_iff hExtra 86400).mpr ⟨rfl, rfl, rfl, hNbf⟩
  refine ⟨token, later, hToken, hLater, revoked, ?_⟩
  rw [Ne, decode_minted hExtra hEncode, hSecond, not_not]
  exact hHold

end Sniff4Hound.Auth
