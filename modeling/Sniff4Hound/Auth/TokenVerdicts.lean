import Sniff4Hound.Auth.GuardRuns

/-!
# Verdicts on the texts that clients present

`verify_token` compares the stripped text with the session code outside of any exception guard, and
`compare_digest` takes ASCII texts only. So a text that is not ASCII raises (`accented_raises`), where
`decode_jwt` answers for every text. `verdict_iff` says for which texts the two functions answer, and
answer rightly.
-/

namespace Sniff4Hound.Auth

def SESSION_TOKEN_LENGTH : Nat := 8

/-- `string.ascii_letters + string.digits`. -/
def SESSION_TOKEN_ALPHABET : List Char :=
  "abcdefghijklmnopqrstuvwxyzABCDEFGHIJKLMNOPQRSTUVWXYZ0123456789".toList

/-- `_generate_random_token`; `choices` are the positions that `secrets.choice` picks. -/
def generate_random_token {length : Nat} (choices : Fin length → Fin SESSION_TOKEN_ALPHABET.length) :
    String := String.ofList (List.ofFn fun i => SESSION_TOKEN_ALPHABET.get (choices i))

/-! ## The comparison -/

theorem alphabet_ascii : ∀ c ∈ SESSION_TOKEN_ALPHABET, c.toNat < 128 := by
  have hAll : (SESSION_TOKEN_ALPHABET.all fun c => c.toNat < 128) = true := by rfl
  exact fun c hc => of_decide_eq_true (List.all_eq_true.mp hAll c hc)

theorem isascii_random_token {length : Nat}
    (choices : Fin length → Fin SESSION_TOKEN_ALPHABET.length) :
    isascii (generate_random_token choices) = true := by
  rw [isascii, generate_random_token, String.toList_ofList, List.all_eq_true]
  intro c hc
  obtain ⟨i, rfl⟩ := List.mem_ofFn.mp hc
  exact decide_eq_true (alphabet_ascii _ (List.get_mem _ _))

theorem random_token_ne_empty (choices : Fin SESSION_TOKEN_LENGTH → Fin SESSION_TOKEN_ALPHABET.length) :
    generate_random_token choices ≠ "" := by
  intro h
  have hLength := congrArg (fun s => s.toList.length) h
  rw [generate_random_token, String.toList_ofList, List.length_ofFn] at hLength
  cases hLength

theorem compare_digest_ascii {a b : String} (hb : isascii b = true) :
    compare_digest a b = if isascii a then some (decide (a = b)) else none := by
  rw [compare_digest, hb, Bool.and_true]

namespace GuardModule

variable {φ : Type} {m : GuardModule φ} {moment : Moment} {s : String}

/-! ## The two functions -/

theorem verify_token_empty : m.verify_token moment (some "") = some !m.REQUIRE_AUTH := rfl

theorem authenticate_request_empty :
    m.authenticate_request moment (some "") = some !m.REQUIRE_AUTH := rfl

theorem decode_jwt_empty : m.decode_jwt moment.revoked moment.time (some "") = none := rfl

theorem some_nonempty (hs : s ≠ "") : (some s).bind nonempty = some s := if_neg hs

theorem verify_token_eq (hCode : isascii m.SESSION_TOKEN = true) (hs : s ≠ "") :
    m.verify_token moment (some s) =
      if isascii (strip s) then
        some (decide (strip s = m.SESSION_TOKEN) ||
          (m.decode_jwt moment.revoked moment.time (some (strip s))).isSome)
      else none := by
  rw [verify_token, some_nonempty hs]
  change ((compare_digest (strip s) m.SESSION_TOKEN).bind fun same => if same then some true else _) = _
  rw [compare_digest_ascii hCode]
  by_cases hAscii : isascii (strip s) = true
  · rw [if_pos hAscii, if_pos hAscii, Option.bind_some]
    by_cases hSame : strip s = m.SESSION_TOKEN
    · rw [decide_eq_true hSame, if_pos rfl, Bool.true_or]
    · rw [decide_eq_false hSame, if_neg Bool.false_ne_true, Bool.false_or]
  · rw [if_neg hAscii, if_neg hAscii, Option.bind_none]

theorem authenticate_request_eq (hs : s ≠ "") :
    m.authenticate_request moment (some s) =
      if (m.decode_jwt moment.revoked moment.time (some s)).isSome then some true
      else m.verify_token moment (some s) := by
  rw [authenticate_request, some_nonempty hs]

/-! ## What is asked of them -/

def Accepted (m : GuardModule φ) (moment : Moment) (s : String) : Prop :=
  strip s = m.SESSION_TOKEN ∨ (m.decode_jwt moment.revoked moment.time (some s)).isSome = true ∨
    (m.decode_jwt moment.revoked moment.time (some (strip s))).isSome = true

def Faithful (m : GuardModule φ) (moment : Moment) (s : String) (verdict : Option Bool) : Prop :=
  ∃ answer, verdict = some answer ∧ (answer = true → m.Accepted moment s)

/-- Both functions answer, and admit only a text that they may. -/
def Answers (m : GuardModule φ) (moment : Moment) (s : String) : Prop :=
  m.Faithful moment s (m.verify_token moment (some s)) ∧
    m.Faithful moment s (m.authenticate_request moment (some s))

theorem faithful_verify (moment : Moment) (hCode : isascii m.SESSION_TOKEN = true) (hs : s ≠ "")
    (hAscii : isascii (strip s) = true) : m.Faithful moment s (m.verify_token moment (some s)) := by
  rw [verify_token_eq hCode hs, if_pos hAscii]
  refine ⟨_, rfl, fun hAnswer => ?_⟩
  rcases Bool.or_eq_true_iff.mp hAnswer with hSame | hToken
  · exact .inl (of_decide_eq_true hSame)
  · exact .inr (.inr hToken)

theorem faithful_authenticate (hs : s ≠ "")
    (hVerify : m.Faithful moment s (m.verify_token moment (some s))) :
    m.Faithful moment s (m.authenticate_request moment (some s)) := by
  rw [authenticate_request_eq hs]
  by_cases hToken : (m.decode_jwt moment.revoked moment.time (some s)).isSome = true
  · rw [if_pos hToken]
    exact ⟨true, rfl, fun _ => .inr (.inl hToken)⟩
  · rw [if_neg hToken]
    exact hVerify

theorem answers_empty (hCode : m.SESSION_TOKEN ≠ "") : m.Answers moment "" ↔ m.REQUIRE_AUTH = true := by
  have hRefused : ¬m.Accepted moment "" := by
    rintro (hSame | hToken | hToken)
    · exact hCode (hSame.symm.trans strip_empty)
    · rw [decode_jwt_empty] at hToken
      cases hToken
    · rw [strip_empty, decode_jwt_empty] at hToken
      cases hToken
  have hFaithful : m.Faithful moment "" (some !m.REQUIRE_AUTH) ↔ m.REQUIRE_AUTH = true := by
    constructor
    · rintro ⟨answer, hAnswer, hIf⟩
      rw [Option.some.injEq] at hAnswer
      rw [← hAnswer] at hIf
      by_contra hOpen
      exact hRefused (hIf (by rw [Bool.eq_false_iff.mpr hOpen]; rfl))
    · intro hRequired
      exact ⟨false, by rw [hRequired]; rfl, nofun⟩
  rw [Answers, verify_token_empty, authenticate_request_empty, and_self]
  exact hFaithful

end GuardModule

open GuardModule in
/-- The texts on which both functions answer, and answer rightly. -/
theorem verdict_iff {φ : Type} (m : GuardModule φ)
    (choices : Fin SESSION_TOKEN_LENGTH → Fin SESSION_TOKEN_ALPHABET.length)
    (hCode : m.SESSION_TOKEN = generate_random_token choices) (moment : Moment) (s : String) :
    m.Answers moment s ↔ isascii (strip s) = true ∧ (s = "" → m.REQUIRE_AUTH = true) := by
  have hAsciiCode : isascii m.SESSION_TOKEN = true := hCode ▸ isascii_random_token choices
  by_cases hs : s = ""
  · rw [hs, answers_empty (hCode ▸ random_token_ne_empty choices), strip_empty]
    exact ⟨fun h => ⟨rfl, fun _ => h⟩, fun h => h.2 rfl⟩
  · constructor
    · rintro ⟨⟨answer, hAnswer, -⟩, -⟩
      rw [verify_token_eq hAsciiCode hs] at hAnswer
      exact ⟨(Option.ite_none_right_eq_some.mp hAnswer).1, fun h => absurd h hs⟩
    · rintro ⟨hAscii, -⟩
      have hVerify := faithful_verify moment hAsciiCode hs hAscii
      exact ⟨hVerify, faithful_authenticate hs hVerify⟩

def firstLetterModule : GuardModule Unit :=
  { guardedModule with
    SESSION_TOKEN := generate_random_token fun _ : Fin SESSION_TOKEN_LENGTH => ⟨0, by decide⟩ }

theorem verdict_plain : firstLetterModule.Answers ⟨0, 0, []⟩ "guess" :=
  (verdict_iff firstLetterModule _ rfl ⟨0, 0, []⟩ "guess").mpr ⟨rfl, nofun⟩

open GuardModule in
/-- A text with an accent, which `verify_token` does not answer. -/
theorem accented_raises : ¬∀ (m : GuardModule Unit)
    (choices : Fin SESSION_TOKEN_LENGTH → Fin SESSION_TOKEN_ALPHABET.length),
    m.SESSION_TOKEN = generate_random_token choices →
    ∀ (moment : Moment) (s : String), m.Answers moment s := by
  intro h
  obtain ⟨⟨answer, hAnswer, -⟩, -⟩ := h firstLetterModule _ rfl ⟨0, 0, []⟩ "clé"
  have hCode : isascii firstLetterModule.SESSION_TOKEN = true := isascii_random_token _
  have hAscii : ¬isascii (strip "clé") = true := by decide
  rw [verify_token_eq hCode (by decide), if_neg hAscii] at hAnswer
  cases hAnswer

end Sniff4Hound.Auth
