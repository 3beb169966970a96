import Mathlib.Data.List.Basic

/-!
# Programs in dialogue with an environment

A `Dialogue` makes calls, gets an answer to each of them, and ends with a value or an exception. It
is an inductive type: along every sequence of answers a program ends (`exists_play_follow`). `play`
runs a program against the answers to its calls, in their order, and has a result if they fit and
are exactly as many as it needs; so a statement about all its results is one about all the
conversations of the program. The rules take the conversation of a sequence apart into those of its
parts.
-/

universe u

inductive Dialogue (Call Answer ε α : Type u) : Type u
  | ret (a : α)
  | raise (e : ε)
  | call (c : Call) (next : Answer → Dialogue Call Answer ε α)

namespace Dialogue

variable {Call Answer ε α β : Type u}

@[grind =] def bind : Dialogue Call Answer ε α → (α → Dialogue Call Answer ε β) →
    Dialogue Call Answer ε β
  | ret a, f => f a
  | raise e, _ => raise e
  | call c next, f => call c fun answer => (next answer).bind f

@[grind =] def tryCatch : Dialogue Call Answer ε α → (ε → Dialogue Call Answer ε α) →
    Dialogue Call Answer ε α
  | ret a, _ => ret a
  | raise e, handler => handler e
  | call c next, handler => call c fun answer => (next answer).tryCatch handler

instance : Monad (Dialogue Call Answer ε) where
  pure := ret
  bind := bind

def lift : Except ε α → Dialogue Call Answer ε α
  | .ok a => ret a
  | .error e => raise e

section Play

variable (fits : Call → Answer → Bool)

@[grind =] def play : Dialogue Call Answer ε α → List Answer → Option (Except ε α)
  | ret a, [] => some (.ok a)
  | raise e, [] => some (.error e)
  | call c next, answer :: script => if fits c answer then (next answer).play script else none
  | _, _ => none

variable {fits} {d : Dialogue Call Answer ε α} {script : List Answer}

theorem play_ret {a : α} {r : Except ε α} :
    (ret a : Dialogue Call Answer ε α).play fits script = some r ↔ script = [] ∧ r = .ok a := by
  cases script with
  | nil => exact ⟨fun h => by cases h; exact ⟨rfl, rfl⟩, fun h => by rw [h.2]; rfl⟩
  | cons answer script => exact ⟨nofun, nofun⟩

theorem play_raise {e : ε} {r : Except ε α} :
    (raise e : Dialogue Call Answer ε α).play fits script = some r ↔ script = [] ∧ r =
    .error e := by
  cases script with
  | nil => exact ⟨fun h => by cases h; exact ⟨rfl, rfl⟩, fun h => by rw [h.2]; rfl⟩
  | cons answer script => exact ⟨nofun, nofun⟩

theorem play_call {c : Call} {next : Answer → Dialogue Call Answer ε α} {r : Except ε α} :
    (call c next).play fits script = some r ↔ ∃ answer rest, script = answer :: rest ∧
      fits c answer = true ∧ (next answer).play fits rest = some r := by
  cases script with
  | nil => exact ⟨nofun, nofun⟩
  | cons answer script =>
    rw [play, Option.ite_none_right_eq_some]
    constructor
    · exact fun h => ⟨answer, script, rfl, h⟩
    · rintro ⟨_, _, hEq, h⟩
      cases hEq
      exact h

theorem play_lift {value r : Except ε α} :
    (lift value : Dialogue Call Answer ε α).play fits script = some r ↔
      script = [] ∧ r = value := by
  cases value with
  | ok a => exact play_ret
  | error e => exact play_raise

/-- A sequence raises in its first part, or the second part goes on where the first one ends. -/
theorem play_bind {f : α → Dialogue Call Answer ε β} {r : Except ε β}
    (h : (d >>= f).play fits script = some r) :
    (∃ e, d.play fits script = some (.error e) ∧ r = .error e) ∨
    ∃ a front back, script = front ++ back ∧ d.play fits front = some (.ok a) ∧
      (f a).play fits back = some r := by
  change (d.bind f).play fits script = some r at h
  induction d generalizing script with
  | ret a => exact .inr ⟨a, [], script, rfl, rfl, h⟩
  | raise e =>
    obtain ⟨rfl, rfl⟩ := play_raise.mp h
    exact .inl ⟨e, rfl, rfl⟩
  | call c next ih =>
    obtain ⟨answer, rest, rfl, hFits, hRest⟩ := play_call.mp h
    rcases ih answer hRest with ⟨e, hError, hr⟩ | ⟨a, front, back, rfl, hFront, hBack⟩
    · exact .inl ⟨e, play_call.mpr ⟨answer, rest, rfl, hFits, hError⟩, hr⟩
    · exact .inr ⟨a, answer :: front, back, rfl,
        play_call.mpr ⟨answer, front, rfl, hFits, hFront⟩, hBack⟩

theorem play_tryCatch {handler : ε → Dialogue Call Answer ε α} {r : Except ε α}
    (h : (d.tryCatch handler).play fits script = some r) :
    (∃ a, d.play fits script = some (.ok a) ∧ r = .ok a) ∨
    ∃ e front back, script = front ++ back ∧ d.play fits front = some (.error e) ∧
      (handler e).play fits back = some r := by
  induction d generalizing script with
  | ret a =>
    obtain ⟨rfl, rfl⟩ := play_ret.mp h
    exact .inl ⟨a, rfl, rfl⟩
  | raise e => exact .inr ⟨e, [], script, rfl, rfl, h⟩
  | call c next ih =>
    obtain ⟨answer, rest, rfl, hFits, hRest⟩ := play_call.mp h
    rcases ih answer hRest with ⟨a, hOk, hr⟩ | ⟨e, front, back, rfl, hFront, hBack⟩
    · exact .inl ⟨a, play_call.mpr ⟨answer, rest, rfl, hFits, hOk⟩, hr⟩
    · exact .inr ⟨e, answer :: front, back, rfl,
        play_call.mpr ⟨answer, front, rfl, hFits, hFront⟩, hBack⟩

def follow (environment : List Answer → Call → Answer) :
    List Answer → Dialogue Call Answer ε α → List Answer
  | _, ret _ => []
  | _, raise _ => []
  | past, call c next =>
    let answer := environment past c
    answer :: follow environment (past ++ [answer]) (next answer)

theorem exists_play_follow {environment : List Answer → Call → Answer}
    (hFits : ∀ past c, fits c (environment past c) = true) (past : List Answer)
    (d : Dialogue Call Answer ε α) :
    ∃ r, d.play fits (follow environment past d) = some r := by
  induction d generalizing past with
  | ret a => exact ⟨_, rfl⟩
  | raise e => exact ⟨_, rfl⟩
  | call c next ih =>
    obtain ⟨r, hr⟩ := ih (environment past c) (past ++ [environment past c])
    exact ⟨r, play_call.mpr ⟨_, _, rfl, hFits past c, hr⟩⟩

end Play

end Dialogue
