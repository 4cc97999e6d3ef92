import Mathlib

/-!
# A ledger of tokens

Places hold tokens.  The books are in order when a token is live just when a place holds it or it
was given up, and no place holds one that was given up.
-/

namespace Ledger

variable {P T : Type}

/-- No two places hold one token. -/
def Apart (held : P → Option T) : Prop := ∀ p q token, held p = some token → held q = some token → p = q

structure Accounted (held : P → Option T) (live : Finset T) (givenUp : List T) : Prop where
  live_iff : ∀ token, token ∈ live ↔ (∃ p, held p = some token) ∨ token ∈ givenUp
  separate : ∀ p token, held p = some token → token ∉ givenUp

variable {held : P → Option T} {live : Finset T} {givenUp : List T} {place : P} {token old : T}

variable [DecidableEq P]

/-- Who holds a token after one place has changed. -/
theorem update_eq_some {new : Option T} {p : P} :
    Function.update held place new p = some token ↔ (p = place ∧ new = some token) ∨ (p ≠ place ∧ held p = some token) := by
  rw [Function.update_apply]
  by_cases hp : p = place
  · simp [hp]
  · simp [hp]

theorem Apart.update (h : Apart held) {new : Option T} (hfree : ∀ q token, new = some token → held q = some token → q = place) :
    Apart (Function.update held place new) := by
  intro p q token hp hq
  rcases update_eq_some.mp hp with ⟨hplace, hnew⟩ | ⟨-, hp'⟩
  · rcases update_eq_some.mp hq with ⟨hplace', -⟩ | ⟨-, hq'⟩
    · exact hplace.trans hplace'.symm
    · exact hplace.trans (hfree q token hnew hq').symm
  · rcases update_eq_some.mp hq with ⟨hplace, hnew⟩ | ⟨-, hq'⟩
    · exact (hfree p token hnew hp').trans hplace.symm
    · exact h p q token hp' hq'

variable [DecidableEq T]

end Ledger
