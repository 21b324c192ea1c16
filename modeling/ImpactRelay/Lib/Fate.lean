/-
# `Lib.Fate` — refused, cut short or done

A program over a state that writes more than once has three ends: it is refused
and leaves the state as it was, it is cut short after a write, or it is done.
`Fate.Holds T` says which one it is, where `T s s'` means that `s'` shows a
trace; a fate is computed from the state before the call, and the rules of this
file follow the program's own structure: a reading that may fail (`given`), a
check that passes, an atomic call, a call on a component.
-/
import ImpactRelay.Lib.Raise

open Raise

/-- How a program ends. -/
inductive Fate where
  | refused | cutShort | done
deriving DecidableEq, Repr

namespace Fate

variable {ε σ τ α β : Type} {T : σ → σ → Prop} {s s' : σ}

/-- What a fate says about a program started in `s`. -/
def Holds (T : σ → σ → Prop) (x : EStateM ε σ α) (s : σ) : Fate → Prop
  | refused => Refuses x s
  | cutShort => ∃ e s', Raises x s e s' ∧ T s s'
  | done => Accepts x s

/-- Refused when the reading fails, and otherwise what follows from it. -/
def given (r : Except ε α) (f : α → Fate) : Fate :=
  match r with
  | .ok a => f a
  | .error _ => .refused

theorem holds_given {r : Except ε α} {f : α → Fate} {g : α → EStateM ε σ β}
    (h : ∀ a, r = .ok a → (f a).Holds T (g a) s) : (given r f).Holds T (okOrRaise r >>= g) s := by
  cases hr : r with
  | error e => exact (refuses_throw e).bind
  | ok a => exact h a hr

/-- A check that passes leaves the fate to the rest. -/
theorem holds_of_returns {x : EStateM ε σ α} {g : α → EStateM ε σ β} {a : α} {fate : Fate}
    (h : Returns x s a s) (hg : fate.Holds T (g a) s) : fate.Holds T (x >>= g) s := by
  cases fate with
  | refused => exact h.bind_refuses hg
  | cutShort =>
      obtain ⟨e, s', he, hs'⟩ := hg
      exact ⟨e, s', raises_bind.mpr (Or.inr ⟨a, s, h, he⟩), hs'⟩
  | done => exact h.bind_accepts hg

theorem holds_get {g : σ → EStateM ε σ β} {fate : Fate} (h : fate.Holds T (g s) s) :
    fate.Holds T (get >>= g) s :=
  holds_of_returns (returns_get.mpr ⟨rfl, rfl⟩) h

/-- An atomic program is refused or done. -/
theorem holds_atomic {x : EStateM ε σ α} {p : Prop} [Decidable p] (hx : Atomic x)
    (hacc : Accepts x s ↔ p) : (if p then done else refused).Holds T x s := by
  split
  · next hp => exact hacc.mpr hp
  · next hp => exact hx.refuses_iff.mpr (mt hacc.mp hp)

/-- A program that is not accepted and changes the state, however it ends, is cut short. -/
theorem holds_cutShort {x : EStateM ε σ α} (hacc : ¬ Accepts x s) (hT : T s (after x s)) :
    cutShort.Holds T x s := by
  rcases returns_or_raises x s with ⟨a, s', ha⟩ | ⟨e, s', he⟩
  · exact absurd ⟨a, s', ha⟩ hacc
  · exact ⟨e, s', he, he.after ▸ hT⟩

/-- Steps that cannot fail change no fate. -/
theorem holds_bind_total {x : EStateM ε σ α} {g : α → EStateM ε σ β} {fate : Fate}
    (hg : ∀ a t, Accepts (g a) t) (h : fate.Holds T x s) : fate.Holds T (x >>= g) s := by
  cases fate with
  | refused => exact Refuses.bind h
  | cutShort =>
      obtain ⟨e, s', he, hs'⟩ := h
      exact ⟨e, s', he.bind, hs'⟩
  | done =>
      obtain ⟨a, s', ha⟩ := h
      exact ha.bind_accepts (hg a s')

/-- The fate of a method of a component is the fate of the object's call. -/
theorem holds_within {part : σ → τ} {update : τ → σ → σ} {S : τ → τ → Prop} {x : EStateM ε τ α}
    {fate : Fate} (hupdate : update (part s) s = s) (htouch : ∀ t, S (part s) t → T s (update t s))
    (h : fate.Holds S x (part s)) : fate.Holds T (within part update x) s := by
  cases fate with
  | refused => exact refuses_within hupdate h
  | cutShort =>
      obtain ⟨e, t, he, ht⟩ := h
      exact ⟨e, update t s, raises_within.mpr ⟨t, he, rfl⟩, htouch t ht⟩
  | done =>
      obtain ⟨a, t, ha⟩ := h
      exact ⟨a, update t s, returns_within.mpr ⟨t, ha, rfl⟩⟩

end Fate
