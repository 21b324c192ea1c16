/-
# `Lib.Reading` — programs that end where a reading of their input says

A program goes through its input and may stop in two ways: it refuses the input with a reason
of its own, or something it calls raises.  A reading goes through the same input, in the same
order, without running anything; it lists the places the program comes to, and each place has
a finding.  The program then ends as the first place says that is not fine.

`Ends` is that relation between a finding and a program, with one rule for each way of building
a program; `Reader` is a reading that is built in step with it.  `beforeRefusal_iff`: nothing but a
refusal stops the program exactly if every place before the first refused one is fine.
-/
import ImpactRelay.Lib.Raise

namespace Reading

open Raise

/-! ## Findings -/

inductive Finding where
  | fine
  | refused
  | raises
deriving DecidableEq

/-- The first that is not fine. -/
def first : List Finding → Finding
  | [] => .fine
  | .fine :: vs => first vs
  | v :: _ => v

theorem first_append (vs ws : List Finding) :
    first (vs ++ ws) = if first vs = .fine then first ws else first vs := by
  induction vs with
  | nil => rfl
  | cons v vs ih =>
      cases v with
      | fine => exact ih
      | refused | raises => rfl

theorem first_cons (v : Finding) (vs : List Finding) :
    first (v :: vs) = if v = .fine then first vs else v := by
  cases v with
  | fine | refused | raises => rfl

theorem first_singleton (v : Finding) : first [v] = v := by
  cases v with
  | fine | refused | raises => rfl

/-- The places before the first that is refused, or all of them. -/
def beforeRefusal {P : Type} (finding : P → Finding) (places : List P) : List P :=
  places.takeWhile fun place => finding place ≠ .refused

theorem beforeRefusal_iff {P : Type} {finding : P → Finding} {places : List P} :
    first (places.map finding) ≠ .raises ↔ ∀ place ∈ beforeRefusal finding places,
      finding place = .fine := by
  induction places with
  | nil => simp [beforeRefusal, first]
  | cons place places ih =>
      rw [List.map_cons, first_cons, beforeRefusal]
      cases hplace : finding place with
      | fine =>
          rw [if_pos rfl, List.takeWhile_cons_of_pos (by simp [hplace]), List.forall_mem_cons]
          exact ih.trans ⟨fun h => ⟨hplace, h⟩, fun h => h.2⟩
      | refused =>
          rw [List.takeWhile_cons_of_neg (by simp [hplace])]
          simp
      | raises =>
          rw [List.takeWhile_cons_of_pos (by simp [hplace]), List.forall_mem_cons, hplace]
          simp

/-! ## Readers -/

/-- The places that are come to, and how far the reading is after them. -/
abbrev Reader (G P : Type) := G → List P × G

namespace Reader

variable {G P : Type}

def note (places : List P) : Reader G P := fun g => (places, g)

def andThen (r r' : Reader G P) : Reader G P := fun g =>
  ((r g).1 ++ (r' (r g).2).1, (r' (r g).2).2)

def each {α : Type} (r : α → Reader G P) : List α → Reader G P
  | [] => note []
  | a :: as => (r a).andThen (each r as)

theorem each_append {α : Type} (r : α → Reader G P) (as bs : List α) :
    each r (as ++ bs) = (each r as).andThen (each r bs) := by
  funext g
  induction as generalizing g with
  | nil => rfl
  | cons a as ih =>
      rw [List.cons_append, each, each, andThen, ih]
      simp only [andThen, List.append_assoc]

theorem each_singleton {α : Type} (r : α → Reader G P) (a : α) : each r [a] = r a := by
  funext g
  simp only [each, andThen, note, List.append_nil]

end Reader

/-! ## Programs -/

/-- How a program ends that does not return. -/
inductive Stop (ε ρ : Type) where
  | refused (reason : ρ)
  | raised (exc : ε)

/-- How a call ends that the program makes. -/
inductive Replies {ε α : Type} : Finding → Except ε α → Prop where
  | ok (a : α) : Replies .fine (.ok a)
  | error (exc : ε) : Replies .raises (.error exc)

/-- How a program ends where its reading comes to a finding. -/
inductive Ends {ε ρ σ α : Type} (x : EStateM (Stop ε ρ) σ α) (s : σ) (Q : α → σ → Prop) :
    Finding → Prop where
  | fine {a : α} {s' : σ} (hx : Returns x s a s') (ha : Q a s') : Ends x s Q .fine
  | refused {reason : ρ} {s' : σ} (hx : Raises x s (.refused reason) s') : Ends x s Q .refused
  | raises {exc : ε} {s' : σ} (hx : Raises x s (.raised exc) s') : Ends x s Q .raises

section

variable {ε ρ σ α β : Type} {v : Finding} {s : σ} {Q : α → σ → Prop} {R : β → σ → Prop}

theorem Replies.map {x : Except ε α} {f : α → β} (h : Replies v x) :
    Replies v (do return f (← x)) := by
  cases h with
  | ok a => exact .ok _
  | error exc => exact .error exc

theorem Replies.bind {vs ws : List Finding} {x : Except ε α} {f : α → Except ε β}
    (hx : Replies (first vs) x) (hf : ∀ a, x = .ok a → Replies (first ws) (f a)) :
    Replies (first (vs ++ ws)) (x >>= f) := by
  rw [first_append]
  generalize first vs = v at hx ⊢
  cases hx with
  | ok a =>
      rw [if_pos rfl]
      exact hf a rfl
  | error exc => exact .error exc

theorem Replies.mapM {w : α → Finding} {f : α → Except ε β} {xs : List α}
    (h : ∀ x ∈ xs, Replies (w x) (f x)) : Replies (first (xs.map w)) (xs.mapM f) := by
  induction xs with
  | nil => exact .ok []
  | cons x xs ih =>
      obtain ⟨hx, hxs⟩ := List.forall_mem_cons.mp h
      have htail := ih hxs
      rw [List.map_cons, List.mapM_cons, first_cons]
      generalize w x = v at hx ⊢
      generalize f x = y at hx ⊢
      cases hx with
      | ok y =>
          rw [if_pos rfl]
          exact htail.map
      | error exc => exact .error exc

namespace Ends

variable {x : EStateM (Stop ε ρ) σ α} {f : α → EStateM (Stop ε ρ) σ β}

theorem pure {a : α} (h : Q a s) : Ends (Pure.pure a : EStateM (Stop ε ρ) σ α) s Q .fine :=
  .fine (returns_pure.mpr ⟨rfl, rfl⟩) h

theorem throw {reason : ρ} :
    Ends (MonadExcept.throw (.refused reason) : EStateM (Stop ε ρ) σ α) s Q .refused :=
  .refused (raises_throw.mpr ⟨rfl, rfl⟩)

theorem call {y : Except ε α} (h : Replies v y) (hQ : ∀ a, y = .ok a → Q a s) :
    Ends (okOrRaise (y.mapError Stop.raised) : EStateM (Stop ε ρ) σ α) s Q v := by
  cases h with
  | ok a => exact .fine (returns_okOrRaise.mpr ⟨rfl, rfl⟩) (hQ a rfl)
  | error exc => exact .raises (raises_okOrRaise.mpr ⟨rfl, rfl⟩)

theorem imp {Q' : α → σ → Prop} (h : Ends x s Q v) (hQ : ∀ a s', Q a s' → Q' a s') :
    Ends x s Q' v := by
  cases h with
  | fine hx ha => exact .fine hx (hQ _ _ ha)
  | refused hx => exact .refused hx
  | raises hx => exact .raises hx

/-- The first part returns and has no place of its own. -/
theorem step {s' : σ} {a : α} (hx : Returns x s a s') (hf : Ends (f a) s' R v) :
    Ends (x >>= f) s R v := by
  cases hf with
  | fine hb hR => exact .fine (returns_bind.mpr ⟨a, s', hx, hb⟩) hR
  | refused hr => exact .refused (raises_bind.mpr (.inr ⟨a, s', hx, hr⟩))
  | raises hr => exact .raises (raises_bind.mpr (.inr ⟨a, s', hx, hr⟩))

/-- The second part returns and has no place of its own. -/
theorem followed (hx : Ends x s Q v)
    (hf : ∀ a s', Q a s' → ∃ b s'', Returns (f a) s' b s'' ∧ R b s'') : Ends (x >>= f) s R v := by
  cases hx with
  | fine hx ha =>
      obtain ⟨b, s'', hb, hR⟩ := hf _ _ ha
      exact .fine (returns_bind.mpr ⟨_, _, hx, hb⟩) hR
  | refused hx => exact .refused hx.bind
  | raises hx => exact .raises hx.bind

/-- The second part is come to where the first one is fine. -/
theorem bind {vs ws : List Finding} (hx : Ends x s Q (first vs))
    (hf : ∀ a s', Q a s' → Ends (f a) s' R (first ws)) :
    Ends (x >>= f) s R (first (vs ++ ws)) := by
  rw [first_append]
  generalize first vs = v at hx ⊢
  cases hx with
  | fine hx ha =>
      rw [if_pos rfl]
      exact step hx (hf _ _ ha)
  | refused hx => exact .refused hx.bind
  | raises hx => exact .raises hx.bind

theorem andThen {G P : Type} {finding : P → Finding} {r r' : Reader G P} {g : G}
    (hx : Ends x s Q (first ((r g).1.map finding)))
    (hf : ∀ a s', Q a s' → Ends (f a) s' R (first ((r' (r g).2).1.map finding))) :
    Ends (x >>= f) s R (first ((r.andThen r' g).1.map finding)) := by
  rw [Reader.andThen, List.map_append]
  exact bind hx hf

/-- What holds between the reading and the program before each round holds after the last. -/
theorem forM {G P γ : Type} {finding : P → Finding} {r : γ → Reader G P}
    {body : γ → EStateM (Stop ε ρ) σ PUnit} {I : G → σ → Prop}
    (hbody : ∀ c g s, I g s → Ends (body c) s (fun _ s' => I (r c g).2 s')
      (first ((r c g).1.map finding))) (cs : List γ) {g : G} (hI : I g s) :
    Ends (cs.forM body) s (fun _ s' => I (Reader.each r cs g).2 s')
      (first ((Reader.each r cs g).1.map finding)) := by
  induction cs generalizing g s with
  | nil => exact pure hI
  | cons c cs ih =>
      rw [List.forM]
      exact andThen (hbody c g s hI) fun _ s' hs' => ih hs'

end Ends

end

end Reading
