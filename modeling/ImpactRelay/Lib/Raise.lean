/-
# `Lib.Raise` — programs that mutate a state and may raise

A method of a mutable object reads and writes fields and may raise at any
point; what it wrote before raising stays written.  `EStateM ε σ` is exactly
this: the result carries the state on the `ok` and on the `error` side alike.
The file has the three things a development over such programs needs:

  * two judgments, `Returns x s a s'` and `Raises x s e s'`, with one
    inversion lemma for each way of building a program (`returns_bind`,
    `raises_bind`, `returns_raiseIf`, …), all in the simp set: simplifying
    with a method's definition lists its guards and its final state;
  * effect classes that compose along `>>=`: `ReadOnly` (never writes), `Total`
    (never raises) and `Atomic` (a raise leaves the state as it was).  The rule
    `Atomic.bind_readOnly` is "every check comes before every write";
  * `Preserves P`: the state after a run satisfies `P` whichever way it ended.
-/
import Mathlib

namespace Raise

variable {ε σ τ α β : Type}

/-! ## Primitives -/

/-- `if c: raise e`. -/
def raiseIf (c : Prop) [Decidable c] (e : ε) : EStateM ε σ Unit :=
  if c then throw e else pure ()

/-- A lookup that raises when nothing is there. -/
def orRaise (e : ε) : Option α → EStateM ε σ α
  | some a => pure a
  | none => throw e

/-- `x = find(); if x is not None: raise e(x)`. -/
def raiseOn (o : Option α) (e : α → ε) : EStateM ε σ Unit :=
  match o with
  | some a => throw (e a)
  | none => pure ()

/-- A pure computation that may raise, run inside a method. -/
def okOrRaise : Except ε α → EStateM ε σ α
  | .ok a => pure a
  | .error e => throw e

/-- `try: x`; what `x` wrote before it raised stays written. -/
def attempt (x : EStateM ε σ α) : EStateM ε σ (Except ε α) := fun s =>
  match x.run s with
  | .ok a s' => .ok (.ok a) s'
  | .error e s' => .ok (.error e) s'

/-- A method of a component, called by the object that holds it. -/
def within (part : σ → τ) (update : τ → σ → σ) (x : EStateM ε τ α) : EStateM ε σ α := fun s =>
  match x.run (part s) with
  | .ok a t => .ok a (update t s)
  | .error e t => .error e (update t s)

/-! ## The two ways a run ends -/

/-- From `s` the program returns `a` and leaves `s'`. -/
def Returns (x : EStateM ε σ α) (s : σ) (a : α) (s' : σ) : Prop := x.run s = .ok a s'

/-- From `s` the program raises `e` and leaves `s'`. -/
def Raises (x : EStateM ε σ α) (s : σ) (e : ε) (s' : σ) : Prop := x.run s = .error e s'

/-- The state a run leaves behind, whichever way it ended. -/
def after (x : EStateM ε σ α) (s : σ) : σ :=
  match x.run s with
  | .ok _ s' => s'
  | .error _ s' => s'

/-- What a run returns and leaves behind, if it returns. -/
def returned (x : EStateM ε σ α) (s : σ) : Option (α × σ) :=
  match x.run s with
  | .ok a s' => some (a, s')
  | .error _ _ => none

/-- Whether a run raises. -/
def raised (x : EStateM ε σ α) (s : σ) : Bool :=
  match x.run s with
  | .ok _ _ => false
  | .error _ _ => true

section Ends

variable {x : EStateM ε σ α} {s s' t : σ} {a b : α} {e e' : ε}

theorem returns_or_raises (x : EStateM ε σ α) (s : σ) :
    (∃ a s', Returns x s a s') ∨ ∃ e s', Raises x s e s' := by
  cases hx : x.run s with
  | ok a s' => exact Or.inl ⟨a, s', hx⟩
  | error e s' => exact Or.inr ⟨e, s', hx⟩

theorem raised_iff {x : EStateM ε σ α} : raised x s = true ↔ ∃ e s', Raises x s e s' := by
  rcases hx : x.run s with ⟨a, s'⟩ | ⟨e, s'⟩
  · refine ⟨fun h => ?_, fun ⟨e', t, h⟩ => nomatch hx.symm.trans h⟩
    rw [raised, hx] at h
    exact nomatch h
  · refine ⟨fun _ => ⟨e, s', hx⟩, fun _ => ?_⟩
    rw [raised, hx]

theorem returned_eq_some {x : EStateM ε σ α} : returned x s = some (a, s') ↔ Returns x s a s' := by
  rw [returned, Returns]
  rcases hx : x.run s with ⟨b, t⟩ | ⟨e, t⟩
  · simp
  · simp

theorem Returns.not_raises (h : Returns x s a s') : ¬ Raises x s e t := by
  intro h'
  exact nomatch (show EStateM.Result.ok a s' = .error e t from h.symm.trans h')

theorem Returns.unique (h : Returns x s a s') (h' : Returns x s b t) : a = b ∧ s' = t := by
  have := (show EStateM.Result.ok a s' = .ok b t from h.symm.trans h')
  exact EStateM.Result.ok.inj this

theorem Raises.unique (h : Raises x s e s') (h' : Raises x s e' t) : e = e' ∧ s' = t := by
  have := (show EStateM.Result.error e s' = .error e' t from h.symm.trans h')
  exact EStateM.Result.error.inj this

theorem Returns.after (h : Returns x s a s') : after x s = s' := by
  rw [Raise.after, show x.run s = .ok a s' from h]

theorem Raises.after (h : Raises x s e s') : after x s = s' := by
  rw [Raise.after, show x.run s = .error e s' from h]

theorem after_congr {y : EStateM ε σ α} (h : x.run s = y.run t) :
    Raise.after x s = Raise.after y t := by
  rw [Raise.after, Raise.after, h]

/-- A property of the state afterwards, from the two ways a run can end. -/
theorem after_of_cases {P : σ → Prop} (hret : ∀ a s', Returns x s a s' → P s')
    (hraise : ∀ e s', Raises x s e s' → P s') : P (after x s) := by
  rcases returns_or_raises x s with ⟨a, s', h⟩ | ⟨e, s', h⟩
  · exact h.after ▸ hret a s' h
  · exact h.after ▸ hraise e s' h

end Ends

/-! ## Inversion -/

section Inversion

variable {s s' s'' : σ} {a b : α} {e e' : ε}

@[simp] theorem returns_pure : Returns (pure a : EStateM ε σ α) s b s' ↔ a = b ∧ s = s' := by
  show EStateM.Result.ok a s = .ok b s' ↔ _
  simp

@[simp] theorem not_raises_pure : ¬ Raises (pure a : EStateM ε σ α) s e s' :=
  fun h => nomatch h

@[simp] theorem not_returns_throw : ¬ Returns (throw e : EStateM ε σ α) s b s' :=
  fun h => nomatch h

@[simp] theorem raises_throw :
    Raises (throw e : EStateM ε σ α) s e' s' ↔ e = e' ∧ s = s' := by
  show EStateM.Result.error e s = .error e' s' ↔ _
  simp

@[simp] theorem returns_get {t : σ} :
    Returns (get : EStateM ε σ σ) s t s' ↔ s = t ∧ s = s' := by
  show EStateM.Result.ok s s = .ok t s' ↔ _
  simp

@[simp] theorem not_raises_get : ¬ Raises (get : EStateM ε σ σ) s e s' :=
  fun h => nomatch h

@[simp] theorem returns_modify {f : σ → σ} {u : PUnit} :
    Returns (modify f : EStateM ε σ PUnit) s u s' ↔ f s = s' := by
  show EStateM.Result.ok PUnit.unit (f s) = .ok u s' ↔ _
  simp

@[simp] theorem not_raises_modify {f : σ → σ} :
    ¬ Raises (modify f : EStateM ε σ PUnit) s e s' :=
  fun h => nomatch h

@[simp] theorem returns_raiseIf {c : Prop} [Decidable c] {u : Unit} :
    Returns (raiseIf c e : EStateM ε σ Unit) s u s' ↔ ¬ c ∧ s = s' := by
  by_cases h : c <;> simp [raiseIf, h]

@[simp] theorem raises_raiseIf {c : Prop} [Decidable c] :
    Raises (raiseIf c e : EStateM ε σ Unit) s e' s' ↔ c ∧ e = e' ∧ s = s' := by
  by_cases h : c <;> simp [raiseIf, h]

@[simp] theorem returns_orRaise {o : Option α} :
    Returns (orRaise e o : EStateM ε σ α) s a s' ↔ o = some a ∧ s = s' := by
  cases o <;> simp [orRaise]

@[simp] theorem raises_orRaise {o : Option α} :
    Raises (orRaise e o : EStateM ε σ α) s e' s' ↔ o = none ∧ e = e' ∧ s = s' := by
  cases o <;> simp [orRaise]

@[simp] theorem returns_raiseOn {o : Option α} {f : α → ε} {u : Unit} :
    Returns (raiseOn o f : EStateM ε σ Unit) s u s' ↔ o = none ∧ s = s' := by
  cases o <;> simp [raiseOn]

@[simp] theorem raises_raiseOn {o : Option α} {f : α → ε} :
    Raises (raiseOn o f : EStateM ε σ Unit) s e s' ↔ ∃ a, o = some a ∧ f a = e ∧ s = s' := by
  cases o <;> simp [raiseOn]

@[simp] theorem returns_okOrRaise {r : Except ε α} :
    Returns (okOrRaise r : EStateM ε σ α) s a s' ↔ r = .ok a ∧ s = s' := by
  cases r <;> simp [okOrRaise]

@[simp] theorem raises_okOrRaise {r : Except ε α} :
    Raises (okOrRaise r : EStateM ε σ α) s e s' ↔ r = .error e ∧ s = s' := by
  cases r <;> simp [okOrRaise]

theorem Returns.bind {x : EStateM ε σ α} {f : α → EStateM ε σ β} (h : Returns x s a s') :
    (x >>= f).run s = (f a).run s' := by
  show (EStateM.bind x f) s = _
  unfold EStateM.bind
  rw [show x s = .ok a s' from h]
  rfl

theorem Raises.bind {x : EStateM ε σ α} {f : α → EStateM ε σ β} (h : Raises x s e s') :
    Raises (x >>= f) s e s' := by
  show (EStateM.bind x f) s = _
  unfold EStateM.bind
  rw [show x s = .error e s' from h]

@[simp low] theorem returns_bind {x : EStateM ε σ α} {f : α → EStateM ε σ β} {b : β} :
    Returns (x >>= f) s b s'' ↔ ∃ a s', Returns x s a s' ∧ Returns (f a) s' b s'' := by
  constructor
  · intro h
    rcases returns_or_raises x s with ⟨a, s', hx⟩ | ⟨e, s', hx⟩
    · exact ⟨a, s', hx, hx.bind.symm.trans h⟩
    · exact absurd hx.bind h.not_raises
  · rintro ⟨a, s', hx, hf⟩
    exact hx.bind.trans hf

@[simp low] theorem raises_bind {x : EStateM ε σ α} {f : α → EStateM ε σ β} :
    Raises (x >>= f) s e s'' ↔
      Raises x s e s'' ∨ ∃ a s', Returns x s a s' ∧ Raises (f a) s' e s'' := by
  constructor
  · intro h
    rcases returns_or_raises x s with ⟨a, s', hx⟩ | ⟨e', s', hx⟩
    · exact Or.inr ⟨a, s', hx, hx.bind.symm.trans h⟩
    · obtain ⟨rfl, rfl⟩ := hx.bind.unique h
      exact Or.inl hx
  · rintro (hx | ⟨a, s', hx, hf⟩)
    · exact hx.bind
    · exact hx.bind.trans hf

theorem map_eq_bind (x : EStateM ε σ α) (f : α → β) : f <$> x = x >>= fun a => pure (f a) := by
  funext s
  show EStateM.map f x s = EStateM.bind x (fun a => EStateM.pure (f a)) s
  unfold EStateM.map EStateM.bind
  cases x s <;> rfl

@[simp] theorem returns_map {x : EStateM ε σ α} {f : α → β} {b : β} :
    Returns (f <$> x) s b s' ↔ ∃ a, Returns x s a s' ∧ f a = b := by
  rw [map_eq_bind, returns_bind]
  constructor
  · rintro ⟨a, t, hx, hp⟩
    obtain ⟨rfl, rfl⟩ := returns_pure.mp hp
    exact ⟨a, hx, rfl⟩
  · rintro ⟨a, hx, rfl⟩
    exact ⟨a, s', hx, returns_pure.mpr ⟨rfl, rfl⟩⟩

@[simp] theorem raises_map {x : EStateM ε σ α} {f : α → β} :
    Raises (f <$> x) s e s' ↔ Raises x s e s' := by
  rw [map_eq_bind, raises_bind]
  constructor
  · rintro (hx | ⟨a, t, _, hp⟩)
    · exact hx
    · exact absurd hp not_raises_pure
  · exact Or.inl

@[simp] theorem after_map {x : EStateM ε σ α} {f : α → β} : after (f <$> x) s = after x s := by
  rcases returns_or_raises x s with ⟨a, s', h⟩ | ⟨e, s', h⟩
  · exact (returns_map.mpr ⟨a, h, rfl⟩).after.trans h.after.symm
  · exact (raises_map.mpr h).after.trans h.after.symm

theorem returns_attempt {x : EStateM ε σ α} {r : Except ε α} :
    Returns (attempt x) s r s' ↔
      (∃ a, Returns x s a s' ∧ r = .ok a) ∨ ∃ e, Raises x s e s' ∧ r = .error e := by
  rcases hx : x.run s with ⟨a, t⟩ | ⟨e, t⟩
  · have hrun : (attempt x).run s = .ok (.ok a) t := by
      show attempt x s = _
      rw [attempt, hx]
    constructor
    · intro h
      obtain ⟨rfl, rfl⟩ := Returns.unique hrun h
      exact Or.inl ⟨a, hx, rfl⟩
    · rintro (⟨a', h, rfl⟩ | ⟨e, h, _⟩)
      · obtain ⟨rfl, rfl⟩ := Returns.unique hx h
        exact hrun
      · exact absurd h (Returns.not_raises hx)
  · have hrun : (attempt x).run s = .ok (.error e) t := by
      show attempt x s = _
      rw [attempt, hx]
    constructor
    · intro h
      obtain ⟨rfl, rfl⟩ := Returns.unique hrun h
      exact Or.inr ⟨e, hx, rfl⟩
    · rintro (⟨a', h, _⟩ | ⟨e', h, rfl⟩)
      · exact absurd hx (Returns.not_raises h)
      · obtain ⟨rfl, rfl⟩ := Raises.unique hx h
        exact hrun

theorem not_raises_attempt {x : EStateM ε σ α} : ¬ Raises (attempt x) s e s' := by
  intro h
  have hrun : attempt x s = .error e s' := h
  rw [attempt] at hrun
  split at hrun <;> exact nomatch hrun

theorem after_attempt {x : EStateM ε σ α} : after (attempt x) s = after x s := by
  rcases returns_or_raises x s with ⟨a, s', h⟩ | ⟨e, s', h⟩
  · exact (returns_attempt.mpr (Or.inl ⟨a, h, rfl⟩)).after.trans h.after.symm
  · exact (returns_attempt.mpr (Or.inr ⟨e, h, rfl⟩)).after.trans h.after.symm

section Within

variable {part : σ → τ} {update : τ → σ → σ} {x : EStateM ε τ α}

@[simp] theorem returns_within :
    Returns (within part update x) s a s' ↔
      ∃ t, Returns x (part s) a t ∧ update t s = s' := by
  rcases hx : x.run (part s) with ⟨b, t⟩ | ⟨e, t⟩
  · have hrun : (within part update x).run s = .ok b (update t s) := by
      show within part update x s = _
      rw [within, hx]
    constructor
    · intro h
      obtain ⟨rfl, rfl⟩ := Returns.unique hrun h
      exact ⟨t, hx, rfl⟩
    · rintro ⟨t', h, rfl⟩
      obtain ⟨rfl, rfl⟩ := Returns.unique hx h
      exact hrun
  · have hrun : (within part update x).run s = .error e (update t s) := by
      show within part update x s = _
      rw [within, hx]
    constructor
    · intro h
      exact absurd hrun h.not_raises
    · rintro ⟨t', h, rfl⟩
      exact absurd hx h.not_raises

@[simp] theorem raises_within :
    Raises (within part update x) s e s' ↔
      ∃ t, Raises x (part s) e t ∧ update t s = s' := by
  rcases hx : x.run (part s) with ⟨b, t⟩ | ⟨e', t⟩
  · have hrun : (within part update x).run s = .ok b (update t s) := by
      show within part update x s = _
      rw [within, hx]
    constructor
    · intro h
      exact absurd h (Returns.not_raises hrun)
    · rintro ⟨t', h, rfl⟩
      exact absurd h (Returns.not_raises hx)
  · have hrun : (within part update x).run s = .error e' (update t s) := by
      show within part update x s = _
      rw [within, hx]
    constructor
    · intro h
      obtain ⟨rfl, rfl⟩ := Raises.unique hrun h
      exact ⟨t, hx, rfl⟩
    · rintro ⟨t', h, rfl⟩
      obtain ⟨rfl, rfl⟩ := Raises.unique hx h
      exact hrun

theorem after_within : after (within part update x) s = update (after x (part s)) s := by
  rcases returns_or_raises x (part s) with ⟨a, t, h⟩ | ⟨e, t, h⟩
  · rw [h.after, (returns_within.mpr ⟨t, h, rfl⟩ : Returns (within part update x) s a _).after]
  · rw [h.after, (raises_within.mpr ⟨t, h, rfl⟩ : Raises (within part update x) s e _).after]

end Within

end Inversion

/-! ### A primitive, then the rest

The same facts with the primitive's own result already substituted: a chain of
guards simplifies to a conjunction with no intermediate states left in it. -/

section Chain

variable {s s' : σ} {b : β} {e e' : ε}

@[simp] theorem returns_get_bind {f : σ → EStateM ε σ β} :
    Returns (get >>= f) s b s' ↔ Returns (f s) s b s' := Iff.rfl

@[simp] theorem raises_get_bind {f : σ → EStateM ε σ β} :
    Raises (get >>= f) s e s' ↔ Raises (f s) s e s' := Iff.rfl

@[simp] theorem returns_modify_bind {g : σ → σ} {f : PUnit → EStateM ε σ β} :
    Returns (modify g >>= f) s b s' ↔ Returns (f ⟨⟩) (g s) b s' := Iff.rfl

@[simp] theorem raises_modify_bind {g : σ → σ} {f : PUnit → EStateM ε σ β} :
    Raises (modify g >>= f) s e s' ↔ Raises (f ⟨⟩) (g s) e s' := Iff.rfl

@[simp] theorem returns_raiseIf_bind {c : Prop} [Decidable c] {f : Unit → EStateM ε σ β} :
    Returns (raiseIf c e >>= f) s b s' ↔ ¬ c ∧ Returns (f ()) s b s' := by
  by_cases h : c <;> simp [raiseIf, h]

@[simp] theorem raises_raiseIf_bind {c : Prop} [Decidable c] {f : Unit → EStateM ε σ β} :
    Raises (raiseIf c e >>= f) s e' s' ↔ c ∧ e = e' ∧ s = s' ∨ ¬ c ∧ Raises (f ()) s e' s' := by
  by_cases h : c <;> simp [raiseIf, h]

@[simp] theorem returns_orRaise_bind {o : Option α} {f : α → EStateM ε σ β} :
    Returns (orRaise e o >>= f) s b s' ↔ ∃ a, o = some a ∧ Returns (f a) s b s' := by
  cases o <;> simp [orRaise]

@[simp] theorem raises_orRaise_bind {o : Option α} {f : α → EStateM ε σ β} :
    Raises (orRaise e o >>= f) s e' s' ↔
      o = none ∧ e = e' ∧ s = s' ∨ ∃ a, o = some a ∧ Raises (f a) s e' s' := by
  cases o <;> simp [orRaise]

@[simp] theorem returns_raiseOn_bind {o : Option α} {g : α → ε} {f : Unit → EStateM ε σ β} :
    Returns (raiseOn o g >>= f) s b s' ↔ o = none ∧ Returns (f ()) s b s' := by
  cases o <;> simp [raiseOn]

@[simp] theorem returns_okOrRaise_bind {r : Except ε α} {f : α → EStateM ε σ β} :
    Returns (okOrRaise r >>= f) s b s' ↔ ∃ a, r = .ok a ∧ Returns (f a) s b s' := by
  cases r <;> simp [okOrRaise]

@[simp] theorem raises_okOrRaise_bind {r : Except ε α} {f : α → EStateM ε σ β} :
    Raises (okOrRaise r >>= f) s e s' ↔
      r = .error e ∧ s = s' ∨ ∃ a, r = .ok a ∧ Raises (f a) s e s' := by
  cases r <;> simp [okOrRaise]

theorem Returns.after_bind {x : EStateM ε σ α} {f : α → EStateM ε σ β} {a : α}
    (h : Returns x s a s') : Raise.after (x >>= f) s = Raise.after (f a) s' := by
  rw [Raise.after, h.bind, Raise.after]

theorem Raises.after_bind {x : EStateM ε σ α} {f : α → EStateM ε σ β} (h : Raises x s e s') :
    Raise.after (x >>= f) s = s' :=
  h.bind.after

@[simp] theorem after_get_bind {f : σ → EStateM ε σ β} : after (get >>= f) s = after (f s) s := rfl

@[simp] theorem after_modify_bind {g : σ → σ} {f : PUnit → EStateM ε σ β} :
    after (modify g >>= f) s = after (f ⟨⟩) (g s) := rfl

@[simp] theorem after_raiseIf_bind {c : Prop} [Decidable c] {f : Unit → EStateM ε σ β} :
    after (raiseIf c e >>= f) s = if c then s else after (f ()) s := by
  by_cases h : c
  · rw [if_pos h, (raises_raiseIf.mpr ⟨h, rfl, rfl⟩).after_bind]
  · rw [if_neg h, (returns_raiseIf (u := ()).mpr ⟨h, rfl⟩).after_bind]

@[simp] theorem after_bind_pure {x : EStateM ε σ α} {g : α → β} :
    after (x >>= fun a => pure (g a)) s = after x s := by
  rw [← map_eq_bind, after_map]

end Chain

/-! ## Effect classes -/

/-- Never writes. -/
def ReadOnly (x : EStateM ε σ α) : Prop := ∀ s, after x s = s

/-- Never raises. -/
def Total (x : EStateM ε σ α) : Prop := ∀ s e s', ¬ Raises x s e s'

/-- A raise leaves the state as it was. -/
def Atomic (x : EStateM ε σ α) : Prop := ∀ s e s', Raises x s e s' → s' = s

theorem ReadOnly.returns {x : EStateM ε σ α} (hx : ReadOnly x) {s s' : σ} {a : α}
    (h : Returns x s a s') : s' = s :=
  h.after.symm.trans (hx s)

theorem ReadOnly.atomic {x : EStateM ε σ α} (hx : ReadOnly x) : Atomic x :=
  fun s _ _ h => h.after.symm.trans (hx s)

theorem Total.atomic {x : EStateM ε σ α} (hx : Total x) : Atomic x :=
  fun s e s' h => absurd h (hx s e s')

theorem ReadOnly.pure (a : α) : ReadOnly (pure a : EStateM ε σ α) := fun _ => rfl

theorem ReadOnly.get : ReadOnly (get : EStateM ε σ σ) := fun _ => rfl

theorem ReadOnly.throw (e : ε) : ReadOnly (throw e : EStateM ε σ α) := fun _ => rfl

theorem ReadOnly.raiseIf (c : Prop) [Decidable c] (e : ε) :
    ReadOnly (raiseIf c e : EStateM ε σ Unit) := by
  intro s
  by_cases h : c
  · exact (raises_raiseIf.mpr ⟨h, rfl, rfl⟩).after
  · exact (returns_raiseIf (u := ()).mpr ⟨h, rfl⟩).after

theorem ReadOnly.orRaise (e : ε) (o : Option α) : ReadOnly (orRaise e o : EStateM ε σ α) := by
  cases o with
  | none => exact ReadOnly.throw e
  | some a => exact ReadOnly.pure a

theorem ReadOnly.raiseOn (o : Option α) (e : α → ε) :
    ReadOnly (raiseOn o e : EStateM ε σ Unit) := by
  cases o with
  | none => exact ReadOnly.pure ()
  | some a => exact ReadOnly.throw (e a)

theorem ReadOnly.okOrRaise (r : Except ε α) : ReadOnly (okOrRaise r : EStateM ε σ α) := by
  cases r with
  | error e => exact ReadOnly.throw e
  | ok a => exact ReadOnly.pure a

theorem ReadOnly.bind {x : EStateM ε σ α} {f : α → EStateM ε σ β} (hx : ReadOnly x)
    (hf : ∀ a, ReadOnly (f a)) : ReadOnly (x >>= f) := by
  intro s
  refine after_of_cases (P := (· = s)) (fun b s' h => ?_) (fun e s' h => ?_)
  · obtain ⟨a, t, hxa, hfa⟩ := returns_bind.mp h
    rw [hx.returns hxa] at hfa
    exact (hf a).returns hfa
  · rcases raises_bind.mp h with hxe | ⟨a, t, hxa, hfa⟩
    · exact hx.atomic s e s' hxe
    · rw [hx.returns hxa] at hfa
      exact (hf a).atomic s e s' hfa

theorem Total.pure (a : α) : Total (pure a : EStateM ε σ α) := fun _ _ _ => not_raises_pure

theorem Total.get : Total (get : EStateM ε σ σ) := fun _ _ _ => not_raises_get

theorem Total.modify (f : σ → σ) : Total (modify f : EStateM ε σ PUnit) :=
  fun _ _ _ => not_raises_modify

theorem Total.bind {x : EStateM ε σ α} {f : α → EStateM ε σ β} (hx : Total x)
    (hf : ∀ a, Total (f a)) : Total (x >>= f) := by
  intro s e s' h
  rcases raises_bind.mp h with hxe | ⟨a, t, _, hfa⟩
  · exact hx s e s' hxe
  · exact hf a t e s' hfa

/-- Checks first: an atomic rest keeps a program atomic. -/
theorem Atomic.bind_readOnly {x : EStateM ε σ α} {f : α → EStateM ε σ β} (hx : ReadOnly x)
    (hf : ∀ a, Atomic (f a)) : Atomic (x >>= f) := by
  intro s e s' h
  rcases raises_bind.mp h with hxe | ⟨a, t, hxa, hfa⟩
  · exact hx.atomic s e s' hxe
  · rw [hx.returns hxa] at hfa
    exact hf a s e s' hfa

/-- An atomic method stays atomic for the object that holds the component. -/
theorem Atomic.within {part : σ → τ} {update : τ → σ → σ} {x : EStateM ε τ α}
    (hx : Atomic x) (hupdate : ∀ s, update (part s) s = s) :
    Atomic (within part update x) := by
  intro s e s' h
  obtain ⟨t, ht, rfl⟩ := raises_within.mp h
  rw [hx _ _ _ ht, hupdate]

theorem ReadOnly.within {part : σ → τ} {update : τ → σ → σ} {x : EStateM ε τ α}
    (hx : ReadOnly x) (hupdate : ∀ s, update (part s) s = s) :
    ReadOnly (within part update x) := by
  intro s
  refine after_of_cases (P := (· = s)) (fun a s' h => ?_) (fun e s' h => ?_)
  · obtain ⟨t, ht, rfl⟩ := returns_within.mp h
    rw [hx.returns ht, hupdate]
  · obtain ⟨t, ht, rfl⟩ := raises_within.mp h
    rw [hx.atomic _ _ _ ht, hupdate]

theorem Atomic.map {x : EStateM ε σ α} (f : α → β) (hx : Atomic x) : Atomic (f <$> x) :=
  fun s e s' h => hx s e s' (raises_map.mp h)

/-! ## Invariants -/

/-- `P` holds of the state afterwards, whichever way the run ended. -/
def Preserves (P : σ → Prop) (x : EStateM ε σ α) : Prop := ∀ s, P s → P (after x s)

theorem ReadOnly.preserves {x : EStateM ε σ α} (hx : ReadOnly x) (P : σ → Prop) :
    Preserves P x :=
  fun s h => (hx s).symm ▸ h

/-- For an atomic program only the runs that return have to be looked at. -/
theorem Atomic.preserves {x : EStateM ε σ α} {P : σ → Prop} (hx : Atomic x)
    (hret : ∀ s a s', P s → Returns x s a s' → P s') : Preserves P x := by
  intro s hs
  refine after_of_cases (fun a s' h => hret s a s' hs h) (fun e s' h => ?_)
  exact (hx s e s' h).symm ▸ hs

theorem Preserves.returns {x : EStateM ε σ α} {P : σ → Prop} (hx : Preserves P x) {s s' : σ}
    {a : α} (hs : P s) (h : Returns x s a s') : P s' :=
  h.after ▸ hx s hs

theorem Preserves.raises {x : EStateM ε σ α} {P : σ → Prop} (hx : Preserves P x) {s s' : σ}
    {e : ε} (hs : P s) (h : Raises x s e s') : P s' :=
  h.after ▸ hx s hs

theorem Preserves.pure {P : σ → Prop} (a : α) : Preserves P (pure a : EStateM ε σ α) :=
  (ReadOnly.pure a).preserves P

theorem Preserves.get {P : σ → Prop} : Preserves P (get : EStateM ε σ σ) :=
  ReadOnly.get.preserves P

theorem Preserves.throw {P : σ → Prop} (e : ε) : Preserves P (throw e : EStateM ε σ α) :=
  (ReadOnly.throw e).preserves P

theorem Preserves.raiseIf {P : σ → Prop} (c : Prop) [Decidable c] (e : ε) :
    Preserves P (raiseIf c e : EStateM ε σ Unit) :=
  (ReadOnly.raiseIf c e).preserves P

theorem Preserves.okOrRaise {P : σ → Prop} (r : Except ε α) :
    Preserves P (okOrRaise r : EStateM ε σ α) :=
  (ReadOnly.okOrRaise r).preserves P

theorem Preserves.modify {P : σ → Prop} {f : σ → σ} (h : ∀ s, P s → P (f s)) :
    Preserves P (modify f : EStateM ε σ PUnit) := h

theorem Preserves.bind {P : σ → Prop} {x : EStateM ε σ α} {f : α → EStateM ε σ β}
    (hx : Preserves P x) (hf : ∀ a, Preserves P (f a)) : Preserves P (x >>= f) := by
  intro s hs
  refine after_of_cases (fun b s' h => ?_) (fun e s' h => ?_)
  · obtain ⟨a, t, hxa, hfa⟩ := returns_bind.mp h
    exact (hf a).returns (hx.returns hs hxa) hfa
  · rcases raises_bind.mp h with hxe | ⟨a, t, hxa, hfa⟩
    · exact hx.raises hs hxe
    · exact (hf a).raises (hx.returns hs hxa) hfa

theorem Preserves.okOrRaise_bind {P : σ → Prop} {r : Except ε α} {f : α → EStateM ε σ β}
    (hf : ∀ a, r = .ok a → Preserves P (f a)) : Preserves P (Raise.okOrRaise r >>= f) := by
  intro s hs
  refine after_of_cases (fun b s' h => ?_) (fun e s' h => ?_)
  · obtain ⟨a, hr, hfa⟩ := returns_okOrRaise_bind.mp h
    exact (hf a hr).returns hs hfa
  · rcases raises_bind.mp h with hr | ⟨a, t, hr, hfa⟩
    · exact (raises_okOrRaise.mp hr).2 ▸ hs
    · obtain ⟨hok, rfl⟩ := returns_okOrRaise.mp hr
      exact (hf a hok).raises hs hfa

theorem Preserves.attempt {P : σ → Prop} {x : EStateM ε σ α} (hx : Preserves P x) :
    Preserves P (attempt x) := by
  intro s hs
  refine after_of_cases (fun r s' h => ?_) (fun e s' h => absurd h not_raises_attempt)
  rcases returns_attempt.mp h with ⟨a, hret, _⟩ | ⟨e, hraise, _⟩
  · exact hx.returns hs hret
  · exact hx.raises hs hraise

theorem Preserves.within {P : σ → Prop} {part : σ → τ} {update : τ → σ → σ} {x : EStateM ε τ α}
    (hupdate : ∀ s t, P s → P (update t s)) : Preserves P (within part update x) := by
  intro s hs
  refine after_of_cases (fun a s' h => ?_) (fun e s' h => ?_)
  · obtain ⟨t, _, rfl⟩ := returns_within.mp h
    exact hupdate s t hs
  · obtain ⟨t, _, rfl⟩ := raises_within.mp h
    exact hupdate s t hs

theorem Preserves.map {P : σ → Prop} {x : EStateM ε σ α} (f : α → β) (hx : Preserves P x) :
    Preserves P (f <$> x) :=
  fun s hs => after_map.symm ▸ hx s hs

/-- `P` holds of what a run returns. -/
def Gives (P : α → Prop) (x : EStateM ε σ α) : Prop := ∀ s a s', Returns x s a s' → P a

theorem Gives.pure {P : α → Prop} {a : α} (h : P a) : Gives P (pure a : EStateM ε σ α) := by
  intro s b s' hret
  obtain ⟨rfl, _⟩ := returns_pure.mp hret
  exact h

theorem Gives.bind {P : β → Prop} {x : EStateM ε σ α} {f : α → EStateM ε σ β}
    (hf : ∀ a, Gives P (f a)) : Gives P (x >>= f) := by
  intro s b s' hret
  obtain ⟨a, t, _, hfa⟩ := returns_bind.mp hret
  exact hf a t b s' hfa

/-- What goes on after a check holds only of what the check lets through. -/
theorem Gives.okOrRaise_bind {P : β → Prop} {r : Except ε α} {f : α → EStateM ε σ β}
    (hf : ∀ a, r = .ok a → Gives P (f a)) : Gives P (okOrRaise r >>= f) := by
  intro s b s' hret
  obtain ⟨a, hr, hfa⟩ := returns_okOrRaise_bind.mp hret
  exact hf a hr s b s' hfa

theorem Gives.okOrRaise {P : α → Prop} {r : Except ε α} (h : ∀ a, r = .ok a → P a) :
    Gives P (okOrRaise r : EStateM ε σ α) := by
  intro s a s' hret
  obtain ⟨hr, _⟩ := returns_okOrRaise.mp hret
  exact h a hr

/-! ## Accepted or refused

A call is accepted when it returns, and refused when it raises and leaves the
state as it was; an atomic method does one of the two. -/

/-- The value is there and satisfies `p`. -/
def OnSome (o : Option α) (p : α → Prop) : Prop :=
  match o with
  | some a => p a
  | none => False

/-- The computation succeeds with a value that satisfies `p`. -/
def OnOk (r : Except ε α) (p : α → Prop) : Prop :=
  match r with
  | .ok a => p a
  | .error _ => False

instance (o : Option α) (p : α → Prop) [∀ a, Decidable (p a)] : Decidable (OnSome o p) := by
  unfold OnSome
  split <;> infer_instance

instance (r : Except ε α) (p : α → Prop) [∀ a, Decidable (p a)] : Decidable (OnOk r p) := by
  unfold OnOk
  split <;> infer_instance

/-- A reading in two parts succeeds when both parts do. -/
theorem except_bind_eq_ok {x : Except ε α} {f : α → Except ε β} {b : β} :
    x >>= f = .ok b ↔ ∃ a, x = .ok a ∧ f a = .ok b := by
  cases x with
  | error e => exact iff_of_false (fun h => nomatch h) fun ⟨_, h, _⟩ => nomatch h
  | ok a => exact ⟨fun h => ⟨a, rfl, h⟩, fun ⟨_, h, hf⟩ => Except.ok.inj h ▸ hf⟩

/-- Every item is read, each result from the item at its place. -/
theorem except_mapM_eq_ok {f : α → Except ε β} {xs : List α} {ys : List β} :
    xs.mapM f = .ok ys ↔ List.Forall₂ (fun x y => f x = .ok y) xs ys := by
  induction xs generalizing ys with
  | nil =>
      rw [List.mapM_nil, List.forall₂_nil_left_iff]
      exact ⟨fun h => (Except.ok.inj h).symm, fun h => h ▸ rfl⟩
  | cons x xs ih =>
      rw [List.mapM_cons, List.forall₂_cons_left_iff]
      constructor
      · intro h
        obtain ⟨y, hy, h⟩ := except_bind_eq_ok.mp h
        obtain ⟨ys', hys, h⟩ := except_bind_eq_ok.mp h
        exact ⟨y, ys', hy, ih.mp hys, (Except.ok.inj h).symm⟩
      · rintro ⟨y, ys', hy, hys, rfl⟩
        exact except_bind_eq_ok.mpr ⟨y, hy, except_bind_eq_ok.mpr ⟨ys', ih.mpr hys, rfl⟩⟩

theorem exists_of_except_mapM {f : α → Except ε β} {xs : List α} {ys : List β}
    (h : xs.mapM f = .ok ys) : (∀ x ∈ xs, ∃ y ∈ ys, f x = .ok y) ∧ ∀ y ∈ ys, ∃ x ∈ xs, f x = .ok y := by
  have hall := except_mapM_eq_ok.mp h
  clear h
  induction hall with
  | nil => exact ⟨fun x hx => absurd hx List.not_mem_nil, fun y hy => absurd hy List.not_mem_nil⟩
  | @cons x y xs ys hxy _ ih =>
      refine ⟨fun x' hx' => ?_, fun y' hy' => ?_⟩
      · rcases List.mem_cons.mp hx' with rfl | hx'
        · exact ⟨y, List.mem_cons_self, hxy⟩
        · obtain ⟨y', hy', h⟩ := ih.1 x' hx'
          exact ⟨y', List.mem_cons_of_mem _ hy', h⟩
      · rcases List.mem_cons.mp hy' with rfl | hy'
        · exact ⟨x, List.mem_cons_self, hxy⟩
        · obtain ⟨x', hx', h⟩ := ih.2 y' hy'
          exact ⟨x', List.mem_cons_of_mem _ hx', h⟩

theorem onSome_iff {o : Option α} {p : α → Prop} : OnSome o p ↔ ∃ a, o = some a ∧ p a := by
  cases o <;> simp [OnSome]

theorem onOk_iff {r : Except ε α} {p : α → Prop} : OnOk r p ↔ ∃ a, r = .ok a ∧ p a := by
  cases r <;> simp [OnOk]

theorem OnOk.of_eq {r : Except ε α} {p : α → Prop} {a : α} (h : OnOk r p) (hr : r = .ok a) :
    p a := by
  obtain ⟨b, hb, hp⟩ := onOk_iff.mp h
  rwa [Except.ok.inj (hr.symm.trans hb)]

def Accepts (x : EStateM ε σ α) (s : σ) : Prop := ∃ a s', Returns x s a s'

def Refuses (x : EStateM ε σ α) (s : σ) : Prop := ∃ e, Raises x s e s

section Accepted

variable {x : EStateM ε σ α} {s s' : σ} {a : α}

theorem accepts_of_raised_eq_false (h : raised x s = false) : Accepts x s := by
  rcases returns_or_raises x s with hret | hraises
  · exact hret
  · exact absurd ((raised_iff.mpr hraises).symm.trans h) (Bool.noConfusion ·)

theorem Refuses.not_accepts (h : Refuses x s) : ¬ Accepts x s := by
  obtain ⟨e, he⟩ := h
  rintro ⟨a, s', ha⟩
  exact ha.not_raises he

theorem Refuses.after (h : Refuses x s) : Raise.after x s = s := by
  obtain ⟨e, he⟩ := h
  exact he.after

theorem Atomic.refuses_iff (hx : Atomic x) : Refuses x s ↔ ¬ Accepts x s := by
  refine ⟨Refuses.not_accepts, fun h => ?_⟩
  rcases returns_or_raises x s with ⟨a, s', ha⟩ | ⟨e, s', he⟩
  · exact absurd ⟨a, s', ha⟩ h
  · exact ⟨e, hx s e s' he ▸ he⟩

theorem refuses_throw (e : ε) : Refuses (throw e : EStateM ε σ α) s := ⟨e, raises_throw.mpr ⟨rfl, rfl⟩⟩

theorem Refuses.bind {f : α → EStateM ε σ β} (h : Refuses x s) : Refuses (x >>= f) s := by
  obtain ⟨e, he⟩ := h
  exact ⟨e, he.bind⟩

theorem Returns.bind_refuses {f : α → EStateM ε σ β} (h : Returns x s a s) (hf : Refuses (f a) s) :
    Refuses (x >>= f) s := by
  obtain ⟨e, he⟩ := hf
  exact ⟨e, raises_bind.mpr (Or.inr ⟨a, s, h, he⟩)⟩

theorem Returns.bind_accepts {f : α → EStateM ε σ β} (h : Returns x s a s')
    (hf : Accepts (f a) s') : Accepts (x >>= f) s := by
  obtain ⟨b, t, hb⟩ := hf
  exact ⟨b, t, returns_bind.mpr ⟨a, s', h, hb⟩⟩

theorem accepts_pure (a : α) : Accepts (pure a : EStateM ε σ α) s := ⟨a, s, returns_pure.mpr ⟨rfl, rfl⟩⟩

theorem refuses_within {part : σ → τ} {update : τ → σ → σ} {y : EStateM ε τ α}
    (hupdate : update (part s) s = s) (h : Refuses y (part s)) :
    Refuses (within part update y) s := by
  obtain ⟨e, he⟩ := h
  exact ⟨e, raises_within.mpr ⟨part s, he, hupdate⟩⟩

end Accepted

/-! ## Two computations that end alike -/

/-- Both fail, or both succeed with results that are related. -/
inductive EndsAlike (R : α → β → Prop) : Except ε α → Except ε β → Prop
  | ok {a : α} {b : β} (h : R a b) : EndsAlike R (.ok a) (.ok b)
  | error (e e' : ε) : EndsAlike R (.error e) (.error e')

theorem EndsAlike.bind {γ δ : Type} {R : α → β → Prop} {S : γ → δ → Prop} {x : Except ε α}
    {y : Except ε β} {f : α → Except ε γ} {g : β → Except ε δ} (h : EndsAlike R x y)
    (hfg : ∀ a b, R a b → EndsAlike S (f a) (g b)) : EndsAlike S (x >>= f) (y >>= g) := by
  cases h with
  | ok h => exact hfg _ _ h
  | error e e' => exact .error e e'

theorem EndsAlike.trans {γ : Type} {R : α → β → Prop} {S : β → γ → Prop} {T : α → γ → Prop}
    {x : Except ε α} {y : Except ε β} {z : Except ε γ} (h : EndsAlike R x y) (h' : EndsAlike S y z)
    (hT : ∀ a b c, R a b → S b c → T a c) : EndsAlike T x z := by
  cases h with
  | ok h =>
      cases h' with
      | ok h' => exact .ok (hT _ _ _ h h')
  | error e e' =>
      cases h' with
      | error _ e'' => exact .error e e''

end Raise
