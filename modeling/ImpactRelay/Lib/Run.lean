/-
# `Lib.Run` — whole runs of a step function

A system that takes one input after another is a step function; a run is its
left fold.  `Along step ok s as` says that every step of the run meets `ok`
in the state it is taken in — the shape of every assumption "in every run
whose steps …".  `run_invariant` is the induction for safety: what one
admissible step keeps, a run keeps.  `Eventually.of_measure` is the one for
progress.
-/
import Mathlib

section Run

variable {σ α : Type}

def run (step : σ → α → σ) (s : σ) (as : List α) : σ := as.foldl step s

@[simp] theorem run_nil (step : σ → α → σ) (s : σ) : run step s [] = s := rfl

@[simp] theorem run_cons (step : σ → α → σ) (s : σ) (a : α) (as : List α) :
    run step s (a :: as) = run step (step s a) as := rfl

theorem run_append (step : σ → α → σ) (s : σ) (as bs : List α) :
    run step s (as ++ bs) = run step (run step s as) bs :=
  List.foldl_append

/-- Every step of the run from `s` is admissible where it is taken. -/
def Along (step : σ → α → σ) (ok : σ → α → Prop) : σ → List α → Prop
  | _, [] => True
  | s, a :: as => ok s a ∧ Along step ok (step s a) as

instance decidableAlong (step : σ → α → σ) (ok : σ → α → Prop) [∀ s a, Decidable (ok s a)] :
    (s : σ) → (as : List α) → Decidable (Along step ok s as)
  | _, [] => isTrue trivial
  | s, a :: as =>
      have := decidableAlong step ok (step s a) as
      inferInstanceAs (Decidable (ok s a ∧ Along step ok (step s a) as))

variable {step : σ → α → σ} {ok ok' : σ → α → Prop}

theorem along_append : ∀ {s : σ} {as bs : List α},
    Along step ok s (as ++ bs) ↔ Along step ok s as ∧ Along step ok (run step s as) bs
  | _, [], _ => ⟨fun h => ⟨trivial, h⟩, fun h => h.2⟩
  | _, _ :: _, _ => by
      simp only [List.cons_append, Along, run_cons, along_append, and_assoc]

/-- … also the step that comes after a prefix. -/
theorem Along.at_prefix {s : σ} {a : α} {as bs : List α} (h : Along step ok s as)
    (hbs : bs ++ [a] <+: as) : ok (run step s bs) a := by
  obtain ⟨rest, rfl⟩ := hbs
  exact (along_append.mp (along_append.mp h).1).2.1

theorem along_iff_forall_prefix {s : σ} {as : List α} :
    Along step ok s as ↔ ∀ bs a, bs ++ [a] <+: as → ok (run step s bs) a := by
  refine ⟨fun h bs a hbs => h.at_prefix hbs, fun h => ?_⟩
  induction as generalizing s with
  | nil => trivial
  | cons a as ih =>
      refine ⟨h [] a (List.cons_prefix_cons.mpr ⟨rfl, List.nil_prefix⟩), ih fun bs b hbs => ?_⟩
      exact h (a :: bs) b (List.cons_prefix_cons.mpr ⟨rfl, hbs⟩)

/-- What holds at the end and not at the start has come about in one of the steps. -/
theorem exists_step_into {P : σ → Prop} {s : σ} {as : List α} (hstart : ¬ P s)
    (hend : P (run step s as)) :
    ∃ bs a, bs ++ [a] <+: as ∧ ¬ P (run step s bs) ∧ P (run step s (bs ++ [a])) := by
  induction as generalizing s with
  | nil => exact absurd hend hstart
  | cons a as ih =>
      by_cases hnext : P (step s a)
      · exact ⟨[], a, List.cons_prefix_cons.mpr ⟨rfl, List.nil_prefix⟩, hstart, hnext⟩
      · obtain ⟨bs, b, hbs, hbefore, hafter⟩ := ih hnext hend
        exact ⟨a :: bs, b, List.cons_prefix_cons.mpr ⟨rfl, hbs⟩, hbefore, hafter⟩

theorem Along.mono (h : ∀ s a, ok s a → ok' s a) :
    ∀ {s : σ} {as : List α}, Along step ok s as → Along step ok' s as
  | _, [], _ => trivial
  | _, _ :: _, ⟨h₁, h₂⟩ => ⟨h _ _ h₁, h₂.mono h⟩

theorem Along.and : ∀ {s : σ} {as : List α},
    Along step ok s as → Along step ok' s as → Along step (fun s a => ok s a ∧ ok' s a) s as
  | _, [], _, _ => trivial
  | _, _ :: _, ⟨h₁, h₂⟩, ⟨h₁', h₂'⟩ => ⟨⟨h₁, h₁'⟩, h₂.and h₂'⟩

/-- An assumption on the steps, turned into a conclusion about them by what holds of the
states besides. -/
theorem Along.of_invariant {I : σ → Prop} (hinv : ∀ s a, I s → ok s a → I (step s a))
    (h : ∀ s a, I s → ok s a → ok' s a) :
    ∀ {s : σ} {as : List α}, I s → Along step ok s as → Along step ok' s as
  | _, [], _, _ => trivial
  | s, a :: _, hs, ⟨ha, has⟩ => ⟨h s a hs ha, has.of_invariant hinv h (hinv s a hs ha)⟩

/-- Two conditions that say the same of every step from a good state say the same
of a run. -/
theorem along_congr {I : σ → Prop} {fresh : σ → α → Prop}
    (hinv : ∀ s a, I s → fresh s a → I (step s a))
    (h : ∀ s a, I s → fresh s a → (ok s a ↔ ok' s a)) :
    ∀ {s : σ} {as : List α}, I s → Along step fresh s as →
      (Along step ok s as ↔ Along step ok' s as)
  | _, [], _, _ => Iff.rfl
  | s, a :: _, hs, ⟨ha, has⟩ =>
      and_congr (h s a hs ha) (along_congr hinv h (hinv s a hs ha) has)

/-- Every step of every run is admissible when every step is. -/
theorem along_of_forall (h : ∀ s a, ok s a) : ∀ {s : σ} {as : List α}, Along step ok s as
  | _, [] => trivial
  | _, _ :: _ => ⟨h _ _, along_of_forall h⟩

/-- A condition on the inputs alone. -/
theorem along_of_mem {p : α → Prop} : ∀ {s : σ} {as : List α},
    (∀ a ∈ as, p a) → Along step (fun _ a => p a) s as
  | _, [], _ => trivial
  | _, a :: _, h =>
      ⟨h a List.mem_cons_self, along_of_mem fun b hb => h b (List.mem_cons_of_mem a hb)⟩

/-- What an admissible step keeps, an admissible run keeps. -/
theorem run_invariant {P : σ → Prop} (hstep : ∀ s a, P s → ok s a → P (step s a)) :
    ∀ {s : σ} {as : List α}, P s → Along step ok s as → P (run step s as)
  | _, [], hs, _ => hs
  | s, a :: as, hs, ⟨ha, has⟩ => by
      rw [run_cons]
      exact run_invariant hstep (hstep s a hs ha) has

/-- Where a step from a good state is good exactly when it is admissible, the
states of a run are all good exactly when its steps are all admissible.  `I` and
`fresh` are what the step lemma may assume besides. -/
theorem forall_run_iff {I P : σ → Prop} {fresh : σ → α → Prop}
    (hinv : ∀ s a, I s → fresh s a → I (step s a))
    (hstep : ∀ s a, I s → fresh s a → P s → (P (step s a) ↔ ok s a)) :
    ∀ {s : σ} {as : List α}, I s → P s → Along step fresh s as →
      ((∀ bs, bs <+: as → P (run step s bs)) ↔ Along step ok s as)
  | _, [], _, hP, _ =>
      ⟨fun _ => trivial, fun _ bs hbs => (List.prefix_nil.mp hbs) ▸ hP⟩
  | s, a :: as, hI, hP, ⟨ha, has⟩ => by
      have ih := fun hnext => forall_run_iff hinv hstep (hinv s a hI ha) hnext has
      constructor
      · intro h
        have hnext : P (step s a) := h [a] (List.cons_prefix_cons.mpr ⟨rfl, List.nil_prefix⟩)
        refine ⟨(hstep s a hI ha hP).mp hnext, (ih hnext).mp fun bs hbs => ?_⟩
        exact h (a :: bs) (List.cons_prefix_cons.mpr ⟨rfl, hbs⟩)
      · rintro ⟨hok, hrest⟩ bs hbs
        have hnext : P (step s a) := (hstep s a hI ha hP).mpr hok
        cases bs with
        | nil => exact hP
        | cons b bs =>
            obtain ⟨rfl, htail⟩ := List.cons_prefix_cons.mp hbs
            exact (ih hnext).mpr hrest bs htail

/-- Two readings of what a step does, the same from every good state, are the same of a
run; a step that is right keeps the state good. -/
theorem along_iff {I : σ → Prop} (hstep : ∀ s a, I s → (ok s a ↔ ok' s a))
    (hinv : ∀ s a, I s → ok s a → I (step s a)) :
    ∀ {s : σ} {as : List α}, I s → (Along step ok s as ↔ Along step ok' s as)
  | _, [], _ => Iff.rfl
  | s, a :: _, hs => by
      constructor
      · rintro ⟨ha, has⟩
        exact ⟨(hstep s a hs).mp ha, (along_iff hstep hinv (hinv s a hs ha)).mp has⟩
      · rintro ⟨ha, has⟩
        have hok := (hstep s a hs).mpr ha
        exact ⟨hok, (along_iff hstep hinv (hinv s a hs hok)).mpr has⟩

/-! ## Progress

`Eventually` says that a run with enough admissible steps has come to its goal, in some
state on the way.  A measure that every such step decreases proves it; an invariant that
excludes the goal and can always be kept refutes it. -/

def Eventually (step : σ → α → σ) (ok : σ → α → Prop) (goal : σ → Prop) (s : σ) : Prop :=
  ∃ n, ∀ as, n ≤ as.length → Along step ok s as → ∃ past, past <+: as ∧ goal (run step s past)

variable {I goal : σ → Prop}

theorem Eventually.of_measure (measure : σ → Nat)
    (hstep : ∀ s a, I s → ¬ goal s → ok s a →
      goal (step s a) ∨ I (step s a) ∧ measure (step s a) < measure s) {s : σ} (hs : I s) :
    Eventually step ok goal s := by
  refine ⟨measure s + 1, fun as => ?_⟩
  induction as generalizing s with
  | nil => exact fun hlength => absurd hlength (Nat.not_succ_le_zero _)
  | cons a as ih =>
      rintro hlength ⟨ha, has⟩
      by_cases hgoal : goal s
      · exact ⟨[], List.nil_prefix, hgoal⟩
      rcases hstep s a hs hgoal ha with hnext | ⟨hnext, hless⟩
      · exact ⟨[a], List.cons_prefix_cons.mpr ⟨rfl, List.nil_prefix⟩, hnext⟩
      · have hrest : measure (step s a) + 1 ≤ as.length :=
          Nat.le_trans hless (Nat.le_of_succ_le_succ hlength)
        obtain ⟨past, hpast, hreached⟩ := ih hnext hrest has
        exact ⟨a :: past, List.cons_prefix_cons.mpr ⟨rfl, hpast⟩, hreached⟩

theorem not_eventually (hgoal : ∀ s, I s → ¬ goal s)
    (hstep : ∀ s, I s → ∃ a, ok s a ∧ I (step s a)) {s : σ} (hs : I s) :
    ¬ Eventually step ok goal s := by
  rintro ⟨n, hn⟩
  -- a run of any length that keeps the invariant
  have hkeeps : ∀ n s, I s → ∃ as : List α, as.length = n ∧ Along step ok s as ∧
      ∀ past, past <+: as → I (run step s past) := by
    intro n
    induction n with
    | zero =>
        intro s hs
        exact ⟨[], rfl, trivial, fun past hpast => (List.prefix_nil.mp hpast) ▸ hs⟩
    | succ n ih =>
        intro s hs
        obtain ⟨a, ha, hnext⟩ := hstep s hs
        obtain ⟨as, rfl, has, hall⟩ := ih _ hnext
        refine ⟨a :: as, rfl, ⟨ha, has⟩, fun past hpast => ?_⟩
        cases past with
        | nil => exact hs
        | cons b past =>
            obtain ⟨rfl, hrest⟩ := List.cons_prefix_cons.mp hpast
            exact hall past hrest
  obtain ⟨as, hlength, has, hall⟩ := hkeeps n s hs
  obtain ⟨past, hpast, hreached⟩ := hn as (Nat.le_of_eq hlength.symm) has
  exact hgoal _ (hall past hpast) hreached

/-- Two runs that stay related when the second leaves out the inputs without `p`. -/
theorem run_filter {R : σ → σ → Prop} {p : α → Bool} {as : List α}
    (hkept : ∀ a ∈ as, p a = true → ∀ s s', R s s' → R (step s a) (step s' a))
    (hleft : ∀ a ∈ as, p a = false → ∀ s s', R s s' → R (step s a) s') {s s' : σ} (h : R s s') :
    R (run step s as) (run step s' (as.filter p)) := by
  induction as generalizing s s' with
  | nil => exact h
  | cons a as ih =>
      obtain ⟨hkeep, hkept⟩ := List.forall_mem_cons.mp hkept
      obtain ⟨hleave, hleft⟩ := List.forall_mem_cons.mp hleft
      cases hp : p a with
      | true =>
          rw [List.filter_cons_of_pos hp]
          exact ih hkept hleft (hkeep hp s s' h)
      | false =>
          rw [List.filter_cons_of_neg (by rw [hp]; decide)]
          exact ih hkept hleft (hleave hp s s' h)

end Run
