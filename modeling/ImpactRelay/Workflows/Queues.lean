/-
# `Workflows.Queues` — what a step of the system does to a queue

A queue only grows, by one accepted signal at a time; besides that its signals get
consumed, in their places (`queue_step`).  A signal is accepted for a workflow of its own
tenant, so every queue belongs to the tenant of its workflow (`Queued`).

`unconsumed` counts what is left of a queue.  Marking never adds to it, and marking a
signal that is left takes one away.
-/
import ImpactRelay.Workflows.Rows

namespace ImpactRelay

open WorkflowStore LawfulWorkflowStore

/-! ## What is left of a queue -/

def unconsumed (queue : List WorkflowSignal) : Nat := queue.countP fun y => !y.consumed

/-- The queue, with the signals of the tenant that are listed consumed, and perhaps others. -/
def Marks (tenantId : Id) (consumed : List Id) (xs ys : List WorkflowSignal) : Prop :=
  List.Forall₂ (fun x y => (y = x ∨ ∃ result, y = x.consume result) ∧
    (x.tenantId = tenantId → x.signalId ∈ consumed → y.consumed = true)) xs ys

theorem Marks.of_nil {tenantId : Id} {xs ys : List WorkflowSignal} (h : MarkedFrom xs ys) :
    Marks tenantId [] xs ys :=
  h.imp fun _ _ hxy => ⟨hxy, fun _ hnil => absurd hnil List.not_mem_nil⟩

theorem Marks.marked {tenantId : Id} {consumed : List Id} {xs ys : List WorkflowSignal}
    (h : Marks tenantId consumed xs ys) : MarkedFrom xs ys :=
  h.imp fun _ _ hxy => hxy.1

/-- What was consumed before stays so. -/
theorem Marks.after {tenantId : Id} {consumed : List Id} {xs ys zs : List WorkflowSignal}
    (h' : Marks tenantId consumed ys zs) (h : MarkedFrom xs ys) : Marks tenantId consumed xs zs := by
  induction h generalizing zs with
  | nil =>
      cases h'
      exact .nil
  | cons hxy _ ih =>
      cases h' with
      | cons hyz hrest =>
          refine .cons ?_ (ih hrest)
          obtain ⟨hmarked, hlisted⟩ := hyz
          rcases hxy with rfl | ⟨result, rfl⟩
          · exact ⟨hmarked, hlisted⟩
          · refine ⟨Or.inr ?_, hlisted⟩
            rcases hmarked with rfl | ⟨result', rfl⟩
            · exact ⟨result, rfl⟩
            · exact ⟨result', rfl⟩

theorem marked_trans {xs ys zs : List WorkflowSignal} (h : MarkedFrom xs ys)
    (h' : MarkedFrom ys zs) : MarkedFrom xs zs :=
  have hmarks : Marks "" [] ys zs := .of_nil h'
  (hmarks.after h).marked

theorem unconsumed_le {xs ys : List WorkflowSignal} (h : MarkedFrom xs ys) :
    unconsumed ys ≤ unconsumed xs := by
  induction h with
  | nil => exact Nat.le_refl _
  | cons hxy _ ih =>
      rw [unconsumed, unconsumed, List.countP_cons, List.countP_cons]
      rcases hxy with rfl | ⟨result, rfl⟩
      · exact Nat.add_le_add_right ih _
      · exact Nat.le_trans ih (Nat.le_add_right _ _)

theorem Marks.unconsumed_lt {tenantId : Id} {consumed : List Id} {xs ys : List WorkflowSignal}
    (h : Marks tenantId consumed xs ys) {x : WorkflowSignal} (hx : x ∈ xs) (hleft : x.consumed = false)
    (htenant : x.tenantId = tenantId) (hlisted : x.signalId ∈ consumed) :
    unconsumed ys < unconsumed xs := by
  induction h with
  | nil => exact absurd hx List.not_mem_nil
  | cons hxy hrest ih =>
      rename_i first firstMarked rest restMarked
      have hle : unconsumed restMarked ≤ unconsumed rest := unconsumed_le (Marks.marked hrest)
      rw [unconsumed, unconsumed, List.countP_cons, List.countP_cons]
      rcases List.mem_cons.mp hx with rfl | hmem
      · rw [hxy.2 htenant hlisted, hleft]
        exact Nat.lt_succ_of_le hle
      · have hlt : unconsumed restMarked < unconsumed rest := ih hmem
        rcases hxy.1 with rfl | ⟨result, rfl⟩
        · exact Nat.add_lt_add_right hlt _
        · exact Nat.lt_of_lt_of_le hlt (Nat.le_add_right _ _)

theorem consumed_of_consumeResultOf {consume : List (Id × SignalConsumeResult)} {x : WorkflowSignal}
    (h : x.consumed = true ∨ x.signalId ∈ consume.map (·.1)) :
    (consumeResultOf consume x).consumed = true := by
  induction consume generalizing x with
  | nil =>
      rcases h with h | h
      · exact h
      · exact absurd h List.not_mem_nil
  | cons e rest ih =>
      rw [consumeResultOf, List.foldl_cons, ← consumeResultOf]
      split
      · exact ih (Or.inl rfl)
      · rename_i hne
        rcases h with h | h
        · exact ih (Or.inl h)
        · rcases List.mem_cons.mp h with heq | hmem
          · exact absurd heq hne
          · exact ih (Or.inr hmem)

theorem consumeResultOf_of_not_mem {consume : List (Id × SignalConsumeResult)} {x : WorkflowSignal}
    (h : x.signalId ∉ consume.map (·.1)) : consumeResultOf consume x = x := by
  induction consume with
  | nil => rfl
  | cons e rest ih =>
      obtain ⟨hne, hrest⟩ := not_or.mp (fun hmem => h (List.mem_cons.mpr hmem))
      rw [consumeResultOf, List.foldl_cons, ← consumeResultOf, if_neg hne]
      exact ih hrest

theorem Marks.exists_of_mem {tenantId : Id} {consumed : List Id} {xs ys : List WorkflowSignal}
    {y : WorkflowSignal} (h : Marks tenantId consumed xs ys) (hy : y ∈ ys) :
    ∃ x ∈ xs, (y = x ∨ ∃ result, y = x.consume result) ∧
      (x.tenantId = tenantId → x.signalId ∈ consumed → y.consumed = true) := by
  induction h with
  | nil => exact absurd hy List.not_mem_nil
  | cons hxy _ ih =>
      rcases List.mem_cons.mp hy with rfl | hmem
      · exact ⟨_, List.mem_cons_self, hxy⟩
      · obtain ⟨x, hx, hmarked⟩ := ih hmem
        exact ⟨x, List.mem_cons_of_mem _ hx, hmarked⟩

/-- A commit marks what is on its list. -/
theorem Marks.of_commit {tenantId : Id} {consume : List (Id × SignalConsumeResult)}
    {xs ys : List WorkflowSignal} (h : MarkedFrom xs ys)
    (hlisted : List.Forall₂ (fun x y => x.tenantId = tenantId → y = consumeResultOf consume x) xs ys) :
    Marks tenantId (consume.map (·.1)) xs ys :=
  h.mp (fun _ _ hxy hresult => ⟨hxy, fun htenant hmem =>
    (hresult htenant).symm ▸ consumed_of_consumeResultOf (Or.inr hmem)⟩) hlisted

namespace System

variable {σ : Type} [WorkflowStore σ]

/-! ## A queue in a step -/

inductive QueueMove (S : System σ) (s : σ) (w : Id) : Prop
  | marks (marked : MarkedFrom (signalsOf S.store w) (signalsOf s w))
  | enqueues {signal : WorkflowSignal} {old : WorkflowInstance}
      (stored : row S.store w = some old) (own : signal.tenantId = old.tenantId)
      (fresh : signal.consumed = false) (queue : signalsOf s w = signalsOf S.store w ++ [signal])
      (woken : ∃ new, row s w = some new ∧ new.runStatus = .pending)

variable {S : System σ} {s : σ} {w : Id}

theorem QueueMove.of_eq (h : signalsOf s = signalsOf S.store) : S.QueueMove s w :=
  .marks (marked_of_eq h w)

theorem queue_settled {key : String × Id} {inst : WorkflowInstance} {next : Option Phase}
    {result : Except PyExc σ} (h : ∀ s', result = .ok s' → S.QueueMove s' w) :
    S.QueueMove (S.settled key inst next result).store w := by
  cases result with
  | error exc => exact .of_eq rfl
  | ok s' => exact h s' rfl

variable [LawfulWorkflowStore σ]

theorem queue_start (x : Surroundings) (request : StartRequest) :
    S.QueueMove (S.start x request).store w := by
  rw [System.start]
  split
  · exact .of_eq rfl
  split
  · exact .of_eq rfl
  rename_i created hcreate
  refine .marks ?_
  rw [← (create_ok hcreate).2.2.2.1]
  exact settle_signals (fun s' hs' => (append_ok hs').2.2.1) w

theorem queue_enqueue (x : Surroundings) {signal : WorkflowSignal}
    (hfresh : signal.consumed = false ∧ signal.consumeResult = none) :
    S.QueueMove (S.enqueue x signal).store w := by
  rw [System.enqueue]
  split
  · exact .of_eq rfl
  rename_i s hcall
  obtain ⟨⟨old, new, hold, htenant, hnew, hstatus, -⟩, -, hqueue, -⟩ := enqueue_ok hcall
  have hqueue' := hqueue hfresh.1 hfresh.2 w
  split at hqueue'
  · rename_i hw
    exact .enqueues (hw ▸ hold) htenant.symm hfresh.1 hqueue' ⟨new, hw ▸ hnew, hstatus⟩
  · refine .marks ?_
    rw [show signalsOf s w = signalsOf S.store w from hqueue']
    exact .refl _

theorem queue_writeFlight {key : String × Id} {f : Flight} {utcNow : String} :
    S.QueueMove (writeFlight key f utcNow S).store w := by
  rw [System.writeFlight]
  split
  · rw [System.writeOutcome]
    split
    · exact .marks ((mark_ok (σ := σ) _ _ _ _).2.2 w)
    split
    · exact queue_settled fun s' hs' => .marks ((commit_ok hs').2.2.1 w)
    · refine queue_settled fun s' hs' => ?_
      obtain ⟨_, _, _, _, _, _, _, _, hsignals, _⟩ := update_ok hs'
      exact .of_eq hsignals
    · exact .of_eq rfl
  · refine queue_settled fun s' hs' => ?_
    obtain ⟨_, _, _, _, _, _, _, _, hsignals, _⟩ := update_ok hs'
    exact .of_eq hsignals
  · exact .marks (settle_signals (fun s' hs' => (append_ok hs').2.2.1) w)
  · exact .of_eq rfl

variable [Digest] [Json.CharTable]

theorem signals_runAdvance {key : String × Id} {inst : WorkflowInstance}
    {signals : List WorkflowSignal} {x : Surroundings} :
    signalsOf (S.runAdvance key inst signals x).store = signalsOf S.store := by
  rw [System.runAdvance]
  split
  · exact signalsOf_withReceipts _ _
  · exact signalsOf_withReceipts _ _

theorem queue_step (S : System σ) (action : Action) (w : Id) :
    S.QueueMove (S.step action).store w := by
  have honFlight : ∀ (worker : String) (v : Id) (f : String × Id → Flight → System σ → System σ),
      (∀ flight, S.QueueMove (f (worker, v) flight S).store w) →
      S.QueueMove (S.onFlight worker v f).store w := by
    intro worker v f hf
    rw [System.onFlight]
    split
    · exact hf _
    · exact .of_eq rfl
  cases action with
  | start x request => exact queue_start x request
  | approve x tenantId v approval =>
      rw [System.step]
      split
      · rename_i signal hsignal
        rw [WorkflowRuntime.approvalSignal] at hsignal
        split at hsignal
        · cases hsignal
        · exact queue_enqueue x (Except.ok.inj hsignal ▸ ⟨rfl, rfl⟩)
      · exact .of_eq rfl
  | operate x tenantId v signalType fields =>
      rw [System.step]
      split
      · exact .of_eq rfl
      · exact queue_enqueue x ⟨rfl, rfl⟩
  | claim worker limit now ttl =>
      rw [System.step, System.claim]
      split
      · exact .of_eq rfl
      · rename_i claimed s hcall
        rw [store_foldl_setFlight]
        exact .of_eq (claim_ok hcall).2.2.1
  | pump worker tenantId v =>
      rw [System.step]
      split <;> exact .of_eq rfl
  | get worker v =>
      refine honFlight worker v _ fun f => ?_
      rw [System.getRow]
      split
      · split <;> exact .of_eq rfl
      · exact .of_eq rfl
  | take worker v =>
      refine honFlight worker v _ fun f => ?_
      rw [System.takeSignals]
      split
      · split <;> exact .of_eq rfl
      · exact .of_eq rfl
  | run worker v x =>
      refine honFlight worker v _ fun f => ?_
      rw [System.runFlight]
      split
      · split
        · exact .of_eq rfl
        · exact .of_eq signals_runAdvance
      · exact .of_eq signals_runAdvance
      · exact .of_eq rfl
  | write worker v utcNow => exact honFlight worker v _ fun f => queue_writeFlight
  | look worker v cfg nowIso nextRunAt => exact honFlight worker v _ fun f => .of_eq rfl
  | drop worker v => exact .of_eq rfl
  | sweep now => exact .of_eq (sweep_signals now S.store).1

/-! ## Queues have the tenant of their workflow -/

def Queued (S : System σ) : Prop :=
  ∀ w y, y ∈ signalsOf S.store w → ∃ inst, row S.store w = some inst ∧ y.tenantId = inst.tenantId

theorem Queued.step (h : S.Queued) (hS : S.Sound) (action : Action) : (S.step action).Queued := by
  intro w y hy
  have hkept : ∀ old, row S.store w = some old → y.tenantId = old.tenantId →
      ∃ inst, row (S.step action).store w = some inst ∧ y.tenantId = inst.tenantId := by
    intro old hold htenant
    obtain ⟨new, hnew, hsame, -⟩ := (row_step hS action).kept w old hold
    exact ⟨new, hnew, htenant.trans hsame.tenantId.symm⟩
  have hbefore : ∀ z ∈ signalsOf S.store w, y.tenantId = z.tenantId →
      ∃ inst, row (S.step action).store w = some inst ∧ y.tenantId = inst.tenantId := by
    intro z hz htenant
    obtain ⟨old, hold, hown⟩ := h w z hz
    exact hkept old hold (htenant.trans hown)
  cases queue_step S action w with
  | marks marked =>
      obtain ⟨z, hz, hmarked⟩ := marked.exists_of_mem hy
      rcases hmarked with rfl | ⟨result, rfl⟩
      · exact hbefore y hz rfl
      · exact hbefore z hz rfl
  | enqueues stored own fresh queue woken =>
      rw [queue] at hy
      rcases List.mem_append.mp hy with hold | hnew
      · exact hbefore y hold rfl
      · obtain rfl := List.mem_singleton.mp hnew
        exact hkept _ stored own

theorem Queued.run (h : S.Queued) (hS : S.Begun) (actions : List Action) :
    (run System.step S actions).Queued := by
  have halong : Along System.step (fun _ _ => True) S actions := along_of_forall fun _ _ => trivial
  exact (run_invariant (P := fun T => T.Begun ∧ T.Queued)
    (fun T action hT _ => ⟨hT.1.step action, hT.2.step hT.1.sound action⟩) ⟨hS, h⟩ halong).2

omit [LawfulWorkflowStore σ] [Digest] [Json.CharTable] in
theorem Fresh.queued (h : S.Fresh) : S.Queued := by
  intro w y hy
  rw [h.signals w] at hy
  exact absurd hy List.not_mem_nil

end System

end ImpactRelay
