/-
# `Storage.Outbox` — the outbox of events

`SqlOutboxStore` of `storage/outbox.py` on a SQLite engine: events are appended under an
identifier, claimed for publishing a batch at a time, oldest first, and marked when they
are published.  A claim holds nothing: it counts an attempt, and the next claim returns the
same events again.

    what becomes of an event over a run         (`outbox_history`)
    which events a claim passes over            (`claim_oldest_first`)

`created_at` is compared as text.  In which order events of one time come is up to the engine
(`OutboxOrder`).  A payload is JSON, and a row has it as it is read back, with sorted keys.
-/
import ImpactRelay.Lib.Run
import ImpactRelay.Lib.Table
import ImpactRelay.Lib.Text
import ImpactRelay.Lib.SortedJson
import ImpactRelay.Domain.Types

namespace ImpactRelay

structure OutboxEvent where
  eventId : Id
  tenantId : Id
  topic : String
  payload : Json
  createdAt : String
  publishedAt : Option String := none
  attempts : Nat := 0

/-- `ORDER BY created_at` of an engine. -/
class OutboxOrder where
  byCreatedAt : List OutboxEvent → List OutboxEvent
  perm : ∀ rows, (byCreatedAt rows).Perm rows
  sorted : ∀ rows, (byCreatedAt rows).Pairwise fun a b => a.createdAt ≤ b.createdAt

/-- Events of one time in the order of their rows. -/
@[reducible] def OutboxOrder.stable : OutboxOrder where
  byCreatedAt rows := rows.insertionSort fun a b => a.createdAt ≤ b.createdAt
  perm rows := List.perm_insertionSort _ rows
  sorted rows := by
    have htotal : Std.Total fun a b : OutboxEvent => a.createdAt ≤ b.createdAt :=
      ⟨fun a b => String.le_total a.createdAt b.createdAt⟩
    have htrans : IsTrans OutboxEvent fun a b => a.createdAt ≤ b.createdAt :=
      ⟨fun a b c => String.le_trans⟩
    exact List.pairwise_insertionSort _ rows

/-- The arguments of `append`, with the identifier and the time that it draws. -/
structure OutboxAppend where
  tenantId : Id
  topic : String
  payload : Json
  eventId : Option Id := none
  newId : Id
  now : String

/-- `event_id or _new_id()`. -/
def OutboxAppend.eid (a : OutboxAppend) : Id := truthyOr a.eventId a.newId

def OutboxAppend.row (a : OutboxAppend) : OutboxEvent :=
  { eventId := a.eid, tenantId := a.tenantId, topic := a.topic, payload := a.payload.sorted,
    createdAt := a.now }

/-- The rows of `outbox_events`. -/
abbrev SqlOutboxStore := Table OutboxEvent.eventId

namespace SqlOutboxStore

def append (a : OutboxAppend) (s : SqlOutboxStore) : Except PyExc SqlOutboxStore :=
  if (s.find? a.eid).isSome then
    .error ⟨.other "sqlite3" "IntegrityError", "UNIQUE constraint failed: outbox_events.event_id"⟩
  else .ok (s.put a.row)

/-- `LIMIT`; none when it is negative. -/
def limited (limit : Int) (rows : List OutboxEvent) : List OutboxEvent :=
  if limit < 0 then rows else rows.take limit.toNat

/-- `UPDATE outbox_events SET … WHERE event_id=?`. -/
def updated (eventId : Id) (f : OutboxEvent → OutboxEvent) (s : SqlOutboxStore) :
    SqlOutboxStore :=
  match s.find? eventId with
  | none => s
  | some row => s.put (f row)

def attempted (s : SqlOutboxStore) (eventId : Id) : SqlOutboxStore :=
  s.updated eventId fun row => { row with attempts := row.attempts + 1 }

def markPublished (eventId : Id) (publishedAt : Option String) (now : String)
    (s : SqlOutboxStore) : SqlOutboxStore :=
  s.updated eventId fun row => { row with publishedAt := some (truthyOr publishedAt now) }

section

variable [OutboxOrder]

/-- What a claim returns. -/
def claimed (limit : Int) (s : SqlOutboxStore) : List OutboxEvent :=
  limited limit (OutboxOrder.byCreatedAt (s.rows.filter fun row => row.publishedAt.isNone))

def claimUnpublished (limit : Int) (s : SqlOutboxStore) : List OutboxEvent × SqlOutboxStore :=
  (claimed limit s, (claimed limit s).foldl (fun s ev => attempted s ev.eventId) s)

end

end SqlOutboxStore

inductive OutboxCall where
  | append (a : OutboxAppend)
  | claim (limit : Int)
  | mark (eventId : Id) (publishedAt : Option String) (now : String)

namespace OutboxCall

variable [OutboxOrder]

/-- A call that raises leaves the table as it was. -/
def step (s : SqlOutboxStore) : OutboxCall → SqlOutboxStore
  | append a =>
      match s.append a with
      | .ok s' => s'
      | .error _ => s
  | claim limit => (s.claimUnpublished limit).2
  | mark eventId publishedAt now => s.markPublished eventId publishedAt now

/-- Whether the call appends an event under this identifier. -/
def appends (eventId : Id) : OutboxCall → Bool
  | append a => decide (a.eid = eventId)
  | _ => false

/-- When the event is published, once this call is made. -/
def publishedBy (eventId : Id) (before : Option String) : OutboxCall → Option String
  | mark id publishedAt now => if id = eventId then some (truthyOr publishedAt now) else before
  | _ => before

/-- Whether the call is a claim that returns the event. -/
def returns (eventId : Id) (s : SqlOutboxStore) : OutboxCall → Bool
  | claim limit => (s.claimed limit).any fun ev => ev.eventId = eventId
  | _ => false

/-- How many claims of a run return the event. -/
def claims (eventId : Id) : SqlOutboxStore → List OutboxCall → Nat
  | _, [] => 0
  | s, c :: cs => (if c.returns eventId s then 1 else 0) + claims eventId (step s c) cs

end OutboxCall

/-! ## One call -/

namespace SqlOutboxStore

theorem find?_updated {f : OutboxEvent → OutboxEvent}
    (hf : ∀ row, (f row).eventId = row.eventId) (s : SqlOutboxStore) (eventId k : Id) :
    (s.updated eventId f).find? k =
      (s.find? k).map fun row => if k = eventId then f row else row := by
  rw [updated]
  cases hrow : s.find? eventId with
  | none =>
      by_cases hk : k = eventId
      · rw [hk, hrow]
        rfl
      · simp only [if_neg hk, Option.map_id']
  | some row =>
      have hid : (f row).eventId = eventId := (hf row).trans (Table.key_of_find? hrow)
      simp only [Table.find?_put, hid]
      by_cases hk : k = eventId
      · simp [hk, hrow]
      · simp only [if_neg hk, Option.map_id']

theorem find?_attempted (s : SqlOutboxStore) (eventId k : Id) :
    (s.attempted eventId).find? k =
      (s.find? k).map fun row =>
        if k = eventId then { row with attempts := row.attempts + 1 } else row := by
  rw [attempted, find?_updated]
  intro row
  rfl

theorem find?_markPublished (s : SqlOutboxStore) (eventId : Id) (publishedAt : Option String)
    (now : String) (k : Id) :
    (s.markPublished eventId publishedAt now).find? k =
      (s.find? k).map fun row =>
        if k = eventId then { row with publishedAt := some (truthyOr publishedAt now) }
        else row := by
  rw [markPublished, find?_updated]
  intro row
  rfl

/-- Every event on the list has one attempt more. -/
theorem find?_foldl_attempted {events : List OutboxEvent}
    (hnodup : (events.map OutboxEvent.eventId).Nodup) (s : SqlOutboxStore) (k : Id) :
    (events.foldl (fun s ev => attempted s ev.eventId) s).find? k =
      (s.find? k).map fun row =>
        if events.any (fun ev => ev.eventId = k) then { row with attempts := row.attempts + 1 }
        else row := by
  induction events generalizing s with
  | nil => simp
  | cons ev events ih =>
      obtain ⟨hfresh, hnodup⟩ := List.nodup_cons.mp hnodup
      rw [List.foldl_cons, ih hnodup, find?_attempted, Option.map_map]
      by_cases hk : ev.eventId = k
      · have hrest : events.any (fun ev => ev.eventId = k) = false := by
          rw [List.any_eq_false]
          intro ev' hev' heq
          exact hfresh (hk ▸ of_decide_eq_true heq ▸ List.mem_map_of_mem hev')
        simp [Function.comp_def, hk, hrest]
      · have hk' : k ≠ ev.eventId := Ne.symm hk
        simp [Function.comp_def, hk, hk']

theorem limited_sublist (limit : Int) (rows : List OutboxEvent) :
    (limited limit rows).Sublist rows := by
  rw [limited]
  by_cases h : limit < 0
  · rw [if_pos h]
  · rw [if_neg h]
    exact List.take_sublist _ _

variable [OutboxOrder]

theorem mem_unpublished {s : SqlOutboxStore} {ev : OutboxEvent} :
    ev ∈ OutboxOrder.byCreatedAt (s.rows.filter fun row => row.publishedAt.isNone) ↔
      s.find? ev.eventId = some ev ∧ ev.publishedAt = none := by
  rw [(OutboxOrder.perm _).mem_iff, List.mem_filter, Table.mem_rows, Option.isNone_iff_eq_none]

theorem nodup_unpublished (s : SqlOutboxStore) :
    ((OutboxOrder.byCreatedAt (s.rows.filter fun row => row.publishedAt.isNone)).map
      OutboxEvent.eventId).Nodup := by
  refine ((OutboxOrder.perm _).map OutboxEvent.eventId).nodup_iff.mpr ?_
  exact s.nodup_rows.sublist (List.filter_sublist.map _)

theorem nodup_claimed (limit : Int) (s : SqlOutboxStore) :
    ((s.claimed limit).map OutboxEvent.eventId).Nodup :=
  (nodup_unpublished s).sublist ((limited_sublist limit _).map _)

/-- A claim returns rows that are not marked. -/
theorem mem_claimed {limit : Int} {s : SqlOutboxStore} {ev : OutboxEvent}
    (h : ev ∈ s.claimed limit) : s.find? ev.eventId = some ev ∧ ev.publishedAt = none :=
  mem_unpublished.mp ((limited_sublist limit _).subset h)

/-- What is not returned comes behind as many events as a claim may return. -/
theorem passed_over {limit : Int} {s : SqlOutboxStore} {ev : OutboxEvent}
    (hev : s.find? ev.eventId = some ev) (hnone : ev.publishedAt = none)
    (hnot : ev ∉ s.claimed limit) :
    ((s.claimed limit).length : Int) = limit ∧
      ∀ e ∈ s.claimed limit, e.createdAt ≤ ev.createdAt := by
  have hmem := mem_unpublished.mpr ⟨hev, hnone⟩
  have hsorted := OutboxOrder.sorted (s.rows.filter fun row => row.publishedAt.isNone)
  rw [claimed, limited] at hnot ⊢
  by_cases hlimit : limit < 0
  · rw [if_pos hlimit] at hnot
    exact absurd hmem hnot
  · rw [if_neg hlimit] at hnot ⊢
    rw [← List.take_append_drop limit.toNat (OutboxOrder.byCreatedAt _)] at hmem hsorted
    have hbehind := (List.mem_append.mp hmem).resolve_left hnot
    constructor
    · have hlength := List.length_pos_of_mem hbehind
      rw [List.length_drop] at hlength
      rw [List.length_take]
      omega
    · intro e he
      exact (List.pairwise_append.mp hsorted).2.2 e he ev hbehind

end SqlOutboxStore

namespace OutboxCall

section

variable [OutboxOrder]

theorem find?_claim (limit : Int) (s : SqlOutboxStore) (k : Id) :
    (step s (.claim limit)).find? k =
      (s.find? k).map fun row =>
        if (claim limit).returns k s then { row with attempts := row.attempts + 1 } else row :=
  SqlOutboxStore.find?_foldl_attempted (SqlOutboxStore.nodup_claimed limit s) s k

/-- What a call does to an event that is there. -/
theorem find?_step {s : SqlOutboxStore} {k : Id} {row : OutboxEvent} (h : s.find? k = some row)
    (c : OutboxCall) : (step s c).find? k = some { row with
      publishedAt := c.publishedBy k row.publishedAt
      attempts := row.attempts + if c.returns k s then 1 else 0 } := by
  cases c with
  | append a =>
      rw [step, SqlOutboxStore.append]
      by_cases hfound : (s.find? a.eid).isSome = true
      · rw [if_pos hfound]
        exact h
      · rw [if_neg hfound]
        have hne : k ≠ a.row.eventId := by
          rintro rfl
          exact hfound (Option.isSome_iff_exists.mpr ⟨row, h⟩)
        exact (Table.find?_put_ne hne).trans h
  | claim limit =>
      rw [find?_claim, h, Option.map_some]
      cases hreturns : (claim limit).returns k s <;> rfl
  | mark eventId publishedAt now =>
      rw [step, SqlOutboxStore.find?_markPublished, h, Option.map_some]
      by_cases hk : k = eventId
      · rw [if_pos hk, publishedBy, if_pos hk.symm]
        rfl
      · rw [if_neg hk, publishedBy, if_neg (Ne.symm hk)]
        rfl

/-- An event that is not there comes with a call that appends it, and no other. -/
theorem find?_step_none {s : SqlOutboxStore} {k : Id} (h : s.find? k = none) {c : OutboxCall}
    (hc : c.appends k = false) : (step s c).find? k = none := by
  cases c with
  | append a =>
      have hne : k ≠ a.row.eventId := Ne.symm (of_decide_eq_false hc)
      rw [step, SqlOutboxStore.append]
      by_cases hfound : (s.find? a.eid).isSome = true
      · rw [if_pos hfound]
        exact h
      · rw [if_neg hfound]
        exact (Table.find?_put_ne hne).trans h
  | claim limit => rw [find?_claim, h, Option.map_none]
  | mark eventId publishedAt now =>
      rw [step, SqlOutboxStore.find?_markPublished, h, Option.map_none]

/-- An event that is there after a call was there before it, or is the one that it appends. -/
theorem found_step {s : SqlOutboxStore} {k : Id} {row : OutboxEvent} {c : OutboxCall}
    (h : (step s c).find? k = some row) :
    (∃ row', s.find? k = some row' ∧ row'.tenantId = row.tenantId) ∨
      ∃ a, c = .append a ∧ a.eid = k ∧ a.row = row := by
  cases hbefore : s.find? k with
  | some row' =>
      rw [find?_step hbefore] at h
      cases h
      exact .inl ⟨row', rfl, rfl⟩
  | none =>
      cases happends : c.appends k with
      | false =>
          rw [find?_step_none hbefore happends] at h
          cases h
      | true =>
          cases c with
          | append a =>
              obtain rfl : a.eid = k := of_decide_eq_true happends
              rw [step, SqlOutboxStore.append, hbefore] at h
              have hself := Table.find?_put_self s a.row
              exact .inr ⟨a, rfl, rfl, Option.some.inj (hself.symm.trans h)⟩
          | claim limit => cases happends
          | mark eventId publishedAt now => cases happends

/-! ## A run -/

theorem find?_run {s : SqlOutboxStore} {k : Id} {row : OutboxEvent} (h : s.find? k = some row)
    (calls : List OutboxCall) : (run step s calls).find? k = some { row with
      publishedAt := calls.foldl (fun p c => c.publishedBy k p) row.publishedAt
      attempts := row.attempts + claims k s calls } := by
  induction calls generalizing s row with
  | nil => exact h
  | cons c cs ih =>
      rw [run_cons, ih (find?_step h c), List.foldl_cons, claims, Nat.add_assoc]

theorem find?_run_none {s : SqlOutboxStore} {k : Id} (h : s.find? k = none)
    {calls : List OutboxCall} (hcalls : ∀ c ∈ calls, c.appends k = false) :
    (run step s calls).find? k = none := by
  induction calls generalizing s with
  | nil => exact h
  | cons c cs ih =>
      obtain ⟨hc, hcs⟩ := List.forall_mem_cons.mp hcalls
      exact ih (find?_step_none h hc) hcs

/-- The first append under an identifier. -/
theorem find?_run_first {before : List OutboxCall} {a : OutboxAppend}
    (hfirst : ∀ c ∈ before, c.appends a.eid = false) :
    (run step .empty (before ++ [.append a])).find? a.eid = some a.row := by
  have hnone := find?_run_none (s := .empty) (Table.find?_empty a.eid) hfirst
  rw [run_append, run_cons, run_nil, step, SqlOutboxStore.append, hnone]
  exact Table.find?_put_self _ _

/-- What becomes of an event: it stays as it was first appended, with the time it was last
marked as published, and one attempt for each claim that returned it. -/
theorem outbox_history {before after : List OutboxCall} {a : OutboxAppend}
    (hfirst : ∀ c ∈ before, c.appends a.eid = false) :
    (run step .empty (before ++ .append a :: after)).find? a.eid = some { a.row with
      publishedAt := after.foldl (fun p c => c.publishedBy a.eid p) none
      attempts := claims a.eid (run step .empty (before ++ [.append a])) after } := by
  have hrow := find?_run_first hfirst
  rw [List.append_cons, run_append, find?_run hrow, OutboxAppend.row, Nat.zero_add]

end

namespace Sample

attribute [local instance] OutboxOrder.stable

def published (eventId now : String) : OutboxAppend :=
  { tenantId := "org_a", topic := "receipt.published", payload := .obj [], eventId := some eventId,
    newId := "obx_0", now }

/-- Two events, two claims of one event each, and the older event marked in between. -/
def calls : List OutboxCall :=
  [.claim 1, .mark "older" none "2026-01-02", .append (published "newer" "2026-01-03"), .claim 1]

theorem older_first :
    ∀ c ∈ ([] : List OutboxCall), c.appends (published "older" "2026-01-01").eid = false := by
  intro c hc
  cases hc

theorem older_history :
    (run step .empty ([] ++ .append (published "older" "2026-01-01") :: calls)).find? "older" =
      some { (published "older" "2026-01-01").row with
        publishedAt := some "2026-01-02", attempts := 1 } :=
  outbox_history older_first

end Sample

section

variable [OutboxOrder]

/-- Whether the call marks the event as published. -/
def marks (eventId : Id) (c : OutboxCall) : Bool := (c.publishedBy eventId none).isSome

omit [OutboxOrder] in
theorem published_eq_none_iff {k : Id} {calls : List OutboxCall} {p : Option String} :
    calls.foldl (fun p c => c.publishedBy k p) p = none ↔
      p = none ∧ ∀ c ∈ calls, c.marks k = false := by
  induction calls generalizing p with
  | nil => simp
  | cons c cs ih =>
      rw [List.foldl_cons, ih, List.forall_mem_cons, ← and_assoc]
      refine and_congr_left fun _ => ?_
      cases c with
      | append a => simp [publishedBy, marks]
      | claim limit => simp [publishedBy, marks]
      | mark eventId publishedAt now =>
          by_cases hk : eventId = k <;> simp [publishedBy, marks, hk]

/-- Which events a claim returns: none that has been marked since it was appended, and one
that has not, unless the batch is full of events that are not newer. -/
theorem claim_oldest_first {before after : List OutboxCall} {a : OutboxAppend}
    (hfirst : ∀ c ∈ before, c.appends a.eid = false) (limit : Int) :
    let batch := SqlOutboxStore.claimed limit (run step .empty (before ++ .append a :: after))
    ((∃ ev ∈ batch, ev.eventId = a.eid) → ∀ c ∈ after, c.marks a.eid = false) ∧
      ((∀ c ∈ after, c.marks a.eid = false) → (∃ ev ∈ batch, ev.eventId = a.eid) ∨
        (batch.length : Int) = limit ∧ ∀ ev ∈ batch, ev.createdAt ≤ a.now) := by
  intro batch
  have hrow := find?_run (find?_run_first hfirst) after
  rw [← run_append, List.append_assoc, List.singleton_append] at hrow
  constructor
  · rintro ⟨ev, hev, hid⟩
    obtain ⟨hfound, hnone⟩ := SqlOutboxStore.mem_claimed hev
    rw [hid, hrow] at hfound
    cases hfound
    exact (published_eq_none_iff.mp hnone).2
  · intro hunmarked
    have hnone := published_eq_none_iff.mpr ⟨rfl, hunmarked⟩
    by_cases hreturned : ∃ ev ∈ batch, ev.eventId = a.eid
    · exact .inl hreturned
    · refine .inr ?_
      cases hfound : (run step .empty (before ++ .append a :: after)).find? a.eid with
      | none =>
          rw [hfound] at hrow
          cases hrow
      | some ev =>
          have hid : ev.eventId = a.eid := Table.key_of_find? hfound
          rw [hfound] at hrow
          have hev := Option.some.inj hrow
          have hat : ev.createdAt = a.now := by rw [hev, OutboxAppend.row]
          have hunpublished : ev.publishedAt = none := by rw [hev]; exact hnone
          rw [← hid] at hfound
          rw [← hat]
          exact SqlOutboxStore.passed_over hfound hunpublished
            fun hmem => hreturned ⟨ev, hmem, hid⟩

end

namespace Sample

attribute [local instance] OutboxOrder.stable

theorem older_claimed :
    let batch := SqlOutboxStore.claimed 1
      (run step .empty ([] ++ .append (published "older" "2026-01-01") :: calls))
    ((∃ ev ∈ batch, ev.eventId = "older") → ∀ c ∈ calls, c.marks "older" = false) ∧
      ((∀ c ∈ calls, c.marks "older" = false) → (∃ ev ∈ batch, ev.eventId = "older") ∨
        (batch.length : Int) = 1 ∧ ∀ ev ∈ batch, ev.createdAt ≤ "2026-01-01") :=
  claim_oldest_first older_first 1

end Sample

end OutboxCall

end ImpactRelay
