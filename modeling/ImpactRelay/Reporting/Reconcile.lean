/-
# `Reporting.Reconcile` — aggregates into the public impact state

`apply_aggregate_reconciliation` (`reconcile.py`) copies the state document and edits the
copy: the campaign's totals with their provenance, the milestones, one notification for
the day, the privacy block.  It is a program over two documents, the caller's and the
copy; that it leaves the caller's alone is `Preserves` of that document.

`last_reconciliation_wins`: each of its edits absorbs an earlier one of the same day, so
of any number of reconciliations the last one is all that is left.
-/
import ImpactRelay.Domain.Types
import ImpactRelay.Lib.Edits
import ImpactRelay.Lib.Raise
import ImpactRelay.Lib.Text

namespace ImpactRelay

open Raise

/-! ## Values -/

/-- What is made of a value as a number.  A float goes by its text. -/
class PyNumbers where
  /-- `float(value)` -/
  toFloat : Json → Except PyExc String
  /-- `int(value)` -/
  toInt : Json → Except PyExc Int
  /-- `a >= b` on floats -/
  ge : String → String → Bool
  /-- `f"{value:,.0f}"` -/
  grouped : String → String

/-- Letters beyond ASCII included. -/
class CaseTable where
  /-- `s.upper()` -/
  upper : String → String

abbrev Fields := List (String × Json)

/-- `d.get(k)`. -/
def dictGet (d : Fields) (k : String) : Option Json := (Json.obj d).field? k

/-- `d[k]`. -/
def dictItem (d : Fields) (k : String) : Except PyExc Json :=
  match dictGet d k with
  | some v => .ok v
  | none => .error (keyError k)

/-- `a or b`; nothing is `None`. -/
def pyOr (a b : Option Json) : Option Json :=
  match a with
  | some v => if v.truthy then some v else b
  | none => b

def reconcileError (msg : String) : PyExc := ⟨.other "impact_relay.reconcile" "ReconcileError", msg⟩

def typeError (v : Json) (what : String) : PyExc :=
  ⟨.typeError, "'" ++ v.typeName ++ "' object " ++ what⟩

/-! ## Documents -/

/-- The caller's document, and the copy that is edited. -/
structure Documents where
  impactState : Fields
  state : Fields := []

namespace Documents

def editState (e : Json.Edit PyExc) : EStateM PyExc Documents Unit := fun d =>
  match Json.editKey e d.state with
  | .ok state => .ok () { d with state }
  | .error exc => .error exc d

def editStates : List (Json.Edit PyExc) → EStateM PyExc Documents Unit
  | [] => pure ()
  | e :: es => do
      editState e
      editStates es

theorem editState_returns {e : Json.Edit PyExc} {d : Documents} {state : Fields}
    (h : Json.editKey e d.state = .ok state) : Returns (editState e) d () { d with state } := by
  rw [Returns, EStateM.run, editState, h]

theorem editState_raises {e : Json.Edit PyExc} {d : Documents} {exc : PyExc}
    (h : Json.editKey e d.state = .error exc) : Raises (editState e) d exc d := by
  rw [Raises, EStateM.run, editState, h]

theorem editStates_returns {es : List (Json.Edit PyExc)} {d : Documents} {state : Fields}
    (h : Json.edit es d.state = .ok state) : Returns (editStates es) d () { d with state } := by
  induction es generalizing d with
  | nil =>
      obtain rfl := Except.ok.inj h
      exact rfl
  | cons e es ih =>
      rw [Json.edit] at h
      cases hfirst : Json.editKey e d.state with
      | error exc =>
          rw [hfirst] at h
          cases h
      | ok between =>
          rw [hfirst] at h
          exact returns_bind.mpr ⟨(), _, editState_returns hfirst, ih h⟩

theorem editStates_raises {es : List (Json.Edit PyExc)} {d : Documents} {exc : PyExc}
    (h : Json.edit es d.state = .error exc) : ∃ d', Raises (editStates es) d exc d' := by
  induction es generalizing d with
  | nil => exact nomatch h
  | cons e es ih =>
      rw [Json.edit] at h
      cases hfirst : Json.editKey e d.state with
      | error exc' =>
          rw [hfirst] at h
          obtain rfl : exc' = exc := Except.error.inj h
          exact ⟨d, raises_bind.mpr (Or.inl (editState_raises hfirst))⟩
      | ok between =>
          rw [hfirst] at h
          obtain ⟨d', hrest⟩ := ih (d := { d with state := between }) h
          exact ⟨d', raises_bind.mpr (Or.inr ⟨(), _, editState_returns hfirst, hrest⟩)⟩

theorem preserves_editStates {es : List (Json.Edit PyExc)} (impactState : Fields) :
    Preserves (fun d => d.impactState = impactState) (editStates es) := by
  induction es with
  | nil => exact Preserves.pure ()
  | cons e es ih =>
      refine Preserves.bind ?_ fun _ => ih
      intro d hd
      cases hedit : Json.editKey e d.state with
      | error exc =>
          rw [(editState_raises hedit).after]
          exact hd
      | ok state =>
          rw [(editState_returns hedit).after]
          exact hd

end Documents

/-! ## Forbidden fields -/

/-- The first item of a list that is a structure. -/
def nestedItem (path : String) : Nat → List Json → Option String
  | _, [] => none
  | i, .obj _ :: _ | i, .arr _ :: _ => some (path ++ "[" ++ toString i ++ "]")
  | i, _ :: items => nestedItem path (i + 1) items

mutual

/-- What an aggregate must not have: a field of one of the names, or a structure in a list. -/
def unsafeIn (forbidden : List String) (field nested path : String) : Json → Option String
  | .obj fields => unsafeInFields forbidden field nested path fields
  | .arr items => (nestedItem path 0 items).map (nested ++ ·)
  | _ => none

def unsafeInFields (forbidden : List String) (field nested path : String) :
    List (String × Json) → Option String
  | [] => none
  | (k, v) :: es =>
      if k ∈ forbidden then some (field ++ path ++ "." ++ k)
      else (unsafeIn forbidden field nested (path ++ "." ++ k) v).or
        (unsafeInFields forbidden field nested path es)

end

/-- `FORBIDDEN_AGGREGATE_KEYS`. -/
def forbiddenAggregateKeys : List String :=
  ["donors", "donor", "emails", "email", "names", "gifts", "transactions", "items", "line_items",
    "lineItems", "phone", "phones", "address", "addresses"]

def assertAggregateSafe (payload : Json) : Except PyExc Unit :=
  match unsafeIn forbiddenAggregateKeys "forbidden personal/itemized field at "
    "nested structures not allowed in aggregate input at " "$" payload with
  | some msg => .error (reconcileError msg)
  | none => .ok ()

/-! ## Provenance -/

def syntheticMarkers : List String :=
  ["fixture://", "fixture/", "synthetic", "pilot", "demo", "example", "template", "not live",
    "not_live"]

/-- The source must not be labelled as an observation. -/
def isPilotOrSyntheticSource (source : String) : Bool :=
  let s := Text.lower (Text.strip source)
  decide (s = "") || syntheticMarkers.any (Text.hasSubstring · s)

section Program

variable [PyNumbers] [CaseTable] [Json.CharTable]

/-- `raisedSource` and `raisedClaimLabel` of an aggregate. -/
def resolveRaisedProvenance (aggregate : Fields) : Except PyExc (String × String) :=
  let source := ((pyOr (dictGet aggregate "source") none).getD (.str "")).text
  let claim := CaseTable.upper ((pyOr (dictGet aggregate "claimLevel")
    (pyOr (dictGet aggregate "claimLabel") none)).getD (.str "")).text
  let pilot := isPilotOrSyntheticSource source
  if claim ∈ ["OBSERVED", "PROCESSOR", "PROCESSOR_AGGREGATE"] then
    if pilot then
      .error (reconcileError ("cannot claim OBSERVED/processor_aggregate for " ++
        "pilot/fixture/synthetic source: " ++ Json.reprStr source))
    else .ok ("processor_aggregate", "OBSERVED")
  else if claim ∈ ["PILOT", "SYNTHETIC"] then .ok ("pilot_synthetic", "PILOT")
  else if claim ∈ ["NOT_COMPUTABLE", "UNAVAILABLE", "NOT_AVAILABLE"] then
    .ok ("not_available", "NOT_COMPUTABLE")
  else if pilot then .ok ("pilot_synthetic", "PILOT")
  else .ok ("processor_aggregate", "OBSERVED")

/-! ## The reconciliation -/

/-- The arguments of a call, and the time it is made at. -/
structure ReconcileCall where
  aggregate : Fields
  asOf : Option String := none
  isoNow : String

namespace ReconcileCall

def reconciledAt (c : ReconcileCall) : Json :=
  (pyOr (dictGet c.aggregate "reconciledAt") (pyOr (c.asOf.map .str) none)).getD (.str c.isoNow)

/-- `reconciled_at[:10]`, as it is written in the id of the notification. -/
def day (c : ReconcileCall) : Except PyExc String :=
  match c.reconciledAt with
  | .str s => .ok (Text.take 10 s)
  | .arr items => .ok (Json.arr (items.take 10)).text
  | v => .error (typeError v "is not subscriptable")

/-- What is read of an aggregate first. -/
structure Totals where
  raised : String
  committed : String
  donors : Int
  status : Json

def totals (c : ReconcileCall) : Except PyExc Totals := do
  let raised ← PyNumbers.toFloat (← dictItem c.aggregate "raisedPublic")
  let committed ← PyNumbers.toFloat (← dictItem c.aggregate "committedPublic")
  let donors ← PyNumbers.toInt (← dictItem c.aggregate "donorCountPublic")
  return ⟨raised, committed, donors, (pyOr (dictGet c.aggregate "status") none).getD (.str "active")⟩

/-- The fields of a value that has to be a dictionary, empty by default. -/
def dictOr (v : Option Json) : Except PyExc Fields :=
  match v with
  | none => .ok []
  | some (.obj fields) => .ok fields
  | some v => .error (typeError v "does not support item assignment")

def campaignFields (c : ReconcileCall) (t : Totals) (provenance : String × String) : Fields := [
  ("raisedPublic", .float t.raised),
  ("committedPublic", .float t.committed),
  ("donorCountPublic", .num t.donors),
  ("lastReconciledAt", c.reconciledAt),
  ("status", t.status),
  ("raisedSource", .str provenance.1),
  ("raisedClaimLabel", .str provenance.2),
  ("aggregateSource", .str ((pyOr (dictGet c.aggregate "source") none).getD (.str "")).text)]

def editCampaign (c : ReconcileCall) (t : Totals) (v : Option Json) :
    Except PyExc (Option Json) := do
  let campaign ← dictOr v
  let provenance ← resolveRaisedProvenance c.aggregate
  return some (.obj (Json.merge campaign (c.campaignFields t provenance)))

/-- One milestone: reached by the total, or open, whatever it was. -/
def milestoneState (raised threshold : String) (old : Option Json) : String :=
  if PyNumbers.ge raised threshold then "reached"
  else if old = some (.str "reached") then
    if PyNumbers.ge raised threshold then "reached" else "open"
  else "open"

def editMilestone (raised : String) : Json → Except PyExc Json
  | .obj milestone => do
      let threshold ← PyNumbers.toFloat ((pyOr (dictGet milestone "threshold") none).getD (.num 0))
      return .obj (Json.setField milestone "state"
        (.str (milestoneState raised threshold (dictGet milestone "state"))))
  | v => .error ⟨.attributeError, "'" ++ v.typeName ++ "' object has no attribute 'get'"⟩

/-- Nothing to iterate over passes; what is no list of dictionaries fails. -/
def editMilestones (raised : String) (v : Option Json) : Except PyExc (Option Json) :=
  match v with
  | none => .ok none
  | some (.arr items) => do return some (.arr (← items.mapM (editMilestone raised)))
  | some (.obj []) | some (.str "") => .ok none
  | some (.obj _) | some (.str _) => .error ⟨.attributeError, "'str' object has no attribute 'get'"⟩
  | some v => .error (typeError v "is not iterable")

def title (raisedSource : String) : String :=
  if raisedSource = "processor_aggregate" then "Live processor aggregates published"
  else if raisedSource = "pilot_synthetic" then
    "Pilot aggregates updated (not live processor cash)"
  else "Campaign raised not available"

def notificationId (day : String) : String := "reconcile-" ++ day

def notification (c : ReconcileCall) (t : Totals) (provenance : String × String) (day : String) :
    Json :=
  let note := (pyOr (dictGet c.aggregate "note") none).getD
    (.str "Public aggregate totals reconciled from authorized summary.")
  let source := (pyOr (dictGet c.aggregate "source") none).getD (.str "aggregate_reconciliation")
  .obj [
    ("id", .str (notificationId day)),
    ("severity", .str (if provenance.1 = "processor_aggregate" then "success" else "warning")),
    ("title", .str (title provenance.1)),
    ("body", .str (note.text ++ " Source: " ++ source.text ++ ". Claim: " ++ provenance.2 ++ " (" ++
      provenance.1 ++ "). Raised $" ++ PyNumbers.grouped t.raised ++ "; committed $" ++
      PyNumbers.grouped t.committed ++ "; public donor count " ++ toString t.donors ++ ".")),
    ("publishedAt", if Text.hasSubstring "T" c.reconciledAt.text then c.reconciledAt
      else .str (c.reconciledAt.text ++ "T00:00:00Z"))]

/-- `[n for n in notifications if n.get("id") != id]`. -/
def dropId (id : String) : List Json → Except PyExc (List Json)
  | [] => .ok []
  | .obj n :: items => do
      let rest ← dropId id items
      return if dictGet n "id" = some (.str id) then rest else .obj n :: rest
  | v :: _ => .error ⟨.attributeError, "'" ++ v.typeName ++ "' object has no attribute 'get'"⟩

def notificationItems (v : Option Json) : Except PyExc (List Json) :=
  match v with
  | none => .ok []
  | some (.arr items) => .ok items
  | some (.obj (_ :: _)) => .error ⟨.attributeError, "'str' object has no attribute 'get'"⟩
  | some (.str s) =>
      if s = "" then .error (typeError (.str s) "does not support item assignment")
      else .error ⟨.attributeError, "'str' object has no attribute 'get'"⟩
  | some (.obj []) => .error ⟨.typeError, "unhashable type: 'slice'"⟩
  | some v => .error (typeError v "is not iterable")

def editNotifications (c : ReconcileCall) (t : Totals) (v : Option Json) :
    Except PyExc (Option Json) := do
  let provenance ← resolveRaisedProvenance c.aggregate
  let day ← c.day
  let items ← notificationItems v
  let others ← dropId (notificationId day) items
  let others ← dropId "reconciliation-pending" others
  return some (.arr (others ++ [c.notification t provenance day]))

def privacyFields : Fields := [
  ("classification", .str "public_aggregate_only"),
  ("piiAllowed", .bool false),
  ("donorNamesAllowed", .bool false),
  ("individualAmountsAllowed", .bool false),
  ("contactDataAllowed", .bool false)]

def editPrivacy (v : Option Json) : Except PyExc (Option Json) := do
  return some (.obj (Json.merge (← dictOr v) privacyFields))

def edits (c : ReconcileCall) (t : Totals) (today : String) : List (Json.Edit PyExc) := [
  ⟨"campaign", c.editCampaign t⟩,
  ⟨"milestones", editMilestones t.raised⟩,
  ⟨"notifications", c.editNotifications t⟩,
  .assign PyExc ("updatedAt", .str today),
  .assign PyExc ("authority", .str "public_aggregate_only"),
  ⟨"privacy", editPrivacy⟩]

end ReconcileCall

/-- Return a new impact-state document with aggregates and notification applied. -/
def applyAggregateReconciliation (c : ReconcileCall) (today : String) :
    EStateM PyExc Documents Fields := do
  okOrRaise (assertAggregateSafe (.obj c.aggregate))
  modify fun d => { d with state := d.impactState }
  let t ← okOrRaise c.totals
  Documents.editStates (c.edits t today)
  return (← get).state

/-- What a call returns for a document. -/
def reconciled (c : ReconcileCall) (today : String) (impactState : Fields) : Except PyExc Fields :=
  match (applyAggregateReconciliation c today).run { impactState } with
  | .ok state _ => .ok state
  | .error exc _ => .error exc

/-! ## What a call returns -/

theorem reconciled_eq {c : ReconcileCall} {today : String} {impactState : Fields} :
    reconciled c today impactState = (assertAggregateSafe (.obj c.aggregate)).bind fun _ =>
      c.totals.bind fun t => Json.edit (c.edits t today) impactState := by
  rw [reconciled]
  cases hsafe : assertAggregateSafe (.obj c.aggregate) with
  | error exc =>
      rw [applyAggregateReconciliation, hsafe]
      rfl
  | ok u =>
      cases htotals : c.totals with
      | error exc =>
          rw [applyAggregateReconciliation, hsafe, htotals]
          rfl
      | ok t =>
          show _ = Json.edit (c.edits t today) impactState
          have hcopied : Returns
              (modify fun d => { d with state := d.impactState } : EStateM PyExc Documents PUnit)
              { impactState } PUnit.unit ⟨impactState, impactState⟩ := rfl
          cases hedit : Json.edit (c.edits t today) impactState with
          | error exc =>
              obtain ⟨d', hraises⟩ := Documents.editStates_raises
                (d := ⟨impactState, impactState⟩) hedit
              have hall : Raises (applyAggregateReconciliation c today) { impactState } exc d' := by
                refine raises_bind.mpr (Or.inr ⟨u, _, returns_okOrRaise.mpr ⟨hsafe, rfl⟩, ?_⟩)
                refine raises_bind.mpr (Or.inr ⟨_, _, hcopied, ?_⟩)
                refine raises_bind.mpr (Or.inr ⟨t, _, returns_okOrRaise.mpr ⟨htotals, rfl⟩, ?_⟩)
                exact raises_bind.mpr (Or.inl hraises)
              rw [hall]
          | ok state =>
              have hall : Returns (applyAggregateReconciliation c today) { impactState } state
                  ⟨impactState, state⟩ := by
                refine returns_bind.mpr ⟨u, _, returns_okOrRaise.mpr ⟨hsafe, rfl⟩, ?_⟩
                refine returns_bind.mpr ⟨_, _, hcopied, ?_⟩
                refine returns_bind.mpr ⟨t, _, returns_okOrRaise.mpr ⟨htotals, rfl⟩, ?_⟩
                exact returns_bind.mpr ⟨(), _, Documents.editStates_returns hedit, rfl⟩
              rw [hall]

/-- The caller's document stays as it is. -/
theorem preserves_impactState {c : ReconcileCall} {today : String} (impactState : Fields) :
    Preserves (fun d => d.impactState = impactState) (applyAggregateReconciliation c today) := by
  refine (Preserves.okOrRaise _).bind fun _ => Preserves.bind ?_ fun _ =>
    (Preserves.okOrRaise _).bind fun t => (Documents.preserves_editStates impactState).bind
      fun _ => Preserves.get.bind fun _ => Preserves.pure _
  exact Preserves.modify fun d hd => hd

end Program

/-! ## What is left of an earlier call -/

namespace ReconcileCall

section Milestones

variable [PyNumbers]

/-- The milestone's state before makes no difference. -/
theorem milestoneState_eq (raised threshold : String) (old : Option Json) :
    milestoneState raised threshold old =
      if PyNumbers.ge raised threshold then "reached" else "open" := by
  rw [milestoneState]
  by_cases hge : PyNumbers.ge raised threshold = true
  · rw [if_pos hge, if_pos hge]
  · rw [if_neg hge, if_neg hge, ite_self]

theorem editMilestone_again {raised raised' : String} {m m' : Json}
    (h : editMilestone raised m = .ok m') : editMilestone raised' m' = editMilestone raised' m := by
  cases m with
  | obj fields =>
      rw [editMilestone] at h
      obtain ⟨threshold, -, h⟩ := except_bind_eq_ok.mp h
      obtain rfl := Except.ok.inj h
      -- the threshold is under another key, and the state is assigned again
      have hthreshold : dictGet (Json.setField fields "state" (.str (milestoneState raised threshold
          (dictGet fields "state")))) "threshold" = dictGet fields "threshold" :=
        (Json.field?_setField _ _ _ _).trans (if_neg (by decide))
      rw [editMilestone, editMilestone, hthreshold]
      simp only [milestoneState_eq, Json.setField_setField]
  | _ => cases h

theorem editMilestones_again {raised raised' : String} {items items' : List Json}
    (h : items.mapM (editMilestone raised) = .ok items') :
    items'.mapM (editMilestone raised') = items.mapM (editMilestone raised') := by
  induction items generalizing items' with
  | nil =>
      rw [List.mapM_nil] at h
      rw [← Except.ok.inj h]
  | cons m items ih =>
      rw [List.mapM_cons] at h
      obtain ⟨m', hm, h⟩ := except_bind_eq_ok.mp h
      obtain ⟨rest, hrest, h⟩ := except_bind_eq_ok.mp h
      rw [← Except.ok.inj h, List.mapM_cons, List.mapM_cons, editMilestone_again hm, ih hrest]

theorem editMilestones_absorbs {raised raised' : String} :
    Json.Edit.Absorbs ⟨"milestones", editMilestones raised⟩ ⟨"milestones", editMilestones raised'⟩ where
  key := rfl
  same {v w} h := by
    replace h : editMilestones raised v = .ok w := h
    show editMilestones raised' (w.or v) = editMilestones raised' v
    unfold editMilestones at h
    split at h
    · rw [← Except.ok.inj h]
      rfl
    · rename_i items
      obtain ⟨items', hitems, h⟩ := except_bind_eq_ok.mp h
      rw [← Except.ok.inj h, Option.some_or]
      simp only [editMilestones, editMilestones_again hitems]
    · rw [← Except.ok.inj h]
      rfl
    · rw [← Except.ok.inj h]
      rfl
    all_goals exact nomatch h
  both {v w w'} h h' := by
    replace h : editMilestones raised v = .ok w := h
    replace h' : editMilestones raised' v = .ok w' := h'
    unfold editMilestones at h h'
    split at h
    · rw [← Except.ok.inj h, ← Except.ok.inj h']
    · obtain ⟨items, -, h⟩ := except_bind_eq_ok.mp h
      obtain ⟨items', -, h'⟩ := except_bind_eq_ok.mp h'
      rw [← Except.ok.inj h, ← Except.ok.inj h']
      exact iff_of_false (fun hnone => nomatch hnone) fun hnone => nomatch hnone
    · rw [← Except.ok.inj h, ← Except.ok.inj h']
    · rw [← Except.ok.inj h, ← Except.ok.inj h']
    all_goals exact nomatch h

end Milestones

/-- What is kept of a list of dictionaries. -/
theorem dropId_ok_iff {id : String} {items others : List Json} : dropId id items = .ok others ↔
    (∀ n ∈ items, ∃ fields, n = .obj fields) ∧
      others = items.filter fun n => n.field? "id" ≠ some (.str id) := by
  induction items generalizing others with
  | nil =>
      refine ⟨fun h => ⟨fun n hn => absurd hn List.not_mem_nil, (Except.ok.inj h).symm⟩, ?_⟩
      rintro ⟨-, rfl⟩
      rfl
  | cons n items ih =>
      cases n with
      | obj fields =>
          rw [dropId, except_bind_eq_ok]
          constructor
          · rintro ⟨rest, hrest, h⟩
            obtain ⟨hdicts, rfl⟩ := ih.mp hrest
            refine ⟨?_, ?_⟩
            · intro n hn
              rcases List.mem_cons.mp hn with rfl | hn
              · exact ⟨fields, rfl⟩
              · exact hdicts n hn
            · rw [← Except.ok.inj h, List.filter_cons]
              by_cases hid : dictGet fields "id" = some (.str id)
              · have hid' : (Json.obj fields).field? "id" = some (.str id) := hid
                rw [if_pos hid, if_neg (by simpa using hid')]
              · have hid' : (Json.obj fields).field? "id" ≠ some (.str id) := hid
                rw [if_neg hid, if_pos (by simpa using hid')]
          · rintro ⟨hdicts, rfl⟩
            refine ⟨_, ih.mpr ⟨fun n hn => hdicts n (List.mem_cons_of_mem _ hn), rfl⟩, ?_⟩
            rw [List.filter_cons]
            by_cases hid : dictGet fields "id" = some (.str id)
            · have hid' : (Json.obj fields).field? "id" = some (.str id) := hid
              rw [if_pos hid, if_neg (by simpa using hid')]
              rfl
            · have hid' : (Json.obj fields).field? "id" ≠ some (.str id) := hid
              rw [if_neg hid, if_pos (by simpa using hid')]
              rfl
      | _ =>
          refine iff_of_false (fun h => nomatch h) ?_
          rintro ⟨hdicts, -⟩
          obtain ⟨fields, h⟩ := hdicts _ List.mem_cons_self
          exact nomatch h

theorem editPrivacy_absorbs :
    Json.Edit.Absorbs ⟨"privacy", editPrivacy⟩ ⟨"privacy", editPrivacy⟩ := by
  have hwrites : Json.Edit.Writes ⟨"privacy", editPrivacy⟩ := by
    intro v h
    obtain ⟨_, -, h⟩ := except_bind_eq_ok.mp h
    exact nomatch Except.ok.inj h
  refine .of_writes rfl (fun {v w} h => ?_) hwrites hwrites
  obtain ⟨privacy, hprivacy, h⟩ := except_bind_eq_ok.mp h
  rw [← Except.ok.inj h, Option.some_or]
  have hdict : dictOr (some (.obj (Json.merge privacy privacyFields))) =
    .ok (Json.merge privacy privacyFields) := rfl
  simp only [editPrivacy, hdict, hprivacy]
  show Except.ok _ = Except.ok _
  rw [Json.merge_merge rfl (by decide)]

theorem campaignFields_keys [Json.CharTable] (c c' : ReconcileCall) (t t' : Totals)
    (provenance provenance' : String × String) :
    (c.campaignFields t provenance).map Prod.fst =
      (c'.campaignFields t' provenance').map Prod.fst := rfl

theorem campaignFields_nodup [Json.CharTable] (c : ReconcileCall) (t : Totals)
    (provenance : String × String) : ((c.campaignFields t provenance).map Prod.fst).Nodup := by
  simp [campaignFields]

theorem editCampaign_writes [CaseTable] [Json.CharTable] {c : ReconcileCall} {t : Totals} :
    Json.Edit.Writes ⟨"campaign", c.editCampaign t⟩ := by
  intro v h
  obtain ⟨_, -, h⟩ := except_bind_eq_ok.mp h
  obtain ⟨_, -, h⟩ := except_bind_eq_ok.mp h
  exact nomatch Except.ok.inj h

theorem editCampaign_absorbs [CaseTable] [Json.CharTable] {c c' : ReconcileCall} {t t' : Totals} :
    Json.Edit.Absorbs ⟨"campaign", c.editCampaign t⟩ ⟨"campaign", c'.editCampaign t'⟩ := by
  refine .of_writes rfl (fun {v w} h => ?_) editCampaign_writes editCampaign_writes
  obtain ⟨campaign, hcampaign, h⟩ := except_bind_eq_ok.mp h
  obtain ⟨provenance, -, h⟩ := except_bind_eq_ok.mp h
  rw [← Except.ok.inj h, Option.some_or]
  have hdict : dictOr (some (.obj (Json.merge campaign (c.campaignFields t provenance)))) =
    .ok (Json.merge campaign (c.campaignFields t provenance)) := rfl
  simp only [editCampaign, hdict, hcampaign]
  show (resolveRaisedProvenance c'.aggregate).bind _ = (resolveRaisedProvenance c'.aggregate).bind _
  refine congrArg (Except.bind _) (funext fun provenance' => ?_)
  rw [Json.merge_merge (campaignFields_keys c c' t t' provenance provenance')
    (campaignFields_nodup c t provenance)]

section Absorbs

variable [PyNumbers] [CaseTable] [Json.CharTable] {c c' : ReconcileCall} {t t' : Totals}

theorem editNotifications_writes : Json.Edit.Writes ⟨"notifications", c.editNotifications t⟩ := by
  intro v h
  obtain ⟨_, -, h⟩ := except_bind_eq_ok.mp h
  obtain ⟨_, -, h⟩ := except_bind_eq_ok.mp h
  obtain ⟨_, -, h⟩ := except_bind_eq_ok.mp h
  obtain ⟨_, -, h⟩ := except_bind_eq_ok.mp h
  obtain ⟨_, -, h⟩ := except_bind_eq_ok.mp h
  exact nomatch Except.ok.inj h

/-- The notification of the day is replaced, and nothing else is left to drop. -/
theorem editNotifications_absorbs (hday : c.day = c'.day) :
    Json.Edit.Absorbs ⟨"notifications", c.editNotifications t⟩
      ⟨"notifications", c'.editNotifications t'⟩ := by
  refine .of_writes rfl (fun {v w} h => ?_) editNotifications_writes editNotifications_writes
  obtain ⟨provenance, -, h⟩ := except_bind_eq_ok.mp h
  obtain ⟨day, hat, h⟩ := except_bind_eq_ok.mp h
  obtain ⟨items, hitems, h⟩ := except_bind_eq_ok.mp h
  obtain ⟨others, hothers, h⟩ := except_bind_eq_ok.mp h
  obtain ⟨others', hothers', h⟩ := except_bind_eq_ok.mp h
  rw [← Except.ok.inj h, Option.some_or]
  obtain ⟨hdicts, heq⟩ := dropId_ok_iff.mp hothers
  obtain ⟨hdicts', heq'⟩ := dropId_ok_iff.mp hothers'
  have hkept : ∀ n ∈ others', (∃ fields, n = .obj fields) ∧
      n.field? "id" ≠ some (.str (notificationId day)) ∧
      n.field? "id" ≠ some (.str "reconciliation-pending") := by
    intro n hn
    rw [heq', heq] at hn
    obtain ⟨hn, hpending⟩ := List.mem_filter.mp hn
    obtain ⟨hn, hid⟩ := List.mem_filter.mp hn
    exact ⟨hdicts n hn, of_decide_eq_true hid, of_decide_eq_true hpending⟩
  have hdropped : dropId (notificationId day)
      (others' ++ [c.notification t provenance day]) = .ok others' := by
    refine dropId_ok_iff.mpr ⟨fun n hn => ?_, ?_⟩
    · rcases List.mem_append.mp hn with hn | hn
      · exact (hkept n hn).1
      · exact ⟨_, List.mem_singleton.mp hn⟩
    · have hnew : (c.notification t provenance day).field? "id" =
          some (.str (notificationId day)) := rfl
      rw [List.filter_append, List.filter_eq_self.mpr fun n hn => decide_eq_true (hkept n hn).2.1,
        List.filter_singleton, hnew]
      simp
  have hagain : dropId "reconciliation-pending" others' = .ok others' :=
    dropId_ok_iff.mpr ⟨fun n hn => (hkept n hn).1,
      (List.filter_eq_self.mpr fun n hn => decide_eq_true (hkept n hn).2.2).symm⟩
  have hnew : notificationItems (some (.arr (others' ++ [c.notification t provenance day]))) =
      .ok (others' ++ [c.notification t provenance day]) := rfl
  simp only [editNotifications, ← hday, hat, hitems, hnew]
  show (resolveRaisedProvenance c'.aggregate).bind _ = (resolveRaisedProvenance c'.aggregate).bind _
  refine congrArg (Except.bind _) (funext fun provenance' => ?_)
  show (dropId _ _).bind _ = (dropId _ _).bind _
  rw [hdropped, hothers]
  show (dropId _ _).bind _ = (dropId _ _).bind _
  rw [hagain, hothers']

theorem edits_nodup (c : ReconcileCall) (t : Totals) (today : String) :
    ((c.edits t today).map Json.Edit.key).Nodup := by
  show ["campaign", "milestones", "notifications", "updatedAt", "authority", "privacy"].Nodup
  decide

theorem edits_absorb (hday : c.day = c'.day) (today : String) :
    List.Forall₂ Json.Edit.Absorbs (c.edits t today) (c'.edits t' today) :=
  .cons editCampaign_absorbs <| .cons editMilestones_absorbs <|
    .cons (editNotifications_absorbs hday) <| .cons (Json.Edit.assign_absorbs _ _ _) <|
    .cons (Json.Edit.assign_absorbs _ _ _) <| .cons editPrivacy_absorbs .nil

/-- Of two calls of a day the later one alone decides. -/
theorem reconciled_again {today : String} {s s' : Fields} (hday : c.day = c'.day)
    (h : reconciled c today s = .ok s') : reconciled c' today s' = reconciled c' today s := by
  rw [reconciled_eq] at h
  obtain ⟨_, -, h⟩ := except_bind_eq_ok.mp h
  obtain ⟨t, -, h⟩ := except_bind_eq_ok.mp h
  rw [reconciled_eq, reconciled_eq]
  refine congrArg (Except.bind _) (funext fun _ => ?_)
  refine congrArg (Except.bind _) (funext fun t' => ?_)
  exact Json.edit_absorbs (edits_absorb hday today) (edits_nodup c t today) h

theorem reconciled_all {today : String} {earlier : List ReconcileCall} {last : ReconcileCall}
    {s : Fields}
    (hvalid : ∀ c ∈ earlier, c.day = last.day ∧ ∃ t, reconciled c today s = .ok t) :
    (earlier ++ [last]).foldlM (fun s c => reconciled c today s) s = reconciled last today s := by
  induction earlier generalizing s with
  | nil =>
      show (reconciled last today s).bind (fun t => .ok t) = _
      cases reconciled last today s <;> rfl
  | cons c earlier ih =>
      obtain ⟨hday, t, ht⟩ := hvalid c List.mem_cons_self
      -- the others are as valid after the first one, for it leaves no trace in what they make
      have hrest : ∀ c' ∈ earlier, c'.day = last.day ∧ ∃ t', reconciled c' today t = .ok t' := by
        intro c' hc'
        obtain ⟨hday', t', ht'⟩ := hvalid c' (List.mem_cons_of_mem _ hc')
        exact ⟨hday', t', (reconciled_again (hday.trans hday'.symm) ht).trans ht'⟩
      show (reconciled c today s).bind _ = _
      rw [ht]
      exact (ih hrest).trans (reconciled_again hday ht)

end Absorbs

end ReconcileCall

/-- Of any calls of one day the last one gives the state; to repeat it changes nothing; and
the document a call is made with is not modified, whichever way it ends. -/
theorem last_reconciliation_wins [PyNumbers] [CaseTable] [Json.CharTable] (today : String)
    (impactState : Fields) (earlier : List ReconcileCall) (last : ReconcileCall)
    (hvalid : ∀ c ∈ earlier, c.day = last.day ∧ ∃ t, reconciled c today impactState = .ok t) :
    (earlier ++ [last]).foldlM (fun s c => reconciled c today s) impactState =
        reconciled last today impactState ∧
      (∀ t, reconciled last today impactState = .ok t → reconciled last today t = .ok t) ∧
      ∀ (c : ReconcileCall) (d : Documents),
        (after (applyAggregateReconciliation c today) d).impactState = d.impactState :=
  ⟨ReconcileCall.reconciled_all hvalid,
    fun _ ht => (ReconcileCall.reconciled_again rfl ht).trans ht,
    fun _ d => preserves_impactState d.impactState d rfl⟩

section Sample

/-- Whole numbers below a thousand, which is what the sample has. -/
@[reducible] def PyNumbers.small : PyNumbers where
  toFloat
    | .num n => .ok (toString n ++ ".0")
    | .float text => .ok text
    | v => .error (typeError v "is not a number of the sample")
  toInt
    | .num n => .ok n
    | v => .error (typeError v "is not a number of the sample")
  ge a b := decide (((Text.take (b.length - 2) b).toNat?.getD 0) ≤
    ((Text.take (a.length - 2) a).toNat?.getD 0))
  grouped text := Text.take (text.length - 2) text

@[reducible] def CaseTable.ascii : CaseTable := ⟨Text.upper⟩

attribute [local instance] PyNumbers.small CaseTable.ascii Json.CharTable.all

def ReconcileCall.Sample.call (raised : Int) (hour : String) : ReconcileCall where
  aggregate := [
    ("raisedPublic", .num raised),
    ("committedPublic", .num 0),
    ("donorCountPublic", .num 2),
    ("source", .str "every.org/aggregate:dojo"),
    ("reconciledAt", .str ("2026-08-01T" ++ hour ++ ":00:00Z"))]
  isoNow := ""

/-- A milestone at half of the larger total. -/
def ReconcileCall.Sample.state : Fields := [
  ("milestones", .arr [.obj [("threshold", .num 200)]]),
  ("notifications", .arr [.obj [("id", .str "reconciliation-pending")]])]

open ReconcileCall.Sample in
theorem ReconcileCall.Sample.call_returns :
    (reconciled (call 400 "09") "2026-08-02" state).toOption.isSome = true := by
  decide +kernel

open ReconcileCall.Sample in
/-- Up over a milestone, and down again. -/
theorem lower_total_wins :
    [call 400 "09", call 100 "10"].foldlM (fun s c => reconciled c "2026-08-02" s) state =
      reconciled (call 100 "10") "2026-08-02" state := by
  refine (last_reconciliation_wins "2026-08-02" state [call 400 "09"] (call 100 "10") ?_).1
  intro c hc
  obtain rfl := List.mem_singleton.mp hc
  refine ⟨by decide, ?_⟩
  cases hcall : reconciled (call 400 "09") "2026-08-02" state with
  | ok t => exact ⟨t, rfl⟩
  | error exc =>
      have hsome := call_returns
      rw [hcall] at hsome
      exact nomatch hsome

end Sample

end ImpactRelay
