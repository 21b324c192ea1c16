/-
# `Storage.LogsAlike` — when the file and the table are one log

The same calls, made on both logs.  A call that the one takes and the other refuses, or
that they write differently, sets them apart; the theorem says which calls these are.
Where the logs read alike they also rehydrate alike: a fold does not see the order of the
keys, since it looks fields up and overwrites entries.
-/
import ImpactRelay.Storage.CommandLog

namespace ImpactRelay

open Raise

/-! ## Records that come out alike once sorted -/

theorem receiptFromDict_alike {j j' : Json} (h : Json.FieldsAlike j j') :
    UseOfFundsReceipt.sorted <$> receiptFromDict j =
      UseOfFundsReceipt.sorted <$> receiptFromDict j' := by
  have hprovenance : (Json.obj (((j.field? "provenance").map Json.fields).getD [])).sorted =
      (Json.obj (((j'.field? "provenance").map Json.fields).getD [])).sorted := by
    have hfield := h "provenance"
    rcases Json.map_sorted_cases hfield with h | ⟨_, _, h, h'⟩ | ⟨_, _, h, h'⟩
    · rw [h]
    · rw [h, h']
      rfl
    · rw [h, h'] at hfield
      rw [h, h']
      exact Option.some.inj hfield
  simp only [receiptFromDict, textField_congr h, textOr_congr h, optText_congr h,
    moneyField_congr h, flagOr_congr h, map_bind, map_pure, UseOfFundsReceipt.sorted, hprovenance]

theorem idsFromList_sorted (j : Json) : idsFromList j.sorted = idsFromList j := by
  cases j with
  | arr items =>
      rw [Json.sorted, idsFromList, idsFromList]
      induction items with
      | nil => rfl
      | cons item items ih =>
          have hstr : item.sorted.str? = item.str? := by
            cases item <;> rfl
          rw [Json.sortedItems, List.foldr_cons, List.foldr_cons, ih, hstr]
  | null | bool | num | float | str | obj => rfl

/-! ## Maps that come out alike -/

/-- Two maps with the same keys, whose values are the same in a canonical form. -/
def SameUnder {ν : Type} (canon : ν → ν) (d d' : Dict Id ν) : Prop :=
  ∀ k, (d.get? k).map canon = (d'.get? k).map canon

theorem SameUnder.set {ν : Type} {canon : ν → ν} {d d' : Dict Id ν} (h : SameUnder canon d d')
    (k : Id) {v v' : ν} (hv : canon v = canon v') :
    SameUnder canon (d.set k v) (d'.set k v') := by
  intro k'
  rw [Dict.get?_set, Dict.get?_set]
  split
  · exact congrArg some hv
  · exact h k'

/-- A reader that does not see the order of the keys. -/
def ReadsAlike {ν : Type} (fromDict : Json → Except PyExc ν) (canon : ν → ν) : Prop :=
  ∀ j j' : Json, j.Keyed → j'.Keyed → j.sorted = j'.sorted →
    EndsAlike (fun v v' => canon v = canon v') (fromDict j) (fromDict j')

theorem readsAlike_of_map {ν : Type} {fromDict : Json → Except PyExc ν} {canon : ν → ν}
    (h : ∀ j j' : Json, Json.FieldsAlike j j' → canon <$> fromDict j = canon <$> fromDict j') :
    ReadsAlike fromDict canon := by
  intro j j' hj hj' hsorted
  have heq := h j j' (hj.fieldsAlike hj' hsorted)
  cases hread : fromDict j with
  | error e =>
      cases hread' : fromDict j' with
      | error e' => exact .error e e'
      | ok v' =>
          rw [hread, hread'] at heq
          exact nomatch heq
  | ok v =>
      cases hread' : fromDict j' with
      | error e' =>
          rw [hread, hread'] at heq
          exact nomatch heq
      | ok v' =>
          rw [hread, hread'] at heq
          exact .ok (Except.ok.inj heq)

theorem readsAlike_of_eq {ν : Type} {fromDict : Json → Except PyExc ν}
    (h : ∀ j j' : Json, Json.FieldsAlike j j' → fromDict j = fromDict j') :
    ReadsAlike fromDict id :=
  readsAlike_of_map fun j j' halike => by rw [h j j' halike]

theorem readsAlike_ids : ReadsAlike idsFromList id := by
  intro j j' _ _ hsorted
  rw [← idsFromList_sorted j, hsorted, idsFromList_sorted]
  cases idsFromList j' with
  | ok ids => exact .ok rfl
  | error e => exact .error e e

section Fold

variable {ν : Type} {fromDict : Json → Except PyExc ν} {canon : ν → ν}
  (hread : ReadsAlike fromDict canon)
include hread

/-- Entries that come out alike, in one order. -/
theorem foldInto_alike {items items' : List (String × Json)} {d d' : Dict Id ν}
    (hsame : (items.map fun e => (e.1, e.2.sorted)) = items'.map fun e => (e.1, e.2.sorted))
    (hkeyed : ∀ e ∈ items, e.2.Keyed) (hkeyed' : ∀ e ∈ items', e.2.Keyed)
    (hd : SameUnder canon d d') :
    EndsAlike (SameUnder canon) (foldInto fromDict d items) (foldInto fromDict d' items') := by
  induction items generalizing items' d d' with
  | nil =>
      rw [List.map_eq_nil_iff.mp hsame.symm]
      exact .ok hd
  | cons e items ih =>
      cases items' with
      | nil => exact nomatch hsame
      | cons e' items' =>
          obtain ⟨hhead, htail⟩ := List.cons.inj hsame
          obtain ⟨hkey, hvalue⟩ := Prod.mk.inj hhead
          obtain ⟨hk, hks⟩ := List.forall_mem_cons.mp hkeyed
          obtain ⟨hk', hks'⟩ := List.forall_mem_cons.mp hkeyed'
          rw [foldInto, foldInto]
          refine (hread _ _ hk hk' hvalue).bind fun v v' hv => ?_
          rw [hkey]
          exact ih htail hks hks' (hd.set e'.1 hv)

/-- The same entries, in another order. -/
theorem foldInto_perm {items items' : List (String × Json)} {d d' : Dict Id ν}
    (hperm : items.Perm items') (hnodup : (items.map Prod.fst).Nodup)
    (hkeyed : ∀ e ∈ items, e.2.Keyed) (hd : SameUnder canon d d') :
    EndsAlike (SameUnder canon) (foldInto fromDict d items) (foldInto fromDict d' items') := by
  induction hperm generalizing d d' with
  | nil => exact .ok hd
  | cons e _ ih =>
      obtain ⟨hk, hks⟩ := List.forall_mem_cons.mp hkeyed
      refine (hread _ _ hk hk rfl).bind fun v v' hv => ?_
      exact ih (List.nodup_cons.mp hnodup).2 hks (hd.set e.1 hv)
  | swap e e' items =>
      obtain ⟨hk', hks⟩ := List.forall_mem_cons.mp hkeyed
      obtain ⟨hk, hks⟩ := List.forall_mem_cons.mp hks
      have hne : e'.1 ≠ e.1 := fun heq =>
        (List.nodup_cons.mp hnodup).1 (heq ▸ List.mem_cons_self)
      show EndsAlike (SameUnder canon)
        (fromDict e'.2 >>= fun v' => fromDict e.2 >>= fun v =>
          foldInto fromDict ((d.set e'.1 v').set e.1 v) items)
        (fromDict e.2 >>= fun v => fromDict e'.2 >>= fun v' =>
          foldInto fromDict ((d'.set e.1 v).set e'.1 v') items)
      cases fromDict e'.2 with
      | error x =>
          cases fromDict e.2 with
          | error y => exact .error x y
          | ok v => exact .error x x
      | ok v' =>
          cases fromDict e.2 with
          | error y => exact .error y y
          | ok v =>
              refine foldInto_alike hread rfl hks hks fun k => ?_
              rw [Dict.get?_set, Dict.get?_set, Dict.get?_set, Dict.get?_set]
              by_cases hk : k = e.1
              · rw [if_pos hk, if_neg (hk ▸ hne.symm), if_pos hk]
              · rw [if_neg hk, if_neg hk]
                split
                · rfl
                · exact hd k
  | trans hperm₁ hperm₂ ih₁ ih₂ =>
      have hnodup₂ := (hperm₁.map Prod.fst).nodup_iff.mp hnodup
      have hkeyed₂ := fun e he => hkeyed e (hperm₁.mem_iff.mpr he)
      exact (ih₁ hnodup hkeyed hd).trans (ih₂ hnodup₂ hkeyed₂ fun _ => rfl)
        fun a b c hab hbc k => (hab k).trans (hbc k)

/-- The entries of two objects that come out alike. -/
theorem foldInto_sorted {fields fields' : List (String × Json)} {d d' : Dict Id ν}
    (hkeyed : (Json.obj fields).Keyed) (hkeyed' : (Json.obj fields').Keyed)
    (hsorted : (Json.obj fields).sorted = (Json.obj fields').sorted) (hd : SameUnder canon d d') :
    EndsAlike (SameUnder canon) (foldInto fromDict d fields) (foldInto fromDict d' fields') := by
  have hperm : (fields'.map fun e => (e.1, e.2.sorted)).Perm
      (fields.map fun e => (e.1, e.2.sorted)) := by
    refine (Json.sortedFields_perm fields').symm.trans ?_
    rw [← Json.obj.inj hsorted]
    exact Json.sortedFields_perm fields
  obtain ⟨arranged, harranged, heq⟩ := exists_perm_of_map_perm hperm
  have hfields := Json.keyedFields_iff.mp hkeyed.2
  refine (foldInto_perm hread harranged.symm hkeyed.1 hfields hd).trans
    (foldInto_alike hread heq.symm (fun e he => hfields e (harranged.mem_iff.mp he))
      (Json.keyedFields_iff.mp hkeyed'.2) fun _ => rfl)
    fun a b c hab hbc k => (hab k).trans (hbc k)

/-- The maps of one name in two results. -/
theorem foldInto_itemsOf {entities entities' : Json} (hkeyed : entities.Keyed)
    (hkeyed' : entities'.Keyed) (hsorted : entities.sorted = entities'.sorted) (name : String)
    {d d' : Dict Id ν} (hd : SameUnder canon d d') :
    EndsAlike (SameUnder canon) (foldInto fromDict d (itemsOf entities name))
      (foldInto fromDict d' (itemsOf entities' name)) := by
  have hfield := hkeyed.fieldsAlike hkeyed' hsorted name
  rw [itemsOf, itemsOf]
  cases h : entities.field? name with
  | none =>
      rw [h] at hfield
      rw [Option.map_eq_none_iff.mp hfield.symm]
      exact .ok hd
  | some v =>
      rw [h] at hfield
      obtain ⟨v', h', hv⟩ := Option.map_eq_some_iff.mp hfield.symm
      have hv : v.sorted = v'.sorted := hv.symm
      have hk := hkeyed.field? h
      have hk' := hkeyed'.field? h'
      rw [h']
      cases v with
      | obj fields =>
          cases v' with
          | obj fields' => exact foldInto_sorted hread hk hk' hv hd
          | null | bool | num | float | str | arr => cases hv
      | null | bool | num | float | str | arr =>
          cases v' with
          | obj fields' => cases hv
          | null | bool | num | float | str | arr => exact .ok hd

end Fold

/-! ## Results that come out alike -/

/-- The same entities, for the same organization. -/
def Ledger.SameLedger (l l' : Ledger) : Prop :=
  l.organization = l'.organization ∧ l.SameEntities l'

theorem Ledger.SameLedger.refl (l : Ledger) : l.SameLedger l := ⟨rfl, .refl l⟩

theorem sameUnder_id {ν : Type} {d d' : Dict Id ν} :
    SameUnder id d d' ↔ ∀ k, d.get? k = d'.get? k := by
  simp only [SameUnder, Option.map_id_fun, id]

theorem orgMismatch_congr {l l' : Ledger} {entities entities' : Json}
    (horg : l.organization = l'.organization) (hkeyed : entities.Keyed)
    (hkeyed' : entities'.Keyed) (hsorted : entities.sorted = entities'.sorted) :
    l.orgMismatch entities = l'.orgMismatch entities' := by
  have hfield := hkeyed.fieldsAlike hkeyed' hsorted "organization"
  rw [Ledger.orgMismatch, Ledger.orgMismatch, horg]
  cases h : entities.field? "organization" with
  | none =>
      rw [h] at hfield
      rw [Option.map_eq_none_iff.mp hfield.symm]
  | some v =>
      rw [h] at hfield
      obtain ⟨v', h', hv⟩ := Option.map_eq_some_iff.mp hfield.symm
      rw [h', Option.bind_some, Option.bind_some]
      have hid := (hkeyed.field? h).fieldsAlike (hkeyed'.field? h') hv.symm "id"
      rcases Json.map_sorted_cases hid with h | ⟨_, _, h, h'⟩ | ⟨_, _, h, h'⟩
      · rw [h]
      · rw [h, h']
      · rw [h, h']

/-- Results that come out alike do the same to the same ledger. -/
theorem applyResultJson_alike {l l' : Ledger} (hl : l.SameLedger l') {result result' : Json}
    (hkeyed : result.Keyed) (hkeyed' : result'.Keyed) (hsorted : result.sorted = result'.sorted) :
    EndsAlike Ledger.SameLedger (l.applyResultJson result) (l'.applyResultJson result') := by
  have hfield := hkeyed.fieldsAlike hkeyed' hsorted "entities"
  rw [Ledger.applyResultJson, Ledger.applyResultJson]
  cases h : result.field? "entities" with
  | none =>
      rw [h] at hfield
      rw [Option.map_eq_none_iff.mp hfield.symm]
      exact .error _ _
  | some entities =>
      rw [h] at hfield
      obtain ⟨entities', h', hentities⟩ := Option.map_eq_some_iff.mp hfield.symm
      have hk := hkeyed.field? h
      have hk' := hkeyed'.field? h'
      have hs : entities.sorted = entities'.sorted := hentities.symm
      rw [h']
      dsimp only
      rw [orgMismatch_congr hl.1 hk hk' hs]
      split
      · exact .error _ _
      · obtain ⟨horg, hsame⟩ := hl
        refine (foldInto_itemsOf (readsAlike_of_eq fun _ _ => donorFromDict_congr) hk hk' hs
          "donors" (sameUnder_id.mpr hsame.donors)).bind fun donors donors' hdonors => ?_
        refine (foldInto_itemsOf (readsAlike_of_eq fun _ _ => allocationFromDict_congr) hk hk' hs
          "allocations" (sameUnder_id.mpr hsame.allocations)).bind
            fun allocations allocations' hallocations => ?_
        refine (foldInto_itemsOf (readsAlike_of_eq fun _ _ => donationFromDict_congr) hk hk' hs
          "donations" (sameUnder_id.mpr hsame.donations)).bind
            fun donations donations' hdonations => ?_
        refine (foldInto_itemsOf (readsAlike_of_eq fun _ _ => donationAllocationFromDict_congr)
          hk hk' hs "donation_allocations" (sameUnder_id.mpr hsame.donationAllocations)).bind
            fun designations designations' hdesignations => ?_
        refine (foldInto_itemsOf (readsAlike_of_eq fun _ _ => expenseFromDict_congr) hk hk' hs
          "expenses" (sameUnder_id.mpr hsame.expenses)).bind fun expenses expenses' hexpenses => ?_
        refine (foldInto_itemsOf (readsAlike_of_eq fun _ _ => expenseAllocationFromDict_congr)
          hk hk' hs "expense_allocations" (sameUnder_id.mpr hsame.expenseAllocations)).bind
            fun charges charges' hcharges => ?_
        refine (foldInto_itemsOf (readsAlike_of_eq fun _ _ => evidenceFromDict_congr) hk hk' hs
          "evidence" (sameUnder_id.mpr hsame.evidence)).bind fun evidence evidence' hevidence => ?_
        refine (foldInto_itemsOf (readsAlike_of_eq fun _ _ => attributionFromDict_congr) hk hk' hs
          "attributions" (sameUnder_id.mpr hsame.attributions)).bind
            fun attributions attributions' hattributions => ?_
        refine (foldInto_itemsOf (readsAlike_of_map fun _ _ => receiptFromDict_alike) hk hk' hs
          "receipts" hsame.receipts).bind fun receipts receipts' hreceipts => ?_
        refine (foldInto_itemsOf (fun _ _ _ _ h => .ok h) hk hk' hs "receipt_snapshots"
          hsame.receiptSnapshots).bind fun snapshots snapshots' hsnapshots => ?_
        refine (foldInto_itemsOf readsAlike_ids hk hk' hs "expense_receipts"
          (sameUnder_id.mpr hsame.expenseReceipts)).bind fun lists lists' hlists => ?_
        exact .ok ⟨horg, sameUnder_id.mp hdonors, sameUnder_id.mp hdonations,
          sameUnder_id.mp hallocations, sameUnder_id.mp hdesignations, sameUnder_id.mp hexpenses,
          sameUnder_id.mp hcharges, sameUnder_id.mp hevidence, sameUnder_id.mp hattributions,
          hreceipts, hsnapshots, sameUnder_id.mp hlists⟩

/-! ## Rows that come out alike -/

/-- What is compared of a row: the order of the keys is not. -/
def LoggedCommand.view (row : LoggedCommand) : String × String × Json × Json :=
  (row.idempotencyKey, row.commandType, row.payload.sorted, row.resultJson.sorted)

theorem applyResultJson_empty {result : Json} (h : result.truthy = false) (l : Ledger) :
    ∃ e, l.applyResultJson result = .error e := by
  have hfield : result.field? "entities" = none := by
    cases result with
    | obj fields =>
        have hnil : fields = [] := by
          rw [Json.truthy, Bool.not_eq_false'] at h
          exact List.isEmpty_iff.mp h
        rw [hnil]
        rfl
    | null | bool | num | float | str | arr => rfl
  rw [Ledger.applyResultJson, hfield]
  exact ⟨_, rfl⟩

theorem foldRows_alike {l l' : Ledger} (hl : l.SameLedger l') {rows rows' : List LoggedCommand}
    (hviews : rows.map LoggedCommand.view = rows'.map LoggedCommand.view)
    (hkeyed : ∀ row ∈ rows, row.resultJson.Keyed) (hkeyed' : ∀ row ∈ rows', row.resultJson.Keyed) :
    EndsAlike Ledger.SameLedger
      (FileLedgerCommandLog.foldRows l (rows.map LoggedCommand.toLogRow))
      (SqlLedgerCommandLog.foldRows l' rows') := by
  induction rows generalizing rows' l l' with
  | nil =>
      rw [List.map_eq_nil_iff.mp hviews.symm]
      exact .ok hl
  | cons row rows ih =>
      cases rows' with
      | nil => exact nomatch hviews
      | cons row' rows' =>
          obtain ⟨hview, hviews⟩ := List.cons.inj hviews
          have hsorted : row.resultJson.sorted = row'.resultJson.sorted :=
            congrArg (fun v : String × String × Json × Json => v.2.2.2) hview
          obtain ⟨hk, hks⟩ := List.forall_mem_cons.mp hkeyed
          obtain ⟨hk', hks'⟩ := List.forall_mem_cons.mp hkeyed'
          rw [List.map_cons, FileLedgerCommandLog.foldRows, SqlLedgerCommandLog.foldRows]
          split
          · rename_i hempty
            obtain ⟨e, he⟩ := applyResultJson_empty
              ((Json.truthy_congr hsorted).symm.trans hempty) l'
            rw [he]
            exact .error _ e
          · exact (applyResultJson_alike hl hk hk' hsorted).bind fun a b hab =>
              ih hab hviews hks hks'

/-! ## Calls that a log takes -/

namespace AppendCall

/-- A new command that the file takes: its result has entities, and the log's own
function knows every object in it. -/
def fileTakes (c : AppendCall) : Bool :=
  c.hasEntities && PyVal.writable PyVal.byCaller (.dict c.payload) &&
    PyVal.writable PyVal.byCaller (.dict c.resultJson)

/-- A new command that the table takes: the keys of each dictionary can be compared, and
the payload is written as it is once it has been read back. -/
def tableTakes (c : AppendCall) : Bool :=
  PyVal.writable PyVal.bySort (.dict c.payload) &&
    PyVal.writable PyVal.bySort (.dict c.resultJson) && PyVal.ordered (.dict c.payload)

/-- What the log's own function makes of the objects in the command is their `str`. -/
def alike (c : AppendCall) : Bool :=
  PyVal.alike (.dict c.payload) && PyVal.alike (.dict c.resultJson)

end AppendCall

theorem FileCommandLog.append_fresh {c : AppendCall} {log : FileCommandLog}
    (hfresh : c.key ∉ log.seen) :
    (c.fileTakes = true ∧ ∃ payload resultJson,
      PyVal.encode PyVal.byCaller (.dict c.payload) = some payload ∧
      PyVal.encode PyVal.byCaller (.dict c.resultJson) = some resultJson ∧
      log.append c = .ok ⟨c.key :: log.seen, log.rows ++ [c.row payload resultJson]⟩) ∨
    c.fileTakes = false ∧ ∃ e, log.append c = .error e := by
  rw [append, if_neg hfresh, AppendCall.fileTakes, ← PyVal.isSome_encode, ← PyVal.isSome_encode]
  cases c.hasEntities with
  | false => exact .inr ⟨rfl, _, rfl⟩
  | true =>
      cases PyVal.encode PyVal.byCaller (.dict c.payload) with
      | none => exact .inr ⟨rfl, _, rfl⟩
      | some payload =>
          cases PyVal.encode PyVal.byCaller (.dict c.resultJson) with
          | none => exact .inr ⟨rfl, _, rfl⟩
          | some resultJson => exact .inl ⟨rfl, payload, resultJson, rfl, rfl, rfl⟩

namespace SqlLedgerCommandLog

theorem fetch_isSome_iff {key : Id × String} {rows : List LoggedCommand} :
    (fetch key rows).isSome = true ↔ ∃ row ∈ rows, row.key = key := by
  rw [fetch, List.find?_isSome]
  simp only [decide_eq_true_eq]

theorem append_fresh {c : AppendCall} {log : SqlLedgerCommandLog}
    (hfresh : fetch c.key log.rows = none) :
    (c.tableTakes = true ∧ ∃ payload resultJson,
      PyVal.encode PyVal.bySort (.dict c.payload) = some payload ∧
      PyVal.encode PyVal.bySort (.dict c.resultJson) = some resultJson ∧
      payload.sorted = payload ∧
      log.append c = .ok ⟨log.rows ++ [c.row payload resultJson]⟩) ∨
    c.tableTakes = false ∧ ∃ e, log.append c = .error e := by
  rw [append, AppendCall.tableTakes, ← PyVal.isSome_encode, ← PyVal.isSome_encode]
  cases hpayload : PyVal.encode PyVal.bySort (.dict c.payload) with
  | none => exact .inr ⟨rfl, _, rfl⟩
  | some payload =>
      cases PyVal.encode PyVal.bySort (.dict c.resultJson) with
      | none => exact .inr ⟨rfl, _, rfl⟩
      | some resultJson =>
          have hinsert : insert (c.row payload resultJson) log.rows =
              log.rows ++ [c.row payload resultJson] := by
            rw [insert, show (c.row payload resultJson).key = c.key from rfl, hfresh]
            exact if_neg Bool.false_ne_true
          have hfetch : fetch c.key (log.rows ++ [c.row payload resultJson]) =
              some (c.row payload resultJson) := by
            have hkey : decide ((c.row payload resultJson).key = c.key) = true := decide_eq_true rfl
            rw [fetch, List.find?_append, show log.rows.find? (fun row => row.key = c.key) = none
              from hfresh]
            exact List.find?_cons_of_pos (p := fun row : LoggedCommand => decide (row.key = c.key)) hkey
          have hordered := PyVal.ordered_iff c.payload_distinct hpayload
          dsimp only
          rw [hinsert, hfetch]
          by_cases hsorted : payload.sorted = payload
          · refine .inl ⟨hordered.mp hsorted, payload, resultJson, rfl, rfl, hsorted, ?_⟩
            exact if_neg (not_or.mpr ⟨fun h => h rfl, fun h => h hsorted⟩)
          · refine .inr ⟨?_, ledgerLogError "ledger command idempotency conflict", ?_⟩
            · exact Bool.eq_false_iff.mpr fun h => hsorted (hordered.mpr h)
            · exact if_pos (.inr hsorted)

theorem append_repeated {c : AppendCall} {log : SqlLedgerCommandLog} {row : LoggedCommand}
    (hrow : fetch c.key log.rows = some row) :
    ((log.append c).isOk = true ↔
      PyVal.writable PyVal.bySort (.dict c.resultJson) = true ∧
        row.commandType = c.commandType ∧
        PyVal.encode PyVal.bySort (.dict c.payload) = some row.payload.sorted) ∧
    ∀ log', log.append c = .ok log' → log' = log := by
  rw [append, ← PyVal.isSome_encode]
  cases PyVal.encode PyVal.bySort (.dict c.payload) with
  | none => exact ⟨iff_of_false nofun nofun, nofun⟩
  | some payload =>
      cases PyVal.encode PyVal.bySort (.dict c.resultJson) with
      | none => exact ⟨iff_of_false nofun nofun, nofun⟩
      | some resultJson =>
          have hinsert : insert (c.row payload resultJson) log.rows = log.rows := by
            rw [insert, show (c.row payload resultJson).key = c.key from rfl, hrow]
            exact if_pos rfl
          dsimp only
          rw [hinsert, hrow]
          dsimp only
          split
          · rename_i hconflict
            refine ⟨iff_of_false nofun ?_, nofun⟩
            rintro ⟨-, htype, hpayload⟩
            rcases hconflict with h | h
            · exact h htype
            · exact h (Option.some.inj hpayload).symm
          · rename_i hmatch
            rw [not_or, not_not, not_not] at hmatch
            exact ⟨iff_of_true rfl ⟨rfl, hmatch.1, congrArg some hmatch.2.symm⟩,
              fun log' h => (Except.ok.inj h).symm⟩

end SqlLedgerCommandLog

/-! ## Both logs -/

/-- The two logs, given the same calls. -/
structure CommandLogs where
  file : FileCommandLog := {}
  sql : SqlLedgerCommandLog := {}

namespace CommandLogs

/-- A call that is refused leaves the log as it was. -/
def step (s : CommandLogs) (c : AppendCall) : CommandLogs :=
  { file := (s.file.append c).toOption.getD s.file
    sql := (s.sql.append c).toOption.getD s.sql }

/-- The rows of a tenant read the same from either log. -/
def ReadAlike (t : Id) (s : CommandLogs) : Prop :=
  (s.file.iterRows t).map LoggedCommand.view = (s.sql.iterRows t).map LoggedCommand.view

/-- Either log gives the same ledger, or neither gives one. -/
def RehydrateAlike (t : Id) (s : CommandLogs) : Prop :=
  ∀ organization baseLedger, organization.id = t →
    EndsAlike Ledger.SameLedger (s.file.rehydrate organization baseLedger)
      (s.sql.rehydrate organization baseLedger)

/-- The logs cannot be told apart by a call, nor by the tenant afterwards. -/
structure Agrees (t : Id) (s : CommandLogs) (c : AppendCall) : Prop where
  refused : (s.file.append c).isOk = (s.sql.append c).isOk
  rows : ReadAlike t (s.step c)
  ledger : RehydrateAlike t (s.step c)

/-- What the logs must be given.  Under a key that is logged, the command that is logged:
its type, and a payload that is written as its payload is.  Under a new key, a command
that both take or neither; if they take it and the tenant reads it, one whose objects
they write alike; and nothing for other tenants, if the tenant is the empty text. -/
def Meets (t : Id) (s : CommandLogs) (c : AppendCall) : Prop :=
  match SqlLedgerCommandLog.fetch c.key s.sql.rows with
  | some row =>
      PyVal.writable PyVal.bySort (.dict c.resultJson) = true ∧ row.commandType = c.commandType ∧
        PyVal.encode PyVal.bySort (.dict c.payload) = some row.payload
  | none =>
      c.fileTakes = c.tableTakes ∧
        (c.fileTakes = true → (c.tenantId = t → c.alike = true) ∧ (t = "" → c.tenantId = ""))

/-- What holds of the logs as long as they agree. -/
structure Inv (t : Id) (s : CommandLogs) : Prop where
  seen : ∀ key, key ∈ s.file.seen ↔ (SqlLedgerCommandLog.fetch key s.sql.rows).isSome = true
  inOrder : ∀ row ∈ s.sql.rows, row.payload.sorted = row.payload
  fileKeyed : ∀ row ∈ s.file.rows, row.resultJson.Keyed
  sqlKeyed : ∀ row ∈ s.sql.rows, row.resultJson.Keyed
  rows : ReadAlike t s

theorem inv_empty (t : Id) : Inv t {} :=
  ⟨fun _ => iff_of_false List.not_mem_nil Bool.false_ne_true, nofun, nofun, nofun, rfl⟩

variable {t : Id} {s : CommandLogs} {c : AppendCall}

theorem Inv.rehydrateAlike (h : Inv t s) : RehydrateAlike t s := by
  rintro organization baseLedger rfl
  have hfold : ∀ l : Ledger, EndsAlike Ledger.SameLedger
      (FileLedgerCommandLog.foldRows l
        ((s.file.iterRows organization.id).map LoggedCommand.toLogRow))
      (SqlLedgerCommandLog.foldRows l (s.sql.iterRows organization.id)) := fun l =>
    foldRows_alike (.refl l) h.rows (fun row hrow => h.fileKeyed row (List.mem_of_mem_filter hrow))
      fun row hrow => h.sqlKeyed row (List.mem_of_mem_filter hrow)
  rw [FileCommandLog.rehydrate]
  cases baseLedger with
  | none =>
      rw [SqlLedgerCommandLog.rehydrate]
      dsimp only [Option.getD_none]
      rw [if_neg (show ¬ (Ledger.new organization).organization.id ≠ organization.id from
        not_not.mpr rfl)]
      exact hfold _
  | some ledger =>
      rw [SqlLedgerCommandLog.rehydrate]
      dsimp only [Option.getD_some]
      split
      · exact .error _ _
      · exact hfold ledger

/-- A call under a logged key changes neither log. -/
theorem repeated_iff (h : Inv t s) {row : LoggedCommand}
    (hrow : SqlLedgerCommandLog.fetch c.key s.sql.rows = some row) :
    s.step c = s ∧ (Agrees t s c ↔ Meets t s c) := by
  have hseen : c.key ∈ s.file.seen := (h.seen c.key).mpr (hrow ▸ rfl)
  have hfile : s.file.append c = .ok s.file := by
    rw [FileCommandLog.append, if_pos hseen]
  obtain ⟨haccepts, hsame⟩ := SqlLedgerCommandLog.append_repeated hrow
  have hstep : s.step c = s := by
    rw [step, hfile]
    cases hsql : s.sql.append c with
    | error e => rfl
    | ok log => rw [hsame log hsql]; rfl
  have hinOrder : row.payload.sorted = row.payload :=
    h.inOrder row (List.mem_of_find?_eq_some hrow)
  refine ⟨hstep, ?_⟩
  rw [Meets, hrow]
  dsimp only
  rw [← hinOrder, ← haccepts]
  constructor
  · intro hagrees
    rw [← hagrees.refused, hfile]
    rfl
  · intro haccepted
    refine ⟨?_, hstep.symm ▸ h.rows, hstep.symm ▸ h.rehydrateAlike⟩
    rw [haccepted, hfile]
    rfl

/-- The rows of a tenant after one more row on either side. -/
theorem readAlike_append (h : ReadAlike t s) (row row' : LoggedCommand)
    (htenant : row.tenantId = row'.tenantId) (seen : List (Id × String)) :
    ReadAlike t ⟨⟨seen, s.file.rows ++ [row]⟩, ⟨s.sql.rows ++ [row']⟩⟩ ↔
      (row.tenantId = t → row.view = row'.view) ∧ (t = "" → row.tenantId = "") := by
  have h : (s.file.iterRows t).map LoggedCommand.view = (s.sql.iterRows t).map LoggedCommand.view :=
    h
  rw [FileCommandLog.iterRows, SqlLedgerCommandLog.iterRows] at h
  rw [ReadAlike, FileCommandLog.iterRows, SqlLedgerCommandLog.iterRows, List.filter_append,
    List.filter_append, List.map_append, List.map_append, h, List.append_cancel_left_eq,
    List.filter_singleton, List.filter_singleton, ← htenant]
  by_cases hreads : row.tenantId = t
  · simp [hreads]
  · by_cases hempty : t = ""
    · subst hempty
      simp [hreads]
    · simp [hreads, hempty]

/-- A new command that both logs take. -/
theorem taken_iff (h : Inv t s) {payload resultJson payload' resultJson' : Json}
    (hpayload : PyVal.encode PyVal.byCaller (.dict c.payload) = some payload)
    (hresult : PyVal.encode PyVal.byCaller (.dict c.resultJson) = some resultJson)
    (hpayload' : PyVal.encode PyVal.bySort (.dict c.payload) = some payload')
    (hresult' : PyVal.encode PyVal.bySort (.dict c.resultJson) = some resultJson')
    (hinOrder : payload'.sorted = payload') {next : CommandLogs}
    (hnext : next = ⟨⟨c.key :: s.file.seen, s.file.rows ++ [c.row payload resultJson]⟩,
      ⟨s.sql.rows ++ [c.row payload' resultJson']⟩⟩) :
    (ReadAlike t next ↔ (c.tenantId = t → c.alike = true) ∧ (t = "" → c.tenantId = "")) ∧
      (ReadAlike t next → Inv t next) := by
  subst hnext
  constructor
  · have halike : (c.row payload resultJson).view = (c.row payload' resultJson').view ↔
        c.alike = true := by
      rw [AppendCall.alike, Bool.and_eq_true,
        ← PyVal.alike_iff c.payload_distinct hpayload hpayload',
        ← PyVal.alike_iff c.resultJson_distinct hresult hresult']
      simp [LoggedCommand.view, AppendCall.row]
    rw [← halike]
    exact readAlike_append h.rows (c.row payload resultJson) (c.row payload' resultJson') rfl _
  · intro hrows
    refine ⟨fun key => ?_, ?_, ?_, ?_, hrows⟩
    · rw [List.mem_cons, h.seen key, SqlLedgerCommandLog.fetch_isSome_iff,
        SqlLedgerCommandLog.fetch_isSome_iff]
      constructor
      · rintro (rfl | ⟨row, hrow, hkey⟩)
        · exact ⟨_, List.mem_append_right _ (List.mem_singleton.mpr rfl), rfl⟩
        · exact ⟨row, List.mem_append_left _ hrow, hkey⟩
      · rintro ⟨row, hrow, rfl⟩
        rcases List.mem_append.mp hrow with hrow | hrow
        · exact .inr ⟨row, hrow, rfl⟩
        · exact .inl (congrArg (fun row : LoggedCommand => row.key) (List.mem_singleton.mp hrow))
    · exact List.forall_mem_append.mpr ⟨h.inOrder, List.forall_mem_singleton.mpr hinOrder⟩
    · exact List.forall_mem_append.mpr
        ⟨h.fileKeyed, List.forall_mem_singleton.mpr (PyVal.keyed_encode hresult)⟩
    · exact List.forall_mem_append.mpr
        ⟨h.sqlKeyed, List.forall_mem_singleton.mpr (PyVal.keyed_encode hresult')⟩

/-- A call under a new key is taken by both logs, by one of them, or by neither. -/
theorem fresh_iff (h : Inv t s) (hfresh : SqlLedgerCommandLog.fetch c.key s.sql.rows = none) :
    (Agrees t s c → Inv t (s.step c)) ∧ (Agrees t s c ↔ Meets t s c) := by
  have hunseen : c.key ∉ s.file.seen := fun hmem => by
    have := (h.seen c.key).mp hmem
    rw [hfresh] at this
    exact nomatch this
  rw [Meets, hfresh]
  dsimp only
  rcases FileCommandLog.append_fresh hunseen with
    ⟨hfile, payload, resultJson, hpayload, hresult, hfileOk⟩ | ⟨hfile, e, hfileError⟩ <;>
    rcases SqlLedgerCommandLog.append_fresh hfresh with
      ⟨hsql, payload', resultJson', hpayload', hresult', hinOrder, hsqlOk⟩ | ⟨hsql, e', hsqlError⟩
  · have hstep : s.step c = ⟨⟨c.key :: s.file.seen, s.file.rows ++ [c.row payload resultJson]⟩,
        ⟨s.sql.rows ++ [c.row payload' resultJson']⟩⟩ := by
      rw [step, hfileOk, hsqlOk]
      rfl
    obtain ⟨hread, hinv⟩ := taken_iff h hpayload hresult hpayload' hresult' hinOrder hstep
    rw [hfile, hsql]
    refine ⟨fun hagrees => hinv hagrees.rows, fun hagrees => ⟨rfl, fun _ => hread.mp hagrees.rows⟩,
      fun hmeets => ?_⟩
    have hrows := hread.mpr (hmeets.2 rfl)
    refine ⟨?_, hrows, (hinv hrows).rehydrateAlike⟩
    rw [hfileOk, hsqlOk]
    rfl
  · have hdiffer : ¬ Agrees t s c := fun hagrees => by
      have hrefused := hagrees.refused
      rw [hfileOk, hsqlError] at hrefused
      exact nomatch hrefused
    rw [hfile, hsql]
    exact ⟨fun hagrees => absurd hagrees hdiffer, iff_of_false hdiffer fun hmeets => nomatch hmeets.1⟩
  · have hdiffer : ¬ Agrees t s c := fun hagrees => by
      have hrefused := hagrees.refused
      rw [hfileError, hsqlOk] at hrefused
      exact nomatch hrefused
    rw [hfile, hsql]
    exact ⟨fun hagrees => absurd hagrees hdiffer, iff_of_false hdiffer fun hmeets => nomatch hmeets.1⟩
  · have hstep : s.step c = s := by
      rw [step, hfileError, hsqlError]
      rfl
    rw [hfile, hsql, hstep]
    refine ⟨fun _ => h, iff_of_true ⟨?_, hstep.symm ▸ h.rows, hstep.symm ▸ h.rehydrateAlike⟩
      ⟨rfl, nofun⟩⟩
    rw [hfileError, hsqlError]
    rfl

/-- The logs agree along every sequence of calls that gives them what they must be given,
and along no other. -/
theorem logs_interchangeable (t : Id) (calls : List AppendCall) :
    Along step (Agrees t) {} calls ↔ Along step (Meets t) {} calls := by
  have hcall : ∀ s c, Inv t s → (Agrees t s c → Inv t (s.step c)) ∧
      (Agrees t s c ↔ Meets t s c) := by
    intro s c h
    cases hfetch : SqlLedgerCommandLog.fetch c.key s.sql.rows with
    | none => exact fresh_iff h hfetch
    | some row =>
        obtain ⟨hstep, hiff⟩ := repeated_iff h hfetch
        exact ⟨fun _ => hstep.symm ▸ h, hiff⟩
  exact along_iff (fun s c h => (hcall s c h).2) (fun s c h => (hcall s c h).1) (inv_empty t)

section Sample

/-- An import, or another command under its key. -/
def Sample.logged (commandType : String) : AppendCall where
  tenantId := "org_test"
  idempotencyKey := "import:one"
  commandType := commandType
  payload := [(.text "amount", .text "10.00")]
  resultJson := [(.text "entities", .dict [])]
  payload_distinct := by decide
  resultJson_distinct := by decide

/-- The file passes over another command under a key that it has seen; the table refuses
it. -/
theorem other_command_told_apart :
    ¬ ∀ t calls, Along step (Agrees t) {} calls := by
  intro h
  have hrefused := (h "org_test" [Sample.logged "import_normalized_expense",
    Sample.logged "approve_expense"]).2.1.refused
  revert hrefused
  decide +kernel

end Sample

end CommandLogs

end ImpactRelay
