/-
# `Storage.RoundTrip` — a snapshot gives its ledger back

Folded over an empty ledger of the organization, a snapshot gives back the ledger it was
taken from.  Saved over whatever a repository holds, and loaded again, it gives back
the same maps: the rows come in any order and the objects with sorted keys, and
neither is seen by who compares maps.
-/
import ImpactRelay.Domain.AppendOnly
import ImpactRelay.Storage.LedgerRepo

namespace ImpactRelay

open Raise

/-! ## Records with sorted keys -/

section Fields

variable {j j' : Json} (h : Json.FieldsAlike j j')
include h

theorem textField_congr (k : String) : textField j k = textField j' k := by
  rw [textField, textField, item, item]
  rcases Json.map_sorted_cases (h k) with h | ⟨_, _, h, h'⟩ | ⟨_, _, h, h'⟩
  · rw [h]
  · rw [h, h']
  · rw [h, h']

theorem textOr_congr (k default : String) : textOr j k default = textOr j' k default := by
  rw [textOr, textOr]
  rcases Json.map_sorted_cases (h k) with h | ⟨_, _, h, h'⟩ | ⟨_, _, h, h'⟩
  · rw [h]
  · rw [h, h']
  · rw [h, h']

theorem optText_congr (k : String) : optText j k = optText j' k := by
  rw [optText, optText]
  rcases Json.map_sorted_cases (h k) with h | ⟨_, _, h, h'⟩ | ⟨_, _, h, h'⟩
  · rw [h]
  · rw [h, h']
  · rw [h, h']

theorem moneyField_congr (k : String) : moneyField j k = moneyField j' k := by
  rw [moneyField, moneyField, item, item]
  rcases Json.map_sorted_cases (h k) with h | ⟨_, _, h, h'⟩ | ⟨_, _, h, h'⟩
  · rw [h]
  · rw [h, h']
  · rw [h, h']

theorem flagOr_congr (k : String) (default : Bool) : flagOr j k default = flagOr j' k default := by
  rw [flagOr, flagOr]
  have hfield := h k
  cases hj : j.field? k with
  | none =>
      rw [hj] at hfield
      rw [Option.map_eq_none_iff.mp hfield.symm]
  | some v =>
      rw [hj] at hfield
      obtain ⟨v', hv', hsorted⟩ := Option.map_eq_some_iff.mp hfield.symm
      rw [hv']
      exact Json.truthy_congr hsorted.symm

end Fields

theorem donorFromDict_congr {j j' : Json} (h : Json.FieldsAlike j j') :
    donorFromDict j = donorFromDict j' := by
  simp only [donorFromDict, textField_congr h]

theorem allocationFromDict_congr {j j' : Json} (h : Json.FieldsAlike j j') :
    allocationFromDict j = allocationFromDict j' := by
  simp only [allocationFromDict, textField_congr h, textOr_congr h]

theorem donationFromDict_congr {j j' : Json} (h : Json.FieldsAlike j j') :
    donationFromDict j = donationFromDict j' := by
  simp only [donationFromDict, textField_congr h, textOr_congr h, moneyField_congr h, flagOr_congr h]

theorem donationAllocationFromDict_congr {j j' : Json} (h : Json.FieldsAlike j j') :
    donationAllocationFromDict j = donationAllocationFromDict j' := by
  simp only [donationAllocationFromDict, textField_congr h, moneyField_congr h]

theorem expenseFromDict_congr {j j' : Json} (h : Json.FieldsAlike j j') :
    expenseFromDict j = expenseFromDict j' := by
  simp only [expenseFromDict, textField_congr h, textOr_congr h, optText_congr h, moneyField_congr h]

theorem expenseAllocationFromDict_congr {j j' : Json} (h : Json.FieldsAlike j j') :
    expenseAllocationFromDict j = expenseAllocationFromDict j' := by
  simp only [expenseAllocationFromDict, textField_congr h, moneyField_congr h]

theorem evidenceFromDict_congr {j j' : Json} (h : Json.FieldsAlike j j') :
    evidenceFromDict j = evidenceFromDict j' := by
  simp only [evidenceFromDict, textField_congr h, textOr_congr h, flagOr_congr h]

theorem attributionFromDict_congr {j j' : Json} (h : Json.FieldsAlike j j') :
    attributionFromDict j = attributionFromDict j' := by
  simp only [attributionFromDict, textField_congr h, textOr_congr h, moneyField_congr h]

theorem receiptFromDict_congr {j j' : Json} (h : ∀ k, j.field? k = j'.field? k) :
    receiptFromDict j = receiptFromDict j' := by
  simp only [receiptFromDict, textField, textOr, optText, moneyField, flagOr, item, h]

theorem donorFromDict_sorted (d : Donor) : donorFromDict d.toJson.sorted = .ok d :=
  (donorFromDict_congr (Json.fieldsAlike_sorted_flat (by simp) (by simp))).trans
    (donorFromDict_toJson d)

theorem allocationFromDict_sorted (a : Allocation) : allocationFromDict a.toJson.sorted = .ok a :=
  (allocationFromDict_congr (Json.fieldsAlike_sorted_flat (by simp) (by simp))).trans
    (allocationFromDict_toJson a)

theorem donationFromDict_sorted {d : Donation} (h : Fits d.amount) :
    donationFromDict d.toJson.sorted = .ok d :=
  (donationFromDict_congr (Json.fieldsAlike_sorted_flat (by simp) (by simp))).trans
    (donationFromDict_toJson h)

theorem donationAllocationFromDict_sorted {da : DonationAllocation} (h : Fits da.amount) :
    donationAllocationFromDict da.toJson.sorted = .ok da :=
  (donationAllocationFromDict_congr (Json.fieldsAlike_sorted_flat (by simp) (by simp))).trans
    (donationAllocationFromDict_toJson h)

theorem expenseFromDict_sorted {e : Expense} (h : Fits e.amount) :
    expenseFromDict e.toJson.sorted = .ok e :=
  (expenseFromDict_congr (Json.fieldsAlike_sorted_flat (by simp) (by simp))).trans
    (expenseFromDict_toJson h)

theorem expenseAllocationFromDict_sorted {ea : ExpenseAllocation} (h : Fits ea.amount) :
    expenseAllocationFromDict ea.toJson.sorted = .ok ea :=
  (expenseAllocationFromDict_congr (Json.fieldsAlike_sorted_flat (by simp) (by simp))).trans
    (expenseAllocationFromDict_toJson h)

theorem evidenceFromDict_sorted (ev : EvidenceRecord) : evidenceFromDict ev.toJson.sorted = .ok ev :=
  (evidenceFromDict_congr (Json.fieldsAlike_sorted_flat (by simp) (by simp))).trans
    (evidenceFromDict_toJson ev)

theorem attributionFromDict_sorted {v : DonorExpenseAttribution} (h : Fits v.attributedAmount) :
    attributionFromDict v.toJson.sorted = .ok v :=
  (attributionFromDict_congr (Json.fieldsAlike_sorted_flat (by simp) (by simp))).trans
    (attributionFromDict_toJson h)

/-- The receipt with the keys of its provenance sorted. -/
def UseOfFundsReceipt.sorted (r : UseOfFundsReceipt) : UseOfFundsReceipt :=
  { r with provenance := (Json.obj r.provenance).sorted.fields }

theorem UseOfFundsReceipt.sorted_sorted (r : UseOfFundsReceipt) : r.sorted.sorted = r.sorted := by
  have h : (Json.obj (Json.obj r.provenance).sorted.fields).sorted.fields =
      (Json.obj r.provenance).sorted.fields :=
    congrArg Json.fields (Json.sorted_sorted (.obj r.provenance))
  rw [UseOfFundsReceipt.sorted, UseOfFundsReceipt.sorted, h]

theorem receiptFromDict_sorted {r : UseOfFundsReceipt} (h : Ledger.ReceiptFits r) :
    receiptFromDict r.toJson.sorted = .ok r.sorted := by
  have hfields : ∀ k, r.toJson.sorted.field? k = r.sorted.toJson.field? k := by
    intro k
    refine (Json.field?_sorted (by simp) k).trans ?_
    simp only [List.map_cons, List.map_nil, Json.sorted_str, Json.sorted_bool,
      Json.sorted_ofOption]
    rfl
  rw [receiptFromDict_congr hfields]
  exact receiptFromDict_toJson h.1 h.2.1 h.2.2

theorem idsToJson_sorted (ids : List Id) : (idsToJson ids).sorted = idsToJson ids := by
  have hitems : ∀ ids : List Id, Json.sortedItems (ids.map .str) = ids.map .str := by
    intro ids
    induction ids with
    | nil => rfl
    | cons id ids ih =>
        rw [List.map_cons, Json.sortedItems, ih]
        rfl
  rw [idsToJson, Json.sorted, hitems]

/-! ## Entries in another order -/

/-- A rearranged image is the image of a rearrangement. -/
theorem exists_perm_of_map_perm {α β : Type} {f : α → β} {xs : List α} {ys : List β}
    (h : ys.Perm (xs.map f)) : ∃ zs : List α, zs.Perm xs ∧ ys = zs.map f := by
  induction xs generalizing ys with
  | nil => exact ⟨[], .nil, h.eq_nil⟩
  | cons x xs ih =>
      have hmem : f x ∈ ys := h.mem_iff.mpr List.mem_cons_self
      obtain ⟨as, bs, rfl⟩ := List.append_of_mem hmem
      have hrest : (as ++ bs).Perm (xs.map f) :=
        (List.perm_middle.symm.trans h).cons_inv
      obtain ⟨zs, hzs, heq⟩ := ih hrest
      obtain ⟨cs, ds, rfl, rfl, rfl⟩ := List.append_eq_map_iff.mp heq
      refine ⟨cs ++ x :: ds, List.perm_middle.trans (hzs.cons x), ?_⟩
      rw [List.map_append, List.map_cons]

/-- The entries of a map, with sorted keys and in any order, fold to the same map. -/
theorem foldInto_loaded {ν : Type} (fromDict : Json → Except PyExc ν) (toJson : ν → Json)
    (canon : ν → ν) {d : Dict Id ν} {items : List (String × Json)}
    (hperm : items.Perm (d.entries.map fun e => (e.1, (toJson e.2).sorted)))
    (hread : ∀ v ∈ d.values, fromDict (toJson v).sorted = .ok (canon v)) :
    ∃ d', foldInto fromDict .empty items = .ok d' ∧ ∀ k, d'.get? k = (d.get? k).map canon := by
  obtain ⟨es, hes, rfl⟩ := exists_perm_of_map_perm hperm
  have hvalues : ∀ e ∈ es, fromDict (toJson e.2).sorted = .ok (canon e.2) := fun e he =>
    hread e.2 (List.mem_map_of_mem (hes.mem_iff.mp he))
  have hfold : ∀ (es : List (Id × ν)) (d₀ : Dict Id ν),
      (∀ e ∈ es, fromDict (toJson e.2).sorted = .ok (canon e.2)) →
      foldInto fromDict d₀ (es.map fun e => (e.1, (toJson e.2).sorted)) =
        .ok (d₀.update (es.map fun e => (e.1, canon e.2))) := by
    intro es
    induction es with
    | nil => exact fun _ _ => rfl
    | cons e es ih =>
        intro d₀ h
        rw [List.map_cons, foldInto, h e List.mem_cons_self]
        exact ih _ fun e' he' => h e' (List.mem_cons_of_mem _ he')
  have hkeys : (es.map fun e => (e.1, canon e.2)).map Prod.fst = es.map Prod.fst := by
    rw [List.map_map]
    rfl
  have hnodup : (es.map Prod.fst).Nodup := (hes.map Prod.fst).nodup_iff.mpr d.nodup
  refine ⟨_, hfold es .empty hvalues, fun k => ?_⟩
  have hentries : (Dict.ofList (es.map fun e => (e.1, canon e.2))).entries =
      es.map fun e => (e.1, canon e.2) := Dict.entries_ofList (hkeys ▸ hnodup)
  show (Dict.ofList (es.map fun e => (e.1, canon e.2))).get? k = _
  have hget : (⟨es, hnodup⟩ : Dict Id ν).get? k = d.get? k := Dict.get?_of_perm hes k
  rw [← hget, Dict.get?, hentries, List.find?_map, Option.map_map, Dict.get?, Option.map_map]
  rfl

/-! ## The rows of a snapshot -/

namespace LedgerEntityRepository

/-- What a row adds to the maps. -/
def addRow (entities : Dict String (Dict Id Json)) (row : LedgerEntityRow) :
    Dict String (Dict Id Json) :=
  entities.set row.entityType
    (((entities.get? row.entityType).getD .empty).set row.entityId row.bodyJson)

/-- The rows of a type, as entries of its map. -/
def entriesOf (etype : String) (rows : List LedgerEntityRow) : List (Id × Json) :=
  (rows.filter fun row => row.entityType = etype).map fun row => (row.entityId, row.bodyJson)

theorem foldl_addRow {etype : String} {rows : List LedgerEntityRow}
    {entities : Dict String (Dict Id Json)} {d : Dict Id Json} (h : entities.get? etype = some d) :
    (rows.foldl addRow entities).get? etype = some (d.update (entriesOf etype rows)) := by
  induction rows generalizing entities d with
  | nil => exact h
  | cons row rows ih =>
      rw [List.foldl_cons, entriesOf, List.filter_cons]
      split
      · rename_i htype
        have htype : row.entityType = etype := of_decide_eq_true htype
        refine ih ?_
        rw [addRow, htype, Dict.get?_set_self, h]
        rfl
      · rename_i htype
        have htype : row.entityType ≠ etype := fun heq => htype (decide_eq_true heq)
        refine ih ?_
        rw [addRow, Dict.get?_set_ne (Ne.symm htype)]
        exact h

theorem gather_get? {etype : String} (h : etype ∈ entityMaps) (rows : List LedgerEntityRow) :
    (gather rows).get? etype = some (.ofList (entriesOf etype rows)) := by
  have hempty : ∀ etype ∈ entityMaps, (Dict.ofList (entityMaps.map fun etype =>
      (etype, (.empty : Dict Id Json)))).get? etype = some .empty := by
    intro etype hetype
    refine Dict.get?_update_of_mem ?_ (List.mem_map_of_mem hetype)
    decide
  exact foldl_addRow (hempty etype h)

variable {tid : Id} {rows : List LedgerEntityRow} {meta_ : LedgerMetaRow}

/-- The maps that are folded. -/
theorem loadedResult_entities (tid : Id) (rows : List LedgerEntityRow) (meta_ : LedgerMetaRow) :
    ∃ entities, (loadedResult tid rows meta_).field? "entities" = some entities ∧
      (∀ etype ∈ entityMaps, itemsOf entities etype =
        (Dict.ofList (entriesOf etype rows)).entries) ∧
      itemsOf entities "expense_receipts" = meta_.expenseReceiptsJson.fields ∧
      itemsOf entities "receipt_snapshots" = meta_.receiptSnapshotsJson.fields ∧
      entities.field? "organization" = some meta_.organizationJson := by
  refine ⟨_, rfl, fun etype hetype => ?_, ?_, ?_, ?_⟩
  · have hne : etype ≠ "organization" ∧ etype ≠ "receipt_snapshots" ∧
        etype ≠ "expense_receipts" := by
      revert etype
      decide
    have hget := gather_get? hetype rows
    rw [itemsOf, Json.field?_setField, if_neg hne.1, Json.field?_setField, if_neg hne.2.1,
      Json.field?_setField, if_neg hne.2.2]
    rw [Dict.get?] at hget
    rw [Json.field?, List.find?_map, Option.map_map, Option.map_map]
    obtain ⟨e, he, hentries⟩ := Option.map_eq_some_iff.mp hget
    have he' : (gather rows).entries.find?
        ((fun e : String × Json => decide (e.1 = etype)) ∘
          fun e : String × Dict Id Json => (e.1, Json.obj e.2.entries)) = some e := he
    rw [he', ← hentries]
    rfl
  · rw [itemsOf, Json.field?_setField, if_neg (by decide), Json.field?_setField,
      if_neg (by decide), Json.field?_setField, if_pos rfl]
    rfl
  · rw [itemsOf, Json.field?_setField, if_neg (by decide), Json.field?_setField, if_pos rfl]
    rfl
  · rw [Json.field?_setField, if_pos rfl]

/-! ## A save -/

theorem entriesOf_of_not_mem (tid : Id) (items : String → List (String × Json)) {etype : String}
    {etypes : List String} (h : etype ∉ etypes) :
    entriesOf etype (etypes.flatMap fun t => (items t).map fun e =>
      (⟨tid, t, e.1, e.2.sorted⟩ : LedgerEntityRow)) = [] := by
  rw [entriesOf, List.filter_eq_nil_iff.mpr, List.map_nil]
  intro row hrow
  obtain ⟨t, ht, hrow⟩ := List.mem_flatMap.mp hrow
  obtain ⟨e, -, rfl⟩ := List.mem_map.mp hrow
  rw [decide_eq_true_eq]
  rintro rfl
  exact h ht

/-- Among the rows of all types, those of one. -/
theorem entriesOf_flatMap (tid : Id) (items : String → List (String × Json)) {etype : String}
    {etypes : List String} (hnodup : etypes.Nodup) (h : etype ∈ etypes) :
    entriesOf etype (etypes.flatMap fun t => (items t).map fun e =>
      (⟨tid, t, e.1, e.2.sorted⟩ : LedgerEntityRow)) =
      (items etype).map fun e => (e.1, e.2.sorted) := by
  induction etypes with
  | nil => exact absurd h List.not_mem_nil
  | cons t etypes ih =>
      obtain ⟨hnot, hnodup⟩ := List.nodup_cons.mp hnodup
      rw [List.flatMap_cons, entriesOf, List.filter_append, List.map_append]
      rcases List.mem_cons.mp h with rfl | h
      · have hall : ((items etype).map fun e => (⟨tid, etype, e.1, e.2.sorted⟩ : LedgerEntityRow)).filter
            (fun row => row.entityType = etype) = (items etype).map fun e =>
              (⟨tid, etype, e.1, e.2.sorted⟩ : LedgerEntityRow) := by
          refine List.filter_eq_self.mpr fun row hrow => ?_
          obtain ⟨e, -, rfl⟩ := List.mem_map.mp hrow
          exact decide_eq_true rfl
        have hrest := entriesOf_of_not_mem tid items hnot
        rw [entriesOf] at hrest
        rw [hall, hrest, List.append_nil, List.map_map]
        rfl
      · have hnone : ((items t).map fun e => (⟨tid, t, e.1, e.2.sorted⟩ : LedgerEntityRow)).filter
            (fun row => row.entityType = etype) = [] := by
          refine List.filter_eq_nil_iff.mpr fun row hrow => ?_
          obtain ⟨e, -, rfl⟩ := List.mem_map.mp hrow
          rw [decide_eq_true_eq]
          rintro rfl
          exact hnot h
        rw [hnone, List.map_nil, List.nil_append]
        exact ih hnodup h

theorem insertEntities_ok {rows : List LedgerEntityRow} {t : Table LedgerEntityRow.key}
    (hnodup : (rows.map LedgerEntityRow.key).Nodup)
    (hnew : ∀ row ∈ rows, t.find? row.key = none) : insertEntities t rows = .ok (t.putAll rows) := by
  induction rows generalizing t with
  | nil => rfl
  | cons row rows ih =>
      obtain ⟨hrow, hnodup⟩ := List.nodup_cons.mp hnodup
      obtain ⟨hfresh, hrest⟩ := List.forall_mem_cons.mp hnew
      rw [insertEntities, hfresh, Option.isSome_none, if_neg Bool.false_ne_true]
      refine ih hnodup fun r hr => ?_
      rw [Table.find?_put_ne fun heq => hrow (List.mem_map.mpr ⟨r, hr, heq⟩)]
      exact hrest r hr

/-- The rows of a snapshot whose maps have distinct keys have distinct primary keys. -/
theorem entityRows_nodup (tid : Id) {snap : Json}
    (h : ∀ etype ∈ entityMaps, ((itemsOf snap etype).map Prod.fst).Nodup) :
    ((entityRows tid snap).map LedgerEntityRow.key).Nodup := by
  rw [entityRows, List.map_flatMap, List.nodup_flatMap]
  constructor
  · intro etype hetype
    rw [List.map_map]
    refine List.Nodup.of_map (fun key : Id × String × Id => key.2.2) ?_
    rw [List.map_map]
    exact h etype hetype
  · have hdistinct : entityMaps.Pairwise (· ≠ ·) := by decide
    refine hdistinct.imp fun {t t'} hne => ?_
    intro key hkey hkey'
    obtain ⟨row, hrow, rfl⟩ := List.mem_map.mp hkey
    obtain ⟨e, -, rfl⟩ := List.mem_map.mp hrow
    obtain ⟨row', hrow', heq⟩ := List.mem_map.mp hkey'
    obtain ⟨e', -, rfl⟩ := List.mem_map.mp hrow'
    exact hne (congrArg (fun key : Id × String × Id => key.2.1) heq).symm

theorem entityRows_tenant {tid : Id} {snap : Json} :
    ∀ row ∈ entityRows tid snap, row.tenantId = tid := by
  intro row hrow
  obtain ⟨etype, -, hrow⟩ := List.mem_flatMap.mp hrow
  obtain ⟨e, -, rfl⟩ := List.mem_map.mp hrow
  rfl

theorem snapshot_nodup (l : Ledger) : ∀ etype ∈ entityMaps,
    ((itemsOf l.snapshotLedgerEntities etype).map Prod.fst).Nodup := by
  have hmap : ∀ {ν : Type} (toJson : ν → Json) (d : Dict Id ν),
      ((d.entries.map fun e => (e.1, toJson e.2)).map Prod.fst).Nodup := by
    intro ν toJson d
    rw [List.map_map]
    exact d.nodup
  intro etype hetype
  simp only [entityMaps, List.mem_cons, List.not_mem_nil, or_false] at hetype
  rcases hetype with rfl | rfl | rfl | rfl | rfl | rfl | rfl | rfl | rfl
  · exact hmap Donor.toJson l.donors
  · exact hmap Donation.toJson l.donations
  · exact hmap Allocation.toJson l.allocations
  · exact hmap DonationAllocation.toJson l.donationAllocations
  · exact hmap Expense.toJson l.expenses
  · exact hmap ExpenseAllocation.toJson l.expenseAllocations
  · exact hmap EvidenceRecord.toJson l.evidence
  · exact hmap DonorExpenseAttribution.toJson l.attributions
  · exact hmap UseOfFundsReceipt.toJson l.receipts

/-- The meta row of a snapshot. -/
def metaRow (l : Ledger) : LedgerMetaRow where
  tenantId := l.organization.id
  organizationJson := l.organization.toJson.sorted
  expenseReceiptsJson := (orEmpty (some (entityMap idsToJson l.expenseReceipts))).sorted
  receiptSnapshotsJson := (orEmpty (some (entityMap id l.receiptSnapshots))).sorted

/-- What a save leaves under the tenant, whatever there was before. -/
theorem saveLedger_ok (l : Ledger) (s : LedgerEntityRepository) :
    ∃ s', saveLedger l s = .ok s' ∧
      (s'.ledgerEntity.rows.filter fun row => row.tenantId = l.organization.id) =
        entityRows l.organization.id l.snapshotLedgerEntities ∧
      s'.ledgerMeta.find? l.organization.id = some (metaRow l) := by
  have hnodup := entityRows_nodup l.organization.id (snapshot_nodup l)
  have hnew : ∀ row ∈ entityRows l.organization.id l.snapshotLedgerEntities,
      (s.ledgerEntity.deleteWhere fun row => row.tenantId = l.organization.id).find? row.key =
        none := by
    intro row hrow
    refine Table.find?_deleteWhere_eq_none row fun row' hkey => decide_eq_true ?_
    exact (congrArg Prod.fst hkey).trans (entityRows_tenant row hrow)
  have hmeta : (s.ledgerMeta.deleteWhere fun row => row.tenantId = l.organization.id).find?
      l.organization.id = none :=
    Table.find?_deleteWhere_eq_none (t := s.ledgerMeta) (metaRow l)
      fun row' hkey => decide_eq_true hkey
  refine ⟨{ ledgerEntity := (s.ledgerEntity.deleteWhere fun row =>
              row.tenantId = l.organization.id).putAll
                (entityRows l.organization.id l.snapshotLedgerEntities)
            ledgerMeta := (s.ledgerMeta.deleteWhere fun row =>
              row.tenantId = l.organization.id).put (metaRow l) }, ?_, ?_, ?_⟩
  · refine except_bind_eq_ok.mpr ⟨_, insertEntities_ok hnodup hnew, ?_⟩
    rw [insertMeta, hmeta, Option.isSome_none, if_neg Bool.false_ne_true]
    rfl
  · rw [Table.rows_putAll hnodup hnew, Table.rows_deleteWhere, List.filter_append,
      List.filter_filter]
    have hold : (s.ledgerEntity.rows.filter fun row =>
        decide (row.tenantId = l.organization.id) &&
          !decide (row.tenantId = l.organization.id)) = [] := by
      refine List.filter_eq_nil_iff.mpr fun row _ => ?_
      simp
    rw [hold, List.nil_append]
    exact List.filter_eq_self.mpr fun row hrow => decide_eq_true (entityRows_tenant row hrow)
  · exact Table.find?_put_self _ (metaRow l)

/-! ## A load -/

/-- The rows of a map, in whatever order they come. -/
theorem loaded_perm {ν : Type} {toJson : ν → Json} {d : Dict Id ν} {etype : String} {snap : Json}
    {rows : List LedgerEntityRow} (hetype : etype ∈ entityMaps)
    (hrows : rows.Perm (entityRows tid snap))
    (hnodup : ((itemsOf snap etype).map Prod.fst).Nodup)
    (hitems : itemsOf snap etype = d.entries.map fun e => (e.1, toJson e.2)) :
    (Dict.ofList (entriesOf etype rows)).entries.Perm
      (d.entries.map fun e => (e.1, (toJson e.2).sorted)) := by
  have hperm : (entriesOf etype rows).Perm ((itemsOf snap etype).map fun e => (e.1, e.2.sorted)) := by
    rw [← entriesOf_flatMap tid (itemsOf snap) (by decide) hetype]
    exact (hrows.filter _).map _
  have hkeys : ((itemsOf snap etype).map fun e => (e.1, e.2.sorted)).map Prod.fst =
      (itemsOf snap etype).map Prod.fst := by
    rw [List.map_map]
    rfl
  rw [Dict.entries_ofList ((hperm.map Prod.fst).nodup_iff.mpr (hkeys ▸ hnodup))]
  rw [hitems, List.map_map] at hperm
  exact hperm

/-- A map of the meta row. -/
theorem meta_perm {ν : Type} (toJson : ν → Json) (d : Dict Id ν) :
    (orEmpty (some (entityMap toJson d))).sorted.fields.Perm
      (d.entries.map fun e => (e.1, (toJson e.2).sorted)) := by
  have hfields : (orEmpty (some (entityMap toJson d))) = entityMap toJson d := by
    rw [orEmpty, entityMap]
    cases d.entries with
    | nil => rfl
    | cons e es => rfl
  have hperm := Json.sortedFields_perm (d.entries.map fun e => (e.1, toJson e.2))
  rw [List.map_map] at hperm
  rw [hfields]
  exact hperm

end LedgerEntityRepository

/-- The same entities, receipt snapshots and receipts of each expense: maps are compared
by what is found under each key, and the dictionaries in them without regard to the
order of their keys. -/
structure Ledger.SameEntities (l' l : Ledger) : Prop where
  donors : ∀ id, l'.donors.get? id = l.donors.get? id
  donations : ∀ id, l'.donations.get? id = l.donations.get? id
  allocations : ∀ id, l'.allocations.get? id = l.allocations.get? id
  donationAllocations : ∀ id, l'.donationAllocations.get? id = l.donationAllocations.get? id
  expenses : ∀ id, l'.expenses.get? id = l.expenses.get? id
  expenseAllocations : ∀ id, l'.expenseAllocations.get? id = l.expenseAllocations.get? id
  evidence : ∀ id, l'.evidence.get? id = l.evidence.get? id
  attributions : ∀ id, l'.attributions.get? id = l.attributions.get? id
  receipts : ∀ id, (l'.receipts.get? id).map UseOfFundsReceipt.sorted =
    (l.receipts.get? id).map UseOfFundsReceipt.sorted
  receiptSnapshots : ∀ id, (l'.receiptSnapshots.get? id).map Json.sorted =
    (l.receiptSnapshots.get? id).map Json.sorted
  expenseReceipts : ∀ id, l'.expenseReceipts.get? id = l.expenseReceipts.get? id

theorem Ledger.SameEntities.refl (l : Ledger) : l.SameEntities l :=
  ⟨fun _ => rfl, fun _ => rfl, fun _ => rfl, fun _ => rfl, fun _ => rfl, fun _ => rfl,
    fun _ => rfl, fun _ => rfl, fun _ => rfl, fun _ => rfl, fun _ => rfl⟩

namespace LedgerEntityRepository

/-- Folding the rows of a snapshot, in any order, over an empty ledger. -/
theorem loadedResult_applies {l : Ledger} (hfit : l.AmountsFit) {org : Organization}
    (horg : org.id = l.organization.id) {rows : List LedgerEntityRow}
    (hrows : rows.Perm (entityRows l.organization.id l.snapshotLedgerEntities)) :
    ∃ l', (Ledger.new org).applyResultJson
        (loadedResult l.organization.id rows (metaRow l)) = .ok l' ∧ l'.SameEntities l := by
  obtain ⟨entities, hentities, hmaps, hlists, hsnaps, horganization⟩ :=
    loadedResult_entities l.organization.id rows (metaRow l)
  have hperm : ∀ {ν : Type} (toJson : ν → Json) (d : Dict Id ν) (etype : String),
      etype ∈ entityMaps → itemsOf l.snapshotLedgerEntities etype =
        (d.entries.map fun e => (e.1, toJson e.2)) →
      (itemsOf entities etype).Perm (d.entries.map fun e => (e.1, (toJson e.2).sorted)) := by
    intro ν toJson d etype hetype hitems
    rw [hmaps etype hetype]
    exact loaded_perm hetype hrows (snapshot_nodup l etype hetype) hitems
  have hsame : (Ledger.new org).orgMismatch entities = false := by
    have hid : (entities.field? "organization").bind (·.field? "id") =
        some (.str l.organization.id) := by
      rw [horganization]
      exact (Json.field?_sorted_flat (by simp) (by simp) "id")
    rw [Ledger.orgMismatch, hid]
    show (l.organization.id ≠ "" && l.organization.id ≠ org.id) = false
    simp [horg]
  obtain ⟨donors, hdonors, hdonors'⟩ := foldInto_loaded donorFromDict Donor.toJson id
    (hperm _ l.donors "donors" (by decide) rfl) fun v _ => donorFromDict_sorted v
  obtain ⟨donations, hdonations, hdonations'⟩ := foldInto_loaded donationFromDict Donation.toJson id
    (hperm _ l.donations "donations" (by decide) rfl) fun v hv =>
      donationFromDict_sorted (hfit.donations v hv)
  obtain ⟨allocations, hallocations, hallocations'⟩ := foldInto_loaded allocationFromDict Allocation.toJson id
    (hperm _ l.allocations "allocations" (by decide) rfl) fun v _ => allocationFromDict_sorted v
  obtain ⟨designations, hdesignations, hdesignations'⟩ := foldInto_loaded donationAllocationFromDict
    DonationAllocation.toJson id (hperm _ l.donationAllocations "donation_allocations" (by decide) rfl) fun v hv =>
      donationAllocationFromDict_sorted (hfit.donationAllocations v hv)
  obtain ⟨expenses, hexpenses, hexpenses'⟩ := foldInto_loaded expenseFromDict Expense.toJson id
    (hperm _ l.expenses "expenses" (by decide) rfl) fun v hv =>
      expenseFromDict_sorted (hfit.expenses v hv)
  obtain ⟨charges, hcharges, hcharges'⟩ := foldInto_loaded expenseAllocationFromDict ExpenseAllocation.toJson id
    (hperm _ l.expenseAllocations "expense_allocations" (by decide) rfl) fun v hv =>
      expenseAllocationFromDict_sorted (hfit.expenseAllocations v hv)
  obtain ⟨evidence, hevidence, hevidence'⟩ := foldInto_loaded evidenceFromDict EvidenceRecord.toJson id
    (hperm _ l.evidence "evidence" (by decide) rfl) fun v _ => evidenceFromDict_sorted v
  obtain ⟨attributions, hattributions, hattributions'⟩ := foldInto_loaded attributionFromDict
    DonorExpenseAttribution.toJson id (hperm _ l.attributions "attributions" (by decide) rfl)
    fun v hv => attributionFromDict_sorted (hfit.attributions v hv)
  obtain ⟨receipts, hreceipts, hreceipts'⟩ := foldInto_loaded receiptFromDict
    UseOfFundsReceipt.toJson UseOfFundsReceipt.sorted (hperm _ l.receipts "receipts" (by decide) rfl) fun v hv =>
      receiptFromDict_sorted (hfit.receipts v hv)
  obtain ⟨snapshots, hsnapshots, hsnapshots'⟩ := foldInto_loaded .ok id Json.sorted
    (hsnaps ▸ meta_perm id l.receiptSnapshots) fun _ _ => rfl
  obtain ⟨lists, hreceiptIds, hlists'⟩ := foldInto_loaded idsFromList idsToJson id
    (hlists ▸ meta_perm idsToJson l.expenseReceipts) fun ids _ => by
      rw [idsToJson_sorted, idsFromList_idsToJson, id]
  simp only [Option.map_id_fun, id] at *
  refine ⟨{ Ledger.new org with
    donors, allocations, donations, donationAllocations := designations, expenses,
    expenseAllocations := charges, evidence, attributions, receipts,
    receiptSnapshots := snapshots, expenseReceipts := lists }, ?_, ?_⟩
  · rw [Ledger.applyResultJson, hentities]
    simp only [hsame, Bool.false_eq_true, if_false]
    exact except_bind_eq_ok.mpr ⟨donors, hdonors, except_bind_eq_ok.mpr ⟨_, hallocations,
      except_bind_eq_ok.mpr ⟨_, hdonations, except_bind_eq_ok.mpr ⟨_, hdesignations,
      except_bind_eq_ok.mpr ⟨_, hexpenses, except_bind_eq_ok.mpr ⟨_, hcharges,
      except_bind_eq_ok.mpr ⟨_, hevidence, except_bind_eq_ok.mpr ⟨_, hattributions,
      except_bind_eq_ok.mpr ⟨_, hreceipts, except_bind_eq_ok.mpr ⟨_, hsnapshots,
      except_bind_eq_ok.mpr ⟨_, hreceiptIds, rfl⟩⟩⟩⟩⟩⟩⟩⟩⟩⟩⟩
  · refine ⟨hdonors', hdonations', hallocations', hdesignations', hexpenses', hcharges',
      hevidence', hattributions', fun k => ?_, fun k => ?_, hlists'⟩
    · rw [hreceipts', Option.map_map]
      exact congrArg (fun f => (l.receipts.get? k).map f)
        (funext UseOfFundsReceipt.sorted_sorted)
    · rw [hsnapshots', Option.map_map]
      exact congrArg (fun f => (l.receiptSnapshots.get? k).map f) (funext Json.sorted_sorted)

theorem requested_ne_mismatch {organization : Option Organization} {tid : Id}
    (h : ∀ o ∈ organization, o.id = tid) : organization.any (·.id ≠ tid) = false := by
  cases organization with
  | none => rfl
  | some o => exact decide_eq_false (not_not.mpr (h o rfl))

/-- A load after a save, over whatever was stored before. -/
theorem loadLedger_saveLedger [Json.CharTable] {l : Ledger} (hfit : l.AmountsFit)
    (hid : l.organization.id ≠ "") {order : List LedgerEntityRow → List LedgerEntityRow}
    (horder : ∀ rows, (order rows).Perm rows) (s : LedgerEntityRepository) :
    ∃ s', saveLedger l s = .ok s' ∧
      ∀ organization tenantId, requested organization tenantId = l.organization.id →
        (∀ o ∈ organization, o.id = l.organization.id) →
        ∃ l', loadLedger order organization tenantId s' = .ok (some l') ∧ l'.SameEntities l := by
  obtain ⟨s', hsave, hrows, hmeta⟩ := saveLedger_ok l s
  refine ⟨s', hsave, fun organization tenantId hrequested hsame => ?_⟩
  have hstored : strOr ((metaRow l).organizationJson.field? "id") l.organization.id =
      l.organization.id := by
    have hfield : (metaRow l).organizationJson.field? "id" = some (.str l.organization.id) :=
      Json.field?_sorted_flat (by simp) (by simp) "id"
    rw [hfield]
    exact if_neg hid
  have horg : ∀ o : Organization, o.id = l.organization.id → (organization.getD o).id =
      l.organization.id := by
    intro o ho
    cases organization with
    | none => exact ho
    | some given => exact hsame given rfl
  rw [loadLedger, hrequested]
  simp only [if_neg hid, hmeta, hrows, requested_ne_mismatch hsame, Bool.false_eq_true, if_false]
  obtain ⟨l', happly, hl'⟩ := loadedResult_applies hfit (horg ⟨_, _, _⟩ hstored)
    (horder (entityRows l.organization.id l.snapshotLedgerEntities))
  exact ⟨l', except_bind_eq_ok.mpr ⟨l', happly, rfl⟩, hl'⟩

end LedgerEntityRepository

/-! ## Every reachable ledger -/

section Runs

variable [Digest] [Json.CharTable]

/-- Whatever calls have led to a ledger, its snapshot folds to the same ledger over an
empty one of its organization; and when the organization has an identifier, a load after
a save gives the same entities, over whatever the repository held, in whatever order it
hands the rows out and whether it is asked by the organization or by the tenant. -/
theorem snapshots_round_trip (organization : Organization) {calls : List Ledger.Call}
    (hcalls : ∀ c ∈ calls, c.op.Constructed)
    {order : List LedgerEntityRow → List LedgerEntityRow}
    (horder : ∀ rows, (order rows).Perm rows) :
    let l := run Ledger.step (.new organization) calls
    (Ledger.new l.organization).applyResultJson (.obj [("entities", l.snapshotLedgerEntities)]) =
        .ok { l with auditLog := [] } ∧
      (l.organization.id ≠ "" → ∀ s : LedgerEntityRepository, ∃ s', s.saveLedger l = .ok s' ∧
        ∀ given tenantId,
          LedgerEntityRepository.requested given tenantId = l.organization.id →
          (∀ o ∈ given, o.id = l.organization.id) →
          ∃ l', s'.loadLedger order given tenantId = .ok (some l') ∧ l'.SameEntities l) := by
  intro l
  have hfit : l.AmountsFit := (Ledger.sized_run organization hcalls).amounts
  refine ⟨Ledger.applyResultJson_snapshot rfl (Ledger.grown_new l) hfit, fun hid s => ?_⟩
  exact LedgerEntityRepository.loadLedger_saveLedger hfit hid horder s

end Runs

section Sample

attribute [local instance] Digest.plain Json.CharTable.all

/-- A published receipt comes back, from rows in the opposite order. -/
theorem published_round_trip :
    (Ledger.new Ledger.Sample.organization).applyResultJson (.obj [("entities",
        (run Ledger.step (.new Ledger.Sample.organization)
          Ledger.Sample.publishedRun).snapshotLedgerEntities)]) =
      .ok { run Ledger.step (.new Ledger.Sample.organization) Ledger.Sample.publishedRun with
        auditLog := [] } ∧
    ∃ s', ({} : LedgerEntityRepository).saveLedger
        (run Ledger.step (.new Ledger.Sample.organization) Ledger.Sample.publishedRun) = .ok s' ∧
      ∃ l', s'.loadLedger List.reverse none (some "org") = .ok (some l') ∧ l'.SameEntities
        (run Ledger.step (.new Ledger.Sample.organization) Ledger.Sample.publishedRun) := by
  have hcalls : ∀ c ∈ Ledger.Sample.publishedRun, c.op.Constructed := by decide
  have horg : (run Ledger.step (.new Ledger.Sample.organization)
      Ledger.Sample.publishedRun).organization = Ledger.Sample.organization := by decide +kernel
  obtain ⟨hfold, hstored⟩ := snapshots_round_trip Ledger.Sample.organization hcalls
    List.reverse_perm
  rw [horg] at hfold hstored
  obtain ⟨s', hsave, hload⟩ := hstored (by decide) {}
  exact ⟨hfold, s', hsave, hload none (some "org") (by decide) fun _ h => nomatch h⟩

/-- An organization without an identifier is saved, and never loaded. -/
theorem unnamed_tenant_not_loaded : ¬ ∀ (organization : Organization) (calls : List Ledger.Call)
    (s : LedgerEntityRepository), ∃ s', s.saveLedger
        (run Ledger.step (.new organization) calls) = .ok s' ∧
      ∃ l', s'.loadLedger id (some organization) none = .ok (some l') ∧
        l'.SameEntities (run Ledger.step (.new organization) calls) := by
  intro h
  obtain ⟨s', -, l', hload, -⟩ := h { id := "", name := "Food Bank" } [] {}
  exact absurd hload nofun

end Sample

end ImpactRelay
