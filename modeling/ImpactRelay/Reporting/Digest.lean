/-
# `Reporting.Digest` — public digests of impact events

`digests_from_workspace` (`digest.py`) makes a row of every verified event of the workspace,
then one of every event of another document, files the rows under their ids and publishes
what is then there, with totals.  The comment at the filing says that the ids of the
workspace win.  Filing overwrites, and the rows of the workspace are filed first.

`domain_rows_win_iff`: there is one row an id and the totals are those of the rows, and each
verified event has its own row exactly where no later row, or only the same row once more,
has its id.
-/
import ImpactRelay.Domain.DonorReads
import ImpactRelay.Reporting.Reconcile

namespace ImpactRelay

open Raise

/-! ## Rows -/

def forbiddenEventKeys : List String :=
  ["attendee_names", "attendeeNames", "emails", "email", "phone", "phones", "registrants",
    "roster", "members", "donors"]

def allowedClasses : List String :=
  ["community_event", "workshop", "class_session", "open_lab", "fundraiser", "stewardship",
    "other"]

/-- `DOMAIN_EVENT_TYPE_TO_CLASS.get(event_type, "other")`. -/
def domainEventClass : String → String
  | "CLASS_HELD" => "class_session"
  | "WORKSHOP" => "workshop"
  | "OPEN_LAB" => "open_lab"
  | "COMMUNITY_EVENT" => "community_event"
  | "FUNDRAISER" => "fundraiser"
  | "STEWARDSHIP" => "stewardship"
  | _ => "other"

def digestError (msg : String) : PyExc := ⟨.other "impact_relay.digest" "DigestError", msg⟩

mutual

/-- The path of the first field of a forbidden name, in lists too. -/
def forbiddenIn (path : String) : Json → Option String
  | .obj fields => forbiddenInFields path fields
  | .arr items => forbiddenInItems path 0 items
  | _ => none

def forbiddenInFields (path : String) : List (String × Json) → Option String
  | [] => none
  | (k, v) :: es =>
      if k ∈ forbiddenEventKeys then some (path ++ "." ++ k)
      else (forbiddenIn (path ++ "." ++ k) v).or (forbiddenInFields path es)

def forbiddenInItems (path : String) : Nat → List Json → Option String
  | _, [] => none
  | i, v :: items =>
      (forbiddenIn (path ++ "[" ++ toString i ++ "]") v).or (forbiddenInItems path (i + 1) items)

end

def assertNoForbidden (payload : Json) : Except PyExc Unit :=
  match forbiddenIn "$" payload with
  | some path => .error (digestError ("forbidden personal field at " ++ path))
  | none => .ok ()

/-- A number of people: an `int` that is not negative, or a `bool`, which is an `int` too. -/
inductive AttendeeCount where
  | int (n : Nat)
  | bool (b : Bool)
deriving DecidableEq

namespace AttendeeCount

def value : AttendeeCount → Nat
  | int n => n
  | bool b => b.toNat

end AttendeeCount

/-- A public digest row. -/
structure PublicRow where
  eventId : Json
  title : String
  eventClass : String
  occurredOn : Json
  attendeeCountPublic : AttendeeCount
  impactSummary : String
  linkedAllocationName : Json
  locationLabel : Json
  allowed : eventClass ∈ allowedClasses
  complete : title ≠ "" ∧ impactSummary ≠ "" ∧ occurredOn.truthy = true
deriving DecidableEq

def publicClass [Json.CharTable] (v : Json) : Except PyExc {c : String // c ∈ allowedClasses} :=
  match v with
  | .str c =>
      if h : c ∈ allowedClasses then .ok ⟨c, h⟩
      else .error (digestError ("unsupported event class: " ++ c))
  | .arr _ | .obj _ => .error ⟨.typeError, "unhashable type: '" ++ v.typeName ++ "'"⟩
  | v => .error (digestError ("unsupported event class: " ++ v.text))

def publicCount (v : Option Json) : Except PyExc AttendeeCount :=
  match v with
  | none | some .null => .error (digestError "attendeeCountPublic is required")
  | some (.num (.ofNat n)) => .ok (.int n)
  | some (.bool b) => .ok (.bool b)
  | some _ => .error (digestError "attendeeCountPublic must be a non-negative integer")

/-- `(event.get(k) or "").strip()`. -/
def strippedText (event : Fields) (k : String) : Except PyExc String :=
  match pyOr (dictGet event k) none with
  | none => .ok ""
  | some (.str s) => .ok (Text.strip s)
  | some v => .error ⟨.attributeError, "'" ++ v.typeName ++ "' object has no attribute 'strip'"⟩

section

variable [Digest] [Json.CharTable]

def stableDigestId (event : Fields) : String :=
  let base := ["title", "occurredOn", "class", "attendeeCountPublic", "impactSummary"].map
    fun k => (k, (dictGet event k).getD .null)
  "evt_" ++ Text.take 12 (stableHash (.obj base))

/-- Normalize one event into a public digest row. -/
def eventToPublic (event : Json) : Except PyExc PublicRow := do
  assertNoForbidden event
  match event with
  | .obj event => do
      let eventClass ← publicClass ((pyOr (dictGet event "class") none).getD (.str "other"))
      let count ← publicCount (dictGet event "attendeeCountPublic")
      let title ← strippedText event "title"
      let summary ← strippedText event "impactSummary"
      let occurred := (dictGet event "occurredOn").getD .null
      if h : title ≠ "" ∧ summary ≠ "" ∧ occurred.truthy = true then
        return {
          eventId := (pyOr (dictGet event "id") none).getD (.str (stableDigestId event))
          title
          eventClass
          occurredOn := occurred
          attendeeCountPublic := count
          impactSummary := summary
          linkedAllocationName := (dictGet event "linkedAllocationName").getD .null
          locationLabel := (pyOr (dictGet event "locationLabel") none).getD
            (.str "public_aggregate")
          allowed := eventClass.2
          complete := h }
      else .error (digestError "title, occurredOn, and impactSummary are required")
  | v => .error ⟨.attributeError, "'" ++ v.typeName ++ "' object has no attribute 'get'"⟩

end

/-- Letters beyond ASCII included. -/
class TitleTable where
  /-- `s.title()` -/
  title : String → String

def underscoresToBlanks (s : String) : String :=
  String.ofList (s.toList.map fun c => if c = '_' then ' ' else c)

section

variable [Digest] [Json.CharTable] [TitleTable]

/-- Project a domain event into the public digest event shape. -/
def impactEventToPublicRow (event : ImpactEvent) (programName : String)
    (allocationName : Option String) : Except PyExc PublicRow :=
  if event.state ≠ .verified then
    .error (digestError "only VERIFIED impact events may enter public digests")
  else
    let description := Text.strip event.description
    eventToPublic (.obj [
      ("id", .str event.id),
      ("title", .str (programName ++ " — " ++
        TitleTable.title (underscoresToBlanks event.eventType))),
      ("class", .str (domainEventClass event.eventType)),
      ("occurredOn", .str (Text.take 10 event.eventDate)),
      ("attendeeCountPublic", .num event.participants),
      ("impactSummary", .str (if description ≠ "" then description
        else "Verified " ++ event.eventType ++ " with " ++ toString event.participants ++
          " public participants.")),
      ("linkedAllocationName", Json.ofOption allocationName),
      ("locationLabel", .str "domain_verified")])

/-! ## The rows of a workspace and of a document -/

namespace Tenant

def programName (ws : Tenant) (event : ImpactEvent) : String :=
  match ws.impact.programs.find? event.programId with
  | some program => program.name
  | none => event.programId

/-- Prefer the allocation of the first funded asset that has one. -/
def allocationName (ws : Tenant) (event : ImpactEvent) : Option String :=
  event.fundedAssetIds.findSome? fun assetId =>
    (ws.impact.assets.find? assetId).bind fun asset =>
      (ws.ledger.allocations.get? asset.allocationId).map (·.name)

def eventRow (ws : Tenant) (event : ImpactEvent) : Except PyExc PublicRow :=
  impactEventToPublicRow event (ws.programName event) (ws.allocationName event)

def verifiedEvents (ws : Tenant) : List ImpactEvent :=
  ws.impact.impactEvents.rows.filter fun event => event.state = .verified

end Tenant

def domainRows (ws : Tenant) : Except PyExc (List PublicRow) := ws.verifiedEvents.mapM ws.eventRow

/-- `doc.get("events", [])`, as it is iterated over. -/
def docEvents (doc : Fields) : Except PyExc (List Json) :=
  match dictGet doc "events" with
  | none => .ok []
  | some (.arr items) => .ok items
  | some (.obj fields) => .ok (fields.map fun e => .str e.1)
  | some (.str s) => .ok (s.toList.map fun c => .str (String.singleton c))
  | some v => .error (typeError v "is not iterable")

def extraRows (extraEventsDoc : Option Fields) : Except PyExc (List PublicRow) :=
  match extraEventsDoc with
  | none => .ok []
  | some doc => do (← docEvents doc).mapM eventToPublic

/-! ## Filing by id -/

/-- What of a value a dictionary goes by: numbers by what they are equal to. -/
inductive HashKey where
  | none
  | str (s : String)
  | int (n : Int)
  | float (text : String)
deriving DecidableEq

class FloatTable where
  /-- The integer that a float is equal to. -/
  whole : String → Option Int

section

variable [FloatTable]

def hashKey : Json → Except PyExc HashKey
  | .null => .ok .none
  | .bool b => .ok (.int b.toInt)
  | .num n => .ok (.int n)
  | .float text => .ok ((FloatTable.whole text).elim (.float text) .int)
  | .str s => .ok (.str s)
  | v => .error ⟨.typeError, "unhashable type: '" ++ v.typeName ++ "'"⟩

/-- A row whose id can be filed under. -/
structure IdentifiedRow extends PublicRow where
  id : HashKey
  hashed : hashKey eventId = .ok id

def identify (r : PublicRow) : Except PyExc IdentifiedRow :=
  match h : hashKey r.eventId with
  | .ok id => .ok ⟨r, id, h⟩
  | .error exc => .error exc

/-! ## Newest first -/

class PyOrder where
  /-- `a < b` where not both are texts. -/
  less : Json → Json → Except PyExc Bool

def occurredBefore [PyOrder] (a b : PublicRow) : Except PyExc Bool :=
  match a.occurredOn, b.occurredOn with
  | .str s, .str t => .ok (decide (s < t))
  | v, w => PyOrder.less v w

/-- Before the first row that occurred earlier. -/
def insertNewest [PyOrder] (r : PublicRow) : List PublicRow → Except PyExc (List PublicRow)
  | [] => .ok [r]
  | r' :: rows => do
      if ← occurredBefore r' r then return r :: r' :: rows
      else return r' :: (← insertNewest r rows)

/-- `sorted(rows, key=lambda e: e["occurredOn"], reverse=True)`: stable. -/
def sortNewest [PyOrder] (rows : List PublicRow) : Except PyExc (List PublicRow) :=
  rows.foldlM (fun sorted r => insertNewest r sorted) []

/-! ## The document -/

structure PublicDigests where
  updatedAt : String
  source : String
  eventCount : Nat
  totalAttendancePublic : Nat
  classCounts : Dict String Nat
  events : List PublicRow

/-- `by_class[c] = by_class.get(c, 0) + 1`, for every row. -/
def countClasses (events : List PublicRow) : Dict String Nat :=
  events.foldl (fun byClass e =>
    byClass.set e.eventClass ((byClass.get? e.eventClass).getD 0 + 1)) .empty

/-- Build public digests from the verified events of a workspace, and the events of another
document. -/
def digestsFromWorkspace [PyOrder] (ws : Tenant) (source today : String)
    (updatedAt : Option String) (extraEventsDoc : Option Fields) : Except PyExc PublicDigests := do
  let domain ← domainRows ws
  let extra ← extraRows extraEventsDoc
  let publicEvents ← (domain ++ extra).mapM identify
  let byId : Table IdentifiedRow.id := Table.empty.putAll publicEvents
  let events ← sortNewest (byId.rows.map IdentifiedRow.toPublicRow)
  return {
    updatedAt := (updatedAt.filter (· ≠ "")).getD today
    source
    eventCount := events.length
    totalAttendancePublic := (events.map fun e => e.attendeeCountPublic.value).sum
    classCounts := countClasses events
    events }

end

end

/-! ## What sorting and counting make of the rows -/

section Sorting

variable [PyOrder]

theorem insertNewest_perm {r : PublicRow} {rows sorted : List PublicRow}
    (h : insertNewest r rows = .ok sorted) : sorted.Perm (r :: rows) := by
  induction rows generalizing sorted with
  | nil =>
      obtain rfl := Except.ok.inj h
      exact .refl _
  | cons r' rows ih =>
      obtain ⟨before, -, h⟩ := except_bind_eq_ok.mp h
      by_cases hbefore : before = true
      · rw [if_pos hbefore] at h
        obtain rfl := Except.ok.inj h
        exact .refl _
      · rw [if_neg hbefore] at h
        obtain ⟨rest, hrest, h⟩ := except_bind_eq_ok.mp h
        obtain rfl := Except.ok.inj h
        exact ((ih hrest).cons r').trans (.swap r r' rows)

theorem foldlM_insertNewest_perm {rows init sorted : List PublicRow}
    (h : rows.foldlM (fun sorted r => insertNewest r sorted) init = .ok sorted) :
    sorted.Perm (rows ++ init) := by
  induction rows generalizing init with
  | nil =>
      obtain rfl := Except.ok.inj h
      exact .refl _
  | cons r rows ih =>
      rw [List.foldlM_cons] at h
      obtain ⟨between, hbetween, h⟩ := except_bind_eq_ok.mp h
      exact (ih h).trans (((insertNewest_perm hbetween).append_left rows).trans
        List.perm_middle)

theorem sortNewest_perm {rows sorted : List PublicRow} (h : sortNewest rows = .ok sorted) :
    sorted.Perm rows := by
  have hperm := foldlM_insertNewest_perm h
  rwa [List.append_nil] at hperm

end Sorting

theorem get?_foldl_countClasses {events : List PublicRow} {byClass : Dict String Nat} {c : String} :
    (events.foldl (fun byClass e =>
      byClass.set e.eventClass ((byClass.get? e.eventClass).getD 0 + 1)) byClass).get? c =
      match events.countP (·.eventClass = c) with
      | 0 => byClass.get? c
      | n + 1 => some ((byClass.get? c).getD 0 + (n + 1)) := by
  induction events generalizing byClass with
  | nil => rfl
  | cons e events ih =>
      rw [List.foldl_cons, ih, List.countP_cons]
      by_cases hclass : e.eventClass = c
      · subst hclass
        rw [Dict.get?_set_self]
        simp only [decide_true, if_true]
        cases events.countP (·.eventClass = e.eventClass) with
        | zero => rfl
        | succ n =>
            show some _ = some _
            rw [Option.getD_some]
            congr 1
            omega
      · rw [Dict.get?_set_ne (Ne.symm hclass)]
        simp [hclass]

/-- Each class that occurs is counted. -/
theorem get?_countClasses {events : List PublicRow} {c : String} :
    (countClasses events).get? c =
      match events.countP (·.eventClass = c) with
      | 0 => none
      | n + 1 => some (n + 1) := by
  rw [countClasses, get?_foldl_countClasses]
  cases events.countP (·.eventClass = c) with
  | zero => rfl
  | succ n =>
      show some _ = some _
      rw [Dict.get?_empty, Option.getD_none, Nat.zero_add]

/-! ## One row an id -/

section Filing

variable [FloatTable]

theorem identify_eq_ok {r : PublicRow} {i : IdentifiedRow} (h : identify r = .ok i) :
    i.toPublicRow = r := by
  rw [identify] at h
  split at h
  · rw [← Except.ok.inj h]
  · exact nomatch h

theorem id_eq_iff {i j : IdentifiedRow} :
    i.id = j.id ↔ hashKey i.eventId = hashKey j.eventId := by
  rw [i.hashed, j.hashed]
  exact ⟨congrArg Except.ok, Except.ok.inj⟩

theorem map_identified {rows : List PublicRow} {identified : List IdentifiedRow}
    (h : rows.mapM identify = .ok identified) : identified.map (·.toPublicRow) = rows := by
  have hall := except_mapM_eq_ok.mp h
  clear h
  induction hall with
  | nil => rfl
  | cons hfirst _ ih => rw [List.map_cons, ih, identify_eq_ok hfirst]

/-- The rows that are filed, in the order in which their ids came in. -/
def filed (identified : List IdentifiedRow) : List PublicRow :=
  ((Table.empty.putAll identified : Table IdentifiedRow.id).rows).map (·.toPublicRow)

theorem filed_distinct {identified : List IdentifiedRow} :
    (filed identified).Pairwise fun r r' => hashKey r.eventId ≠ hashKey r'.eventId := by
  have hnodup := Table.nodup_rows (Table.empty.putAll identified : Table IdentifiedRow.id)
  rw [filed, List.pairwise_map]
  exact (List.pairwise_map.mp hnodup).imp fun hne hkey => hne (id_eq_iff.mpr hkey)

theorem filed_eq_of_key {identified : List IdentifiedRow} {r r' : PublicRow}
    (hr : r ∈ filed identified) (hr' : r' ∈ filed identified)
    (hkey : hashKey r.eventId = hashKey r'.eventId) : r = r' := by
  obtain ⟨i, hi, rfl⟩ := List.mem_map.mp hr
  obtain ⟨j, hj, rfl⟩ := List.mem_map.mp hr'
  exact congrArg (·.toPublicRow) (Table.eq_of_key hi hj (id_eq_iff.mpr hkey))

theorem mem_of_mem_filed {identified : List IdentifiedRow} {r : PublicRow}
    (h : r ∈ filed identified) : r ∈ identified.map (·.toPublicRow) := by
  obtain ⟨i, hi, rfl⟩ := List.mem_map.mp h
  rcases Table.mem_rows_putAll hi with hmem | hmem
  · exact List.mem_map_of_mem hmem
  · exact absurd hmem List.not_mem_nil

/-- The last row of an id is the one that stays. -/
theorem last_mem_filed {before after : List IdentifiedRow} {last : IdentifiedRow}
    (hlast : ∀ i ∈ after, i.id ≠ last.id) :
    last.toPublicRow ∈ filed (before ++ last :: after) :=
  List.mem_map_of_mem (Table.mem_rows.mpr (Table.find?_putAll_last hlast))

theorem exists_filed {identified : List IdentifiedRow} {i : IdentifiedRow} (h : i ∈ identified) :
    ∃ r ∈ filed identified, hashKey r.eventId = hashKey i.eventId := by
  obtain ⟨before, last, after, rfl, hid, hlast⟩ := Table.exists_last ⟨i, h, (rfl : i.id = i.id)⟩
  exact ⟨last.toPublicRow, last_mem_filed (hid.symm ▸ hlast), id_eq_iff.mp hid⟩

/-- After the row of an event the last row with its id, if there is one, is the same. -/
def Unshadowed (domain extra : List PublicRow) : Prop :=
  ∀ before row after, domain = before ++ row :: after →
    ∀ between last rest, after ++ extra = between ++ last :: rest →
      hashKey last.eventId = hashKey row.eventId →
        (∀ r ∈ rest, hashKey r.eventId ≠ hashKey row.eventId) → last = row

variable {domain extra : List PublicRow}

theorem unshadowed_of_distinct
    (h : (domain ++ extra).Pairwise fun r r' => hashKey r.eventId ≠ hashKey r'.eventId) :
    Unshadowed domain extra := by
  rintro before row after rfl between last rest hafter hkey -
  rw [List.append_assoc, List.cons_append, hafter, List.pairwise_append, List.pairwise_cons] at h
  exact absurd hkey.symm (h.2.1.1 last (by simp))

/-- A row of the domain stays if no later row takes its id, or the last of them is the same. -/
theorem mem_filed_of_unshadowed {identified : List IdentifiedRow} {row : PublicRow}
    (hunshadowed : Unshadowed domain extra)
    (hidentified : (domain ++ extra).mapM identify = .ok identified) (hrow : row ∈ domain) :
    row ∈ filed identified := by
  obtain ⟨before, after, rfl⟩ := List.append_of_mem hrow
  have hrows := map_identified hidentified
  rw [List.append_assoc, List.cons_append] at hrows
  obtain ⟨before', later, rfl, -, hlater⟩ := List.map_eq_append_iff.mp hrows
  obtain ⟨i, later', rfl, rfl, hafter⟩ := List.map_eq_cons_iff.mp hlater
  by_cases htaken : ∃ j ∈ later', j.id = i.id
  · obtain ⟨between, last, rest, rfl, hid, hlast⟩ := Table.exists_last htaken
    rw [List.map_append, List.map_cons] at hafter
    have hsame : last.toPublicRow = i.toPublicRow := by
      refine hunshadowed before _ after rfl _ _ _ hafter.symm (id_eq_iff.mp hid) fun r hr => ?_
      obtain ⟨j, hj, rfl⟩ := List.mem_map.mp hr
      exact fun hkey => hlast j hj (id_eq_iff.mpr hkey)
    have hmem : last.toPublicRow ∈ filed ((before' ++ i :: between) ++ last :: rest) :=
      last_mem_filed (hid.symm ▸ hlast)
    rw [List.append_assoc, List.cons_append] at hmem
    exact hsame ▸ hmem
  · exact last_mem_filed fun j hj hid => htaken ⟨j, hj, hid⟩

/-- A row that is followed by another one with its id does not stay. -/
theorem unshadowed_of_mem_filed {identified : List IdentifiedRow}
    (hidentified : (domain ++ extra).mapM identify = .ok identified)
    (hstays : ∀ row ∈ domain, row ∈ filed identified) : Unshadowed domain extra := by
  rintro before row after rfl between last rest hafter hkey hlast
  have hrow : row ∈ filed identified := hstays row (by simp)
  have hrows := map_identified hidentified
  rw [List.append_assoc, List.cons_append, hafter, ← List.cons_append, ← List.append_assoc] at hrows
  obtain ⟨earlier, later, rfl, -, hlater⟩ := List.map_eq_append_iff.mp hrows
  obtain ⟨i, later', rfl, rfl, rfl⟩ := List.map_eq_cons_iff.mp hlater
  have hstays : i.toPublicRow ∈ filed (earlier ++ i :: later') :=
    last_mem_filed fun j hj hid =>
      hlast _ (List.mem_map_of_mem hj) ((id_eq_iff.mp hid).trans hkey)
  exact filed_eq_of_key hstays hrow hkey

end Filing

/-! ## Whose row is published -/

section Published

variable [Digest] [Json.CharTable] [TitleTable] [FloatTable]

/-- The rows of the digests are one an id, the totals are theirs, and a verified event has its
own row. -/
structure DomainWins (ws : Tenant) (rows : List PublicRow) (d : PublicDigests) : Prop where
  distinct : d.events.Pairwise fun r r' => hashKey r.eventId ≠ hashKey r'.eventId
  every : ∀ row ∈ rows, ∃ r ∈ d.events, hashKey r.eventId = hashKey row.eventId
  only : ∀ r ∈ d.events, r ∈ rows
  own : ∀ event ∈ ws.verifiedEvents, ∃ row, ws.eventRow event = .ok row ∧ row ∈ d.events
  eventCount : d.eventCount = d.events.length
  totalAttendancePublic :
    d.totalAttendancePublic = (d.events.map fun e => e.attendeeCountPublic.value).sum
  classCounts : ∀ c, d.classCounts.get? c =
    match d.events.countP (·.eventClass = c) with
    | 0 => none
    | n + 1 => some (n + 1)

variable [PyOrder] {ws : Tenant} {source today : String} {updatedAt : Option String}
  {extraEventsDoc : Option Fields} {domain extra : List PublicRow} {d : PublicDigests}

theorem digestsFromWorkspace_ok (hdomain : domainRows ws = .ok domain)
    (hextra : extraRows extraEventsDoc = .ok extra)
    (h : digestsFromWorkspace ws source today updatedAt extraEventsDoc = .ok d) :
    ∃ identified, (domain ++ extra).mapM identify = .ok identified ∧
      d.events.Perm (filed identified) ∧ d.eventCount = d.events.length ∧
      d.totalAttendancePublic = (d.events.map fun e => e.attendeeCountPublic.value).sum ∧
      d.classCounts = countClasses d.events := by
  obtain ⟨domain', hdomain', h⟩ := except_bind_eq_ok.mp h
  obtain rfl := Except.ok.inj (hdomain'.symm.trans hdomain)
  obtain ⟨extra', hextra', h⟩ := except_bind_eq_ok.mp h
  obtain rfl := Except.ok.inj (hextra'.symm.trans hextra)
  obtain ⟨identified, hidentified, h⟩ := except_bind_eq_ok.mp h
  obtain ⟨events, hsorted, h⟩ := except_bind_eq_ok.mp h
  obtain rfl := Except.ok.inj h
  exact ⟨identified, hidentified, sortNewest_perm hsorted, rfl, rfl, rfl⟩

theorem domain_rows_win_iff (ws : Tenant) (source today : String) (updatedAt : Option String)
    (extraEventsDoc : Option Fields) (domain extra : List PublicRow) (d : PublicDigests)
    (hdomain : domainRows ws = .ok domain) (hextra : extraRows extraEventsDoc = .ok extra)
    (h : digestsFromWorkspace ws source today updatedAt extraEventsDoc = .ok d) :
    DomainWins ws (domain ++ extra) d ↔ Unshadowed domain extra := by
  obtain ⟨identified, hidentified, hevents, hcount, htotal, hclasses⟩ :=
    digestsFromWorkspace_ok hdomain hextra h
  obtain ⟨hmade, hmakes⟩ := exists_of_except_mapM hdomain
  have hrows := map_identified hidentified
  constructor
  · intro hwins
    refine unshadowed_of_mem_filed hidentified fun row hrow => ?_
    obtain ⟨event, hevent, hof⟩ := hmakes row hrow
    obtain ⟨row', hof', hmem⟩ := hwins.own event hevent
    obtain rfl := Except.ok.inj (hof.symm.trans hof')
    exact hevents.mem_iff.mp hmem
  · intro hunshadowed
    exact {
      distinct := (hevents.pairwise_iff Ne.symm).mpr filed_distinct
      every := fun row hrow => by
        rw [← hrows] at hrow
        obtain ⟨i, hi, rfl⟩ := List.mem_map.mp hrow
        obtain ⟨r, hr, hkey⟩ := exists_filed hi
        exact ⟨r, hevents.mem_iff.mpr hr, hkey⟩
      only := fun r hr => hrows ▸ mem_of_mem_filed (hevents.mem_iff.mp hr)
      own := fun event hevent => by
        obtain ⟨row, hrow, hof⟩ := hmade event hevent
        exact ⟨row, hof, hevents.mem_iff.mpr
          (mem_filed_of_unshadowed hunshadowed hidentified hrow)⟩
      eventCount := hcount
      totalAttendancePublic := htotal
      classCounts := fun c => hclasses ▸ get?_countClasses }

end Published

section Sample

namespace PublicDigests.Sample

/-- `s.title()` on the letters of ASCII; whether the character before was a letter. -/
def titleChars : Bool → List Char → List Char
  | _, [] => []
  | inside, c :: cs => (if inside then c.toLower else c.toUpper) :: titleChars c.isAlpha cs

@[reducible] def titleTable : TitleTable := ⟨fun s => String.ofList (titleChars false s.toList)⟩

/-- The ids of the sample have one. -/
@[reducible] def constantDigest : Digest := ⟨fun _ => "digest"⟩

/-- No float of the sample is an integer. -/
@[reducible] def floatTable : FloatTable := ⟨fun _ => none⟩

/-- The dates of the sample are texts. -/
@[reducible] def textOrder : PyOrder := ⟨fun v w => .error ⟨.typeError,
  "'<' not supported between instances of '" ++ v.typeName ++ "' and '" ++ w.typeName ++ "'"⟩⟩

end PublicDigests.Sample

open PublicDigests.Sample

attribute [local instance] titleTable constantDigest floatTable textOrder Json.CharTable.all

namespace PublicDigests.Sample

def event : ImpactEvent :=
  { id := "event", organizationId := "org", programId := "welding", eventType := "CLASS_HELD",
    eventDate := "2026-07-01", participants := 12, state := .verified, description := "A class." }

def workspace : Tenant where
  ledger := { organization := { id := "org", name := "Org" } }
  impact := { impactEvents := Table.empty.put event }

/-- A document with one event of the id. -/
def document (id : String) : Fields := [("events", .arr [.obj [
  ("id", .str id), ("title", .str "Fixture"), ("occurredOn", .str "2026-06-01"),
  ("attendeeCountPublic", .num 300), ("impactSummary", .str "A pilot.")]])]

/-- The rows that are made, and the digests. -/
def Made (id : String) (domain extra : List PublicRow) (d : PublicDigests) : Prop :=
  domainRows workspace = .ok domain ∧ extraRows (some (document id)) = .ok extra ∧
    digestsFromWorkspace workspace "domain_impact_service" "2026-08-01" none
      (some (document id)) = .ok d

/-- The row of the event, and what is published of a document with another id. -/
def titles (id : String) : Option (List Json × List String) := do
  let domain ← (domainRows workspace).toOption
  let extra ← (extraRows (some (document id))).toOption
  let d ← (digestsFromWorkspace workspace "domain_impact_service" "2026-08-01" none
    (some (document id))).toOption
  return ((domain ++ extra).map (·.eventId), d.events.map (·.title))

theorem made_of_titles {id : String} {ids : List Json} {published : List String}
    (h : titles id = some (ids, published)) : ∃ domain extra d, Made id domain extra d ∧
      (domain ++ extra).map (·.eventId) = ids ∧ d.events.map (·.title) = published := by
  rw [titles] at h
  cases hdomain : domainRows workspace with
  | error exc =>
      rw [hdomain] at h
      exact nomatch h
  | ok domain =>
      cases hextra : extraRows (some (document id)) with
      | error exc =>
          rw [hdomain, hextra] at h
          exact nomatch h
      | ok extra =>
          cases hdigests : digestsFromWorkspace workspace "domain_impact_service" "2026-08-01" none
            (some (document id)) with
          | error exc =>
              rw [hdomain, hextra, hdigests] at h
              exact nomatch h
          | ok d =>
              rw [hdomain, hextra, hdigests] at h
              obtain ⟨hids, htitles⟩ := Prod.mk.inj (Option.some.inj h)
              exact ⟨domain, extra, d, ⟨hdomain, hextra, hdigests⟩, hids, htitles⟩

end PublicDigests.Sample

/-- Beside another id the event has its own row. -/
theorem event_beside_fixture : ∃ domain extra d, Made "fixture" domain extra d ∧
    DomainWins workspace (domain ++ extra) d := by
  have htitles : titles "fixture" =
      some ([.str "event", .str "fixture"], ["welding — Class Held", "Fixture"]) := by
    decide +kernel
  obtain ⟨domain, extra, d, hmade, hids, -⟩ := made_of_titles htitles
  refine ⟨domain, extra, d, hmade, (domain_rows_win_iff _ _ _ _ _ _ _ _ hmade.1 hmade.2.1
    hmade.2.2).mpr (unshadowed_of_distinct ?_)⟩
  have hdistinct : ((domain ++ extra).map (·.eventId)).Pairwise fun v w =>
      hashKey v ≠ hashKey w := by
    rw [hids]
    simp [hashKey]
  rw [List.pairwise_map] at hdistinct
  exact hdistinct

/-- The row of a document that has the event's id is published in its place. -/
theorem fixture_shadows_event : ¬ ∀ domain extra d, Made "event" domain extra d →
    DomainWins workspace (domain ++ extra) d := by
  intro hall
  have htitles : titles "event" = some ([.str "event", .str "event"], ["Fixture"]) := by
    decide +kernel
  obtain ⟨domain, extra, d, hmade, -, hpublished⟩ := made_of_titles htitles
  obtain ⟨row, hrow, hmem⟩ := (hall domain extra d hmade).own event (by decide)
  have htitle : (workspace.eventRow event).toOption.map (·.title) =
      some "welding — Class Held" := by
    decide +kernel
  rw [hrow] at htitle
  have heq : row.title = "welding — Class Held" := Option.some.inj htitle
  have hlisted : row.title ∈ ["Fixture"] := hpublished ▸ List.mem_map_of_mem hmem
  rw [heq] at hlisted
  simp at hlisted

end Sample

end ImpactRelay
