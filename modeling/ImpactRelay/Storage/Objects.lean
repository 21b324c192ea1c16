/-
# `Storage.Objects` — objects of tenants as files

`LocalObjectStorage` (`objects.py`) keeps an object at `{root}/{tenant_id}/{key}` and its
metadata in a file next to it, under the object's name with `.meta.json` behind.  A
reference is checked as a text, and the path that is made of it drops empty names and `.`,
so that different references can come to one path, of another tenant's object too, and an
object can be the metadata of another one.

`objects_do_not_interfere_iff`: what is done to one object is never seen of another one
exactly where their paths differ and neither is the metadata path of the other.
-/
import ImpactRelay.Lib.FileTree
import ImpactRelay.Lib.Run
import ImpactRelay.Reporting.Reconcile

namespace ImpactRelay

open Raise

abbrev Bytes := List UInt8

abbrev StorageM := EStateM PyExc (FileTree Bytes)

/-! ## Metadata files -/

def newline (level : Nat) : String := String.ofList ('\n' :: List.replicate (2 * level) ' ')

mutual

/-- `json.dumps(doc, indent=2)`, so many levels in. -/
def dumpsIndented (level : Nat) : Json → String
  | .arr [] => "[]"
  | .obj [] => "\x7b\x7d"
  | .arr items => "[" ++ String.intercalate "," (indentedItems (level + 1) items) ++
      newline level ++ "]"
  | .obj fields => "\x7b" ++ String.intercalate "," (indentedFields (level + 1) fields) ++
      newline level ++ "\x7d"
  | j => j.dumps

def indentedItems (level : Nat) : List Json → List String
  | [] => []
  | j :: js => (newline level ++ dumpsIndented level j) :: indentedItems level js

def indentedFields (level : Nat) : List (String × Json) → List String
  | [] => []
  | (k, j) :: es =>
      (newline level ++ Json.quote k ++ ": " ++ dumpsIndented level j) :: indentedFields level es

end

/-- `json.dumps(doc, indent=2) + "\n"` in UTF-8; it is all ASCII. -/
def metaText (doc : Json) : Bytes :=
  (dumpsIndented 0 doc ++ "\n").toList.map fun c => UInt8.ofNat c.toNat

/-! ## References -/

def objectStorageError (msg : String) : PyExc :=
  ⟨.other "impact_relay.storage.objects" "ObjectStorageError", msg⟩

/-- `[A-Za-z0-9._/\-]`. -/
def isKeyChar (c : Char) : Bool := c.isAlphanum || c ∈ ['.', '_', '/', '-']

/-- `_SAFE_KEY.match(key)`; its `$` is also before a newline at the end. -/
def safeKey (key : String) : Bool :=
  let cs := key.toList
  let matched := if cs.getLast? = some '\n' then cs.dropLast else cs
  !matched.isEmpty && matched.all isKeyChar

/-- Shared validation for local + S3 backends. -/
def validateObjectRef [Json.CharTable] (tenantId key : String) : Except PyExc Unit :=
  if tenantId = "" ∨ '/' ∈ tenantId.toList ∨ Text.hasSubstring ".." tenantId ∨
      '\\' ∈ tenantId.toList then
    .error (objectStorageError ("invalid tenant_id: " ++ Json.reprStr tenantId))
  else if key = "" ∨ Text.startsWith "/" key ∨ ['.', '.'] ∈ key.toList.splitOn '/' then
    .error (objectStorageError ("invalid object key: " ++ Json.reprStr key))
  else if !safeKey key then
    .error (objectStorageError ("object key has illegal characters: " ++ Json.reprStr key))
  else .ok ()

def objectStorageId [Json.CharTable] (tenantId key : String) : Except PyExc String := do
  validateObjectRef tenantId key
  return tenantId ++ "/" ++ key

/-! ## Paths -/

namespace LocalObjectStorage

/-- The text of a path below the root. -/
def pathText (p : FilePath) : String := String.ofList (p.flatMap fun n => '/' :: n.text.toList)

def resolve [Json.CharTable] (tenantId key : String) : Except PyExc FilePath := do
  validateObjectRef tenantId key
  let base := FilePath.ofText tenantId
  let path := base ++ FilePath.ofText key
  if ¬ Text.startsWith (pathText base) (pathText path) then
    .error (objectStorageError "path escape rejected")
  else return path

def metaSuffix : List Char := ['.', 'm', 'e', 't', 'a', '.', 'j', 's', 'o', 'n']

def metaName (n : FileName) : FileName where
  text := String.ofList (n.text.toList ++ metaSuffix)
  valid := by
    have hlong : ∀ s : String, s.toList.length < 10 →
        String.ofList (n.text.toList ++ metaSuffix) ≠ s := by
      rintro s hs rfl
      rw [String.toList_ofList, List.length_append] at hs
      have hten : metaSuffix.length = 10 := rfl
      omega
    refine ⟨hlong "" (by decide), hlong "." (by decide), hlong ".." (by decide), ?_⟩
    rw [String.toList_ofList, List.mem_append, not_or]
    exact ⟨n.valid.2.2.2, by decide⟩

/-- `path.with_suffix(path.suffix + ".meta.json")`; next to the root nothing is kept. -/
def metaPath (p : FilePath) : Option FilePath :=
  p.getLast?.map fun n => p.dropLast ++ [metaName n]

/-! ## Operations -/

def osError : FileError → PyExc
  | .notADirectory => ⟨.other "builtins" "NotADirectoryError", "[Errno 20] Not a directory"⟩
  | .fileExists => ⟨.other "builtins" "FileExistsError", "[Errno 17] File exists"⟩
  | .isADirectory => ⟨.other "builtins" "IsADirectoryError", "[Errno 21] Is a directory"⟩

def onTree (f : FileTree Bytes → Except FileError (FileTree Bytes)) : StorageM Unit := fun t =>
  match f t with
  | .ok t' => .ok () t'
  | .error e => .error (osError e) t

/-- What is done with the metadata file; the root has none, and is never a file. -/
def onMeta (path : FilePath) (f : FilePath → StorageM PUnit) : StorageM PUnit :=
  match metaPath path with
  | some m => f m
  | none => pure ()

section

variable [Json.CharTable]

def metaDoc (contentType : String) (metadata : Fields) (size : Nat) : Json :=
  .obj [("content_type", .str contentType), ("meta", .obj metadata), ("bytes", .num size)]

def put (tenantId key : String) (data : Bytes) (contentType : String) (metadata : Fields) :
    StorageM String := do
  let path ← okOrRaise (resolve tenantId key)
  onTree (·.mkdirs path.dropLast)
  onTree (·.write path data)
  onMeta path fun m => onTree (·.write m (metaText (metaDoc contentType metadata data.length)))
  okOrRaise (objectStorageId tenantId key)

def get (t : FileTree Bytes) (tenantId key : String) : Except PyExc (Option Bytes) :=
  return t.content (← resolve tenantId key)

def exists_ (t : FileTree Bytes) (tenantId key : String) : Except PyExc Bool :=
  return t.isFile (← resolve tenantId key)

/-- What there is to be read of an object's metadata. -/
def metadata (t : FileTree Bytes) (tenantId key : String) : Except PyExc (Option Bytes) :=
  return (metaPath (← resolve tenantId key)).bind t.content

def delete (tenantId key : String) : StorageM Bool := do
  let path ← okOrRaise (resolve tenantId key)
  let deleted := (← getThe (FileTree Bytes)).isFile path
  modify (·.unlink path)
  onMeta path fun m => modify (·.unlink m)
  return deleted

end

end LocalObjectStorage

open LocalObjectStorage

inductive StorageOp where
  | put (tenantId key : String) (data : Bytes) (contentType : String) (metadata : Fields)
  | delete (tenantId key : String)

section

variable [Json.CharTable]

/-- A tenant and a key that `validate_object_ref` accepts. -/
structure ObjectRef where
  tenantId : String
  key : String
  valid : validateObjectRef tenantId key = .ok ()

namespace ObjectRef

def path (r : ObjectRef) : FilePath := FilePath.ofText r.tenantId ++ FilePath.ofText r.key

end ObjectRef

namespace StorageOp

/-- The next call is made whether or not this one raised. -/
def step (t : FileTree Bytes) : StorageOp → FileTree Bytes
  | put tenantId key data contentType metadata =>
      after (LocalObjectStorage.put tenantId key data contentType metadata) t
  | delete tenantId key => after (LocalObjectStorage.delete tenantId key) t

def Of (r : ObjectRef) : StorageOp → Prop
  | put tenantId key _ _ _ | delete tenantId key => tenantId = r.tenantId ∧ key = r.key

end StorageOp

/-- What is seen of an object: its data, whether it is there, its metadata. -/
def seen (t : FileTree Bytes) (r : ObjectRef) :
    Except PyExc (Option Bytes) × Except PyExc Bool × Except PyExc (Option Bytes) :=
  (LocalObjectStorage.get t r.tenantId r.key, LocalObjectStorage.exists_ t r.tenantId r.key,
    LocalObjectStorage.metadata t r.tenantId r.key)

end

/-! ## What an operation reaches -/

namespace LocalObjectStorage

section Paths

variable {p q m : FilePath}

theorem startsWith_pathText_append : Text.startsWith (pathText p) (pathText (p ++ q)) = true := by
  rw [Text.startsWith, pathText, pathText, String.toList_ofList, String.toList_ofList,
    List.flatMap_append]
  exact List.isPrefixOf_iff_prefix.mpr (List.prefix_append _ _)

/-- The check for an escaping path never fails. -/
theorem resolve_eq [Json.CharTable] {tenantId key : String} : resolve tenantId key =
    (validateObjectRef tenantId key).map fun _ => FilePath.ofText tenantId ++ FilePath.ofText key := by
  have hinside : ¬ ¬ Text.startsWith (pathText (FilePath.ofText tenantId))
      (pathText (FilePath.ofText tenantId ++ FilePath.ofText key)) = true :=
    not_not.mpr startsWith_pathText_append
  rw [resolve]
  simp only [hinside, if_false]
  cases validateObjectRef tenantId key <;> rfl

theorem metaPath_append (dir : FilePath) (n : FileName) :
    metaPath (dir ++ [n]) = some (dir ++ [metaName n]) := by
  rw [metaPath, List.getLast?_concat, List.dropLast_concat]
  rfl

theorem metaPath_eq_some : metaPath p = some m ↔
    ∃ dir n, p = dir ++ [n] ∧ m = dir ++ [metaName n] := by
  constructor
  · intro h
    rcases List.eq_nil_or_concat p with rfl | ⟨dir, n, rfl⟩
    · exact nomatch h
    · rw [List.concat_eq_append, metaPath_append] at h
      exact ⟨dir, n, List.concat_eq_append, (Option.some.inj h).symm⟩
  · rintro ⟨dir, n, rfl, rfl⟩
    exact metaPath_append dir n

theorem length_metaName (n : FileName) :
    (metaName n).text.toList.length = n.text.toList.length + 10 := by
  rw [metaName, String.toList_ofList, List.length_append]
  rfl

theorem metaName_ne (n : FileName) : metaName n ≠ n := by
  intro h
  have hlength := length_metaName n
  rw [h] at hlength
  omega

theorem metaName_inj {m n : FileName} (h : metaName m = metaName n) : m = n := by
  have hchars := congrArg (fun n : FileName => n.text.toList) h
  simp only [metaName, String.toList_ofList] at hchars
  exact FileName.ext_text (String.toList_inj.mp (List.append_cancel_right hchars))

theorem metaPath_inj (h : metaPath p = some m) (h' : metaPath q = some m) : p = q := by
  obtain ⟨dir, n, rfl, rfl⟩ := metaPath_eq_some.mp h
  obtain ⟨dir', n', rfl, heq⟩ := metaPath_eq_some.mp h'
  obtain ⟨rfl, hname⟩ := List.append_inj' heq rfl
  rw [metaName_inj (List.singleton_inj.mp hname)]

theorem metaPath_ne (h : metaPath p = some m) : m ≠ p := by
  obtain ⟨dir, n, rfl, rfl⟩ := metaPath_eq_some.mp h
  intro heq
  exact metaName_ne n (List.singleton_inj.mp (List.append_cancel_left heq))

theorem not_prefix_dropLast (hp : p ≠ []) : ¬ p <+: p.dropLast := by
  intro h
  have hlength := h.length_le
  rw [List.length_dropLast] at hlength
  have hpos := List.length_pos_iff.mpr hp
  omega

/-- The metadata file is not on the way to the object. -/
theorem metaPath_not_prefix_dropLast (h : metaPath p = some m) : ¬ m <+: p.dropLast := by
  obtain ⟨dir, n, rfl, rfl⟩ := metaPath_eq_some.mp h
  intro hprefix
  have hlength := hprefix.length_le
  rw [List.dropLast_concat, List.length_append, List.length_singleton] at hlength
  omega

end Paths

/-! ### Frames -/

section Frames

variable {x p : FilePath} {v : Option Bytes}

theorem preserves_onTree {P : FileTree Bytes → Prop}
    {f : FileTree Bytes → Except FileError (FileTree Bytes)}
    (h : ∀ t t', P t → f t = .ok t' → P t') : Preserves P (onTree f) := by
  intro t ht
  cases hf : f t with
  | error e =>
      have hafter : after (onTree f) t = t := by
        rw [after, EStateM.run, onTree, hf]
      exact hafter.symm ▸ ht
  | ok t' =>
      have hafter : after (onTree f) t = t' := by
        rw [after, EStateM.run, onTree, hf]
      exact hafter.symm ▸ h t t' ht hf

theorem preserves_mkdirs : Preserves (fun t => t.content x = v) (onTree (·.mkdirs p)) :=
  preserves_onTree fun _ _ ht h => (FileTree.content_mkdirs h).trans ht

theorem preserves_write {b : Bytes} (hne : x ≠ p) :
    Preserves (fun t => t.content x = v) (onTree (·.write p b)) :=
  preserves_onTree fun _ _ ht h => (FileTree.content_write h).trans ((if_neg hne).trans ht)

theorem preserves_unlink (hne : x ≠ p) :
    Preserves (fun t => t.content x = v) (modify (·.unlink p) : StorageM PUnit) :=
  Preserves.modify fun _ ht => FileTree.content_unlink.trans ((if_neg hne).trans ht)

theorem preserves_onMeta {P : FileTree Bytes → Prop} {f : FilePath → StorageM PUnit}
    (h : ∀ m, metaPath p = some m → Preserves P (f m)) : Preserves P (onMeta p f) := by
  rw [onMeta]
  cases hm : metaPath p with
  | none => exact Preserves.pure _
  | some m => exact h m hm

variable [Json.CharTable] {tenantId key : String}

/-- A path that is neither the object's nor that of its metadata keeps what it has. -/
theorem preserves_delete (hpath : ∀ path, resolve tenantId key = .ok path →
    x ≠ path ∧ metaPath path ≠ some x) :
    Preserves (fun t => t.content x = v) (delete tenantId key) := by
  refine Preserves.okOrRaise_bind fun path hresolve => ?_
  obtain ⟨hne, hmeta⟩ := hpath path hresolve
  refine Preserves.get.bind fun t => (preserves_unlink hne).bind fun _ => ?_
  refine Preserves.bind (preserves_onMeta fun m hm => ?_) fun _ => Preserves.pure _
  exact preserves_unlink fun heq => hmeta (heq ▸ hm)

theorem preserves_put {data : Bytes} {contentType : String} {metadata : Fields}
    (hpath : ∀ path, resolve tenantId key = .ok path → x ≠ path ∧ metaPath path ≠ some x) :
    Preserves (fun t => t.content x = v) (put tenantId key data contentType metadata) := by
  refine Preserves.okOrRaise_bind fun path hresolve => ?_
  obtain ⟨hne, hmeta⟩ := hpath path hresolve
  refine preserves_mkdirs.bind fun _ => (preserves_write hne).bind fun _ => ?_
  refine Preserves.bind (preserves_onMeta fun m hm => ?_) fun _ => Preserves.okOrRaise _
  exact preserves_write fun heq => hmeta (heq ▸ hm)

end Frames

/-! ### The first object -/

section First

theorem resolve_ref [Json.CharTable] (r : ObjectRef) : resolve r.tenantId r.key = .ok r.path := by
  rw [resolve_eq, r.valid]
  rfl

theorem returns_onTree {f : FileTree Bytes → Except FileError (FileTree Bytes)}
    {t t' : FileTree Bytes} (h : f t = .ok t') : Returns (onTree f) t () t' := by
  rw [Returns, EStateM.run, onTree, h]

variable [Json.CharTable]

theorem delete_returns {tenantId key : String} {path : FilePath}
    (hresolve : resolve tenantId key = .ok path) (t : FileTree Bytes) :
    ∃ t', Returns (delete tenantId key) t (t.isFile path) t' ∧
      ∀ x, t'.content x = if x = path ∨ metaPath path = some x then none else t.content x := by
  have honMeta : ∀ t : FileTree Bytes, ∃ t', Returns (onMeta path fun m => modify (·.unlink m)) t
      PUnit.unit t' ∧ ∀ x, t'.content x = if metaPath path = some x then none else t.content x := by
    intro t
    rw [onMeta]
    cases hm : metaPath path with
    | none => exact ⟨t, rfl, fun x => (if_neg (fun h => nomatch h)).symm⟩
    | some m =>
        refine ⟨t.unlink m, rfl, fun x => FileTree.content_unlink.trans ?_⟩
        by_cases hx : x = m
        · rw [if_pos hx, if_pos (hx ▸ rfl)]
        · rw [if_neg hx, if_neg fun h => hx (Option.some.inj h).symm]
  obtain ⟨t', ht', hcontent⟩ := honMeta (t.unlink path)
  refine ⟨t', ?_, fun x => ?_⟩
  · refine returns_bind.mpr ⟨path, t, returns_okOrRaise.mpr ⟨hresolve, rfl⟩, ?_⟩
    refine returns_bind.mpr ⟨t, t, rfl, ?_⟩
    refine returns_bind.mpr ⟨PUnit.unit, t.unlink path, rfl, ?_⟩
    exact returns_bind.mpr ⟨PUnit.unit, t', ht', rfl⟩
  · rw [hcontent, FileTree.content_unlink]
    by_cases hpath : x = path
    · rw [if_pos hpath, if_pos (Or.inl hpath), ite_self]
    · rw [if_neg hpath]
      by_cases hmeta : metaPath path = some x
      · rw [if_pos hmeta, if_pos (Or.inr hmeta)]
      · rw [if_neg hmeta, if_neg fun h => h.elim hpath hmeta]

/-- With nothing in the way the object is written, and its metadata. -/
theorem put_first (r : ObjectRef) (hroot : r.path ≠ []) (data : Bytes) (contentType : String)
    (metadata : Fields) : ∃ t m, metaPath r.path = some m ∧
      StorageOp.step .empty (.put r.tenantId r.key data contentType metadata) = t ∧
      t.content r.path = some data ∧
      t.content m = some (metaText (metaDoc contentType metadata data.length)) := by
  obtain ⟨dir, n, hpath⟩ : ∃ dir n, r.path = dir ++ [n] := by
    rcases List.eq_nil_or_concat r.path with h | ⟨dir, n, h⟩
    · exact absurd h hroot
    · exact ⟨dir, n, h.trans List.concat_eq_append⟩
  have hmeta : metaPath r.path = some (dir ++ [metaName n]) := hpath ▸ metaPath_append dir n
  obtain ⟨t₁, hmkdirs, hfree⟩ := FileTree.mkdirs_empty (β := Bytes) r.path.dropLast
  obtain ⟨t₂, hwrite, hnode⟩ := FileTree.write_of_node_none (b := data)
    (hfree r.path (not_prefix_dropLast hroot))
  have hfree' : t₂.node (dir ++ [metaName n]) = none :=
    (hnode _ (metaPath_ne hmeta)).trans (hfree _ (metaPath_not_prefix_dropLast hmeta))
  obtain ⟨t₃, hwrite', -⟩ := FileTree.write_of_node_none
    (b := metaText (metaDoc contentType metadata data.length)) hfree'
  have honMeta : Returns (onMeta r.path fun m =>
      onTree (·.write m (metaText (metaDoc contentType metadata data.length)))) t₂ () t₃ := by
    rw [onMeta, hmeta]
    exact returns_onTree hwrite'
  have hid : objectStorageId r.tenantId r.key = .ok (r.tenantId ++ "/" ++ r.key) := by
    rw [objectStorageId, r.valid]
    rfl
  have hput : Returns (put r.tenantId r.key data contentType metadata) .empty
      (r.tenantId ++ "/" ++ r.key) t₃ := by
    refine returns_bind.mpr ⟨r.path, _, returns_okOrRaise.mpr ⟨resolve_ref r, rfl⟩, ?_⟩
    refine returns_bind.mpr ⟨(), t₁, returns_onTree hmkdirs, ?_⟩
    refine returns_bind.mpr ⟨(), t₂, returns_onTree hwrite, ?_⟩
    refine returns_bind.mpr ⟨(), t₃, honMeta, ?_⟩
    exact returns_okOrRaise.mpr ⟨hid, rfl⟩
  refine ⟨t₃, dir ++ [metaName n], hmeta, hput.after, ?_, ?_⟩
  · rw [FileTree.content_write hwrite', if_neg (metaPath_ne hmeta).symm,
      FileTree.content_write hwrite, if_pos rfl]
  · rw [FileTree.content_write hwrite', if_pos rfl]

end First

end LocalObjectStorage

/-! ## Interference -/

section Interference

variable [Json.CharTable]

/-- The paths of two references differ, and neither is the other one's metadata. -/
structure ObjectRef.Apart (p q : ObjectRef) : Prop where
  path_ne : p.path = q.path → p.path = []
  metaPath_ne : metaPath p.path ≠ some q.path
  ne_metaPath : metaPath q.path ≠ some p.path

theorem seen_eq_iff {t t' : FileTree Bytes} {r : ObjectRef} : seen t' r = seen t r ↔
    t'.content r.path = t.content r.path ∧
      ∀ m, metaPath r.path = some m → t'.content m = t.content m := by
  have hseen : ∀ t : FileTree Bytes, seen t r =
      (.ok (t.content r.path), .ok (t.isFile r.path), .ok ((metaPath r.path).bind t.content)) := by
    intro t
    rw [seen, LocalObjectStorage.get, LocalObjectStorage.exists_, LocalObjectStorage.metadata,
      resolve_ref r]
    rfl
  rw [hseen, hseen]
  constructor
  · intro h
    obtain ⟨hdata, hrest⟩ := Prod.mk.inj h
    have hmeta := Except.ok.inj (Prod.mk.inj hrest).2
    refine ⟨Except.ok.inj hdata, fun m hm => ?_⟩
    rw [hm] at hmeta
    exact hmeta
  · rintro ⟨hdata, hmeta⟩
    rw [FileTree.isFile, FileTree.isFile, hdata, Option.bind_congr hmeta]

theorem content_step {p : ObjectRef} {op : StorageOp} {t : FileTree Bytes} {x : FilePath}
    (hop : op.Of p) (hne : x ≠ p.path) (hmeta : metaPath p.path ≠ some x) :
    (op.step t).content x = t.content x := by
  have hpath : ∀ path, resolve p.tenantId p.key = .ok path → x ≠ path ∧ metaPath path ≠ some x := by
    intro path hresolve
    obtain rfl := Except.ok.inj ((resolve_ref p).symm.trans hresolve)
    exact ⟨hne, hmeta⟩
  cases op with
  | put tenantId key data contentType metadata =>
      obtain ⟨rfl, rfl⟩ := hop
      exact preserves_put hpath t rfl
  | delete tenantId key =>
      obtain ⟨rfl, rfl⟩ := hop
      exact preserves_delete hpath t rfl

/-- One operation, in whatever state it finds the files. -/
theorem seen_step {p q : ObjectRef} (hapart : p.Apart q) {op : StorageOp} (hop : op.Of p)
    (t : FileTree Bytes) : seen (op.step t) q = seen t q := by
  by_cases hsame : p.path = q.path
  · have hroot : q.path = [] := hsame ▸ hapart.path_ne hsame
    refine seen_eq_iff.mpr ⟨?_, fun m hm => ?_⟩
    · rw [hroot]
      rfl
    · rw [hroot] at hm
      exact nomatch hm
  · refine seen_eq_iff.mpr ⟨content_step hop (Ne.symm hsame) hapart.metaPath_ne, fun m hm => ?_⟩
    refine content_step hop (fun heq => hapart.ne_metaPath (heq ▸ hm)) fun hm' => ?_
    exact hsame (metaPath_inj hm' hm)

/-- The first object, as it is seen of another one. -/
theorem put_seen {p q : ObjectRef} (hroot : p.path ≠ []) (hseen :
    seen (StorageOp.step .empty (.put p.tenantId p.key [] "" [])) q = seen .empty q) :
    p.path ≠ q.path ∧ metaPath p.path ≠ some q.path ∧ metaPath q.path ≠ some p.path := by
  obtain ⟨t, m, hm, rfl, hdata, hmeta⟩ := put_first p hroot [] "" []
  obtain ⟨hsame, hsame'⟩ := seen_eq_iff.mp hseen
  refine ⟨fun hpath => ?_, fun hpath => ?_, fun hpath => ?_⟩
  · rw [← hpath, hdata, FileTree.content_empty] at hsame
    exact nomatch hsame
  · obtain rfl := Option.some.inj (hm.symm.trans hpath)
    rw [hmeta, FileTree.content_empty] at hsame
    exact nomatch hsame
  · have hmetadata := hsame' p.path hpath
    rw [hdata, FileTree.content_empty] at hmetadata
    exact nomatch hmetadata

theorem objects_do_not_interfere_iff (p q : ObjectRef) :
    (∀ (ops : List StorageOp) (op : StorageOp), op.Of p →
      seen (run StorageOp.step .empty (ops ++ [op])) q = seen (run StorageOp.step .empty ops) q) ↔
    p.Apart q := by
  constructor
  · intro hall
    have hseen := hall [] (.put p.tenantId p.key [] "" []) ⟨rfl, rfl⟩
    by_cases hroot : p.path = []
    · refine ⟨fun _ => hroot, fun hpath => ?_, fun hpath => ?_⟩
      · rw [hroot] at hpath
        exact nomatch hpath
      · obtain ⟨dir, n, -, heq⟩ := metaPath_eq_some.mp hpath
        rw [hroot] at heq
        exact nomatch (List.append_eq_nil_iff.mp heq.symm).2
    · obtain ⟨hpath, hmeta, hmeta'⟩ := put_seen hroot hseen
      exact ⟨fun h => absurd h hpath, hmeta, hmeta'⟩
  · intro hapart ops op hop
    rw [run_append]
    exact seen_step hapart hop _

end Interference

section Sample

attribute [local instance] Json.CharTable.all

def ObjectRef.Sample.report : ObjectRef := ⟨"org", "report", by decide +kernel⟩

def ObjectRef.Sample.sidecar : ObjectRef := ⟨"org", "report.meta.json", by decide +kernel⟩

/-- The tenant `.` is the root itself. -/
example : ∃ h, ObjectRef.Sample.report.path = (⟨".", "org/./report", h⟩ : ObjectRef).path :=
  ⟨by decide +kernel, by decide +kernel⟩

open ObjectRef.Sample in
/-- An object is overwritten by the metadata of another one. -/
theorem metadata_overwrites_object : ¬ ∀ p q : ObjectRef, p ≠ q →
    ∀ (ops : List StorageOp) (op : StorageOp), op.Of p →
      seen (run StorageOp.step .empty (ops ++ [op])) q =
        seen (run StorageOp.step .empty ops) q := by
  intro hall
  have hne : report ≠ sidecar := fun h => absurd (congrArg ObjectRef.key h) (by decide)
  have hroot : report.path ≠ [] := by decide +kernel
  have hmeta : metaPath report.path = some sidecar.path := by decide +kernel
  have hseen := hall report sidecar hne [] (.put report.tenantId report.key [] "" []) ⟨rfl, rfl⟩
  rw [List.nil_append, run_cons, run_nil, run_nil] at hseen
  exact (put_seen hroot hseen).2.1 hmeta

end Sample

end ImpactRelay
