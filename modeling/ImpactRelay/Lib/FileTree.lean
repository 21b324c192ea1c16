/-
# `Lib.FileTree` — files and directories under one root

Paths are lists of names from the root down, and a name cannot be one that stands for
another directory.  The root is a directory and stays one; a path below it is nothing, a
directory or a file.

What an operation leaves untouched is stated by `content`: making directories changes the
content of no path, writing and removing a file that of its own path.
-/
import ImpactRelay.Lib.Dict
import Mathlib

/-- What a directory lists an entry under. -/
structure FileName where
  text : String
  valid : text ≠ "" ∧ text ≠ "." ∧ text ≠ ".." ∧ '/' ∉ text.toList
deriving DecidableEq

namespace FileName

theorem ext_text {m n : FileName} (h : m.text = n.text) : m = n := by
  cases m
  cases n
  cases h
  rfl

/-- A text as a name, if it is one. -/
def ofText? (text : String) : Option FileName :=
  if h : text ≠ "" ∧ text ≠ "." ∧ text ≠ ".." ∧ '/' ∉ text.toList then some ⟨text, h⟩ else none

theorem ofText?_text (n : FileName) : ofText? n.text = some n := dif_pos n.valid

theorem text_of_ofText? {text : String} {n : FileName} (h : ofText? text = some n) :
    n.text = text := by
  rw [ofText?] at h
  split at h
  · rw [← Option.some.inj h]
  · exact nomatch h

end FileName

abbrev FilePath := List FileName

namespace FilePath

/-- The names between the slashes; `.` and nothing stay where they are. -/
def ofText (text : String) : FilePath :=
  (text.toList.splitOn '/').filterMap fun cs => FileName.ofText? (String.ofList cs)

def text (p : FilePath) : String :=
  String.ofList (List.intercalate ['/'] (p.map fun n => n.text.toList))

theorem ofText_text {p : FilePath} : ofText p.text = p := by
  by_cases hp : p = []
  · subst hp
    rfl
  · have hnames : (p.map fun n => n.text.toList) ≠ [] := fun h => hp (List.map_eq_nil_iff.mp h)
    have hslash : ∀ cs ∈ p.map fun n => n.text.toList, '/' ∉ cs := by
      intro cs hcs
      obtain ⟨n, -, rfl⟩ := List.mem_map.mp hcs
      exact n.valid.2.2.2
    rw [ofText, text, String.toList_ofList, List.splitOn_intercalate '/' hslash hnames,
      List.filterMap_map]
    have hread : (fun n : FileName => FileName.ofText? (String.ofList n.text.toList)) = some := by
      funext n
      rw [String.ofList_toList, FileName.ofText?_text]
    exact (congrArg (List.filterMap · p) hread).trans (List.filterMap_some)

end FilePath

inductive FileNode (β : Type) where
  | dir
  | file (content : β)
deriving DecidableEq

inductive FileError where
  | notADirectory | fileExists | isADirectory
deriving DecidableEq, Repr

structure FileTree (β : Type) where
  nodes : Dict FilePath (FileNode β) := .empty

namespace FileTree

variable {β : Type}

/-- The root alone. -/
def empty : FileTree β := {}

def node (t : FileTree β) (p : FilePath) : Option (FileNode β) :=
  if p = [] then some .dir else t.nodes.get? p

def content (t : FileTree β) (p : FilePath) : Option β :=
  match t.node p with
  | some (.file content) => some content
  | _ => none

def isFile (t : FileTree β) (p : FilePath) : Bool := (t.content p).isSome

def mkdir (t : FileTree β) (p : FilePath) : FileTree β :=
  if (t.node p).isNone then { nodes := t.nodes.set p .dir } else t

/-- Make a directory and those above it, where they are missing.  A file among them has all
its own directories, so that nothing has been made when it is met. -/
def mkdirs (t : FileTree β) (p : FilePath) : Except FileError (FileTree β) :=
  match p.inits.find? t.isFile with
  | some f => .error (if f = p then .fileExists else .notADirectory)
  | none => .ok (p.inits.foldl mkdir t)

/-- Write a file in a directory that is there. -/
def write (t : FileTree β) (p : FilePath) (content : β) : Except FileError (FileTree β) :=
  match t.node p with
  | some .dir => .error .isADirectory
  | _ => .ok { nodes := t.nodes.set p (.file content) }

/-- Remove a file, if it is one. -/
def unlink (t : FileTree β) (p : FilePath) : FileTree β :=
  if t.isFile p then { nodes := t.nodes.popAll [p] } else t

/-! ## What an operation leaves -/

variable {t t' : FileTree β} {p q : FilePath} {b : β}

theorem content_eq_some : t.content p = some b ↔ t.node p = some (.file b) := by
  rw [content]
  split
  · rename_i heq
    rw [heq]
    exact ⟨fun h => congrArg (some ∘ FileNode.file) (Option.some.inj h),
      fun h => congrArg some (FileNode.file.inj (Option.some.inj h))⟩
  · rename_i hother
    exact iff_of_false (fun h => nomatch h) fun h => hother b h

theorem isFile_iff : t.isFile p = true ↔ ∃ b, t.content p = some b := Option.isSome_iff_exists

theorem isFile_eq_false : t.isFile p = false ↔ t.content p = none :=
  Option.isSome_eq_false_iff.trans Option.isNone_iff_eq_none

theorem node_of_set {x : FileNode β} (hp : p ≠ []) :
    ({ nodes := t.nodes.set p x } : FileTree β).node q = if q = p then some x else t.node q := by
  rw [node]
  by_cases hq : q = []
  · have hne : q ≠ p := fun h => hp (h ▸ hq)
    rw [if_pos hq, if_neg hne, node, if_pos hq]
  · rw [if_neg hq, Dict.get?_set, node, if_neg hq]

theorem ne_root_of_node_none (h : t.node p = none) : p ≠ [] := by
  rintro rfl
  exact nomatch h

theorem node_mkdir : (t.mkdir p).node q = if q = p ∧ t.node p = none then some .dir else t.node q := by
  rw [mkdir]
  by_cases hnone : t.node p = none
  · rw [if_pos (Option.isNone_iff_eq_none.mpr hnone), node_of_set (ne_root_of_node_none hnone)]
    by_cases hq : q = p
    · rw [if_pos hq, if_pos ⟨hq, hnone⟩]
    · rw [if_neg hq, if_neg fun h => hq h.1]
  · rw [if_neg fun h => hnone (Option.isNone_iff_eq_none.mp h), if_neg fun h => hnone h.2]

theorem content_mkdir : (t.mkdir p).content q = t.content q := by
  rw [content, node_mkdir]
  split
  · rename_i heq
    split at heq
    · exact nomatch heq
    · rw [content, heq]
  · rename_i hother
    split at hother
    · rename_i hmade
      rw [content, hmade.1, hmade.2]
    · rw [content]
      split
      · rename_i b heq
        exact absurd heq (hother b)
      · rfl

theorem content_foldl_mkdir {ps : List FilePath} : (ps.foldl mkdir t).content q = t.content q := by
  induction ps generalizing t with
  | nil => rfl
  | cons p ps ih => exact ih.trans content_mkdir

/-- Making directories changes no file. -/
theorem content_mkdirs (h : t.mkdirs p = .ok t') : t'.content q = t.content q := by
  rw [mkdirs] at h
  split at h
  · exact nomatch h
  · rw [← Except.ok.inj h]
    exact content_foldl_mkdir

theorem content_write (h : t.write p b = .ok t') :
    t'.content q = if q = p then some b else t.content q := by
  rw [write] at h
  split at h
  · exact nomatch h
  · rename_i hdir
    have hp : p ≠ [] := fun hroot => hdir (hroot ▸ rfl)
    rw [← Except.ok.inj h, content, node_of_set hp]
    by_cases hq : q = p
    · rw [if_pos hq, if_pos hq]
    · rw [if_neg hq, if_neg hq]
      rfl

theorem node_unlink_of_ne (hq : q ≠ p) : (t.unlink p).node q = t.node q := by
  rw [unlink]
  split
  · rw [node, node, Dict.get?_popAll_of_not_mem fun h => hq (List.mem_singleton.mp h)]
  · rfl

theorem content_unlink : (t.unlink p).content q = if q = p then none else t.content q := by
  by_cases hq : q = p
  · subst hq
    rw [if_pos rfl]
    refine Option.eq_none_iff_forall_ne_some.mpr fun b hb => ?_
    rw [content_eq_some, unlink] at hb
    split at hb
    · rw [node] at hb
      split at hb
      · cases hb
      · exact (Dict.get?_popAll_eq_some.mp hb).1 List.mem_cons_self
    · rename_i hfile
      exact hfile (isFile_iff.mpr ⟨b, content_eq_some.mpr hb⟩)
  · rw [if_neg hq, content, node_unlink_of_ne hq]
    rfl

/-! ## Writing into a tree where nothing is in the way -/

theorem node_foldl_mkdir_of_not_mem {ps : List FilePath} (hq : q ∉ ps) :
    (ps.foldl mkdir t).node q = t.node q := by
  induction ps generalizing t with
  | nil => rfl
  | cons p ps ih =>
      rw [List.mem_cons, not_or] at hq
      rw [List.foldl_cons, ih hq.2, node_mkdir, if_neg fun h => hq.1 h.1]

theorem content_empty : (empty : FileTree β).content q = none := by
  refine Option.eq_none_iff_forall_ne_some.mpr fun b hb => ?_
  rw [content_eq_some, node] at hb
  split at hb
  · cases hb
  · cases hb

theorem mkdirs_empty (p : FilePath) : ∃ t : FileTree β, empty.mkdirs p = .ok t ∧
    ∀ q, ¬ q <+: p → t.node q = none := by
  have hnone : p.inits.find? (empty : FileTree β).isFile = none := by
    refine List.find?_eq_none.mpr fun q _ hq => ?_
    obtain ⟨b, hb⟩ := isFile_iff.mp hq
    exact nomatch content_empty.symm.trans hb
  refine ⟨p.inits.foldl mkdir empty, ?_, fun q hq => ?_⟩
  · rw [mkdirs, hnone]
  · have hroot : q ≠ [] := fun h => hq (h ▸ List.nil_prefix)
    rw [node_foldl_mkdir_of_not_mem fun h => hq ((List.mem_inits _ _).mp h), node, if_neg hroot]
    rfl

theorem write_of_node_none (h : t.node p = none) :
    ∃ t', t.write p b = .ok t' ∧ ∀ q ≠ p, t'.node q = t.node q := by
  refine ⟨{ nodes := t.nodes.set p (.file b) }, ?_, fun q hq => ?_⟩
  · rw [write, h]
  · rw [node_of_set (ne_root_of_node_none h), if_neg hq]

end FileTree
