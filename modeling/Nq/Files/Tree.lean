/-
  Nq.Files.Tree — a file system without links: what is at a path, and what the calls of
  `std::fs` do there.

  Every entry of a tree lies in a directory (`Tree.rooted`). A path is walked from the root, step
  by step, and `..` leads up; a step off a missing entry or a file fails.

  Every change of a tree is one `set`, and what is at another path stays (`node_set`). Each call
  has one lemma that says when it succeeds and what it leaves.
-/

import Mathlib.Data.Finset.Basic
import Nq.Sql.Table

namespace Nq.Files

/-- The components of an absolute path, from the root. -/
abbrev Path := List String

inductive Node where
  | dir
  | file (bytes : List UInt8)
  deriving DecidableEq

structure Entry where
  path : Path
  node : Node

inductive IoError where
  | notFound | notADirectory | isADirectory | alreadyExists | invalidInput
  deriving DecidableEq, Repr

/-- `Display` of the error. -/
def IoError.text : IoError → String
  | .notFound => "No such file or directory (os error 2)"
  | .notADirectory => "Not a directory (os error 20)"
  | .isADirectory => "Is a directory (os error 21)"
  | .alreadyExists => "File exists (os error 17)"
  | .invalidInput => "file name contained an unexpected NUL byte"

/-- What is at a path; the root is a directory. -/
def nodeAt (entries : Sql.Table Entry.path) (p : Path) : Option Node :=
  if p = [] then some .dir else (entries.get p).map Entry.node

structure Tree where
  entries : Sql.Table Entry.path
  rooted : ∀ p, p ≠ [] → nodeAt entries p ≠ none → nodeAt entries p.dropLast = some .dir

namespace Tree

def empty : Tree := ⟨Sql.Table.empty, fun p hp h => absurd (by simp [nodeAt, hp, Sql.Table.empty, Sql.Table.get]) h⟩

def node (t : Tree) (p : Path) : Option Node := nodeAt t.entries p

variable {p : Path} (t : Tree)

@[simp] theorem node_root : t.node [] = some .dir := rfl

theorem dir_of_node {name : String} (h : t.node (p ++ [name]) ≠ none) : t.node p = some .dir := by
  have hrooted : nodeAt t.entries (p ++ [name]).dropLast = some .dir := t.rooted (p ++ [name]) (by simp) h
  rwa [List.dropLast_concat] at hrooted

/-! ## Changes -/

/-- A place in a directory where there is no directory yet. -/
def Free (t : Tree) (p : Path) : Prop := p ≠ [] ∧ t.node p.dropLast = some .dir ∧ t.node p ≠ some .dir

instance (t : Tree) (p : Path) : Decidable (t.Free p) := inferInstanceAs (Decidable (_ ∧ _))

/-- Another entry at a path, or none. -/
def put (entries : Sql.Table Entry.path) (p : Path) (n : Option Node) : Sql.Table Entry.path :=
  match n with
  | some n => entries.replace ⟨p, n⟩
  | none => entries.deleteKey p

theorem nodeAt_put (entries : Sql.Table Entry.path) (hp : p ≠ []) (n : Option Node) (q : Path) :
    nodeAt (put entries p n) q = if q = p then n else nodeAt entries q := by
  unfold nodeAt
  by_cases hq : q = []
  · have hne : q ≠ p := fun e => hp (e ▸ hq)
    rw [if_pos hq, if_neg hne, if_pos hq]
  · rw [if_neg hq, if_neg hq]
    cases n with
    | none =>
      show ((entries.deleteKey p).get q).map Entry.node = _
      rw [Sql.Table.get_deleteKey]
      split <;> rfl
    | some n =>
      show ((entries.replace ⟨p, n⟩).get q).map Entry.node = _
      unfold Sql.Table.replace
      rw [Sql.Table.get_append, Sql.Table.get_deleteKey]
      split <;> rfl

theorem dropLast_ne (hp : p ≠ []) : p.dropLast ≠ p := by
  intro e
  have hlen := congrArg List.length e
  rw [List.length_dropLast] at hlen
  have hpos := List.length_pos_iff.mpr hp
  omega

/-- The tree with another entry at a place, or none. -/
def set (t : Tree) (p : Path) (n : Option Node) (h : t.Free p) : Tree where
  entries := put t.entries p n
  rooted := by
    obtain ⟨hp, hdir, hfree⟩ := h
    intro q hq hnode
    rw [nodeAt_put _ hp] at hnode ⊢
    by_cases e : q = p
    · subst e
      rw [if_neg (dropLast_ne hp)]
      exact hdir
    · rw [if_neg e] at hnode
      have hparent := t.rooted q hq hnode
      have hother : q.dropLast ≠ p := by
        intro e'
        rw [e'] at hparent
        exact hfree hparent
      rw [if_neg hother]
      exact hparent

@[simp] theorem node_set (p : Path) (n : Option Node) (h : t.Free p) (q : Path) :
    (t.set p n h).node q = if q = p then n else t.node q := nodeAt_put t.entries h.1 n q

/-! ## Paths -/

end Tree

/-- A step of a path: `..`, or a name. -/
inductive Step where
  | up
  | name (s : String)
  deriving DecidableEq, Repr

/-- A path from the root as a program writes it. -/
abbrev PathBuf := List Step

def step (s : String) : Step := if s = ".." then .up else .name s

/-- The components of a text: no empty ones, and no `.`. -/
def components (s : String) : List String :=
  ((s.toList.splitOn '/').map String.ofList).filter fun c => c ≠ "" ∧ c ≠ "."

def Path.buf (p : Path) : PathBuf := p.map .name

/-- `Path::join` of a directory and a text: an absolute text starts from the root. -/
def join (dir : Path) (s : String) : PathBuf :=
  if "/".toList.isPrefixOf s.toList then (components s).map step else Path.buf dir ++ (components s).map step

/-- `Path::join` with the name of an entry. -/
def PathBuf.child (p : PathBuf) (name : String) : PathBuf := p ++ [.name name]

def Step.text : Step → String
  | .up => ".."
  | .name s => s

def Step.nul : Step → Bool
  | .up => false
  | .name s => s.toList.contains '\x00'

def PathBuf.display (p : PathBuf) : String := "/" ++ "/".intercalate (p.map Step.text)

namespace Tree

/-- Where a step leads. -/
def next (cur : Path) : Step → Path
  | .up => cur.dropLast
  | .name s => cur ++ [s]

/-- From a directory along the steps. -/
def walk (t : Tree) (cur : Path) : PathBuf → Except IoError Path
  | [] => .ok cur
  | step :: rest =>
    match t.node cur with
    | none => .error .notFound
    | some (.file _) => .error .notADirectory
    | some .dir => t.walk (next cur step) rest

def resolve (t : Tree) (p : PathBuf) : Except IoError Path :=
  if p.any Step.nul then .error .invalidInput else t.walk [] p

/-! ## Calls -/

def children (t : Tree) (p : Path) : Finset String :=
  (t.entries.rows.filterMap fun e => if e.path.dropLast = p then e.path.getLast? else none).toFinset

/-- `fs::read_dir`: the names, in the order of the system. -/
def readDir (t : Tree) (p : PathBuf) : Except IoError (Finset String) := do
  let q ← t.resolve p
  match t.node q with
  | none => .error .notFound
  | some (.file _) => .error .notADirectory
  | some .dir => .ok (t.children q)

/-- `fs::read` -/
def read (t : Tree) (p : PathBuf) : Except IoError (List UInt8) := do
  let q ← t.resolve p
  match t.node q with
  | none => .error .notFound
  | some .dir => .error .isADirectory
  | some (.file bytes) => .ok bytes

/-- `Path::exists` -/
def pathExists (t : Tree) (p : PathBuf) : Bool :=
  match t.resolve p with
  | .ok q => (t.node q).isSome
  | .error _ => false

/-- `Path::is_dir` -/
def isDir (t : Tree) (p : PathBuf) : Bool :=
  match t.resolve p with
  | .ok q => t.node q = some .dir
  | .error _ => false

def change (t : Tree) (p : Path) (n : Option Node) : Except IoError Tree :=
  if h : t.Free p then .ok (t.set p n h) else .error (if t.node p = some .dir then .isADirectory else .notFound)

def mkdir (t : Tree) (p : PathBuf) : Except IoError Tree := do
  let q ← t.resolve p
  match t.node q with
  | some _ => .error .alreadyExists
  | none => t.change q (some .dir)

/-- `fs::create_dir_all` of the steps, the last first. What it made before it failed stays. -/
def createDirs (t : Tree) : List Step → Tree × Except IoError Unit
  | [] => (t, .ok ())
  | step :: before =>
    let p : PathBuf := (step :: before).reverse
    match t.mkdir p with
    | .ok t' => (t', .ok ())
    | .error .notFound =>
      match t.createDirs before with
      | (t', .error e) => (t', .error e)
      | (t', .ok ()) =>
        match t'.mkdir p with
        | .ok t'' => (t'', .ok ())
        | .error e => (t', if t'.isDir p then .ok () else .error e)
    | .error e => (t, if t.isDir p then .ok () else .error e)

def createDirAll (t : Tree) (p : PathBuf) : Tree × Except IoError Unit := t.createDirs p.reverse

/-- `fs::write` -/
def write (t : Tree) (p : PathBuf) (bytes : List UInt8) : Except IoError Tree := do
  let q ← t.resolve p
  t.change q (some (.file bytes))

/-- A file opened with `create_new`, and written. -/
def writeNew (t : Tree) (p : PathBuf) (bytes : List UInt8) : Except IoError Tree := do
  let q ← t.resolve p
  match t.node q with
  | some _ => .error .alreadyExists
  | none => t.change q (some (.file bytes))

/-- `fs::remove_file` -/
def removeFile (t : Tree) (p : PathBuf) : Except IoError Tree := do
  let q ← t.resolve p
  match t.node q with
  | none => .error .notFound
  | some .dir => .error .isADirectory
  | some (.file _) => t.change q none

/-- `fs::rename` of a file, in one step. -/
def rename (t : Tree) (src dst : PathBuf) : Except IoError Tree := do
  let bytes ← t.read src
  let t' ← t.removeFile src
  t'.write dst bytes

/-- `fs::hard_link` to a file that is not written to again. -/
def hardLink (t : Tree) (src dst : PathBuf) : Except IoError Tree := do
  let bytes ← t.read src
  t.writeNew dst bytes

/-! ## What is written is read -/

variable {t t' : Tree} {bytes : List UInt8}

/-- A change off the directories on the way does not lead a walk astray. -/
theorem walk_set {p : Path} {n : Option Node} (h : t.Free p) :
    ∀ {steps : PathBuf} {cur q : Path}, t.walk cur steps = .ok q →
    (t.set p n h).walk cur steps = .ok q := by
  intro steps
  induction steps with
  | nil => exact fun hq => hq
  | cons step rest ih =>
    intro cur q hq
    unfold walk at hq ⊢
    cases hcur : t.node cur with
    | none =>
      rw [hcur] at hq
      cases hq
    | some node =>
      cases node with
      | file bytes =>
        rw [hcur] at hq
        cases hq
      | dir =>
        rw [hcur] at hq
        have hne : cur ≠ p := fun e => h.2.2 (e ▸ hcur)
        rw [node_set, if_neg hne, hcur]
        exact ih hq

theorem resolve_ok {steps : PathBuf} {q : Path} : t.resolve steps = .ok q ↔
    steps.any Step.nul = false ∧ t.walk [] steps = .ok q := by
  unfold resolve
  by_cases hnul : steps.any Step.nul = true
  · simp [hnul]
  · simp [hnul]

theorem read_of_write {p : PathBuf} (h : t.write p bytes = .ok t') : t'.read p = .ok bytes := by
  obtain ⟨q, hq, hchange⟩ := Sql.bind_ok.mp h
  obtain ⟨hnul, hwalk⟩ := resolve_ok.mp hq
  unfold change at hchange
  split at hchange
  · rename_i hfree
    obtain rfl := Except.ok.inj hchange
    unfold read
    refine Sql.bind_ok.mpr ⟨q, resolve_ok.mpr ⟨hnul, walk_set hfree hwalk⟩, ?_⟩
    rw [node_set, if_pos rfl]
  · cases hchange

theorem read_of_rename {src dst : PathBuf} (hread : t.read src = .ok bytes) (h : t.rename src dst = .ok t') :
    t'.read dst = .ok bytes := by
  obtain ⟨b, hb, h⟩ := Sql.bind_ok.mp h
  obtain ⟨_, _, hwrite⟩ := Sql.bind_ok.mp h
  obtain rfl := Except.ok.inj (hread.symm.trans hb)
  exact read_of_write hwrite

end Tree

end Nq.Files
