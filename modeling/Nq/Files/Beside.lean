/-
  Nq.Files.Beside — a file that is replaced by writing beside it and renaming.

  A writer creates a file beside the one it replaces, writes it a part at a time, and renames
  it into place. It may stop anywhere: a call failed, or its process died. Whoever reads the
  file reads what was renamed last: the file is a register (`register`) that one atomic write
  after the other sets (`besideRun_read`).
-/

import Nq.Files.Footprint

namespace Nq.Files

open Tree (Nulless dropLast_ne rename_ok resolve_buf_ok write_ok)

/-! ## The writer -/

/-- How far a replacement has come. -/
inductive Phase where
  | idle
  | writing (bytes : List UInt8) (written : Nat)
  deriving DecidableEq

structure Beside where
  tree : Tree
  phase : Phase

/-- A call of the writer, its end, or what others do elsewhere. -/
inductive Act where
  | create (bytes : List UInt8)
  | append (n : Nat)
  | rename
  | stop
  | elsewhere
  deriving DecidableEq

/-- One act on a file at `path`, replaced from `tmp`. -/
inductive BesideStep (tmp path : Path) : Beside → Act → Beside → Prop
  | create {t t' : Tree} {bytes : List UInt8} : t.write (Path.buf tmp) [] = .ok t' →
      BesideStep tmp path ⟨t, .idle⟩ (.create bytes) ⟨t', .writing bytes 0⟩
  | append {t t' : Tree} {bytes : List UInt8} {k n : Nat} : t.write (Path.buf tmp) (bytes.take (k + n)) = .ok t' →
      BesideStep tmp path ⟨t, .writing bytes k⟩ (.append n) ⟨t', .writing bytes (k + n)⟩
  | rename {t t' : Tree} {bytes : List UInt8} {k : Nat} : bytes.length ≤ k → t.rename (Path.buf tmp) (Path.buf path) =
      .ok t' → BesideStep tmp path ⟨t, .writing bytes k⟩ .rename ⟨t', .idle⟩
  | stop {t : Tree} {phase : Phase} : BesideStep tmp path ⟨t, phase⟩ .stop ⟨t, .idle⟩
  | elsewhere {t t' : Tree} {phase : Phase} : t'.node tmp = t.node tmp → t'.node path = t.node path →
      t'.node path.dropLast = t.node path.dropLast → BesideStep tmp path ⟨t, phase⟩ .elsewhere ⟨t', phase⟩

/-- A run, and the contents it renamed into place, last first. -/
inductive BesideRun (tmp path : Path) (t₀ : Tree) : List (List UInt8) → Beside → Prop
  | start : BesideRun tmp path t₀ [] ⟨t₀, .idle⟩
  | quiet {published s a s'} : BesideRun tmp path t₀ published s → BesideStep tmp path s a s' → a ≠ .rename →
      BesideRun tmp path t₀ published s'
  | renamed {published t t' bytes k} : BesideRun tmp path t₀ published ⟨t, .writing bytes k⟩ →
      BesideStep tmp path ⟨t, .writing bytes k⟩ .rename ⟨t', .idle⟩ →
        BesideRun tmp path t₀ (bytes :: published) ⟨t', .idle⟩

/-- What reading the register gives, where there was no file before. -/
def register : List (List UInt8) → Except IoError (List UInt8)
  | [] => .error .notFound
  | bytes :: _ => .ok bytes

/-- What was published last, or what there was before. -/
def lastOr (published : List (List UInt8)) (before : Option Node) : Option Node :=
  (published.head?.map Node.file).or before

/-! ## What a reader finds -/

section

variable {tmp path : Path} {t₀ : Tree} {published : List (List UInt8)} {s s' : Beside} {a : Act}

/-- What the file beside holds while it is written. -/
def Beside.Torn (tmp : Path) (s : Beside) : Prop :=
  ∀ bytes k, s.phase = .writing bytes k → s.tree.node tmp = some (.file (bytes.take k))

/-- An act other than a rename leaves the file, and the file beside holds what was written. -/
theorem BesideStep.quiet (hne : tmp ≠ path) (hparent : tmp ≠ path.dropLast)
    (h : BesideStep tmp path s a s') (ha : a ≠ .rename)
    (ht : s.Torn tmp) :
    s'.tree.node path = s.tree.node path ∧ s'.tree.node path.dropLast = s.tree.node path.dropLast ∧ s'.Torn tmp := by
  cases h with
  | create hwrite =>
    obtain ⟨-, hnode⟩ := write_ok hwrite
    refine ⟨by simp [hnode, Ne.symm hne], by simp [hnode, Ne.symm hparent], fun bytes k hphase => ?_⟩
    cases hphase
    simp [hnode]
  | append hwrite =>
    obtain ⟨-, hnode⟩ := write_ok hwrite
    refine ⟨by simp [hnode, Ne.symm hne], by simp [hnode, Ne.symm hparent], fun bytes k hphase => ?_⟩
    cases hphase
    simp [hnode]
  | rename _ _ => exact absurd rfl ha
  | stop => exact ⟨rfl, rfl, fun _ _ hphase => nomatch hphase⟩
  | elsewhere htmp hpath hdir => exact ⟨hpath, hdir, fun bytes k hphase => htmp.trans (ht bytes k hphase)⟩

theorem besideRun_holds (hne : tmp ≠ path) (hparent : tmp ≠ path.dropLast) (hpath : path ≠ [])
    (h : BesideRun tmp path t₀ published s) :
    s.tree.node path = lastOr published (t₀.node path) ∧
      s.tree.node path.dropLast = t₀.node path.dropLast ∧ s.Torn tmp := by
  induction h with
  | start => exact ⟨by simp [lastOr], rfl, fun _ _ hphase => nomatch hphase⟩
  | quiet _ hstep ha ih =>
    obtain ⟨hnode, hdir, ht⟩ := hstep.quiet hne hparent ha ih.2.2
    exact ⟨hnode.trans ih.1, hdir.trans ih.2.1, ht⟩
  | @renamed published t t' bytes k _ hstep ih =>
    cases hstep with
    | rename hk hrename =>
      obtain ⟨b, hb, -, hnode⟩ := rename_ok hrename
      have hwhole : t.node tmp = some (.file bytes) := by
        rw [ih.2.2 bytes k rfl, List.take_of_length_le hk]
      obtain rfl : bytes = b := by
        rw [hwhole] at hb
        simpa using hb
      refine ⟨by simp [hnode, lastOr], ?_, fun _ _ hphase => nomatch hphase⟩
      rw [hnode, if_neg (dropLast_ne hpath), if_neg (Ne.symm hparent)]
      exact ih.2.1

/-- A file in a directory is read. -/
theorem read_of_node {t : Tree} {p : Path} (hn : Nulless p) (hp : p ≠ []) (hdir : t.node p.dropLast = some .dir) :
    t.read (Path.buf p) =
      match t.node p with
      | none => .error .notFound
      | some .dir => .error .isADirectory
      | some (.file bytes) => .ok bytes := by
  unfold Tree.read
  rw [resolve_buf_ok hn hp hdir]
  rfl

/-- Where there was no file, a reader finds none until the first rename, and after that what
    was renamed last. -/
theorem besideRun_read (hne : tmp ≠ path) (hparent : tmp ≠ path.dropLast) (hn : Nulless path) (hpath : path ≠ [])
    (hdir : t₀.node path.dropLast = some .dir) (hnew : t₀.node path = none) (h : BesideRun tmp path t₀ published s) :
    s.tree.read (Path.buf path) = register published := by
  obtain ⟨hnode, hparentdir, -⟩ := besideRun_holds hne hparent hpath h
  rw [read_of_node hn hpath (hparentdir.trans hdir), hnode, hnew]
  cases published <;> rfl

end

end Nq.Files
