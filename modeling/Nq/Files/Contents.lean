/-
  Nq.Files.Contents — what holds of the contents of every file.

  A call leaves it where what it writes has it; what is moved or linked stood in a file already.
-/

import Nq.Files.Tree

namespace Nq.Files.Tree

/-- The contents of every file. -/
def All (P : List UInt8 → Prop) (t : Tree) : Prop := ∀ q bytes, t.node q = some (.file bytes) → P bytes

section

variable {P : List UInt8 → Prop} {t t' : Tree} {p src dst : PathBuf} {bytes : List UInt8}

theorem All.mono {Q : List UInt8 → Prop} (h : t.All P) (hPQ : ∀ bytes, P bytes → Q bytes) : t.All Q :=
  fun q bytes hq => hPQ bytes (h q bytes hq)

theorem All.read (h : t.All P) (hread : t.read p = .ok bytes) : P bytes := by
  obtain ⟨q, _, hnode⟩ := Sql.bind_ok.mp hread
  cases hq : t.node q with
  | none =>
    rw [hq] at hnode
    cases hnode
  | some node =>
    rw [hq] at hnode
    cases node with
    | dir => cases hnode
    | file found =>
      obtain rfl := Except.ok.inj hnode
      exact h q found hq

/-- Every change of an entry comes down to this. -/
theorem All.change (h : t.All P) {path : Path} {n : Option Node} (hn : ∀ bytes, n = some (.file bytes) → P bytes)
    (hchange : t.change path n = .ok t') : t'.All P := by
  unfold Tree.change at hchange
  split at hchange
  · rename_i hfree
    obtain rfl := Except.ok.inj hchange
    intro q bytes hq
    rw [node_set] at hq
    by_cases hqp : q = path
    · rw [if_pos hqp] at hq
      exact hn bytes hq
    · rw [if_neg hqp] at hq
      exact h q bytes hq
  · cases hchange

theorem All.write (h : t.All P) (hbytes : P bytes) (hwrite : t.write p bytes = .ok t') : t'.All P := by
  obtain ⟨q, _, hchange⟩ := Sql.bind_ok.mp hwrite
  exact h.change (fun b hb => by cases hb; exact hbytes) hchange

theorem All.writeNew (h : t.All P) (hbytes : P bytes) (hwrite : t.writeNew p bytes = .ok t') : t'.All P := by
  obtain ⟨q, _, hwrite⟩ := Sql.bind_ok.mp hwrite
  split at hwrite
  · cases hwrite
  · exact h.change (fun b hb => by cases hb; exact hbytes) hwrite

theorem All.removeFile (h : t.All P) (hremove : t.removeFile p = .ok t') : t'.All P := by
  obtain ⟨q, _, hremove⟩ := Sql.bind_ok.mp hremove
  split at hremove
  · cases hremove
  · cases hremove
  · exact h.change (fun _ hb => by cases hb) hremove

theorem All.rename (h : t.All P) (hrename : t.rename src dst = .ok t') : t'.All P := by
  obtain ⟨bytes, hread, hrename⟩ := Sql.bind_ok.mp hrename
  obtain ⟨u, hremove, hwrite⟩ := Sql.bind_ok.mp hrename
  exact (h.removeFile hremove).write (h.read hread) hwrite

theorem All.hardLink (h : t.All P) (hlink : t.hardLink src dst = .ok t') : t'.All P := by
  obtain ⟨bytes, hread, hwrite⟩ := Sql.bind_ok.mp hlink
  exact h.writeNew (h.read hread) hwrite

theorem All.mkdir (h : t.All P) (hmkdir : t.mkdir p = .ok t') : t'.All P := by
  obtain ⟨q, _, hmkdir⟩ := Sql.bind_ok.mp hmkdir
  split at hmkdir
  · cases hmkdir
  · exact h.change (fun _ hb => by cases hb) hmkdir

theorem All.createDirs : ∀ {rev : List Step} {t : Tree}, t.All P → (t.createDirs rev).1.All P := by
  intro rev
  induction rev with
  | nil => exact fun h => h
  | cons step before ih =>
    intro t h
    unfold Tree.createDirs
    dsimp only
    split
    · exact h.mkdir ‹_›
    · have hbefore := ih h
      split
      · rename_i heq
        rw [heq] at hbefore
        exact hbefore
      · rename_i heq
        rw [heq] at hbefore
        split
        · exact hbefore.mkdir ‹_›
        · exact hbefore
    · exact h

theorem All.createDirAll (h : t.All P) (p : PathBuf) : (t.createDirAll p).1.All P := h.createDirs

end

end Nq.Files.Tree
