/-
  Nq.Files.Lexical — where a written path leads.

  Some tree lets a walk end where its steps lead by their text (`exists_landing`). A path joined to a directory is one
  name below it where the text is a name (`join_name`); whatever the text, what it reaches below the directory
  it reaches through one of its components (`landing_below`).
-/

import Nq.Files.Footprint

namespace Nq.Files

open List

/-! ## Components -/

/-- A text that is one component. -/
structure IsName (s : String) : Prop where
  filled : s ≠ ""
  here : s ≠ "."
  up : s ≠ ".."
  slash : '/' ∉ s.toList

variable {c : Char} {cs part : List Char} {s x : String} {dir : Path} (p cur : Path)

theorem not_mem_splitOn (h : part ∈ cs.splitOn c) : c ∉ part := by
  induction cs generalizing part with
  | nil =>
    rw [splitOn_nil, mem_singleton] at h
    rw [h]
    exact not_mem_nil
  | cons x rest ih =>
    rw [splitOn_cons_eq_if_modifyHead] at h
    split at h
    · rcases mem_cons.mp h with e | h
      · rw [e]
        exact not_mem_nil
      · exact ih h
    · rename_i hx
      obtain ⟨first, others, e⟩ := exists_cons_of_ne_nil (splitOn_ne_nil c rest)
      rw [e, modifyHead_cons, mem_cons] at h
      rcases h with e' | h
      · rw [e', mem_cons, not_or]
        exact ⟨fun e => hx (beq_iff_eq.mpr e.symm), ih (e ▸ mem_cons_self)⟩
      · exact ih (e ▸ mem_cons_of_mem _ h)

theorem exists_mem_splitOn {x : Char} (hne : x ≠ c) (h : x ∈ cs) : ∃ part ∈ cs.splitOn c, x ∈ part := by
  induction cs with
  | nil => exact absurd h not_mem_nil
  | cons y rest ih =>
    rw [splitOn_cons_eq_if_modifyHead]
    obtain ⟨first, others, e⟩ := exists_cons_of_ne_nil (splitOn_ne_nil c rest)
    have hrest : x ∈ rest → ∃ part ∈ first :: others, x ∈ part := fun hx => e ▸ ih hx
    split
    · rename_i hy
      have hx : x ∈ rest := by
        rcases mem_cons.mp h with e' | hx
        · exact absurd (e'.trans (beq_iff_eq.mp hy)) hne
        · exact hx
      obtain ⟨part, hpart, hin⟩ := ih hx
      exact ⟨part, mem_cons_of_mem _ hpart, hin⟩
    · rw [e, modifyHead_cons]
      rcases mem_cons.mp h with e' | hx
      · exact ⟨y :: first, mem_cons_self, e' ▸ mem_cons_self⟩
      · obtain ⟨part, hpart, hin⟩ := hrest hx
        rcases mem_cons.mp hpart with e' | hpart
        · exact ⟨y :: first, mem_cons_self, mem_cons_of_mem _ (e' ▸ hin)⟩
        · exact ⟨part, mem_cons_of_mem _ hpart, hin⟩

theorem mem_components {c : String} (h : c ∈ components s) : c ≠ "" ∧ c ≠ "." ∧ '/' ∉ c.toList := by
  unfold components at h
  obtain ⟨hmem, hfilled⟩ := mem_filter.mp h
  obtain ⟨part, hpart, rfl⟩ := List.mem_map.mp hmem
  obtain ⟨hne, hhere⟩ := of_decide_eq_true hfilled
  exact ⟨hne, hhere, by rw [String.toList_ofList]; exact not_mem_splitOn hpart⟩

theorem mem_of_mem_splitOn {x : Char} (h : part ∈ cs.splitOn c) (hx : x ∈ part) : x ∈ cs := by
  induction cs generalizing part with
  | nil =>
    rw [splitOn_nil, mem_singleton] at h
    exact h ▸ hx
  | cons y rest ih =>
    rw [splitOn_cons_eq_if_modifyHead] at h
    split at h
    · rcases mem_cons.mp h with e | h
      · rw [e] at hx
        exact absurd hx not_mem_nil
      · exact mem_cons_of_mem _ (ih h hx)
    · obtain ⟨first, others, e⟩ := exists_cons_of_ne_nil (splitOn_ne_nil c rest)
      rw [e, modifyHead_cons, mem_cons] at h
      rcases h with e' | h
      · rw [e'] at hx
        rcases mem_cons.mp hx with e'' | hx
        · exact e'' ▸ mem_cons_self
        · exact mem_cons_of_mem _ (ih (e ▸ mem_cons_self) hx)
      · exact mem_cons_of_mem _ (ih (e ▸ mem_cons_of_mem _ h) hx)

theorem nul_of_components {c : String} (h : c ∈ components s) (hnul : '\x00' ∈ c.toList) : '\x00' ∈ s.toList := by
  obtain ⟨part, hpart, rfl⟩ := List.mem_map.mp (mem_filter.mp h).1
  rw [String.toList_ofList] at hnul
  exact mem_of_mem_splitOn hpart hnul

theorem IsName.components (h : IsName s) : Files.components s = [s] := by
  unfold Files.components
  rw [splitOn_eq_singleton h.slash, map_singleton, String.ofList_toList, filter_singleton]
  simp [h.filled, h.here]

theorem IsName.relative (h : IsName s) : "/".toList.isPrefixOf s.toList = false := by
  by_contra hs
  obtain ⟨rest, hrest⟩ := isPrefixOf_iff_prefix.mp (Bool.not_eq_false _ ▸ hs)
  exact h.slash (hrest ▸ mem_append_left _ (by simp))

theorem buf_append (r : Path) : Path.buf (p ++ r) = Path.buf p ++ Path.buf r := map_append

theorem child_buf (name : String) : PathBuf.child (Path.buf p) name = Path.buf (p ++ [name]) :=
  (buf_append p [name]).symm

/-- A name joined to a directory is the entry of that name in it. -/
theorem join_name (h : IsName s) : join dir s = Path.buf (dir ++ [s]) := by
  unfold join
  rw [h.relative, if_neg Bool.false_ne_true, h.components, buf_append]
  have : step s = .name s := if_neg h.up
  rw [map_singleton, this]
  rfl

/-! ## Landings -/

/-- Where the steps lead from a directory. -/
def landing (cur : Path) (p : PathBuf) : Path := p.foldl Tree.next cur

theorem landing_buf (p : Path) : landing cur (Path.buf p) = cur ++ p := by
  induction p generalizing cur with
  | nil => exact (append_nil cur).symm
  | cons s rest ih =>
    show landing (cur ++ [s]) (Path.buf rest) = _
    rw [ih, append_assoc]
    rfl

theorem landing_append (p r : PathBuf) : landing cur (p ++ r) = landing (landing cur p) r := foldl_append

/-- What is reached below a directory, and was not there before, is reached through a name of the steps. -/
theorem landing_below {base : Path} : ∀ {p : PathBuf} {cur : Path}, base ++ [x] <+: landing cur p →
    ¬base ++ [x] <+: cur → Step.name x ∈ p := by
  intro p
  induction p with
  | nil => exact fun h hn => absurd h hn
  | cons s rest ih =>
    intro cur h hn
    by_cases hnext : base ++ [x] <+: Tree.next cur s
    · cases s with
      | up => exact absurd (hnext.trans (List.dropLast_prefix cur)) hn
      | name y =>
        rcases prefix_concat_iff.mp hnext with e | hcur
        · have hx : x = y := by
            have := congrArg List.getLast? e
            rw [getLast?_concat, getLast?_concat] at this
            exact Option.some.inj this
          rw [hx]
          exact mem_cons_self
        · exact absurd hcur hn
    · exact mem_cons_of_mem _ (ih h hnext)

theorem not_prefix_self (dir : Path) (x : String) : ¬dir ++ [x] <+: dir := by
  intro h
  have := h.length_le
  rw [length_append, length_singleton] at this
  omega

/-- Below a directory a joined text leads through one of its components. -/
theorem join_below (h : dir ++ [x] <+: landing [] (join dir s)) : x ∈ components s ∧ x ≠ ".." := by
  have hname : ∀ {cs : List String}, Step.name x ∈ cs.map step → x ∈ cs ∧ x ≠ ".." := by
    intro cs hx
    obtain ⟨c, hc, e⟩ := List.mem_map.mp hx
    unfold step at e
    split at e
    · cases e
    · rename_i hup
      cases e
      exact ⟨hc, hup⟩
  unfold join at h
  split at h
  · exact hname (landing_below h (fun hnil => absurd (prefix_nil.mp hnil) (by simp)))
  · rw [landing_append, landing_buf, nil_append] at h
    exact hname (landing_below h (not_prefix_self dir x))

/-! ## Trees in which a path leads there -/

/-- Every entry is a directory. -/
def Tree.OnlyDirs (t : Tree) : Prop := ∀ p bytes, t.node p ≠ some (.file bytes)

theorem Tree.OnlyDirs.exists_dir {t : Tree} (h : t.OnlyDirs) (p : Path) :
    ∃ t' : Tree, t'.OnlyDirs ∧ (∀ q, t.node q = some .dir → t'.node q = some .dir) ∧ t'.node p = some .dir := by
  induction p using List.reverseRecOn with
  | nil => exact ⟨t, h, fun _ hq => hq, Tree.node_root t⟩
  | append_singleton p s ih =>
    obtain ⟨u, hu, hkept, hp⟩ := ih
    by_cases hs : u.node (p ++ [s]) = some .dir
    · exact ⟨u, hu, hkept, hs⟩
    · have hfree : u.Free (p ++ [s]) := ⟨by simp, by rw [dropLast_concat]; exact hp, hs⟩
      refine ⟨u.set (p ++ [s]) (some .dir) hfree, fun q bytes => ?_, fun q hq => ?_, by rw [Tree.node_set, if_pos rfl]⟩
      · rw [Tree.node_set]
        split
        · exact fun e => nomatch e
        · exact hu q bytes
      · rw [Tree.node_set]
        split
        · rfl
        · exact hkept q hq

theorem Tree.OnlyDirs.exists_walk : ∀ {p : PathBuf} {t : Tree} {cur : Path}, t.OnlyDirs → t.node cur = some .dir →
    ∃ t' : Tree, t'.OnlyDirs ∧ (∀ q, t.node q = some .dir → t'.node q = some .dir) ∧ t'.walk cur p =
      .ok (landing cur p) ∧ t'.node (landing cur p) = some .dir := by
  intro p
  induction p with
  | nil => exact fun h hcur => ⟨_, h, fun _ hq => hq, rfl, hcur⟩
  | cons s rest ih =>
    intro t cur h hcur
    obtain ⟨u, hu, hkept, hnext⟩ := h.exists_dir (Tree.next cur s)
    obtain ⟨t', ht', hkept', hwalk, hdir⟩ := ih hu hnext
    refine ⟨t', ht', fun q hq => hkept' q (hkept q hq), ?_, hdir⟩
    unfold Tree.walk
    rw [hkept' cur (hkept cur hcur)]
    exact hwalk

theorem empty_onlyDirs : Tree.empty.OnlyDirs := by
  intro p bytes h
  by_cases hp : p = []
  · rw [hp] at h
    cases h
  · unfold Tree.node nodeAt at h
    rw [if_neg hp] at h
    cases h

/-- Every path without NUL leads to a directory of some tree. -/
theorem exists_landing {p : PathBuf} (hn : p.any Step.nul = false) :
    ∃ t : Tree, t.resolve p = .ok (landing [] p) ∧ t.node (landing [] p) = some .dir := by
  obtain ⟨t, _, _, hwalk, hdir⟩ : ∃ t' : Tree, t'.OnlyDirs ∧
    (∀ q, Tree.empty.node q = some .dir → t'.node q = some .dir) ∧
      t'.walk [] p = .ok (landing [] p) ∧ t'.node (landing [] p) = some .dir :=
        empty_onlyDirs.exists_walk (Tree.node_root _)
  refine ⟨t, ?_, hdir⟩
  unfold Tree.resolve
  rw [hn, if_neg Bool.false_ne_true, hwalk]

end Nq.Files
