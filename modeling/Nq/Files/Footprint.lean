/-
  Nq.Files.Footprint — what a call reads of a tree, and what it changes.

  Two trees that agree on a region (`SameOn`), closed under prefixes, answer a call on a path of
  the region alike and agree on the region afterwards (`read_same`, `write_alike`, …). What a call
  changes is said once for each call (`write_ok`, `createDirAll_cases`, …): the entry at its path,
  and for a directory the missing ones that lead to it.
-/

import Nq.Files.Tree

namespace Nq.Files

open List

/-- A set of paths with the directories that lead to them. -/
structure Region where
  has : Path → Prop
  closed : ∀ {p q}, has p → q <+: p → has q

namespace Tree

variable {t t' u u' : Tree} {p q src dst : Path} {bytes : List UInt8}

/-! ## Paths without `..` -/

variable {cur : Path} {n : Option Node}

theorem walk_buf_eq (h : t.walk cur (Path.buf p) = .ok q) : q = cur ++ p := by
  induction p generalizing cur with
  | nil =>
    cases h
    exact (append_nil _).symm
  | cons s rest ih =>
    unfold Path.buf walk at h
    rw [map_cons] at h
    cases hcur : t.node cur with
    | none =>
      simp only [hcur] at h
      cases h
    | some n =>
      cases n with
      | file _ =>
        simp only [hcur] at h
        cases h
      | dir =>
        simp only [hcur] at h
        rw [ih h]
        exact append_assoc _ _ _

theorem resolve_buf_eq (h : t.resolve (Path.buf p) = .ok q) : q = p := by
  unfold resolve at h
  split at h
  · cases h
  · exact walk_buf_eq h

/-- Below a directory every step of a path without NUL leads on. -/
theorem walk_buf_ok (h : ∀ r, r <+: p → r ≠ p → t.node (cur ++ r) = some .dir) :
    t.walk cur (Path.buf p) = .ok (cur ++ p) := by
  induction p generalizing cur with
  | nil => exact congrArg Except.ok (append_nil cur).symm
  | cons s rest ih =>
    unfold Path.buf walk
    rw [map_cons]
    have hcur : t.node cur = some .dir := by
      have := h [] nil_prefix (cons_ne_nil s rest).symm
      rwa [append_nil] at this
    simp only [hcur]
    have hrest : ∀ r, r <+: rest → r ≠ rest → t.node ((cur ++ [s]) ++ r) = some .dir := by
      intro r hr hne
      rw [append_assoc]
      exact h (s :: r) (cons_prefix_cons.mpr ⟨rfl, hr⟩) fun e => hne (List.cons.inj e).2
    have := ih hrest
    rw [append_assoc] at this
    exact this

/-- Every directory on the way to an entry is there. -/
theorem dir_of_prefix (h : t.node p ≠ none) : ∀ {r : Path}, r <+: p → r ≠ p → t.node r = some .dir := by
  intro r hr hne
  induction p using List.reverseRecOn with
  | nil => exact absurd (prefix_nil.mp hr) hne
  | append_singleton p s ih =>
    have hdir := t.dir_of_node h
    rcases prefix_concat_iff.mp hr with e | hr
    · exact absurd e hne
    · by_cases e : r = p
      · rw [e]
        exact hdir
      · exact ih (by rw [hdir]; exact Option.some_ne_none _) hr e

def Nulless (p : Path) : Prop := ∀ s ∈ p, '\x00' ∉ s.toList

instance (p : Path) : Decidable (Nulless p) := inferInstanceAs (Decidable (∀ _ ∈ _, _))

theorem buf_nul : (Path.buf p).any Step.nul = true ↔ ¬Nulless p := by
  unfold Path.buf Nulless
  simp [Step.nul]

theorem resolve_buf_ok (hn : Nulless p) (hp : p ≠ [])
    (h : t.node p.dropLast = some .dir) : t.resolve (Path.buf p) = .ok p := by
  unfold resolve
  rw [if_neg fun e => buf_nul.mp e hn]
  have hway : ∀ r, r <+: p → r ≠ p → t.node ([] ++ r) = some .dir := by
    intro r hr hne
    rw [nil_append]
    by_cases e : r = p.dropLast
    · rw [e]
      exact h
    have hr' : r <+: p.dropLast := by
      rw [← dropLast_append_getLast hp] at hr
      rcases prefix_concat_iff.mp hr with e' | hr
      · exact absurd (e'.trans (dropLast_append_getLast hp)) hne
      · exact hr
    exact dir_of_prefix (by rw [h]; exact Option.some_ne_none _) hr' e
  exact walk_buf_ok hway

theorem mem_children {name : String} : name ∈ t.children p ↔ t.node (p ++ [name]) ≠ none := by
  unfold children node nodeAt
  rw [if_neg (by simp), mem_toFinset, mem_filterMap, ne_eq, Option.map_eq_none_iff, ← ne_eq, Option.ne_none_iff_exists']
  constructor
  · intro h
    obtain ⟨e, he, hname⟩ := h
    by_cases hp : e.path.dropLast = p
    · rw [if_pos hp] at hname
      obtain ⟨before, hpath⟩ := getLast?_eq_some_iff.mp hname
      rw [hpath, dropLast_concat] at hp
      exact ⟨e, Sql.Table.get_eq_some.mpr ⟨he, by rw [hpath, hp]⟩⟩
    · rw [if_neg hp] at hname
      cases hname
  · intro h
    obtain ⟨e, he⟩ := h
    obtain ⟨hmem, hpath⟩ := Sql.Table.get_eq_some.mp he
    exact ⟨e, hmem, by rw [hpath, dropLast_concat, if_pos rfl, getLast?_concat]⟩

/-! ## What a call changes -/

theorem change_ok (h : t.change p n = .ok t') : t.Free p ∧ ∀ q, t'.node q = if q = p then n else t.node q := by
  unfold change at h
  split at h
  · cases h
    exact ⟨‹_›, fun q => node_set _ _ _ _ q⟩
  · cases h

theorem change_of_free (h : t.Free p) : ∃ t', t.change p n = .ok t' := ⟨_, dif_pos h⟩

/-- `fs::write` puts the file at its path. -/
theorem write_ok (h : t.write (Path.buf p) bytes = .ok t') :
    t.Free p ∧ ∀ q, t'.node q = if q = p then some (.file bytes) else t.node q := by
  obtain ⟨q, hq, h⟩ := Sql.bind_ok.mp h
  cases resolve_buf_eq hq
  exact change_ok h

theorem writeNew_ok (h : t.writeNew (Path.buf p) bytes = .ok t') :
    t.node p = none ∧ ∀ q, t'.node q = if q = p then some (.file bytes) else t.node q := by
  obtain ⟨q, hq, h⟩ := Sql.bind_ok.mp h
  cases resolve_buf_eq hq
  cases hp : t.node p with
  | none =>
    rw [hp] at h
    exact ⟨rfl, (change_ok h).2⟩
  | some n =>
    rw [hp] at h
    cases h

theorem mkdir_ok (h : t.mkdir (Path.buf p) = .ok t') :
    t.node p = none ∧ t.node p.dropLast = some .dir ∧ ∀ q, t'.node q = if q = p then some .dir else t.node q := by
  obtain ⟨q, hq, h⟩ := Sql.bind_ok.mp h
  cases resolve_buf_eq hq
  cases hp : t.node p with
  | none =>
    rw [hp] at h
    obtain ⟨hfree, hnode⟩ := change_ok h
    exact ⟨rfl, hfree.2.1, hnode⟩
  | some n =>
    rw [hp] at h
    cases h

theorem read_ok (h : t.read (Path.buf p) = .ok bytes) : t.node p = some (.file bytes) := by
  obtain ⟨q, hq, h⟩ := Sql.bind_ok.mp h
  cases resolve_buf_eq hq
  cases hp : t.node p with
  | none =>
    rw [hp] at h
    cases h
  | some n =>
    rw [hp] at h
    cases n with
    | dir => cases h
    | file b =>
      cases h
      rfl

theorem removeFile_ok (h : t.removeFile (Path.buf p) = .ok t') :
    (∃ b, t.node p = some (.file b)) ∧ ∀ q, t'.node q = if q = p then none else t.node q := by
  obtain ⟨q, hq, h⟩ := Sql.bind_ok.mp h
  cases resolve_buf_eq hq
  cases hp : t.node p with
  | none =>
    rw [hp] at h
    cases h
  | some n =>
    rw [hp] at h
    cases n with
    | dir => cases h
    | file b => exact ⟨⟨b, rfl⟩, (change_ok h).2⟩

/-- A rename moves the file. -/
theorem rename_ok (h : t.rename (Path.buf src) (Path.buf dst) = .ok t') :
    ∃ b, t.node src = some (.file b) ∧ t.node dst ≠ some .dir ∧
      ∀ q, t'.node q = if q = dst then some (.file b) else if q = src then none else t.node q := by
  obtain ⟨b, hb, h⟩ := Sql.bind_ok.mp h
  obtain ⟨u, hu, h⟩ := Sql.bind_ok.mp h
  have hsrc := read_ok hb
  obtain ⟨_, hremoved⟩ := removeFile_ok hu
  obtain ⟨hfree, hwritten⟩ := write_ok h
  refine ⟨b, hsrc, fun hdst => ?_, fun q => ?_⟩
  · have hu := hfree.2.2
    rw [hremoved] at hu
    split at hu
    · rename_i e
      rw [e, hsrc] at hdst
      cases hdst
    · exact hu hdst
  · rw [hwritten, hremoved]

/-- A link is a file with the same bytes, where there was nothing. -/
theorem hardLink_ok (h : t.hardLink (Path.buf src) (Path.buf dst) = .ok t') :
    ∃ b, t.node src = some (.file b) ∧ t.node dst = none ∧
      ∀ q, t'.node q = if q = dst then some (.file b) else t.node q := by
  obtain ⟨b, hb, h⟩ := Sql.bind_ok.mp h
  obtain ⟨hnone, hnode⟩ := writeNew_ok h
  exact ⟨b, read_ok hb, hnone, hnode⟩

/-! ## Calls that succeed -/

/-- In a directory a file can be written where there is no directory. -/
theorem write_of_free (hn : Nulless p) (h : t.Free p) : ∃ t', t.write (Path.buf p) bytes = .ok t' := by
  obtain ⟨t', ht'⟩ : ∃ t', t.change p (some (.file bytes)) = .ok t' := change_of_free h
  exact ⟨t', Sql.bind_ok.mpr ⟨p, resolve_buf_ok hn h.1 h.2.1, ht'⟩⟩

theorem free_of_file (h : t.node p = some (.file bytes)) : t.Free p := by
  have hp : p ≠ [] := by
    rintro rfl
    cases h
  have hdir : t.node p.dropLast = some .dir := by
    refine dir_of_prefix (by rw [h]; exact Option.some_ne_none _) (List.dropLast_prefix p) (dropLast_ne hp)
  exact ⟨hp, hdir, by rw [h]; exact nofun⟩

/-- A file is renamed to where there is no directory. -/
theorem rename_of_free (hs : Nulless src) (hd : Nulless dst)
    (hsrc : t.node src = some (.file bytes)) (hdst : t.Free dst) :
    ∃ t', t.rename (Path.buf src) (Path.buf dst) = .ok t' := by
  have hfree := free_of_file hsrc
  have hresolve := resolve_buf_ok hs hfree.1 hfree.2.1
  obtain ⟨u, hu⟩ : ∃ u, t.change src none = .ok u := change_of_free hfree
  have hread : t.read (Path.buf src) = .ok bytes := Sql.bind_ok.mpr ⟨src, hresolve, by rw [hsrc]⟩
  have hremove : t.removeFile (Path.buf src) = .ok u := Sql.bind_ok.mpr ⟨src, hresolve, by rw [hsrc]; exact hu⟩
  have hnode := (change_ok hu).2
  have hfree' : u.Free dst := by
    refine ⟨hdst.1, ?_, ?_⟩
    · have hne : dst.dropLast ≠ src := by
        intro e
        rw [← e, hdst.2.1] at hsrc
        cases hsrc
      rw [hnode, if_neg hne]
      exact hdst.2.1
    · rw [hnode]
      split
      · exact nofun
      · exact hdst.2.2
  obtain ⟨t', ht'⟩ : ∃ t', u.write (Path.buf dst) bytes = .ok t' := write_of_free hd hfree'
  exact ⟨t', Sql.bind_ok.mpr ⟨bytes, hread, Sql.bind_ok.mpr ⟨u, hremove, ht'⟩⟩⟩

/-- Nothing changed, or a missing directory was made. -/
def Grown (t t' : Tree) (p q : Path) : Prop :=
  t'.node q = t.node q ∨ (q <+: p ∧ t.node q = none ∧ t'.node q = some .dir)

theorem Grown.refl (t : Tree) (p q : Path) : Grown t t p q := Or.inl rfl

theorem Grown.trans (h : Grown t t' p q) (h' : Grown t' u p q) : Grown t u p q := by
  rcases h with h | ⟨hq, hnone, hdir⟩
  · rcases h' with h' | ⟨hq, hnone, hdir⟩
    · exact Or.inl (h'.trans h)
    · exact Or.inr ⟨hq, h ▸ hnone, hdir⟩
  · rcases h' with h' | ⟨_, hnone', _⟩
    · exact Or.inr ⟨hq, hnone, h'.trans hdir⟩
    · rw [hdir] at hnone'
      cases hnone'

theorem Grown.longer {r : Path} (h : Grown t t' p q) (hr : p <+: r) : Grown t t' r q := by
  rcases h with h | ⟨hq, h⟩
  · exact Or.inl h
  · exact Or.inr ⟨hq.trans hr, h⟩

theorem mkdir_grown (h : t.mkdir (Path.buf p) = .ok t') (q : Path) : Grown t t' p q := by
  obtain ⟨hnone, _, hnode⟩ := mkdir_ok h
  by_cases e : q = p
  · subst e
    exact Or.inr ⟨prefix_refl _, hnone, by rw [hnode, if_pos rfl]⟩
  · exact Or.inl (by rw [hnode, if_neg e])

theorem isDir_buf (h : t.isDir (Path.buf p) = true) : t.node p = some .dir := by
  unfold isDir at h
  cases hr : t.resolve (Path.buf p) with
  | error _ =>
    rw [hr] at h
    cases h
  | ok q =>
    rw [hr] at h
    cases resolve_buf_eq hr
    exact of_decide_eq_true h

theorem createDirs_grown (t : Tree) : ∀ rev : Path, (∀ q, Grown t (t.createDirs (rev.map .name)).1 rev.reverse q) ∧
    ((t.createDirs (rev.map .name)).2 = .ok () → (t.createDirs (rev.map .name)).1.node rev.reverse = some .dir) := by
  intro rev
  induction rev with
  | nil => exact ⟨fun q => Grown.refl t _ q, fun _ => node_root t⟩
  | cons s before ih =>
    obtain ⟨ihgrown, ihdir⟩ := ih
    have hbuf : ((Step.name s :: before.map Step.name).reverse : PathBuf) = Path.buf (s :: before).reverse := by
      rw [Path.buf, map_reverse]
      rfl
    have hshort : before.reverse <+: (s :: before).reverse := by
      rw [reverse_cons]
      exact prefix_append _ _
    have hmade : ∀ {t t' : Tree}, t.mkdir (Path.buf (s :: before).reverse) = .ok t' →
        t'.node (s :: before).reverse = some .dir := by
      intro t t' h
      rw [(mkdir_ok h).2.2, if_pos rfl]
    rw [map_cons]
    unfold createDirs
    simp only [hbuf]
    cases hmk : t.mkdir (Path.buf (s :: before).reverse) with
    | ok t₁ => exact ⟨mkdir_grown hmk, fun _ => hmade hmk⟩
    | error e =>
      have hother : ∀ {x : Except IoError Unit},
        x = (if t.isDir (Path.buf (s :: before).reverse) then .ok () else .error e) →
          (∀ q, Grown t t (s :: before).reverse q) ∧ (x = .ok () → t.node (s :: before).reverse = some .dir) := by
        intro x hx
        refine ⟨fun q => Grown.refl t _ q, fun h => ?_⟩
        rw [hx] at h
        split at h
        · exact isDir_buf ‹_›
        · cases h
      cases e with
      | notADirectory => exact hother rfl
      | isADirectory => exact hother rfl
      | alreadyExists => exact hother rfl
      | invalidInput => exact hother rfl
      | notFound =>
        generalize hmake : t.createDirs (before.map Step.name) = made at ihgrown ihdir
        obtain ⟨t₁, made⟩ := made
        cases made with
        | error e => exact ⟨fun q => (ihgrown q).longer hshort, fun h => nomatch h⟩
        | ok _ =>
          dsimp only
          cases hmk₂ : t₁.mkdir (Path.buf (s :: before).reverse) with
          | ok t₂ => exact ⟨fun q => ((ihgrown q).longer hshort).trans (mkdir_grown hmk₂ q), fun _ => hmade hmk₂⟩
          | error e =>
            refine ⟨fun q => (ihgrown q).longer hshort, fun h => ?_⟩
            dsimp only at h
            split at h
            · exact isDir_buf ‹_›
            · cases h

theorem buf_reverse (p : Path) : (Path.buf p).reverse = p.reverse.map .name := (map_reverse ..).symm

/-- `create_dir_all` makes the directories that are missing. -/
theorem createDirAll_grown (t : Tree) (p q : Path) : Grown t (t.createDirAll (Path.buf p)).1 p q := by
  unfold createDirAll
  rw [buf_reverse]
  have := (createDirs_grown t p.reverse).1 q
  rwa [reverse_reverse] at this

theorem createDirAll_dir (h : (t.createDirAll (Path.buf p)).2 = .ok ()) :
    (t.createDirAll (Path.buf p)).1.node p = some .dir := by
  unfold createDirAll at h ⊢
  rw [buf_reverse] at h ⊢
  have := (createDirs_grown t p.reverse).2 h
  rwa [reverse_reverse] at this

/-! ## Regions -/

def SameOn (R : Region) (t t' : Tree) : Prop := ∀ q, R.has q → t.node q = t'.node q

/-- Both fail with one error, or both succeed and leave trees that agree. -/
def Alike (R : Region) (x y : Except IoError Tree) : Prop :=
  (∃ e, x = .error e ∧ y = .error e) ∨ ∃ u u', x = .ok u ∧ y = .ok u' ∧ SameOn R u u'

variable {R : Region}

theorem walk_same (h : SameOn R t t') : ∀ {p cur : Path}, R.has (cur ++ p) →
    t.walk cur (Path.buf p) = t'.walk cur (Path.buf p) := by
  intro p
  induction p with
  | nil => exact fun _ => rfl
  | cons s rest ih =>
    intro cur hp
    unfold Path.buf walk
    rw [map_cons]
    have hcur := h cur (R.closed hp (prefix_append _ _))
    simp only [hcur]
    cases t'.node cur with
    | none => rfl
    | some n =>
      cases n with
      | file _ => rfl
      | dir =>
        have hrest : R.has ((cur ++ [s]) ++ rest) := by rwa [append_assoc]
        exact ih hrest

theorem resolve_same (h : SameOn R t t') (hp : R.has p) : t.resolve (Path.buf p) = t'.resolve (Path.buf p) := by
  unfold resolve
  rw [walk_same h (by rwa [nil_append])]

theorem read_same (h : SameOn R t t') (hp : R.has p) : t.read (Path.buf p) = t'.read (Path.buf p) := by
  unfold read
  rw [← resolve_same h hp]
  cases hq : t.resolve (Path.buf p) with
  | error e => rfl
  | ok q =>
    cases resolve_buf_eq hq
    simp only [bind, Except.bind]
    rw [h p hp]

theorem readDir_same (h : SameOn R t t') (hp : R.has p) (hc : ∀ name, R.has (p ++ [name])) :
    t.readDir (Path.buf p) = t'.readDir (Path.buf p) := by
  have hchildren : t.children p = t'.children p := by
    ext name
    rw [mem_children, mem_children, h _ (hc name)]
  unfold readDir
  rw [← resolve_same h hp]
  cases hq : t.resolve (Path.buf p) with
  | error e => rfl
  | ok q =>
    cases resolve_buf_eq hq
    simp only [bind, Except.bind]
    rw [h p hp, hchildren]

theorem pathExists_same (h : SameOn R t t') (hp : R.has p) :
    t.pathExists (Path.buf p) = t'.pathExists (Path.buf p) := by
  unfold pathExists
  rw [← resolve_same h hp]
  cases hq : t.resolve (Path.buf p) with
  | error e => rfl
  | ok q =>
    cases resolve_buf_eq hq
    simp only
    rw [h p hp]

theorem isDir_same (h : SameOn R t t') (hp : R.has p) : t.isDir (Path.buf p) = t'.isDir (Path.buf p) := by
  unfold isDir
  rw [← resolve_same h hp]
  cases hq : t.resolve (Path.buf p) with
  | error e => rfl
  | ok q =>
    cases resolve_buf_eq hq
    simp only
    rw [h p hp]

theorem change_alike (h : SameOn R t t') (hp : R.has p) (n : Option Node) : Alike R (t.change p n) (t'.change p n) := by
  have hnode := h p hp
  have hparent := h p.dropLast (R.closed hp (List.dropLast_prefix p))
  unfold change
  by_cases hfree : t.Free p
  · have hfree' : t'.Free p := by
      unfold Free at hfree ⊢
      rwa [← hnode, ← hparent]
    rw [dif_pos hfree, dif_pos hfree']
    refine Or.inr ⟨_, _, rfl, rfl, fun q hq => ?_⟩
    rw [node_set, node_set, h q hq]
  · have hfree' : ¬t'.Free p := by
      unfold Free at hfree ⊢
      rwa [← hnode, ← hparent]
    rw [dif_neg hfree, dif_neg hfree', hnode]
    exact Or.inl ⟨_, rfl, rfl⟩

/-- A call that resolves its path and then looks at the entry there. -/
theorem resolved_alike {f f' : Path → Except IoError Tree} (h : SameOn R t t') (hp : R.has p)
    (hf : Alike R (f p) (f' p)) :
    Alike R (t.resolve (Path.buf p) >>= f) (t'.resolve (Path.buf p) >>= f') := by
  rw [← resolve_same h hp]
  cases hq : t.resolve (Path.buf p) with
  | error e => exact Or.inl ⟨e, rfl, rfl⟩
  | ok q =>
    cases resolve_buf_eq hq
    exact hf

theorem mkdir_alike (h : SameOn R t t') (hp : R.has p) : Alike R (t.mkdir (Path.buf p)) (t'.mkdir (Path.buf p)) := by
  unfold mkdir
  refine resolved_alike h hp ?_
  rw [← h p hp]
  cases t.node p with
  | none => exact change_alike h hp _
  | some _ => exact Or.inl ⟨_, rfl, rfl⟩

theorem write_alike (h : SameOn R t t') (hp : R.has p) :
    Alike R (t.write (Path.buf p) bytes) (t'.write (Path.buf p) bytes) := by
  unfold write
  exact resolved_alike h hp (change_alike h hp _)

theorem writeNew_alike (h : SameOn R t t') (hp : R.has p) :
    Alike R (t.writeNew (Path.buf p) bytes) (t'.writeNew (Path.buf p) bytes) := by
  unfold writeNew
  refine resolved_alike h hp ?_
  rw [← h p hp]
  cases t.node p with
  | none => exact change_alike h hp _
  | some _ => exact Or.inl ⟨_, rfl, rfl⟩

theorem removeFile_alike (h : SameOn R t t') (hp : R.has p) :
    Alike R (t.removeFile (Path.buf p)) (t'.removeFile (Path.buf p)) := by
  unfold removeFile
  refine resolved_alike h hp ?_
  rw [← h p hp]
  cases t.node p with
  | none => exact Or.inl ⟨_, rfl, rfl⟩
  | some n =>
    cases n with
    | dir => exact Or.inl ⟨_, rfl, rfl⟩
    | file _ => exact change_alike h hp _

theorem rename_alike (h : SameOn R t t') (hsrc : R.has src) (hdst : R.has dst) :
    Alike R (t.rename (Path.buf src) (Path.buf dst)) (t'.rename (Path.buf src) (Path.buf dst)) := by
  unfold rename
  rw [← read_same h hsrc]
  cases t.read (Path.buf src) with
  | error e => exact Or.inl ⟨e, rfl, rfl⟩
  | ok bytes =>
    simp only [bind, Except.bind]
    rcases removeFile_alike h hsrc with ⟨e, he, he'⟩ | ⟨u, u', hu, hu', hsame⟩
    · rw [he, he']
      exact Or.inl ⟨e, rfl, rfl⟩
    · rw [hu, hu']
      exact write_alike hsame hdst

theorem hardLink_alike (h : SameOn R t t') (hsrc : R.has src) (hdst : R.has dst) :
    Alike R (t.hardLink (Path.buf src) (Path.buf dst)) (t'.hardLink (Path.buf src) (Path.buf dst)) := by
  unfold hardLink
  rw [← read_same h hsrc]
  cases t.read (Path.buf src) with
  | error e => exact Or.inl ⟨e, rfl, rfl⟩
  | ok bytes => exact writeNew_alike h hdst

theorem createDirs_same : ∀ {rev : Path} {t t' : Tree}, SameOn R t t' → R.has rev.reverse →
    (t.createDirs (rev.map .name)).2 = (t'.createDirs (rev.map .name)).2 ∧
      SameOn R (t.createDirs (rev.map .name)).1 (t'.createDirs (rev.map .name)).1 := by
  intro rev
  induction rev with
  | nil => exact fun h _ => ⟨rfl, h⟩
  | cons s before ih =>
    intro t t' h hp
    have hbuf : ((Step.name s :: before.map Step.name).reverse : PathBuf) = Path.buf (s :: before).reverse := by
      rw [Path.buf, map_reverse]
      rfl
    have hbefore : R.has before.reverse := R.closed hp (by rw [reverse_cons]; exact prefix_append _ _)
    rw [map_cons]
    unfold createDirs
    simp only [hbuf]
    rcases mkdir_alike h hp with ⟨e, he, he'⟩ | ⟨u, u', hu, hu', hsame⟩
    · rw [he, he']
      have hother : (if t.isDir (Path.buf (s :: before).reverse) = true then Except.ok () else Except.error e) =
          (if t'.isDir (Path.buf (s :: before).reverse) = true then Except.ok () else .error e) := by
            rw [isDir_same h hp]
      cases e with
      | notADirectory => exact ⟨hother, h⟩
      | isADirectory => exact ⟨hother, h⟩
      | alreadyExists => exact ⟨hother, h⟩
      | invalidInput => exact ⟨hother, h⟩
      | notFound =>
        obtain ⟨hresult, hsame⟩ := ih h hbefore
        generalize t.createDirs (before.map Step.name) = made at hresult hsame
        generalize t'.createDirs (before.map Step.name) = made' at hresult hsame
        obtain ⟨u, r⟩ := made
        obtain ⟨u', r'⟩ := made'
        cases hresult
        cases r with
        | error e => exact ⟨rfl, hsame⟩
        | ok _ =>
          dsimp only at hsame ⊢
          rcases mkdir_alike hsame hp with ⟨e, he, he'⟩ | ⟨w, w', hw, hw', hsame'⟩
          · rw [he, he', isDir_same hsame hp]
            exact ⟨rfl, hsame⟩
          · rw [hw, hw']
            exact ⟨rfl, hsame'⟩
    · rw [hu, hu']
      exact ⟨rfl, hsame⟩

theorem createDirAll_same (h : SameOn R t t') (hp : R.has p) :
    (t.createDirAll (Path.buf p)).2 = (t'.createDirAll (Path.buf p)).2 ∧
      SameOn R (t.createDirAll (Path.buf p)).1 (t'.createDirAll (Path.buf p)).1 := by
  unfold createDirAll
  rw [buf_reverse]
  exact createDirs_same h (by rwa [reverse_reverse])

end Tree

/-! ## Computations that stay in their places -/

/-- The places with what is below them and what leads to them. -/
def Region.about (places : Path → Prop) : Region where
  has := fun q => ∃ p, places p ∧ (q <+: p ∨ p <+: q)
  closed := by
    intro p q h hq
    obtain ⟨o, ho, h | h⟩ := h
    · exact ⟨o, ho, Or.inl (hq.trans h)⟩
    · exact ⟨o, ho, prefix_or_prefix_of_prefix hq h⟩

/-- What comes of it depends on the places and what leads to them alone, and outside of them it makes at most
    the missing directories that lead to them. -/
structure StaysIn {α : Type} (places : Path → Prop) (f : Tree → Tree × α) : Prop where
  determined : ∀ t t', Tree.SameOn (.about places) t t' → (f t).2 = (f t').2
  same : ∀ t t', Tree.SameOn (.about places) t t' → Tree.SameOn (.about places) (f t).1 (f t').1
  kept : ∀ t q, (∀ p, places p → ¬p <+: q) →
    (f t).1.node q = t.node q ∨ ((∃ p, places p ∧ q <+: p) ∧ t.node q = none ∧ (f t).1.node q = some .dir)

namespace StaysIn

variable {α β : Type} {places places' : Path → Prop} {f : Tree → Tree × α}

/-- A computation that only looks. -/
theorem looking {g : Tree → α} (h : ∀ t t', Tree.SameOn (.about places) t t' → g t = g t') :
    StaysIn places fun t => (t, g t) :=
  ⟨h, fun _ _ hs => hs, fun _ _ _ => Or.inl rfl⟩

theorem congr {g : Tree → Tree × α} (hf : StaysIn places f) (h : ∀ t, f t = g t) : StaysIn places g := funext h ▸ hf

theorem andThen {g : α → Tree → Tree × β} (hf : StaysIn places f)
    (hg : ∀ a, (∃ t, (f t).2 = a) → StaysIn places (g a)) :
    StaysIn places fun t => g (f t).2 (f t).1 where
  determined := by
    intro t t' h
    rw [← hf.determined t t' h]
    exact (hg _ ⟨t, rfl⟩).determined _ _ (hf.same t t' h)
  same := by
    intro t t' h
    rw [← hf.determined t t' h]
    exact (hg _ ⟨t, rfl⟩).same _ _ (hf.same t t' h)
  kept := by
    intro t q hq
    rcases (hg _ ⟨t, rfl⟩).kept (f t).1 q hq with h | ⟨hp, hnone, hdir⟩
    · rcases hf.kept t q hq with h' | ⟨hp, hnone, hdir⟩
      · exact Or.inl (h.trans h')
      · exact Or.inr ⟨hp, hnone, h.trans hdir⟩
    · rcases hf.kept t q hq with h' | ⟨_, _, hdir'⟩
      · exact Or.inr ⟨hp, h' ▸ hnone, hdir⟩
      · rw [hdir'] at hnone
        cases hnone

theorem map (hf : StaysIn places f) (k : α → β) : StaysIn places fun t => ((f t).1, k (f t).2) :=
  ⟨fun t t' h => congrArg k (hf.determined t t' h), hf.same, hf.kept⟩

theorem wider (h : ∀ p, places p → places' p) (hf : StaysIn places f) : StaysIn places' f := by
  have hsub : ∀ t t', Tree.SameOn (.about places') t t' → Tree.SameOn (.about places) t t' := by
    intro t t' hs q hq
    obtain ⟨p, hp, hq⟩ := hq
    exact hs q ⟨p, h p hp, hq⟩
  refine ⟨fun t t' hs => hf.determined t t' (hsub t t' hs), fun t t' hs q hq => ?_, fun t q hq => ?_⟩
  · by_cases hin : (Region.about places).has q
    · exact hf.same t t' (hsub t t' hs) q hin
    · have hout : ∀ t, (f t).1.node q = t.node q := by
        intro t
        rcases hf.kept t q (fun p hp hpq => hin ⟨p, hp, Or.inr hpq⟩) with e | ⟨⟨p, hp, hqp⟩, _⟩
        · exact e
        · exact absurd ⟨p, hp, Or.inl hqp⟩ hin
      rw [hout t, hout t', hs q hq]
  · rcases hf.kept t q (fun p hp => hq p (h p hp)) with e | ⟨⟨p, hp, hqp⟩, hgrown⟩
    · exact Or.inl e
    · exact Or.inr ⟨⟨p, h p hp, hqp⟩, hgrown⟩

/-- What stays in places apart from those of another computation leaves its result as it was, where the
    directories that lead there exist. -/
theorem independent {g : Tree → Tree × β} (hf : StaysIn places f) (hg : StaysIn places' g) {t : Tree}
    (hapart : ∀ p p' q, places p → places' p' → (q <+: p' ∨ p' <+: q) → ¬p <+: q)
    (hdirs : ∀ p p' q, places p → places' p' → q <+: p → (q <+: p' ∨ p' <+: q) →
      t.node q ≠ none) : (g (f t).1).2 = (g t).2 := by
  refine hg.determined _ _ fun q hq => ?_
  obtain ⟨p', hp', hq⟩ := hq
  rcases hf.kept t q (fun p hp => hapart p p' q hp hp' hq) with e | ⟨⟨p, hp, hqp⟩, hnone, _⟩
  · exact e
  · exact absurd hnone (hdirs p p' q hp hp' hqp hq)

/-! ### Calls -/

/-- A call, with the tree as it is where the call fails. -/
def attempt (call : Tree → Except IoError Tree) (t : Tree) : Tree × Except IoError Unit :=
  match call t with
  | .ok t' => (t', .ok ())
  | .error e => (t, .error e)

theorem of_call {call : Tree → Except IoError Tree}
    (h : ∀ t t', Tree.SameOn (.about places) t t' → Tree.Alike (.about places) (call t) (call t'))
    (hk : ∀ t t' q, call t = .ok t' → (∀ p, places p → ¬p <+: q) →
      t'.node q = t.node q) : StaysIn places (attempt call) := by
  refine ⟨fun t t' hs => ?_, fun t t' hs => ?_, fun t q hq => Or.inl ?_⟩
  · unfold attempt
    rcases h t t' hs with ⟨e, he, he'⟩ | ⟨u, u', hu, hu', _⟩
    · rw [he, he']
    · rw [hu, hu']
  · unfold attempt
    rcases h t t' hs with ⟨e, he, he'⟩ | ⟨u, u', hu, hu', hsame⟩
    · rw [he, he']
      exact hs
    · rw [hu, hu']
      exact hsame
  · unfold attempt
    cases hc : call t with
    | error e => rfl
    | ok t' => exact hk t t' q hc hq

variable {o p src dst : Path} {bytes : List UInt8}

theorem about_of_below (ho : places o) (h : o <+: p) : (Region.about places).has p := ⟨o, ho, Or.inr h⟩

theorem write (ho : places o) (h : o <+: p) : StaysIn places (attempt (·.write (Path.buf p) bytes)) := by
  refine of_call (fun t t' hs => Tree.write_alike hs (about_of_below ho h)) fun t t' q hw hq => ?_
  have hne : q ≠ p := fun e => hq o ho (e ▸ h)
  rw [(Tree.write_ok hw).2, if_neg hne]

theorem writeNew (ho : places o) (h : o <+: p) : StaysIn places (attempt (·.writeNew (Path.buf p) bytes)) := by
  refine of_call (fun t t' hs => Tree.writeNew_alike hs (about_of_below ho h)) fun t t' q hw hq => ?_
  have hne : q ≠ p := fun e => hq o ho (e ▸ h)
  rw [(Tree.writeNew_ok hw).2, if_neg hne]

theorem removeFile (ho : places o) (h : o <+: p) : StaysIn places (attempt (·.removeFile (Path.buf p))) := by
  refine of_call (fun t t' hs => Tree.removeFile_alike hs (about_of_below ho h)) fun t t' q hw hq => ?_
  have hne : q ≠ p := fun e => hq o ho (e ▸ h)
  rw [(Tree.removeFile_ok hw).2, if_neg hne]

theorem rename (ho : places o) (hs : o <+: src) (hd : o <+: dst) :
    StaysIn places (attempt (·.rename (Path.buf src) (Path.buf dst))) := by
  refine of_call (fun t t' h => Tree.rename_alike h (about_of_below ho hs) (about_of_below ho hd))
    fun t t' q hw hq => ?_
  obtain ⟨b, _, _, hnode⟩ := Tree.rename_ok hw
  have hsrc : q ≠ src := fun e => hq o ho (e ▸ hs)
  have hdst : q ≠ dst := fun e => hq o ho (e ▸ hd)
  rw [hnode, if_neg hdst, if_neg hsrc]

theorem hardLink (ho : places o) (hs : o <+: src) (hd : o <+: dst) :
    StaysIn places (attempt (·.hardLink (Path.buf src) (Path.buf dst))) := by
  refine of_call (fun t t' h => Tree.hardLink_alike h (about_of_below ho hs) (about_of_below ho hd))
    fun t t' q hw hq => ?_
  obtain ⟨b, _, _, hnode⟩ := Tree.hardLink_ok hw
  have hdst : q ≠ dst := fun e => hq o ho (e ▸ hd)
  rw [hnode, if_neg hdst]

theorem createDirAll (ho : places o) : StaysIn places (fun t => t.createDirAll (Path.buf o)) := by
  have hin : (Region.about places).has o := ⟨o, ho, Or.inl (prefix_refl _)⟩
  refine ⟨fun t t' h => (Tree.createDirAll_same h hin).1, fun t t' h =>
    (Tree.createDirAll_same h hin).2, fun t q _ => ?_⟩
  rcases Tree.createDirAll_grown t o q with h | ⟨hq, h⟩
  · exact Or.inl h
  · exact Or.inr ⟨⟨o, ho, hq⟩, h⟩

end StaysIn

end Nq.Files
