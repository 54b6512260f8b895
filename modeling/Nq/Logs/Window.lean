/-
  Nq.Logs.Window — whether the counts of a file are those of a window, collection after
  collection.

  The collector takes the last `max_lines` lines of the file, whenever they were written;
  the window's bounds are on the observation alone. So it counts a line again at every
  collection at which the line is still among the last ones. `windows_iff`: each line is
  counted once, a file that nothing is appended to is quiet and found silent, and an old
  burst of errors raises nothing, exactly when the lines that a collection rereads are
  empty ones (`Windowed`). A file of ten lines that is left alone reports its ten lines a
  minute for good (`a_stopped_file_is_counted_again`).

  `Busy` and `Ratios` are what the detectors' averages are assumed to say; `silent` and
  `shift` are about any store the observation is published to.
-/

import Nq.Logs.Collect
import Nq.Detect.Fresh
import Nq.Store.Replaced

namespace Nq.Logs

open List hiding le_iff_lt_or_eq le_refl not_lt
open Sql (F64)

/-! ## The file -/

/-- A line as the file holds it. -/
structure Line where
  text : List Char
  whole : '\n' ∉ text
  deriving DecidableEq

/-- What a reader of lines gives of it. -/
def Line.content (l : Line) : List Char := Text.stripReturn l.text

def contents (file : List Line) : List Char := file.flatMap fun l => l.text ++ ['\n']

theorem lines_contents (file : List Line) : Text.lines (contents file) = file.map Line.content := by
  induction file with
  | nil => rfl
  | cons l file ih =>
    have hcons : contents (l :: file) = l.text ++ '\n' :: contents file := by simp [contents]
    rw [hcons, Text.lines_append l.whole, ih, map_cons]
    rfl

def lastLines {α : Type} (n : Nat) (xs : List α) : List α := xs.drop (xs.length - n)

/-- `tail -n` prints the last `n` lines. -/
def Tails (commands : Commands) (path : String) (file : List Line) : Prop :=
  ∀ n, ∃ stderr, commands.tail n path = .ok ⟨true, contents (lastLines n file), stderr⟩

/-- A collection: what was appended to the file since the one before it, and the programs
    it runs. -/
structure Collection where
  appended : List Line
  now : Int
  commands : Commands

/-- The file after the collections' appends. -/
def fileAfter (cs : List Collection) : List Line := cs.flatMap (·.appended)

/-- Collections of one file, a window apart. -/
structure Run (src : LogSourceConfig) (cs : List Collection) : Prop where
  file : src.adapter = "file"
  tails : ∀ before c after, cs = before ++ c :: after → Tails c.commands src.target (fileAfter (before ++ [c]))
  paced : cs.IsChain fun c d => d.now = c.now + window

/-! ## The lines a collection counts -/

/-- The counted lines, each with its place in the file. -/
def counted (src : LogSourceConfig) (file : List Line) : List (Line × Nat) :=
  (lastLines src.maxLines.toNat file.zipIdx).filter fun p => p.1.content ≠ []

def countedErrors (src : LogSourceConfig) (file : List Line) : List (Line × Nat) :=
  (counted src file).filter fun p => (classifySeverity p.1.content).isError

variable {α : Type} {p : Line × Nat} {src : LogSourceConfig} {after before cs : List Collection} {c : Collection}

theorem map_fst_lastLines (n : Nat) (xs : List α) : (lastLines n xs.zipIdx).map Prod.fst = lastLines n xs := by
  unfold lastLines
  rw [map_drop, zipIdx_map_fst, length_zipIdx]

/-- The lines the collector reads from the file are the counted ones. -/
theorem read_eq_counted (src : LogSourceConfig) (file : List Line) :
    (Text.lines (contents (lastLines src.maxLines.toNat file))).filter (· ≠ []) =
      (counted src file).map fun p => p.1.content := by
  rw [lines_contents, ← map_fst_lastLines, map_map, filter_map, counted]
  rfl

theorem length_counted (src : LogSourceConfig) (file : List Line) : (counted src file).length < 2 ^ 64 := by
  have hle : (counted src file).length ≤ (lastLines src.maxLines.toNat file.zipIdx).length := length_filter_le _ _
  have hmax := src.maxLines.toNat_lt
  rw [lastLines, length_drop] at hle
  omega

/-- A line is counted when it is among the last `max_lines` and not empty. -/
theorem mem_counted {file : List Line} :
    p ∈ counted src file ↔ file[p.2]? = some p.1 ∧ file.length ≤ p.2 + src.maxLines.toNat ∧ p.1.content ≠ [] := by
  unfold counted lastLines
  rw [mem_filter, length_zipIdx, mem_iff_getElem?]
  constructor
  · rintro ⟨⟨k, hk⟩, hne⟩
    rw [getElem?_drop, getElem?_zipIdx, Option.map_eq_some_iff] at hk
    obtain ⟨l, hl, rfl⟩ := hk
    refine ⟨?_, ?_, of_decide_eq_true hne⟩
    · simpa using hl
    · dsimp only
      omega
  · rintro ⟨hp, hlast, hne⟩
    have hlt : p.2 < file.length := (List.getElem?_eq_some_iff.mp hp).1
    refine ⟨⟨p.2 - (file.length - src.maxLines.toNat), ?_⟩, decide_eq_true hne⟩
    have hsum : file.length - src.maxLines.toNat + (p.2 - (file.length - src.maxLines.toNat)) = p.2 := by omega
    rw [getElem?_drop, hsum, getElem?_zipIdx, hp, Option.map_some, Nat.zero_add]

/-- What a collection of the file observes. -/
theorem collected {rfc3339 : String → Except String Int} {src : LogSourceConfig} {c : Collection} {file : List Line}
    (hfile : src.adapter = "file") (htails : Tails c.commands src.target file) :
    ∃ obs, collectSource rfc3339 c.commands src c.now = .ok obs ∧ obs.sourceId = src.sourceId ∧
      obs.linesTotal.toNat = (counted src file).length ∧ obs.linesError.toNat = (countedErrors src file).length ∧
      (counted src file = [] → obs.fetchStatus = "source_quiet") := by
  obtain ⟨stderr, htail⟩ := htails src.maxLines.toNat
  have hread := read_eq_counted src file
  have hfits : ((counted src file).map fun p => p.1.content).length < 2 ^ 64 := by
    rw [length_map]
    exact length_counted src file
  obtain ⟨htotal, herrors⟩ := observe_counts rfc3339 src.sourceId c.now hfits
  refine ⟨_, collectSource_file hfile htail c.now, rfl, ?_, ?_, ?_⟩
  · rw [hread, htotal, length_map]
  · rw [hread, herrors, countP_map, countedErrors, ← countP_eq_length_filter]
    rfl
  · intro hnone
    rw [hread, hnone]
    exact observe_fetchStatus rfc3339 src.sourceId c.now

/-! ## What the window promises -/

/-- The history the baseline of generation `g` is taken over. -/
def earlier (db : Db) (g : Int) (host source : String) : List (History LogObsRow) :=
  db.logObservationsHistory.rows.filter fun h =>
    g - 12 ≤ h.generationId ∧ h.generationId < g ∧ h.host = host ∧ h.row.sourceId = source

/-- At least three generations of history, with more than five lines on average. -/
structure Busy (arith : Arith) (rows : List (History LogObsRow)) : Prop where
  generations : 3 ≤ generationCount rows
  average : ((arith.avg (rows.map fun h => arith.ofInt h.row.linesTotal)).any (F64.lt 5)) = true

/-- What the doubles of ratios and averages do at zero and above it. -/
structure Ratios (arith : Arith) : Prop where
  zero : ∀ total, 0 < total → arith.div (arith.ofInt 0) (arith.ofInt total) = 0
  ratio : ∀ errors total, 0 ≤ errors → 0 < total → F64.ge (arith.div (arith.ofInt errors) (arith.ofInt total)) 0 = true
  average : ∀ xs avg, (∀ x ∈ xs, F64.ge x 0 = true) → arith.avg xs = some avg →
    F64.lt 0 (arith.add avg f64Twentieth) = true

/-- A generation in which the host's log set holds the observation. -/
structure Carried (obs : LogObservation) (host : String) (db : Db) (b : Batch) (db' : Db) (g : Int) : Prop where
  published : ∃ res, publishBatch db b = .ok (db', res) ∧ res.generationId = g
  carried : ∃ s format json, Sql.lastOf HostSet.host b.logSets host = some s ∧ (obs.wire format json).row ∈ s.rows

/-- The counts of the file are those of the window. -/
structure WindowCounts (rfc3339 : String → Except String Int)
    (src : LogSourceConfig) (cs : List Collection) : Prop where
  once : ∀ before c between d after, cs = before ++ c :: (between ++ d :: after) →
    ∀ p ∈ counted src (fileAfter (before ++ [c])), p ∉ counted src (fileAfter (before ++ c :: (between ++ [d])))
  onceErrors : ∀ before c between d after, cs = before ++ c :: (between ++ d :: after) →
    ∀ p ∈ countedErrors src (fileAfter (before ++ [c])),
      p ∉ countedErrors src (fileAfter (before ++ c :: (between ++ [d])))
  quiet : ∀ before c after, cs = before ++ c :: after → before ≠ [] → c.appended = [] →
    ∀ obs, collectSource rfc3339 c.commands src c.now = .ok obs → obs.linesTotal = 0 ∧ obs.fetchStatus = "source_quiet"
  silent : ∀ before c after, cs = before ++ c :: after → before ≠ [] → c.appended = [] →
    ∀ obs, collectSource rfc3339 c.commands src c.now = .ok obs → ∀ host db b db' g, Carried obs host db b db' g →
      ∀ env : Env, Busy env.arith (earlier db g host src.sourceId) →
        ∃ f ∈ detectLogSilence env db', f.host = host ∧ f.kind = "log_silence" ∧ f.subject = src.sourceId
  shift : ∀ before c after, cs = before ++ c :: after → before ≠ [] →
    (∀ l ∈ c.appended, (classifySeverity l.content).isError = false) →
    ∀ obs, collectSource rfc3339 c.commands src c.now = .ok obs → ∀ host db b db' g, Carried obs host db b db' g →
      ∀ env : Env, Ratios env.arith → (∀ h ∈ earlier db g host src.sourceId, 0 ≤ h.row.linesError) →
        ∀ f ∈ detectErrorShift env db', f.host = host → f.subject ≠ src.sourceId

/-- The lines a collection takes that were there at the one before are empty. -/
def Windowed (src : LogSourceConfig) (cs : List Collection) : Prop :=
  ∀ before c after, cs = before ++ c :: after →
    ∀ l ∈ lastLines (src.maxLines.toNat - c.appended.length) (fileAfter before), l.content = []

/-! ## Counted once -/

theorem fileAfter_append (before after : List Collection) :
    fileAfter (before ++ after) = fileAfter before ++ fileAfter after :=
  flatMap_append

theorem fileAfter_concat (before : List Collection) (c : Collection) :
    fileAfter (before ++ [c]) = fileAfter before ++ c.appended := by
  rw [fileAfter_append]
  simp [fileAfter]

/-- Of a windowed file only what was just appended is counted. -/
theorem Windowed.new (h : Windowed src cs) (hcs : cs = before ++ c :: after)
    (hp : p ∈ counted src (fileAfter (before ++ [c]))) : (fileAfter before).length ≤ p.2 ∧ p.1 ∈ c.appended := by
  obtain ⟨hget, hlast, hne⟩ := mem_counted.mp hp
  rw [fileAfter_concat] at hget hlast
  rw [length_append] at hlast
  have hnew : (fileAfter before).length ≤ p.2 := by
    by_contra hold
    rw [getElem?_append_left (by omega)] at hget
    refine hne (h before c after hcs p.1 ?_)
    refine mem_of_getElem? (i := p.2 - ((fileAfter before).length - (src.maxLines.toNat - c.appended.length))) ?_
    rw [lastLines, getElem?_drop]
    have hsum : (fileAfter before).length - (src.maxLines.toNat - c.appended.length) +
        (p.2 - ((fileAfter before).length - (src.maxLines.toNat - c.appended.length))) = p.2 := by omega
    rw [hsum, hget]
  rw [getElem?_append_right hnew] at hget
  exact ⟨hnew, mem_of_getElem? hget⟩

theorem Windowed.once {between : List Collection} {d : Collection} (h : Windowed src cs)
    (hcs : cs = before ++ c :: (between ++ d :: after)) (hp : p ∈ counted src (fileAfter (before ++ [c]))) :
    p ∉ counted src (fileAfter (before ++ c :: (between ++ [d]))) := by
  intro hagain
  have hsplit : cs = (before ++ c :: between) ++ d :: after := by rw [hcs]; simp
  have hfile : before ++ c :: (between ++ [d]) = (before ++ c :: between) ++ [d] := by simp
  rw [hfile] at hagain
  have hlater := (h.new hsplit hagain).1
  have hlt := (List.getElem?_eq_some_iff.mp (mem_counted.mp hp).1).1
  rw [append_cons, fileAfter_append, length_append] at hlater
  omega

/-- A line that is counted twice is one that a collection rereads. -/
theorem windowed_of_once (h : ∀ before c between d after, cs = before ++ c :: (between ++ d :: after) →
      ∀ p ∈ counted src (fileAfter (before ++ [c])), p ∉ counted src (fileAfter (before ++ c :: (between ++ [d])))) :
    Windowed src cs := by
  intro before c after hcs l hl
  by_contra hne
  obtain ⟨k, hk⟩ := mem_iff_getElem?.mp hl
  rw [lastLines, getElem?_drop] at hk
  have hlt := (List.getElem?_eq_some_iff.mp hk).1
  rcases eq_nil_or_concat before with rfl | ⟨older, b, rfl⟩
  · simp [fileAfter] at hlt
  · rw [concat_eq_append] at *
    have hsplit : cs = older ++ b :: ([] ++ c :: after) := by rw [hcs]; simp
    refine h older b [] c after hsplit (l,
      _) (mem_counted.mpr ⟨hk, by dsimp only; omega, hne⟩) (mem_counted.mpr ⟨?_, ?_, hne⟩)
    · rw [nil_append, append_cons, fileAfter_concat, getElem?_append_left hlt]
      exact hk
    · rw [nil_append, append_cons, fileAfter_concat, length_append]
      dsimp only
      omega

theorem Windowed.counted_nil (h : Windowed src cs) (hcs : cs = before ++ c :: after) (hnone : c.appended = []) :
    counted src (fileAfter (before ++ [c])) = [] := by
  refine eq_nil_iff_forall_not_mem.mpr fun p hp => ?_
  have hnew := (h.new hcs hp).2
  rw [hnone] at hnew
  cases hnew

theorem Windowed.countedErrors_nil (h : Windowed src cs) (hcs : cs = before ++ c :: after)
    (hclean : ∀ l ∈ c.appended, (classifySeverity l.content).isError = false) :
    countedErrors src (fileAfter (before ++ [c])) = [] := by
  refine filter_eq_nil_iff.mpr fun p hp => ?_
  rw [hclean p.1 (h.new hcs hp).2]
  decide

/-! ## The published observation -/

theorem lastOf_owner {owner : α → String} {as : List α} {k : String} {a : α} (h : Sql.lastOf owner as k = some a) :
    a ∈ as ∧ owner a = k := by
  have howner := find?_some h
  exact ⟨mem_reverse.mp (mem_of_find?_eq_some h), of_decide_eq_true howner⟩

section

variable {obs : LogObservation} {host : String} {db db' : Db} {b : Batch} {g : Int}

/-- The row of the observation is the source's current one. -/
theorem Carried.current (h : Carried obs host db b db' g) : ∃ format json at_,
    (⟨host, (obs.wire format json).row, g, at_⟩ : Current LogObsRow) ∈ db'.logObservationsCurrent.rows := by
  obtain ⟨res, hpublish, rfl⟩ := h.published
  obtain ⟨s, format, json, hs, hrow⟩ := h.carried
  obtain ⟨-, hhost⟩ := lastOf_owner hs
  have hreplaced := replaceSets_replaced (publishBatch_published hpublish).logs host
  rw [hs, Option.elim_some] at hreplaced
  have hmem : (⟨s.host, (obs.wire format json).row, res.generationId, s.collectedAt⟩ : Current LogObsRow) ∈
      s.current res.generationId := mem_map_of_mem hrow
  rw [← hreplaced, hhost] at hmem
  exact ⟨format, json, s.collectedAt, (mem_filter.mp hmem).1⟩

/-- It is the source's only current row. -/
theorem Carried.only (h : Carried obs host db b db' g) {c : Current LogObsRow}
    (hc : c ∈ db'.logObservationsCurrent.rows)
    (hhost : c.host = host) (hsource : c.row.sourceId = obs.sourceId) :
    ∃ format json, c.row = (obs.wire format json).row := by
  obtain ⟨format, json, at_, hrow⟩ := h.current
  have hkey : ((c.host, c.row.sourceId) : String × String) = (host, (obs.wire format json).row.sourceId) := by
    rw [hhost, hsource]
    rfl
  have hget := Sql.Table.get_of_mem hc
  have hget' := Sql.Table.get_of_mem hrow
  dsimp only at hget hget'
  rw [hkey, hget'] at hget
  exact ⟨format, json, congrArg Current.row (Option.some.inj hget).symm⟩

theorem Carried.maxGeneration (h : Carried obs host db b db' g) : db'.maxGeneration = some g := by
  obtain ⟨res, hpublish, rfl⟩ := h.published
  exact (publishBatch_published hpublish).maxGeneration

theorem Carried.history (h : Carried obs host db b db' g) :
    db'.logObservationsHistory.rows = db.logObservationsHistory.rows ++ historyRows g b.logSets := by
  obtain ⟨res, hpublish, rfl⟩ := h.published
  exact (publishBatch_published hpublish).logsHistory

theorem Carried.historyRow (h : Carried obs host db b db' g) :
    ∃ row, (⟨g, host, row⟩ : History LogObsRow) ∈ historyRows g b.logSets := by
  obtain ⟨s, format, json, hs, hrow⟩ := h.carried
  obtain ⟨hmem, rfl⟩ := lastOf_owner hs
  exact ⟨_, mem_flatMap.mpr ⟨s, hmem, mem_map_of_mem hrow⟩⟩

theorem logBaseline_eq_earlier (row : LogObsRow) (at_ : String) :
    logBaseline db.logObservationsHistory.rows g ⟨host, row, g, at_⟩ = earlier db g host row.sourceId := rfl

/-- The generations of the baseline and the one published. -/
theorem Carried.generations (h : Carried obs host db b db' g) {source : String}
    (hmany : 3 ≤ generationCount (earlier db g host source)) : 4 ≤ generationCount db'.logObservationsHistory.rows := by
  let old := Sql.groups History.generationId (earlier db g host source)
  have hfresh : g ∉ old := by
    intro hmem
    obtain ⟨x, hx, hg⟩ := List.mem_map.mp (mem_dedup.mp hmem)
    have hp := of_decide_eq_true (mem_filter.mp hx).2
    omega
  have hnodup : (g :: old).Nodup := nodup_cons.mpr ⟨hfresh, Sql.nodup_groups _ _⟩
  have hsub : g :: old ⊆ Sql.groups History.generationId db'.logObservationsHistory.rows := by
    intro n hn
    rw [Sql.groups, mem_dedup, h.history, map_append, mem_append]
    rcases mem_cons.mp hn with rfl | hn
    · obtain ⟨row, hrow⟩ := h.historyRow
      exact .inr (List.mem_map.mpr ⟨_, hrow, rfl⟩)
    · obtain ⟨x, hx, rfl⟩ := List.mem_map.mp (mem_dedup.mp hn)
      exact .inl (mem_map_of_mem (mem_filter.mp hx).1)
  have hle : (g :: old).length ≤ generationCount db'.logObservationsHistory.rows :=
    (subperm_of_subset hnodup hsub).length_le
  have hold : generationCount (earlier db g host source) = old.length := rfl
  rw [length_cons] at hle
  omega

/-- No lines from a busy source is a silence. -/
theorem Carried.silent (h : Carried obs host db b db' g) (hnone : obs.linesTotal = 0)
    (hquiet : obs.fetchStatus = "source_quiet")
    (env : Env) (hbusy : Busy env.arith (earlier db g host obs.sourceId)) :
    ∃ f ∈ detectLogSilence env db', f.host = host ∧ f.kind = "log_silence" ∧ f.subject = obs.sourceId := by
  obtain ⟨format, json, at_, hrow⟩ := h.current
  have hsilent : logSilent env.arith db'.logObservationsHistory.rows g ⟨host,
      (obs.wire format json).row, g, at_⟩ = true := by
    rw [h.history, logSilent_historyRows, logSilent, logBaseline_eq_earlier]
    have htotal : (obs.wire format json).row.linesTotal = 0 := by
      show obs.linesTotal.toInt64.toInt = 0
      rw [hnone]
      rfl
    have hstatus : (obs.wire format json).row.fetchStatus = "source_quiet" := hquiet
    have hsource : (obs.wire format json).row.sourceId = obs.sourceId := rfl
    rw [htotal, hstatus, hsource]
    exact Bool.and_eq_true_iff.mpr ⟨by decide,
      Bool.and_eq_true_iff.mpr ⟨hbusy.average, decide_eq_true hbusy.generations⟩⟩
  have hmany := h.generations hbusy.generations
  unfold detectLogSilence
  dsimp only
  rw [if_neg (by omega), h.maxGeneration]
  exact ⟨_, mem_map_of_mem (mem_filter.mpr ⟨hrow, hsilent⟩), rfl, rfl, rfl⟩

theorem ge_of_lt {x y : F64} (h : F64.lt x y = true) : F64.ge x y = false := by
  cases x with
  | nan => cases y <;> cases h
  | inf nx =>
    cases y with
    | nan => cases nx <;> cases h
    | inf ny =>
      cases nx with
      | true =>
        cases ny with
        | true => cases h
        | false => rfl
      | false => cases ny <;> cases h
    | fin q =>
      cases nx with
      | true => rfl
      | false => cases h
  | fin p =>
    cases y with
    | nan => cases h
    | inf ny =>
      cases ny with
      | true => cases h
      | false => rfl
    | fin q =>
      have hlt : p < q := of_decide_eq_true h
      have hge : ¬q < p := not_lt.mpr hlt.le
      have hne : ¬p = q := ne_of_lt hlt
      simp [F64.ge, F64.lt, F64.eq, hge, hne]

theorem errorRatio_nonneg {arith : Arith} (hr : Ratios arith) {l : LogObsRow} (hl : 0 ≤ l.linesError) :
    F64.ge (l.errorRatio arith) 0 = true := by
  unfold LogObsRow.errorRatio
  split
  · exact hr.ratio _ _ hl ‹_›
  · rfl

/-- No errors raise nothing. -/
theorem Carried.unshifted (h : Carried obs host db b db' g) (hclean : obs.linesError = 0)
    (env : Env) (hr : Ratios env.arith)
    (hcounts : ∀ x ∈ earlier db g host obs.sourceId, 0 ≤ x.row.linesError)
    {f : Finding} (hf : f ∈ detectErrorShift env db')
    (hhost : f.host = host) : f.subject ≠ obs.sourceId := by
  intro hsubject
  obtain ⟨-, c, hc, hplace, hshifted⟩ := mem_errorShift hf
  obtain ⟨hchost, hcsource⟩ := Prod.mk.inj hplace
  obtain ⟨format, json, hrow⟩ := h.only hc (hchost.symm.trans hhost) (hcsource.symm.trans hsubject)
  have hnone : c.row.linesError = 0 := by
    rw [hrow]
    show obs.linesError.toInt64.toInt = 0
    rw [hclean]
    rfl
  rw [h.history, h.maxGeneration, logShifted_historyRows] at hshifted
  have hbase : logBaseline db.logObservationsHistory.rows g c = earlier db g host obs.sourceId := by
    unfold logBaseline earlier
    rw [hchost.symm.trans hhost, hcsource.symm.trans hsubject]
  unfold logShifted at hshifted
  rw [Bool.and_eq_true, Bool.or_eq_true, hnone, Option.any_some, hbase, Bool.and_eq_true] at hshifted
  obtain ⟨htotal, hmany | ⟨-, havg⟩⟩ := hshifted
  · cases hmany
  · obtain ⟨avg, havg, hshift⟩ := (Option.any_eq_true _ _).mp havg
    have hratio : c.row.errorRatio env.arith = 0 := by
      rw [LogObsRow.errorRatio, if_pos (of_decide_eq_true htotal), hnone]
      exact hr.zero _ (of_decide_eq_true htotal)
    have habove : F64.lt 0 (env.arith.add avg f64Twentieth) = true := by
      refine hr.average _ avg (fun x hx => ?_) havg
      obtain ⟨y, hy, rfl⟩ := List.mem_map.mp hx
      exact errorRatio_nonneg hr (hcounts y hy)
    rw [hratio, ge_of_lt habove, Bool.and_false] at hshift
    cases hshift

end

/-! ## When the counts are those of the window -/

/-- The counts are the window's exactly when no collection rereads a line that is not empty. -/
theorem windows_iff {rfc3339 : String → Except String Int} {src : LogSourceConfig} {cs : List Collection}
    (h : Run src cs) :
    WindowCounts rfc3339 src cs ↔ Windowed src cs := by
  constructor
  · exact fun hw => windowed_of_once hw.once
  · intro hw
    have hobserved : ∀ before c after, cs = before ++ c :: after →
      ∀ obs, collectSource rfc3339 c.commands src c.now = .ok obs →
        obs.sourceId = src.sourceId ∧ (c.appended = [] → obs.linesTotal = 0 ∧ obs.fetchStatus = "source_quiet") ∧
          ((∀ l ∈ c.appended, (classifySeverity l.content).isError = false) → obs.linesError = 0) := by
      intro before c after hcs obs hobs
      obtain ⟨obs', hobs', hsource, htotal, herrors, hquiet⟩ :=
        @collected rfc3339 src c _ h.file (h.tails before c after hcs)
      obtain rfl : obs' = obs := Except.ok.inj (hobs'.symm.trans hobs)
      refine ⟨hsource, fun hnone => ?_, fun hclean => ?_⟩
      · have hnil := hw.counted_nil hcs hnone
        rw [hnil] at htotal
        exact ⟨UInt64.toNat_inj.mp htotal, hquiet hnil⟩
      · rw [hw.countedErrors_nil hcs hclean] at herrors
        exact UInt64.toNat_inj.mp herrors
    refine ⟨?_, ?_, ?_, ?_, ?_⟩
    · exact fun before c between d after hcs p hp => hw.once hcs hp
    · intro before c between d after hcs p hp hagain
      exact hw.once hcs (mem_filter.mp hp).1 (mem_filter.mp hagain).1
    · exact fun before c after hcs _ hnone obs hobs => (hobserved before c after hcs obs hobs).2.1 hnone
    · intro before c after hcs _ hnone obs hobs host db b db' g hcarried env hbusy
      obtain ⟨hsource, hquiet, -⟩ := hobserved before c after hcs obs hobs
      rw [← hsource] at hbusy ⊢
      exact hcarried.silent (hquiet hnone).1 (hquiet hnone).2 env hbusy
    · intro before c after hcs _ hclean obs hobs host db b db' g hcarried env hr hcounts f hf hhost
      obtain ⟨hsource, -, herrors⟩ := hobserved before c after hcs obs hobs
      rw [← hsource] at hcounts ⊢
      exact hcarried.unshifted (herrors hclean) env hr hcounts hf hhost

/-! ## Two histories -/

/-- `tail` on a host with one log file. -/
def tailing (path : String) (file : List Line) : Commands where
  tail n p := if p = path then .ok ⟨true, contents (lastLines n file), []⟩
    else .ok ⟨false, [], ("tail: cannot open " ++ p).toList⟩
  journalctl _ _ _ := .error "No such file or directory (os error 2)"

/-- The collections of a file, one window apart, given what is appended before each. -/
def minutely (path : String) : List Line → Int → List (List Line) → List Collection
  | _, _, [] => []
  | file, now, new :: rest => ⟨new, now, tailing path (file ++ new)⟩ :: minutely path (file ++ new) (now + window) rest

theorem commands_minutely {path : String} {appends : List (List Line)} : ∀ {file : List Line} {now : Int}
    {before after : List Collection} {c : Collection}, minutely path file now appends = before ++ c :: after →
      c.commands = tailing path (file ++ fileAfter (before ++ [c])) := by
  induction appends with
  | nil => intro file now before after c h; cases before <;> cases h
  | cons new rest ih =>
    intro file now before after c h
    cases before with
    | nil =>
      cases h
      simp [fileAfter]
    | cons b before =>
      obtain ⟨rfl, htail⟩ := List.cons.inj h
      rw [ih htail]
      simp [fileAfter]

theorem paced_minutely (path : String) (appends : List (List Line)) :
    ∀ (file : List Line) (now : Int), (minutely path file now appends).IsChain fun c d => d.now = c.now + window := by
  induction appends with
  | nil => exact fun _ _ => .nil
  | cons new rest ih =>
    intro file now
    cases rest with
    | nil => exact .singleton _
    | cons next rest => exact .cons_cons rfl (ih _ _)

/-- Every history of appends is a run. -/
theorem run_minutely (hfile : src.adapter = "file") (now : Int) (appends : List (List Line)) :
    Run src (minutely src.target [] now appends) := by
  refine ⟨hfile, ?_, paced_minutely _ _ _ _⟩
  intro before c after h n
  rw [commands_minutely h]
  exact ⟨[], if_pos rfl⟩

theorem ge_zero_fin {q : ℚ} : F64.ge (.fin q) 0 = true ↔ 0 ≤ q := by
  have hzero : ((0 : Nat) : ℚ) = 0 := Nat.cast_zero
  show ((decide (((0 : Nat) : ℚ) < q) || (F64.fin q == F64.fin ((0 : Nat) : ℚ))) = true) ↔ 0 ≤ q
  rw [hzero, Bool.or_eq_true, decide_eq_true_iff, beq_iff_eq, F64.fin.injEq, le_iff_lt_or_eq, eq_comm]

/-- Exact arithmetic behaves so. -/
theorem ratios_exactArith : Ratios exactArith where
  zero total htotal := by
    have hne : ((total : Int) : ℚ) ≠ 0 := Int.cast_ne_zero.mpr (by omega)
    show (if ((total : Int) : ℚ) = 0 then F64.nan else .fin (((0 : Int) : ℚ) / total)) = .fin ((0 : Nat) : ℚ)
    rw [if_neg hne, Int.cast_zero, zero_div, Nat.cast_zero]
  ratio errors total herrors htotal := by
    have hne : ((total : Int) : ℚ) ≠ 0 := Int.cast_ne_zero.mpr (by omega)
    show F64.ge (if ((total : Int) : ℚ) = 0 then F64.nan else .fin ((errors : ℚ) / total)) 0 = true
    rw [if_neg hne, ge_zero_fin]
    exact div_nonneg (Int.cast_nonneg herrors) (Int.cast_nonneg (by omega))
  average xs avg hxs havg := by
    cases xs with
    | nil => cases havg
    | cons x xs =>
      cases havg
      refine decide_eq_true ?_
      have hmean : ∀ value : F64 → ℚ, (∀ y ∈ x :: xs, 0 ≤ value y) →
          0 ≤ ((x :: xs).map value).sum / ((x :: xs).length : ℚ) := by
        intro value hvalue
        have hsum : 0 ≤ ((x :: xs).map value).sum := by
          refine sum_nonneg fun q hq => ?_
          obtain ⟨y, hy, rfl⟩ := List.mem_map.mp hq
          exact hvalue y hy
        exact div_nonneg hsum (Nat.cast_nonneg ((x :: xs).length))
      rw [Nat.cast_zero]
      refine add_pos_of_nonneg_of_pos (hmean _ fun y hy => ?_) (by norm_num)
      cases y with
      | fin q => exact ge_zero_fin.mp (hxs _ hy)
      | inf neg => exact le_refl _
      | nan => exact le_refl _

def appLog : LogSourceConfig := { sourceId := "app", adapter := "file", target := "/var/log/app.log" }

def served : Line := ⟨['s', 'e', 'r', 'v', 'e', 'd'], by decide⟩

/-- Ten lines, then nothing. -/
def stopped : List Collection := minutely appLog.target [] 0 [List.replicate 10 served, []]

/-- More lines than are taken, before every collection. -/
def busy : List Collection := minutely appLog.target [] 0 [[served], [served, served]]

theorem a_busy_file_is_counted_once : WindowCounts (fun _ => .error "") { appLog with maxLines := 2 } busy := by
  refine (windows_iff (run_minutely rfl 0 _)).mpr ?_
  intro before c after h l hl
  rcases before with _ | ⟨b, _ | ⟨d, before⟩⟩
  · have hnone := mem_of_mem_drop hl
    cases hnone
  · cases h
    have hnone : l ∈ ([] : List Line) := hl
    cases hnone
  · cases before <;> cases h

/-- A file that is left alone is counted again, its observation is not a quiet one. -/
theorem a_stopped_file_is_counted_again : Run appLog stopped ∧ ¬WindowCounts (fun _ => .error "") appLog stopped ∧
    ∃ first second obs, stopped = [first, second] ∧ second.appended = [] ∧
      collectSource (fun _ => .error "") second.commands appLog second.now = .ok obs ∧
      obs.linesTotal = 10 ∧ obs.fetchStatus = "ok" := by
  refine ⟨run_minutely rfl 0 _, ?_, _, _, _, rfl, rfl, rfl, by decide +kernel, by decide +kernel⟩
  intro h
  exact h.once [] _ [] _ [] rfl (served, 0) (by decide +kernel) (by decide +kernel)

end Nq.Logs
