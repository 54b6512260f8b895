/-
  Nq.Publish.ScrapeTarget — the scrape-target columns of the series dictionary over
  whole write histories (`publish.rs`, the series upsert; migration 058).

  A run of publishes is the list of its batches, oldest first (`Publishes`); the writes
  to a series are the samples of its identity in that order.

  - `Tracks`: what the three columns say about the writes so far; `tracks_seenAgain` and
    `dictionary_upsert` carry it over one write, `dictionary_publishes` over a run.
  - `honest_iff_url_named`: the columns tell no lie exactly when two targets were
    written, or the newest url was also written together with the one name.
  - `a_nameless_url_takes_over`.
-/

import Nq.Publish.Publish

namespace Nq

open List
open Sql (Table)

/-! ## Writes to one identity -/

def MetricRow.identity (m : MetricRow) : String × String := (m.metricName, m.labelsJson)

/-- The writes to the identity of `m`, oldest first. -/
def writesTo (m : MetricRow) (ws : List MetricRow) : List MetricRow := ws.filter (·.identity = m.identity)

/-- Two different target names were written. -/
def NamesConflict (ws : List MetricRow) : Prop :=
  ∃ w ∈ ws, ∃ w' ∈ ws, ∃ n n', w.scrapeTargetName = some n ∧ w'.scrapeTargetName = some n' ∧ n ≠ n'

/-- The first target name written. -/
def firstName (ws : List MetricRow) : Option String := ws.findSome? (·.scrapeTargetName)

/-- The newest url written. -/
def newestUrl (ws : List MetricRow) : Option String := ws.reverse.findSome? (·.scrapeTargetUrl)

/-- What the columns hold after the writes `ws`. -/
def Tracks (ws : List MetricRow) (s : SeriesRow) : Prop :=
  (s.scrapeTargetCollision = true ∧ NamesConflict ws ∧ s.scrapeTargetName = none ∧ s.scrapeTargetUrl = none) ∨
    (s.scrapeTargetCollision = false ∧ ¬NamesConflict ws ∧ s.scrapeTargetName = firstName ws ∧
      s.scrapeTargetUrl = newestUrl ws)

theorem firstName_append (ws : List MetricRow) (m : MetricRow) :
    firstName (ws ++ [m]) = (firstName ws <|> m.scrapeTargetName) := by
  unfold firstName
  rw [findSome?_append]
  cases hm : m.scrapeTargetName <;> cases ws.findSome? (·.scrapeTargetName) <;> simp [hm]

theorem newestUrl_append (ws : List MetricRow) (m : MetricRow) :
    newestUrl (ws ++ [m]) = (m.scrapeTargetUrl <|> newestUrl ws) := by
  unfold newestUrl
  rw [reverse_append, reverse_singleton, singleton_append, findSome?_cons]
  cases m.scrapeTargetUrl <;> rfl

variable {n : String} {ws : List MetricRow} {s : SeriesRow} {t : SeriesTable} {g : Int} {policies : List HistoryPolicy}
  {db db' : Db} {bs : List Batch}

theorem mem_of_firstName (h : firstName ws = some n) :
    ∃ w ∈ ws, w.scrapeTargetName = some n := exists_of_findSome?_eq_some h

/-- Without a conflict every name written is the first. -/
theorem firstName_eq_of_mem (hno : ¬NamesConflict ws) {w : MetricRow} (hw : w ∈ ws) (hn : w.scrapeTargetName = some n) :
    firstName ws = some n := by
  cases h : firstName ws with
  | none =>
    have := findSome?_eq_none_iff.mp h w hw
    rw [hn] at this
    cases this
  | some n' =>
    obtain ⟨w', hw', hn'⟩ := mem_of_firstName h
    by_contra hne
    exact hno ⟨w', hw', w, hw, n', n, hn', hn, fun e => hne (congrArg some e)⟩

theorem namesConflict_append {m : MetricRow} (hno : ¬NamesConflict ws) :
    NamesConflict (ws ++ [m]) ↔ ∃ n n', firstName ws = some n ∧ m.scrapeTargetName = some n' ∧ n ≠ n' := by
  constructor
  · rintro ⟨w, hw, w', hw', n, n', hn, hn', hne⟩
    rcases mem_append.mp hw with hw | hw <;> rcases mem_append.mp hw' with hw' | hw'
    · exact absurd ⟨w, hw, w', hw', n, n', hn, hn', hne⟩ hno
    · rw [mem_singleton] at hw'
      exact ⟨n, n', firstName_eq_of_mem hno hw hn, hw' ▸ hn', hne⟩
    · rw [mem_singleton] at hw
      exact ⟨n', n, firstName_eq_of_mem hno hw' hn', hw ▸ hn, fun e => hne e.symm⟩
    · rw [mem_singleton] at hw hw'
      rw [hw] at hn
      rw [hw', hn] at hn'
      exact absurd (Option.some.inj hn') hne
  · rintro ⟨n, n', hn, hn', hne⟩
    obtain ⟨w, hw, hwn⟩ := mem_of_firstName hn
    exact ⟨w, mem_append_left _ hw, m, by simp, n, n', hwn, hn', hne⟩

theorem NamesConflict.append (h : NamesConflict ws) (more : List MetricRow) : NamesConflict (ws ++ more) := by
  obtain ⟨w, hw, w', hw', h⟩ := h
  exact ⟨w, mem_append_left _ hw, w', mem_append_left _ hw', h⟩

theorem tracks_newRow (t : SeriesTable) (m : MetricRow) (g : Int) : Tracks [m] (t.newRow m g) := by
  refine .inr ⟨rfl, ?_, ?_, ?_⟩
  · rintro ⟨w, hw, w', hw', n, n', hn, hn', hne⟩
    rw [mem_singleton] at hw hw'
    rw [hw] at hn
    rw [hw', hn] at hn'
    exact hne (Option.some.inj hn')
  · show m.scrapeTargetName = _
    cases h : m.scrapeTargetName <;> simp [firstName, h]
  · show m.scrapeTargetUrl = _
    cases h : m.scrapeTargetUrl <;> simp [newestUrl, h]

/-- One more write to a series that is there. -/
theorem tracks_seenAgain (h : Tracks ws s) (m : MetricRow) (g : Int) : Tracks (ws ++ [m]) (s.seenAgain m g) := by
  rcases h with ⟨hc, hconf, -, -⟩ | ⟨hc, hno, hname, hurl⟩
  · refine .inl ⟨?_, hconf.append [m], ?_, ?_⟩ <;> simp [SeriesRow.seenAgain, hc]
  · have hmismatch : (s.scrapeTargetName.any fun old => m.scrapeTargetName.any (old ≠ ·)) = true ↔
        NamesConflict (ws ++ [m]) := by
      rw [namesConflict_append hno, hname]
      cases firstName ws <;> cases m.scrapeTargetName <;> simp
    by_cases hm : NamesConflict (ws ++ [m])
    · have := hmismatch.mpr hm
      refine .inl ⟨?_, hm, ?_, ?_⟩ <;> simp only [SeriesRow.seenAgain, this, Bool.or_true, if_true]
    · have hfalse : (s.scrapeTargetName.any fun old => m.scrapeTargetName.any (old ≠ ·)) = false := by
        rw [← Bool.not_eq_true]
        exact fun h => hm (hmismatch.mp h)
      refine .inr ⟨?_, hm, ?_, ?_⟩
      · simp only [SeriesRow.seenAgain, hc, hfalse, Bool.or_false]
      · simp only [SeriesRow.seenAgain, hc, hfalse, Bool.or_false, Bool.false_eq_true, if_false]
        rw [firstName_append, hname]
        -- the two orders of the fallback agree, for want of a conflict
        cases hf : firstName ws with
        | none => cases m.scrapeTargetName <;> rfl
        | some n =>
          cases hmn : m.scrapeTargetName with
          | none => rfl
          | some n' =>
            by_contra hne
            refine hm ((namesConflict_append hno).mpr ⟨n, n', hf, hmn, fun e => hne ?_⟩)
            rw [e]
      · simp only [SeriesRow.seenAgain, hc, hfalse, Bool.or_false, Bool.false_eq_true, if_false]
        rw [newestUrl_append, hurl]

/-! ## The dictionary -/

theorem SeriesTable.find_eq_some {m : MetricRow} :
    t.find m = some s ↔ s ∈ t.table.rows ∧ (s.metricName, s.labelsJson) = m.identity := by
  unfold SeriesTable.find MetricRow.identity
  constructor
  · intro h
    have := find?_some h
    simp only [decide_eq_true_eq] at this
    exact ⟨mem_of_find?_eq_some h, by rw [this.1, this.2]⟩
  · rintro ⟨hs, hk⟩
    cases hf : t.table.rows.find? fun s => s.metricName = m.metricName ∧ s.labelsJson = m.labelsJson with
    | none =>
      have := find?_eq_none.mp hf s hs
      simp only [Prod.mk.injEq] at hk
      simp [hk] at this
    | some s' =>
      have hs' := find?_some hf
      simp only [decide_eq_true_eq] at hs'
      refine congrArg some (inj_on_of_nodup_map t.unique (mem_of_find?_eq_some hf) hs ?_)
      rw [hk, hs'.1, hs'.2]

/-- The row of an identity after a write to some identity. -/
theorem SeriesTable.find_upsert (t : SeriesTable) (m m' : MetricRow) (g : Int) :
    (t.upsert m g).1.find m' =
      if m.identity = m'.identity then some ((t.find m).elim (t.newRow m g) (·.seenAgain m g)) else t.find m' := by
  cases hf : t.find m with
  | none =>
    have hrows : (t.upsert m g).1.table.rows = t.table.rows ++ [t.newRow m g] := by
      unfold upsert
      split
      · rename_i h; rw [hf] at h; cases h
      · rfl
    by_cases e : m.identity = m'.identity
    · rw [if_pos e, find_eq_some, hrows]
      exact ⟨by simp, e⟩
    · rw [if_neg e]
      refine Option.ext fun x => ?_
      rw [find_eq_some, find_eq_some, hrows, mem_append, mem_singleton]
      refine and_congr_left fun hx => or_iff_left fun hnew => e ?_
      rw [← hx, hnew]
      rfl
  | some s =>
    have hrows : (t.upsert m g).1.table.rows =
        t.table.rows.map fun r => if r.seriesId = s.seriesId then r.seenAgain m g else r := by
      unfold upsert
      split
      · rename_i s' h
        rw [hf] at h
        cases h
        rfl
      · rename_i h; rw [hf] at h; cases h
    obtain ⟨hs, hkey⟩ := find_eq_some.mp hf
    have hid : ∀ r ∈ t.table.rows, r.seriesId = s.seriesId → r = s := fun r hr e =>
      inj_on_of_nodup_map t.table.nodup hr hs e
    by_cases e : m.identity = m'.identity
    · rw [if_pos e, find_eq_some, hrows]
      exact ⟨List.mem_map.mpr ⟨s, hs, by simp⟩, hkey.trans e⟩
    · rw [if_neg e]
      refine Option.ext fun x => ?_
      rw [find_eq_some, find_eq_some, hrows]
      refine and_congr_left fun hx => ⟨fun hmem => ?_, fun hmem => List.mem_map.mpr ⟨x, hmem, if_neg fun hxs => e ?_⟩⟩
      · obtain ⟨r, hr, rfl⟩ := List.mem_map.mp hmem
        by_cases hrs : r.seriesId = s.seriesId
        · rw [if_pos hrs] at hx
          rw [hid r hr hrs] at hx
          exact absurd (hkey.symm.trans hx) e
        · rw [if_neg hrs]
          exact hr
      · rw [← hx, hid x hmem hxs, hkey]

/-- Every series tracks the writes to its identity, and every identity written has one. -/
def Dictionary (ws : List MetricRow) (t : SeriesTable) : Prop :=
  ∀ m, match t.find m with
    | none => writesTo m ws = []
    | some s => Tracks (writesTo m ws) s

theorem dictionary_upsert (h : Dictionary ws t) (m : MetricRow) (g : Int) :
    Dictionary (ws ++ [m]) (t.upsert m g).1 := by
  intro m'
  rw [SeriesTable.find_upsert]
  have hsplit : writesTo m' (ws ++ [m]) = writesTo m' ws ++ if m.identity = m'.identity then [m] else [] := by
    unfold writesTo
    rw [filter_append]
    by_cases e : m.identity = m'.identity <;> simp [e]
  rw [hsplit]
  by_cases e : m.identity = m'.identity
  · rw [if_pos e, if_pos e]
    have hsame : writesTo m' ws = writesTo m ws := by unfold writesTo; rw [e]
    rw [hsame]
    have hm := h m
    cases hf : t.find m with
    | none =>
      rw [hf] at hm
      rw [show writesTo m ws = [] from hm]
      exact tracks_newRow t m g
    | some s =>
      rw [hf] at hm
      exact tracks_seenAgain hm m g
  · rw [if_neg e, if_neg e, append_nil]
    exact h m'

/-! ## Runs -/

/-- The samples of a batch, in the order they are written. -/
def Batch.samples (b : Batch) : List MetricRow := b.metricSets.flatMap (·.rows)

/-- What publishing does to the database, batch after batch; other steps leave the
    dictionary alone. -/
inductive Publishes : Db → List Batch → Db → Prop
  | refl (db : Db) : Publishes db [] db
  | publish {db₀ db db' : Db} {bs : List Batch} {b : Batch} {res : PublishResult} (h : Publishes db₀ bs db)
      (hp : publishBatch db b = .ok (db', res)) : Publishes db₀ (bs ++ [b]) db'
  | other {db₀ db db' : Db} {bs : List Batch} (h : Publishes db₀ bs db) (hs : db'.series = db.series) :
      Publishes db₀ bs db'

def upsertAll (g : Int) (t : SeriesTable) (ms : List MetricRow) : SeriesTable :=
  ms.foldl (fun t m => (t.upsert m g).1) t

theorem series_publishMetricSet {t t' : MetricTables} {s : HostSet MetricRow}
    (h : publishMetricSet policies g t s = .ok t') : t'.series = upsertAll g t.series s.rows := by
  unfold publishMetricSet at h
  have hloop : ∀ {ms : List MetricRow} {t t' : MetricTables},
      ms.foldlM (publishMetric policies g s.host s.collectedAt) t = .ok t' → t'.series = upsertAll g t.series ms := by
    intro ms
    induction ms with
    | nil => intro t t' h; cases h; rfl
    | cons m ms ih =>
      intro t t' h
      rw [foldlM_cons] at h
      obtain ⟨t₁, h₁, h₂⟩ := Sql.bind_ok.mp h
      rw [ih h₂]
      have hone : t₁.series = (t.series.upsert m g).1 := by
        unfold publishMetric at h₁
        split at h₁
        · cases h₁
        · obtain ⟨current, _, h₁⟩ := Sql.bind_ok.mp h₁
          cases h₁
          rfl
      rw [hone]
      rfl
  have hrows := hloop h
  exact hrows

theorem series_publishMetricSets {sets : List (HostSet MetricRow)} :
    ∀ {t t' : MetricTables}, sets.foldlM (publishMetricSet policies g) t = .ok t' →
      t'.series = upsertAll g t.series (sets.flatMap (·.rows)) := by
  induction sets with
  | nil => intro t t' h; cases h; rfl
  | cons s sets ih =>
    intro t t' h
    rw [foldlM_cons] at h
    obtain ⟨t₁, h₁, h₂⟩ := Sql.bind_ok.mp h
    rw [ih h₂, series_publishMetricSet h₁, flatMap_cons]
    unfold upsertAll
    rw [foldl_append]

theorem series_publishBatch {b : Batch} {res : PublishResult} (h : publishBatch db b = .ok (db', res)) :
    db'.series = upsertAll res.generationId db.series b.samples := by
  obtain ⟨metrics, hmetrics, hseries, _, _⟩ := publishBatch_metrics h
  rw [hseries]
  exact series_publishMetricSets hmetrics

theorem dictionary_upsertAll {ms : List MetricRow} :
    ∀ {ws : List MetricRow} {t : SeriesTable}, Dictionary ws t → Dictionary (ws ++ ms) (upsertAll g t ms) := by
  induction ms with
  | nil => intro ws t h; rw [append_nil]; exact h
  | cons m ms ih =>
    intro ws t h
    have := ih (dictionary_upsert h m g)
    rw [append_assoc] at this
    exact this

def Batch.samplesOf (bs : List Batch) : List MetricRow := bs.flatMap Batch.samples

/-- The dictionary tracks every write of a run. -/
theorem dictionary_publishes (h : Publishes db bs db') (hd : Dictionary ws db.series) :
    Dictionary (ws ++ Batch.samplesOf bs) db'.series := by
  induction h with
  | refl => simpa [Batch.samplesOf] using hd
  | @publish db db' bs b res h hp ih =>
    rw [series_publishBatch hp]
    have hall : Batch.samplesOf (bs ++ [b]) = Batch.samplesOf bs ++ b.samples := by simp [Batch.samplesOf]
    rw [hall, ← append_assoc]
    exact dictionary_upsertAll ih
  | other h hs ih => rw [hs]; exact ih

theorem dictionary_nil (h : t.table.rows = []) : Dictionary [] t := by
  intro m
  have : t.find m = none := by unfold SeriesTable.find; rw [h]; rfl
  rw [this]
  rfl

/-! ## Honesty -/

/-- What the columns of a series owe, after the writes `ws` to its identity. -/
structure Honest (db : Db) (m : MetricRow) (ws : List MetricRow) (s : SeriesRow) : Prop where
  collision : s.scrapeTargetCollision = true ↔ NamesConflict ws
  sticky : s.scrapeTargetCollision = true → ∀ bs db', Publishes db bs db' →
    ∃ s', db'.series.find m = some s' ∧ s'.scrapeTargetCollision = true
  ambiguous : s.scrapeTargetCollision = true → s.scrapeTargetName = none ∧ s.scrapeTargetUrl = none
  named : s.scrapeTargetCollision = false →
    ∀ n, s.scrapeTargetName = some n ↔ ∃ w ∈ ws, w.scrapeTargetName = some n
  located : s.scrapeTargetCollision = false → ∀ u, s.scrapeTargetUrl = some u →
    ∃ w ∈ ws, w.scrapeTargetUrl = some u ∧ w.scrapeTargetName = s.scrapeTargetName

/-- Two targets were written, or the newest url was written together with the one name
    (with no name, where none was). -/
def UrlNamed (ws : List MetricRow) : Prop :=
  NamesConflict ws ∨ ∀ u, newestUrl ws = some u →
    ∃ w ∈ ws, w.scrapeTargetUrl = some u ∧ w.scrapeTargetName = firstName ws

theorem Publishes.sticky {m : MetricRow} (h : Publishes db bs db') (hd : Dictionary ws db.series)
    (hconf : NamesConflict (writesTo m ws)) : ∃ s', db'.series.find m = some s' ∧ s'.scrapeTargetCollision = true := by
  have hd' := dictionary_publishes h hd m
  have hconf' : NamesConflict (writesTo m (ws ++ Batch.samplesOf bs)) := by
    unfold writesTo
    rw [filter_append]
    exact hconf.append _
  cases hf : db'.series.find m with
  | none =>
    rw [hf] at hd'
    obtain ⟨w, hw, -⟩ := hconf'
    rw [show writesTo m _ = [] from hd'] at hw
    cases hw
  | some s' =>
    rw [hf] at hd'
    rcases hd' with ⟨hc, -⟩ | ⟨-, hno, -⟩
    · exact ⟨s', rfl, hc⟩
    · exact absurd hconf' hno

/-- The columns of a series tell no lie exactly when two targets were written, or the
    newest url was also written together with the one name. -/
theorem honest_iff_url_named {db₀ db : Db} {bs : List Batch} {m : MetricRow} {s : SeriesRow}
    (h₀ : db₀.series.table.rows = []) (hrun : Publishes db₀ bs db) (hs : db.series.find m = some s) :
    Honest db m (writesTo m (Batch.samplesOf bs)) s ↔ UrlNamed (writesTo m (Batch.samplesOf bs)) := by
  have hdict := dictionary_publishes hrun (dictionary_nil h₀)
  rw [nil_append] at hdict
  have htracks := hdict m
  rw [hs] at htracks
  rcases htracks with ⟨hc, hconf, hname, hurl⟩ | ⟨hc, hno, hname, hurl⟩
  · refine ⟨fun _ => .inl hconf, fun _ => ⟨⟨fun _ => hconf, fun _ => hc⟩, ?_, fun _ => ⟨hname, hurl⟩, ?_, ?_⟩⟩
    · exact fun _ bs' db' hrun' => hrun'.sticky hdict hconf
    · intro hf; rw [hc] at hf; cases hf
    · intro hf; rw [hc] at hf; cases hf
  · constructor
    · intro h
      refine .inr fun u hu => ?_
      obtain ⟨w, hw, hwu, hwn⟩ := h.located hc u (hurl.trans hu)
      exact ⟨w, hw, hwu, hwn.trans hname⟩
    · rintro (hconf | hnamed)
      · exact absurd hconf hno
      · refine ⟨⟨fun h => ?_, fun h => absurd h hno⟩, fun h => ?_, fun h => ?_, fun _ n => ?_, fun _ u hu => ?_⟩
        · rw [hc] at h; cases h
        · rw [hc] at h; cases h
        · rw [hc] at h; cases h
        · rw [hname]
          exact ⟨mem_of_firstName, fun ⟨w, hw, hn⟩ => firstName_eq_of_mem hno hw hn⟩
        · obtain ⟨w, hw, hwu, hwn⟩ := hnamed u (hurl.symm.trans hu)
          exact ⟨w, hw, hwu, hwn.trans hname.symm⟩

/-! ## Traces -/

/-- One sample of a series, from a named target or only from a url. -/
def targetSample (name url : Option String) : MetricRow :=
  { metricName := "up", labelsJson := "{}", value := 1, scrapeTargetName := name, scrapeTargetUrl := url }

def targetBatch (name url : Option String) : Batch :=
  { cycleStartedAt := "2026-03-01T00:00:00Z", cycleCompletedAt := "2026-03-01T00:00:01Z", sourcesExpected := 1
    sourceRuns := [⟨"labelwatch", .ok⟩]
    metricSets := [⟨"labelwatch", "2026-03-01T00:00:00Z", [targetSample name url]⟩] }

def nodeUrl : String := "http://127.0.0.1:9100/metrics"
def strayUrl : String := "http://127.0.0.1:9115/probe"

/-- A sample with a url and no name replaces the url of the target that has the name. -/
theorem a_nameless_url_takes_over :
    ∃ db s, Publishes Db.init [targetBatch (some "node") (some nodeUrl), targetBatch none (some strayUrl)] db ∧
      db.series.find (targetSample none none) = some s ∧ s.scrapeTargetName = some "node" ∧
      s.scrapeTargetUrl = some strayUrl ∧
      ¬Honest db (targetSample none none) (writesTo (targetSample none none)
        (Batch.samplesOf [targetBatch (some "node") (some nodeUrl), targetBatch none (some strayUrl)])) s := by
  have hrun : ((publishBatch Db.init (targetBatch (some "node") (some nodeUrl))).toOption.bind fun r₁ =>
      (publishBatch r₁.1 (targetBatch none (some strayUrl))).toOption.bind fun r₂ =>
        (r₂.1.series.find (targetSample none none)).map fun s =>
          (s.scrapeTargetName, s.scrapeTargetUrl, s.scrapeTargetCollision)) =
      some (some "node", some strayUrl, false) := by decide +kernel
  obtain ⟨r₁, h₁, hrun⟩ := Option.bind_eq_some_iff.mp hrun
  obtain ⟨r₂, h₂, hrun⟩ := Option.bind_eq_some_iff.mp hrun
  obtain ⟨s, hs, hcols⟩ := Option.map_eq_some_iff.mp hrun
  simp only [Prod.mk.injEq] at hcols
  refine ⟨r₂.1, s, ?_, hs, hcols.1, hcols.2.1, fun h => ?_⟩
  · exact .publish (.publish (.refl _) (Sql.toOption_eq_some.mp h₁)) (Sql.toOption_eq_some.mp h₂)
  · obtain ⟨w, hw, hwu, hwn⟩ := h.located hcols.2.2 strayUrl hcols.2.1
    rw [hcols.1] at hwn
    have hmem : w ∈ [targetSample (some "node") (some nodeUrl), targetSample none (some strayUrl)] :=
      mem_of_mem_filter hw
    rcases mem_cons.mp hmem with rfl | hmem
    · revert hwu; decide
    · rw [mem_singleton] at hmem
      rw [hmem] at hwn
      cases hwn

/-- A target that keeps its name and url. -/
theorem a_named_target_is_tracked :
    ∃ db s, db.series.find (targetSample none none) = some s ∧
      Honest db (targetSample none none) (writesTo (targetSample none none)
        (Batch.samplesOf [targetBatch (some "node") (some nodeUrl)])) s := by
  have hrun : ((publishBatch Db.init (targetBatch (some "node") (some nodeUrl))).toOption.bind fun r₁ =>
      (r₁.1.series.find (targetSample none none)).map fun s =>
        s.scrapeTargetName) = some (some "node") := by decide +kernel
  obtain ⟨r₁, h₁, hrun⟩ := Option.bind_eq_some_iff.mp hrun
  obtain ⟨s, hs, -⟩ := Option.map_eq_some_iff.mp hrun
  refine ⟨r₁.1, s, hs, (honest_iff_url_named (m := targetSample none none) rfl
    (.publish (.refl Db.init) (Sql.toOption_eq_some.mp h₁)) hs).mpr (.inr fun u hu => ?_)⟩
  exact ⟨targetSample (some "node") (some nodeUrl), mem_cons_self, hu, rfl⟩

end Nq
