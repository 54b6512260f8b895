/-
  Nq.Publish.Digest — what the digest of a generation tells apart (`nq-db/src/digest.rs`).

  The seal writes the runs and the warnings one after the other, with `:`, `/`, `=` and a newline
  between the fields and a line of dashes between the two, and none of them escaped. The same runs
  and warnings are always written alike (`sealedBytes_of_same`), and sealing again changes nothing;
  where no field has a separator of its own in it, different ones are written differently
  (`digest_iff`).

  - `a_slash_moves_between_the_fields`: a host `a/b` in domain `c` is sealed as a host `a` in domain `b/c`.
-/

import Nq.Inquiry.Cycle
import Nq.Text.Percent

namespace Nq

open List hiding le_antisymm le_total le_trans
open Sql (Table)
open Text.Percent (cut_inj cut_last_inj)
open Inquiry (Monitor)

/-! ## Runs and warnings -/

/-- What the digest covers of a warning. -/
structure Warned where
  host : String
  domain : String
  kind : String
  subject : String
  severity : String
  deriving DecidableEq

def WarningRow.warned (r : WarningRow) : Warned := ⟨r.host, r.domain, r.kind, r.subject, r.severity⟩

/-- The runs of a generation. -/
def Db.runsOf (db : Db) (generationId : Int) : Set (String × SourceStatus) :=
  {p | ∃ r ∈ db.sourceRuns.rows, r.generationId = generationId ∧ (r.source, r.status) = p}

def Db.warnings (db : Db) : Set Warned := {w | ∃ r ∈ db.warningState.rows, r.warned = w}

/-- The byte string the seal of a generation hashes. -/
def sealedBytes (db : Db) (generationId : Int) : List UInt8 := (sealedText db generationId).toUTF8.data.toList

def SameFindings (db : Db) (g : Int) (db' : Db) (g' : Int) : Prop :=
  db.runsOf g = db'.runsOf g' ∧ db.warnings = db'.warnings

/-- No field holds a separator that stands behind it or behind a field before it. -/
structure WarningRow.Plain (r : WarningRow) : Prop where
  host : '/' ∉ r.host.toList ∧ '\n' ∉ r.host.toList
  domain : '/' ∉ r.domain.toList ∧ '\n' ∉ r.domain.toList
  kind : '/' ∉ r.kind.toList ∧ '\n' ∉ r.kind.toList
  subject : '\n' ∉ r.subject.toList
  severity : '=' ∉ r.severity.toList ∧ '\n' ∉ r.severity.toList

structure Db.Plain (db : Db) (generationId : Int) : Prop where
  runs : ∀ r ∈ db.sourceRuns.rows, r.generationId = generationId → '\n' ∉ r.source.toList
  warnings : ∀ r ∈ db.warningState.rows, r.Plain

/-! ## The order they are written in -/

/-- The runs in the order of their sources. -/
def Db.sealedRuns (db : Db) (generationId : Int) : List (String × SourceStatus) :=
  ((db.sourceRuns.rows.filter (·.generationId = generationId)).insertionSort fun a b => a.source ≤ b.source).map
    fun r => (r.source, r.status)

def WarningRow.sealKey (r : WarningRow) : Lex (String × Lex (String × String)) :=
  toLex (r.host, toLex (r.kind, r.subject))

def Warned.sealKey (w : Warned) : Lex (String × Lex (String × String)) := toLex (w.host, toLex (w.kind, w.subject))

/-- The warnings in the order of host, kind and subject. -/
def Db.sealedWarnings (db : Db) : List Warned :=
  (db.warningState.rows.insertionSort fun a b => a.sealKey ≤ b.sealKey).map WarningRow.warned

variable {db db' : Db} {g g' : Int} {p : String × SourceStatus} {α β : Type} {r : WarningRow}

theorem mem_sealedRuns : p ∈ db.sealedRuns g ↔ p ∈ db.runsOf g := by
  unfold Db.sealedRuns Db.runsOf
  simp only [List.mem_map, mem_insertionSort, mem_filter, decide_eq_true_eq, Set.mem_ofPred_eq, and_assoc]

theorem mem_sealedWarnings {w : Warned} : w ∈ db.sealedWarnings ↔ w ∈ db.warnings := by
  unfold Db.sealedWarnings Db.warnings
  simp only [List.mem_map, mem_insertionSort, Set.mem_ofPred_eq]

/-- Lists sorted by keys that are all different are equal as soon as they have the same members. -/
theorem eq_of_sorted_keys [LinearOrder β] {key : α → β} {l l' : List α} (hl : l.Pairwise fun a b => key a ≤ key b)
    (hl' : l'.Pairwise fun a b => key a ≤ key b) (hn : (l.map key).Nodup) (hn' : (l'.map key).Nodup)
    (h : ∀ a, a ∈ l ↔ a ∈ l') : l = l' := by
  refine List.Perm.eq_of_pairwise (fun a b ha hb hab hba => ?_) hl hl'
    ((perm_ext_iff_of_nodup (List.Nodup.of_map key hn) (List.Nodup.of_map key hn')).mpr h)
  exact inj_on_of_nodup_map hn ha ((h b).mpr hb) (le_antisymm hab hba)

theorem pairwise_sortedBy [LinearOrder β] (key : α → β) (l : List α) :
    (l.insertionSort fun a b => key a ≤ key b).Pairwise fun a b => key a ≤ key b := by
  have : Std.Total fun a b : α => key a ≤ key b := ⟨fun a b => le_total (key a) (key b)⟩
  have : IsTrans α fun a b => key a ≤ key b := ⟨fun _ _ _ => le_trans⟩
  exact pairwise_insertionSort _ _

theorem sealedRuns_sorted (db : Db) (g : Int) :
    (db.sealedRuns g).Pairwise (fun a b => a.1 ≤ b.1) ∧ ((db.sealedRuns g).map Prod.fst).Nodup := by
  unfold Db.sealedRuns
  refine ⟨pairwise_map.mpr (pairwise_sortedBy SourceRunRow.source _), ?_⟩
  rw [map_map]
  refine (((perm_insertionSort _ _).map _).nodup_iff).mpr ?_
  refine List.Nodup.map_on ?_ (filter_sublist.nodup (List.Nodup.of_map _ db.sourceRuns.nodup))
  intro a ha b hb hab
  obtain ⟨ha, hga⟩ := mem_filter.mp ha
  obtain ⟨hb, hgb⟩ := mem_filter.mp hb
  have hpk : a.pk = b.pk := Prod.ext ((of_decide_eq_true hga).trans (of_decide_eq_true hgb).symm) hab
  exact inj_on_of_nodup_map db.sourceRuns.nodup ha hb hpk

theorem sealedWarnings_sorted (db : Db) :
    db.sealedWarnings.Pairwise (fun a b => a.sealKey ≤ b.sealKey) ∧ (db.sealedWarnings.map Warned.sealKey).Nodup := by
  unfold Db.sealedWarnings
  refine ⟨pairwise_map.mpr (pairwise_sortedBy WarningRow.sealKey _), ?_⟩
  rw [map_map]
  refine (((perm_insertionSort _ _).map _).nodup_iff).mpr ?_
  refine List.Nodup.map_on ?_ (List.Nodup.of_map _ db.warningState.nodup)
  intro a ha b hb hab
  have hid : a.id = b.id := by
    obtain ⟨hhost, hrest⟩ := Prod.mk.inj (toLex.injective hab)
    obtain ⟨hkind, hsubject⟩ := Prod.mk.inj (toLex.injective hrest)
    exact FindingId.mk.injEq .. ▸ ⟨hhost, hkind, hsubject⟩
  exact inj_on_of_nodup_map db.warningState.nodup ha hb hid

theorem sealed_eq_iff :
    SameFindings db g db' g' ↔ db.sealedRuns g = db'.sealedRuns g' ∧ db.sealedWarnings = db'.sealedWarnings := by
  constructor
  · rintro ⟨hruns, hwarnings⟩
    obtain ⟨hl, hn⟩ := sealedRuns_sorted db g
    obtain ⟨hl', hn'⟩ := sealedRuns_sorted db' g'
    obtain ⟨hw, hm⟩ := sealedWarnings_sorted db
    obtain ⟨hw', hm'⟩ := sealedWarnings_sorted db'
    refine ⟨eq_of_sorted_keys hl hl' hn hn' fun p => ?_, eq_of_sorted_keys hw hw' hm hm' fun w => ?_⟩
    · rw [mem_sealedRuns, mem_sealedRuns, hruns]
    · rw [mem_sealedWarnings, mem_sealedWarnings, hwarnings]
  · rintro ⟨hruns, hwarnings⟩
    refine ⟨Set.ext fun p => ?_, Set.ext fun w => ?_⟩
    · rw [← mem_sealedRuns, ← mem_sealedRuns, hruns]
    · rw [← mem_sealedWarnings, ← mem_sealedWarnings, hwarnings]

/-! ## The lines -/

def runLine (p : String × SourceStatus) : List Char := p.1.toList ++ ':' :: p.2.toText.toList

def Warned.line (w : Warned) : List Char :=
  w.host.toList ++ '/' :: (w.domain.toList ++
    '/' :: (w.kind.toList ++ '/' :: (w.subject.toList ++ '=' :: w.severity.toList)))

/-- The lines of a text, each behind it a newline. -/
def ended (ls : List (List Char)) : List Char := ls.flatMap (· ++ ['\n'])

theorem toList_sealedText (db : Db) (g : Int) : (sealedText db g).toList =
    ended ((db.sealedRuns g).map runLine ++ "---".toList :: db.sealedWarnings.map Warned.line) := by
  have hjoin : ∀ {α β : Type} (l : List α) (f : α → β) (text : α → String) (line : β → List Char),
      (∀ a, (text a).toList = line (f a) ++ ['\n']) →
        (String.join (l.map text)).toList = ended ((l.map f).map line) := by
    intro α β l f text line h
    unfold ended
    rw [String.toList_join, flatMap_map, flatMap_map, flatMap_map]
    exact congrArg (List.flatMap · l) (funext h)
  have hdashes : "---\n".toList = "---".toList ++ ['\n'] := by decide
  unfold sealedText
  rw [String.toList_append, String.toList_append, hdashes,
    hjoin _ (fun r : SourceRunRow => (r.source, r.status)) _ runLine (fun r => by simp [runLine]),
    hjoin _ WarningRow.warned _ Warned.line (fun r => by simp [Warned.line, WarningRow.warned])]
  simp only [ended, Db.sealedRuns, Db.sealedWarnings, flatMap_append, flatMap_cons, append_assoc]
  rfl

theorem ended_inj : ∀ {ls ls' : List (List Char)}, (∀ l ∈ ls, '\n' ∉ l) → (∀ l ∈ ls', '\n' ∉ l) →
    ended ls = ended ls' → ls = ls' := by
  intro ls
  induction ls with
  | nil =>
    intro ls' _ _ h
    cases ls' with
    | nil => rfl
    | cons l' ls' => simp [ended] at h
  | cons l ls ih =>
    intro ls' hl hl' h
    cases ls' with
    | nil => simp [ended] at h
    | cons l' ls' =>
      have hcut : l ++ '\n' :: ended ls = l' ++ '\n' :: ended ls' := by simpa [ended] using h
      obtain ⟨hhead, htail⟩ := cut_inj (hl l (by simp)) (hl' l' (by simp)) hcut
      rw [hhead, ih (fun x hx => hl x (mem_cons_of_mem _ hx)) (fun x hx => hl' x (mem_cons_of_mem _ hx)) htail]

theorem newline_runLine (h : '\n' ∉ p.1.toList) : '\n' ∉ runLine p := by
  have hstatus : '\n' ∉ p.2.toText.toList := by cases p.2 <;> decide
  simp [runLine, h, hstatus]

theorem newline_line (h : r.Plain) : '\n' ∉ r.warned.line := by
  simp [Warned.line, WarningRow.warned, h.host.2, h.domain.2, h.kind.2, h.subject, h.severity.2]

theorem runLine_ne (p : String × SourceStatus) : runLine p ≠ "---".toList := by
  intro h
  have hmem : ':' ∈ "---".toList := h ▸ by simp [runLine]
  exact absurd hmem (by decide)

theorem runLine_inj {q : String × SourceStatus} (h : runLine p = runLine q) : p = q := by
  have hcolon : ∀ s : SourceStatus, ':' ∉ s.toText.toList := by intro s; cases s <;> decide
  obtain ⟨hsource, hstatus⟩ := cut_last_inj (hcolon p.2) (hcolon q.2) h
  refine Prod.ext (String.toList_injective hsource) ?_
  have htext : p.2.toText = q.2.toText := String.toList_injective hstatus
  revert htext
  cases p.2 <;> cases q.2 <;> decide

theorem line_inj {r' : WarningRow} (hr : r.Plain) (hr' : r'.Plain) (h : r.warned.line = r'.warned.line) :
    r.warned = r'.warned := by
  obtain ⟨hhost, h⟩ := cut_inj hr.host.1 hr'.host.1 h
  obtain ⟨hdomain, h⟩ := cut_inj hr.domain.1 hr'.domain.1 h
  obtain ⟨hkind, h⟩ := cut_inj hr.kind.1 hr'.kind.1 h
  obtain ⟨hsubject, hseverity⟩ := cut_last_inj hr.severity.1 hr'.severity.1 h
  have hsubject : r.subject = r'.subject := String.toList_injective hsubject
  have hseverity : r.severity = r'.severity := String.toList_injective hseverity
  unfold WarningRow.warned
  rw [String.toList_injective hhost, String.toList_injective hdomain,
    String.toList_injective hkind, hsubject, hseverity]

theorem map_inj_on {f : α → β} : ∀ {l l' : List α}, (∀ a ∈ l, ∀ b ∈ l', f a = f b → a = b) →
    l.map f = l'.map f → l = l' := by
  intro l
  induction l with
  | nil => intro l' _ h; cases l' with
    | nil => rfl
    | cons b l' => cases h
  | cons a l ih =>
    intro l' hinj h
    cases l' with
    | nil => cases h
    | cons b l' =>
      obtain ⟨hhead, htail⟩ := List.cons.inj h
      rw [hinj a (by simp) b (by simp) hhead,
        ih (fun x hx y hy => hinj x (mem_cons_of_mem _ hx) y (mem_cons_of_mem _ hy)) htail]

/-! ## The digest -/

theorem sealedBytes_of_same (h : SameFindings db g db' g') : sealedBytes db g = sealedBytes db' g' := by
  obtain ⟨hruns, hwarnings⟩ := sealed_eq_iff.mp h
  have htext : sealedText db g = sealedText db' g' :=
    String.toList_injective (by rw [toList_sealedText, toList_sealedText, hruns, hwarnings])
  unfold sealedBytes
  rw [htext]

theorem lines_plain (h : db.Plain g) :
    ∀ l ∈ (db.sealedRuns g).map runLine ++ "---".toList :: db.sealedWarnings.map Warned.line, '\n' ∉ l := by
  intro l hl
  rcases mem_append.mp hl with hl | hl
  · obtain ⟨p, hp, rfl⟩ := List.mem_map.mp hl
    obtain ⟨r, hr, hg, rfl⟩ := mem_sealedRuns.mp hp
    exact newline_runLine (h.runs r hr hg)
  · rcases mem_cons.mp hl with rfl | hl
    · decide
    · obtain ⟨w, hw, rfl⟩ := List.mem_map.mp hl
      obtain ⟨r, hr, rfl⟩ := mem_sealedWarnings.mp hw
      exact newline_line (h.warnings r hr)

theorem same_of_sealedBytes (h : db.Plain g) (h' : db'.Plain g') (heq : sealedBytes db g = sealedBytes db' g') :
    SameFindings db g db' g' := by
  have htext : sealedText db g = sealedText db' g' := Text.bytes_injective heq
  have hlines := congrArg String.toList htext
  rw [toList_sealedText, toList_sealedText] at hlines
  have hlines := ended_inj (lines_plain h) (lines_plain h') hlines
  have hdashes : ∀ (db : Db) (g : Int), "---".toList ∉ (db.sealedRuns g).map runLine := by
    intro db g hmem
    obtain ⟨p, _, hp⟩ := List.mem_map.mp hmem
    exact runLine_ne p hp
  obtain ⟨hruns, hwarnings⟩ := cut_inj (hdashes db g) (hdashes db' g') hlines
  refine sealed_eq_iff.mpr ⟨map_inj_on (fun p _ q _ => runLine_inj) hruns, map_inj_on ?_ hwarnings⟩
  intro w hw w' hw'
  obtain ⟨r, hr, rfl⟩ := mem_sealedWarnings.mp hw
  obtain ⟨r', hr', rfl⟩ := mem_sealedWarnings.mp hw'
  exact line_inj (h.warnings r hr) (h'.warnings r' hr')

/-- Where no field has a separator of its own in it, generations are hashed alike exactly when they have the same runs
    and warnings; and a generation that is sealed again has the hash it had. -/
theorem digest_iff {db db' : Db} {g g' : Int} (h : db.Plain g) (h' : db'.Plain g') :
    (sealedBytes db g = sealedBytes db' g' ↔ SameFindings db g db' g') ∧
      ∀ (m : Monitor) (g : Int), ((m.seal g).seal g).columns.summaryHash g = (m.seal g).columns.summaryHash g := by
  refine ⟨⟨same_of_sealedBytes h h', sealedBytes_of_same⟩, fun m g => ?_⟩
  simp only [Monitor.seal, Inquiry.Columns.sealed, if_true]

/-! ## Separators in the fields -/

/-- A state with one warning. -/
def Db.warning (host domain : String) : Db :=
  { Db.published 1 with
    warningState := ⟨[{ host := host, domain := domain, kind := "disk_pressure", subject := "", severity := "info"
                        firstSeenGen := 1, firstSeenAt := "", lastSeenGen := 1, lastSeenAt := ""
                        consecutiveGens := 1 }],
      nodup_singleton _⟩ }

theorem warnings_warning (host domain : String) :
    (Db.warning host domain).warnings = {⟨host, domain, "disk_pressure", "", "info"⟩} := by
  ext w
  simp [Db.warnings, Db.warning, WarningRow.warned, eq_comm]

/-- Two findings, hashed alike. -/
theorem a_slash_moves_between_the_fields :
    sealedBytes (Db.warning "a/b" "c") 1 = sealedBytes (Db.warning "a" "b/c") 1 ∧
      ¬SameFindings (Db.warning "a/b" "c") 1 (Db.warning "a" "b/c") 1 := by
  constructor
  · have htext : sealedText (Db.warning "a/b" "c") 1 = sealedText (Db.warning "a" "b/c") 1 := by decide +kernel
    unfold sealedBytes
    rw [htext]
  · rintro ⟨_, hwarnings⟩
    rw [warnings_warning, warnings_warning, Set.singleton_eq_singleton_iff] at hwarnings
    exact absurd (Warned.mk.inj hwarnings).1 (by decide)

theorem plain_warning {host domain : String} (hh : '/' ∉ host.toList ∧ '\n' ∉ host.toList)
    (hd : '/' ∉ domain.toList ∧ '\n' ∉ domain.toList) : (Db.warning host domain).Plain 1 := by
  refine ⟨fun r hr => absurd hr not_mem_nil, fun r hr => ?_⟩
  obtain rfl := mem_singleton.mp hr
  have hkind : '/' ∉ "disk_pressure".toList ∧ '\n' ∉ "disk_pressure".toList := by decide
  have hseverity : '=' ∉ "info".toList ∧ '\n' ∉ "info".toList := by decide
  exact ⟨hh, hd, hkind, not_mem_nil, hseverity⟩

/-- A finding that moves to another domain changes what is hashed. -/
theorem a_domain_is_told_apart : sealedBytes (Db.warning "a" "b") 1 ≠ sealedBytes (Db.warning "a" "c") 1 := by
  intro h
  obtain ⟨_, hwarnings⟩ :=
    (digest_iff (plain_warning (by decide) (by decide)) (plain_warning (by decide) (by decide))).1.mp h
  rw [warnings_warning, warnings_warning, Set.singleton_eq_singleton_iff] at hwarnings
  exact absurd (Warned.mk.inj hwarnings).2.1 (by decide)

end Nq
