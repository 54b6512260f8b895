/-
  Nq.Sentinel.Publisher — the liveness artifact as the publisher writes it and the sentinel
  reads it (`nq-db/src/liveness.rs`, `write_liveness` and `read_liveness`, as called in
  `nq-monitor/src/cmd/serve.rs` and `sentinel.rs`).

  The artifact is written to a file of its own name with the extension `json.tmp` and renamed
  into place. The publisher may die at any call, and the sentinel may read between any two.

  - `withExtension_ne`: the file beside is never the artifact itself.
  - `writeLiveness_run`: a call of `write_liveness` is a run of the writer; one that returns has
    published.
  - `polls_read_the_last_write`: each poll reads what the last completed write put there, or
    finds it missing when none is complete; later polls never read an earlier write.
  - `never_malformed`: so no poll of the sentinel ever is in state malformed, and none is
    missing once a write was completed.

  `serde_json` is a parameter (`LivenessJson`), and so are `OffsetDateTime`'s parser and
  formatter of RFC 3339.
-/

import Nq.Files.Beside
import Nq.Sentinel.Watch

namespace Nq.Liveness

open Files (Act Beside BesideRun BesideStep Path PathBuf Phase Tree)
open List
open Sentinel
open Preflight (wholeSeconds)

/-! ## The file beside -/

/-- `Path::file_stem` of a name: up to its last dot, unless that dot is the first character. -/
def fileStem (name : List Char) : List Char :=
  match name.reverse.dropWhile (· ≠ '.') with
  | [] => name
  | _ :: before => if before = [] then name else before.reverse

/-- `Path::with_extension` of a name. -/
def withExtension (name : String) (extension : String) : String :=
  String.ofList (fileStem name.toList ++ '.' :: extension.toList)

/-- A name up to its last dot, and the rest. -/
theorem fileStem_cases (name : List Char) :
    fileStem name = name ∨ ∃ ext, '.' ∉ ext ∧ name = fileStem name ++ '.' :: ext := by
  unfold fileStem
  cases hrest : name.reverse.dropWhile (· ≠ '.') with
  | nil => exact .inl rfl
  | cons c before =>
    by_cases hbefore : before = []
    · simp [hbefore]
    · right
      have hdot : c = '.' := by
        have hhead := head?_dropWhile_not (fun x => decide (x ≠ '.')) name.reverse
        rw [hrest] at hhead
        simpa using hhead
      have hsplit : name.reverse = name.reverse.takeWhile (· ≠ '.') ++ '.' :: before := by
        conv_lhs => rw [← takeWhile_append_dropWhile (p := fun x => decide (x ≠ '.')) (l := name.reverse), hrest, hdot]
      refine ⟨(name.reverse.takeWhile (· ≠ '.')).reverse, fun hmem => ?_, ?_⟩
      · have := mem_takeWhile_imp (mem_reverse.mp hmem)
        simp at this
      · have := congrArg List.reverse hsplit
        simpa [hbefore] using this

/-- An extension with a dot in it gives another name. -/
theorem withExtension_ne (name : String) {extension : String}
    (hdot : '.' ∈ extension.toList) : withExtension name extension ≠ name := by
  intro h
  have htext : fileStem name.toList ++ '.' :: extension.toList = name.toList := by
    have := congrArg String.toList h
    simpa [withExtension] using this
  rcases fileStem_cases name.toList with hstem | ⟨ext, hext, hname⟩
  · rw [hstem] at htext
    have := congrArg List.length htext
    simp at this
  · have hsame : '.' :: extension.toList = '.' :: ext := append_cancel_left (htext.trans hname)
    exact hext ((List.cons.inj hsame).2 ▸ hdot)

/-! ## The document -/

structure LivenessDocument where
  livenessFormatVersion : UInt32
  instanceId : Option String
  generatedAt : String
  generationId : Int
  schemaVersion : UInt32
  contractVersion : Option UInt32
  buildCommit : Option String
  findingsObserved : Int
  findingsSuppressed : Int
  detectorsRun : Int
  status : String
  deriving DecidableEq, Repr

/-- What the sentinel reads of it. -/
def LivenessDocument.artifact (d : LivenessDocument) : LivenessArtifact := ⟨d.generatedAt, d.generationId⟩

/-- `serde_json::to_vec_pretty` and `serde_json::from_slice`: a document reads back. -/
structure LivenessJson where
  toVecPretty : LivenessDocument → Except String (List UInt8)
  fromSlice : List UInt8 → Except String LivenessDocument
  reads_back : ∀ d bytes, toVecPretty d = .ok bytes → fromSlice bytes = .ok d

section

variable (json : LivenessJson) (dir : Path) (name : String)

def artifactPath : Path := dir ++ [name]

def tmpPath : Path := dir ++ [withExtension name "json.tmp"]

/-- `write_liveness`: the tree it leaves, and its answer. -/
def writeLiveness (t : Tree) (doc : LivenessDocument) : Tree × Except String Unit :=
  match json.toVecPretty doc with
  | .error e => (t, .error e)
  | .ok bytes =>
    match t.write (Path.buf (tmpPath dir name)) [] with
    | .error e => (t, .error e.text)
    | .ok t₁ =>
      match t₁.write (Path.buf (tmpPath dir name)) bytes with
      | .error e => (t₁, .error e.text)
      | .ok t₂ =>
        match t₂.rename (Path.buf (tmpPath dir name)) (Path.buf (artifactPath dir name)) with
        | .error e => (t₂, .error e.text)
        | .ok t₃ => (t₃, .ok ())

/-- `read_liveness` -/
def readLiveness (t : Tree) (path : PathBuf) : Reading :=
  match t.read path with
  | .error .notFound => .error .missing
  | .error e => .error (.io e.text)
  | .ok bytes =>
    match json.fromSlice bytes with
    | .error e => .error (.malformed e)
    | .ok doc => .ok doc.artifact

end

variable {json : LivenessJson} {dir : Path} {name : String} {t₀ : Tree}

theorem tmpPath_ne : tmpPath dir name ≠ artifactPath dir name := by
  intro h
  have hlast := (append_inj' h rfl).2
  exact withExtension_ne name (by decide) (singleton_inj.mp hlast)

theorem tmpPath_ne_dir : tmpPath dir name ≠ (artifactPath dir name).dropLast := by
  intro h
  have := congrArg List.length h
  simp [tmpPath, artifactPath] at this

/-! ## The publisher and the sentinel -/

/-- Bytes that `serve` writes: of a document stamped with the formatted clock. -/
def Written (json : LivenessJson) (format : Int → Option String) (bytes : List UInt8) : Prop :=
  ∃ doc now, format now = some doc.generatedAt ∧ json.toVecPretty doc = .ok bytes

/-- The publisher's acts and the sentinel's polls, interleaved. A poll is kept with what was
    published by then. -/
inductive Watched (json : LivenessJson) (format : Int → Option String) (dir : Path) (name : String) (t₀ : Tree) :
    List (List UInt8) → List (Poll × List (List UInt8)) → Beside → Prop
  | start : Watched json format dir name t₀ [] [] ⟨t₀, .idle⟩
  | quiet {published polls s a s'} : Watched json format dir name t₀ published polls s →
      BesideStep (tmpPath dir name) (artifactPath dir name) s a s' → a ≠ .rename →
      (∀ bytes, a = .create bytes → Written json format bytes) → Watched json format dir name t₀ published polls s'
  | renamed {published polls t t' bytes k} : Watched json format dir name t₀ published polls ⟨t, .writing bytes k⟩ →
      BesideStep (tmpPath dir name) (artifactPath dir name) ⟨t, .writing bytes k⟩ .rename ⟨t', .idle⟩ →
      Watched json format dir name t₀ (bytes :: published) polls ⟨t', .idle⟩
  | poll {published polls s} (now : Int) (elapsed : Nat) : Watched json format dir name t₀ published polls s →
      Watched json format dir name t₀ published
        (polls ++ [(⟨readLiveness json s.tree (Path.buf (artifactPath dir name)), now, elapsed⟩, published)]) s

section

variable {format : Int → Option String} {published : List (List UInt8)}
  {polls : List (Poll × List (List UInt8))} {s : Beside}

/-- A call of `write_liveness` is a run of the writer; one that succeeds has published. -/
theorem writeLiveness_run {t : Tree} (doc : LivenessDocument) {now : Int} (hnow : format now = some doc.generatedAt)
    (h : Watched json format dir name t₀ published polls ⟨t, .idle⟩) :
    ((writeLiveness json dir name t doc).2 = .ok () ∧ ∃ bytes, json.toVecPretty doc = .ok bytes ∧
        Watched json format dir name t₀ (bytes :: published) polls ⟨(writeLiveness json dir name t doc).1, .idle⟩) ∨
      (∃ e, (writeLiveness json dir name t doc).2 = .error e) ∧
        Watched json format dir name t₀ published polls ⟨(writeLiveness json dir name t doc).1, .idle⟩ := by
  unfold writeLiveness
  cases hjson : json.toVecPretty doc with
  | error e => exact .inr ⟨⟨e, rfl⟩, h⟩
  | ok bytes =>
    cases hcreate : t.write (Path.buf (tmpPath dir name)) [] with
    | error e => exact .inr ⟨⟨e.text, rfl⟩, h⟩
    | ok t₁ =>
      have hwritten : ∀ b, Act.create bytes = .create b → Written json format b := by
        intro b hb
        cases hb
        exact ⟨doc, now, hnow, hjson⟩
      have h₁ := h.quiet (.create hcreate) (by simp) hwritten
      cases hwrite : t₁.write (Path.buf (tmpPath dir name)) bytes with
      | error e =>
        simp only [hwrite]
        exact .inr ⟨⟨e.text, rfl⟩, h₁.quiet .stop (by simp) (by simp)⟩
      | ok t₂ =>
        have h₂ := h₁.quiet (.append (n := bytes.length) (by simpa using hwrite)) (by simp) (by simp)
        cases hrename : t₂.rename (Path.buf (tmpPath dir name)) (Path.buf (artifactPath dir name)) with
        | error e =>
          simp only [hwrite, hrename]
          exact .inr ⟨⟨e.text, rfl⟩, h₂.quiet .stop (by simp) (by simp)⟩
        | ok t₃ =>
          simp only [hwrite, hrename]
          exact .inl ⟨trivial, bytes, rfl, h₂.renamed (.rename (by simp) hrename)⟩

theorem Watched.run (h : Watched json format dir name t₀ published polls s) :
    BesideRun (tmpPath dir name) (artifactPath dir name) t₀ published s := by
  induction h with
  | start => exact .start
  | quiet _ hstep ha _ ih => exact ih.quiet hstep ha
  | renamed _ hstep ih => exact ih.renamed hstep
  | poll _ _ _ ih => exact ih

/-- What is published, and what is being written, `serve` wrote. -/
theorem Watched.written (h : Watched json format dir name t₀ published polls s) :
    (∀ bytes ∈ published, Written json format bytes) ∧ ∀ bytes k, s.phase = .writing bytes k →
      Written json format bytes := by
  induction h with
  | start => exact ⟨by simp, nofun⟩
  | @quiet published polls s a s' _ hstep ha hcreate ih =>
    refine ⟨ih.1, fun bytes k hphase => ?_⟩
    cases hstep with
    | create _ =>
      cases hphase
      exact hcreate _ rfl
    | append _ =>
      cases hphase
      exact ih.2 _ _ rfl
    | rename _ _ => exact absurd rfl ha
    | stop => cases hphase
    | elsewhere _ _ _ => exact ih.2 bytes k hphase
  | @renamed published polls t t' bytes k _ _ ih =>
    refine ⟨?_, nofun⟩
    rw [forall_mem_cons]
    exact ⟨ih.2 bytes k rfl, ih.1⟩
  | poll _ _ _ ih => exact ih

/-- What a poll finds when `published` is what was renamed into place by then. -/
def Finds (json : LivenessJson) (format : Int → Option String)
    (published : List (List UInt8)) (reading : Reading) : Prop :=
  match published with
  | [] => reading = .error .missing
  | bytes :: _ => ∃ doc now, format now = some doc.generatedAt ∧ json.toVecPretty doc = .ok bytes ∧
      reading = .ok doc.artifact

/-- Each poll reads what the last completed write put there, and a later poll never reads an
    earlier write. -/
theorem polls_read_the_last_write (hn : Tree.Nulless (artifactPath dir name)) (hdir : t₀.node dir = some .dir)
    (hnew : t₀.node (artifactPath dir name) = none) (h : Watched json format dir name t₀ published polls s) :
    (∀ x ∈ polls, Finds json format x.2 x.1.artifact ∧ x.2 <:+ published) ∧ polls.Pairwise fun x y => x.2 <:+ y.2 := by
  induction h with
  | start => exact ⟨by simp, List.Pairwise.nil⟩
  | quiet _ _ _ _ ih => exact ih
  | @renamed published polls t t' bytes k _ _ ih =>
    exact ⟨fun x hx => ⟨(ih.1 x hx).1, (ih.1 x hx).2.trans (suffix_cons _ _)⟩, ih.2⟩
  | @poll published polls s now elapsed h ih =>
    have hfinds : Finds json format published (readLiveness json s.tree (Path.buf (artifactPath dir name))) := by
      have hread := Files.besideRun_read tmpPath_ne tmpPath_ne_dir hn (by simp [artifactPath])
        (by simpa [artifactPath] using hdir) hnew h.run
      unfold readLiveness
      rw [hread]
      cases hpub : published with
      | nil => rfl
      | cons bytes rest =>
        obtain ⟨doc, now, hformat, hjson⟩ := h.written.1 bytes (by simp [hpub])
        exact ⟨doc, now, hformat, hjson, by simp [Files.register, json.reads_back doc bytes hjson]⟩
    constructor
    · intro x hx
      rcases mem_append.mp hx with hx | hx
      · exact ih.1 x hx
      · rw [mem_singleton.mp hx]
        exact ⟨hfinds, suffix_refl _⟩
    · refine pairwise_append.mpr ⟨ih.2, pairwise_singleton _ _, fun x hx y hy => ?_⟩
      rw [mem_singleton.mp hy]
      exact (ih.1 x hx).2

end

/-! ## What the sentinel makes of it -/

variable {Channel : Type} {format : Int → Option String}
  {config : SentinelConfig Channel} {p : Poll} {rfc3339 : String → Except String Int} {t : Tracked}

theorem stateOf_missing (hp : p.artifact = .error .missing) :
    stateOf rfc3339 config t p = .starting ∨ stateOf rfc3339 config t p = .missing := by
  by_cases hgrace : inGrace config p
  · left
    simp [stateOf, hgrace]
  · right
    simp [stateOf, hgrace, hp, classify]

theorem stateOf_read {a : LivenessArtifact} {at_ : Int} (hp : p.artifact = .ok a)
    (hat : rfc3339 a.generatedAt = .ok at_) :
    stateOf rfc3339 config t p = .stale ∨ stateOf rfc3339 config t p = .stuck ∨
      stateOf rfc3339 config t p = .healthy := by
  have hgrace : ¬inGrace config p := fun h => by simpa [hp] using h.2
  by_cases hage : config.maxAgeSeconds < wholeSeconds (p.now - at_)
  · simp [stateOf, hgrace, hp, classify, hat, hage]
  · cases hlast : t.lastGenerationId with
    | none => simp [stateOf, hgrace, hp, classify, hat, hage, hlast]
    | some prev =>
      by_cases hstuck : prev = a.generationId ∧ config.stuckAfterPolls ≤ t.sameGenRun
      · simp [stateOf, hgrace, hp, classify, hat, hage, hlast, hstuck]
      · simp [stateOf, hgrace, hp, classify, hat, hage, hlast, hstuck]

/-- In no interleaving of the publisher's calls, its deaths and the polls is a poll malformed;
    none is missing, or in its grace, once a write was completed. -/
theorem never_malformed {rfc3339 : String → Except String Int} (config : SentinelConfig Channel)
    (hclock : ∀ now text, format now = some text → rfc3339 text = .ok now) (hn : Tree.Nulless (artifactPath dir name))
    (hdir : t₀.node dir = some .dir) (hnew : t₀.node (artifactPath dir name) = none) {published : List (List UInt8)}
    {polls : List (Poll × List (List UInt8))} {s : Beside}
    (h : Watched json format dir name t₀ published polls s) {i : Nat}
    {o : Observed} (ho : (run rfc3339 config (polls.map Prod.fst))[i]? = some o) :
    o.state ≠ .malformed ∧ ∀ p pub, polls[i]? = some (p, pub) →
      pub ≠ [] → o.state ≠ .missing ∧ o.state ≠ .starting := by
  obtain ⟨before, after, hsplit, hlen⟩ : ∃ before after, run rfc3339 config (polls.map Prod.fst) = before ++ o ::
    after ∧ before.length = i := by
    obtain ⟨hi, rfl⟩ := List.getElem?_eq_some_iff.mp ho
    exact ⟨_, _, (take_append_drop i _).symm.trans (by rw [drop_eq_getElem_cons hi]), by rw [length_take]; omega⟩
  obtain ⟨ps, p, qs, hpolls, hbefore, hstate, -⟩ := observed_spec rfc3339 config hsplit
  have hps : ps.length = i := by rw [← hlen, hbefore, length_run]
  obtain ⟨x, hx, hxp⟩ : ∃ x, polls[i]? = some x ∧ x.1 = p := by
    have hat : (polls.map Prod.fst)[i]? = some p := by rw [hpolls, ← hps]; simp
    rw [getElem?_map] at hat
    simpa using hat
  have hfinds := ((polls_read_the_last_write hn hdir hnew h).1 x (mem_of_getElem? hx)).1
  rw [hstate]
  unfold stateAt
  rw [hxp] at hfinds
  cases hpub : x.2 with
  | nil =>
    rw [hpub] at hfinds
    refine ⟨?_, fun p' pub hat hne => ?_⟩
    · have hstates : stateOf rfc3339 config (tracked (ps ++ [p])) p = .starting ∨
          stateOf rfc3339 config (tracked (ps ++ [p])) p = .missing := stateOf_missing hfinds
      rcases hstates with h | h <;> simp [h]
    · rw [hx] at hat
      cases hat
      exact absurd hpub hne
  | cons bytes rest =>
    rw [hpub] at hfinds
    obtain ⟨doc, now, hformat, -, hread⟩ := hfinds
    have hstates : stateOf rfc3339 config (tracked (ps ++ [p])) p = .stale ∨
        stateOf rfc3339 config (tracked (ps ++ [p])) p = .stuck ∨
          stateOf rfc3339 config (tracked (ps ++ [p])) p = .healthy := stateOf_read hread (hclock now _ hformat)
    rcases hstates with h | h | h <;> simp [h]

/-! ## One write, polled before and after -/

def sampleDocument : LivenessDocument :=
  { livenessFormatVersion := 1, instanceId := none, generatedAt := "2026-05-20T00:01:00Z",
    generationId := 42, schemaVersion := 64
    contractVersion := some 1, buildCommit := none, findingsObserved := 3, findingsSuppressed := 0
    detectorsRun := 20, status := "ok" }

def sampleBytes : List UInt8 :=
  ("\x7b\n  \"liveness_format_version\": 1,\n  \"generated_at\": \"2026-05-20T00:01:00Z\",\n  \"generation_id\": 42,\n" ++
    "  \"schema_version\": 64,\n  \"contract_version\": 1,\n  \"findings_observed\": 3,\n  \"findings_suppressed\": 0,\n" ++
    "  \"detectors_run\": 20,\n  \"status\": \"ok\"\n\x7d").toUTF8.data.toList

/-- The codec, at that document. -/
def sampleJson : LivenessJson where
  toVecPretty d := if d = sampleDocument then .ok sampleBytes else .error "not the sample"
  fromSlice bytes := if bytes = sampleBytes then .ok sampleDocument
    else .error "EOF while parsing a value at line 1 column 0"
  reads_back d bytes h := by
    split at h
    · rename_i hd
      cases h
      simp [hd]
    · cases h

open Preflight (dayCrates dayCrates_rfc3339 day seconds)

theorem sample_watched : ∃ published polls s, published ≠ [] ∧
    polls.length = 2 ∧ (∃ x, polls[1]? = some x ∧ x.2 = published) ∧
    Watched sampleJson dayCrates.format [] "liveness.json" Tree.empty published polls s := by
  have hstart := (Watched.start : Watched sampleJson dayCrates.format [] "liveness.json" Tree.empty _ _ _).poll
    (day + seconds 30) 30
  have hok : (writeLiveness sampleJson [] "liveness.json" Tree.empty sampleDocument).2 = .ok () := by decide +kernel
  have hformat : dayCrates.format (day + seconds 60) = some sampleDocument.generatedAt := by decide +kernel
  rcases writeLiveness_run sampleDocument hformat hstart with ⟨-, bytes, -, h⟩ | ⟨⟨e, he⟩, -⟩
  · exact ⟨[bytes], _, _, by simp, rfl, ⟨_, rfl, rfl⟩, h.poll (day + seconds 90) 90⟩
  · rw [hok] at he
    cases he

/-- The second poll reads the write that was completed before it. -/
theorem a_poll_reads_the_write_before_it : ∃ published polls s,
    Watched sampleJson dayCrates.format [] "liveness.json" Tree.empty published polls s ∧ published ≠ [] ∧
      ∀ x ∈ polls, Finds sampleJson dayCrates.format x.2 x.1.artifact ∧ x.2 <:+ published := by
  obtain ⟨published, polls, s, hne, -, -, h⟩ := sample_watched
  exact ⟨published, polls, s, h, hne, (polls_read_the_last_write (by decide +kernel) rfl rfl h).1⟩

/-- It is neither missing nor malformed. -/
theorem a_poll_after_the_write_is_not_missing : ∃ published polls s o,
    Watched sampleJson dayCrates.format [] "liveness.json" Tree.empty published polls s ∧
      (run (fun text => dayCrates.codec.rfc3339 text) ({ artifactPath := "/liveness.json" } : SentinelConfig Unit)
        (polls.map Prod.fst))[1]? = some o ∧ o.state ≠ .malformed ∧ o.state ≠ .missing := by
  obtain ⟨published, polls, s, hne, hlen, ⟨x, hx, hpub⟩, h⟩ := sample_watched
  obtain ⟨o, ho⟩ : ∃ o,
    (run (fun text => dayCrates.codec.rfc3339 text) ({ artifactPath := "/liveness.json" } : SentinelConfig Unit)
      (polls.map Prod.fst))[1]? = some o := by
    refine ⟨_, getElem?_eq_getElem ?_⟩
    rw [length_run, length_map, hlen]
    decide
  have hclock : ∀ now text, dayCrates.format now = some text → dayCrates.codec.rfc3339 text = .ok now := by
    intro now text hformat
    exact Sql.toOption_eq_some.mp (dayCrates_rfc3339.parse_format now text hformat)
  have hstate := never_malformed { artifactPath := "/liveness.json" } hclock (by decide +kernel) rfl rfl h ho
  exact ⟨published, polls, s, o, h, ho, hstate.1, (hstate.2 x.1 x.2 hx (hpub ▸ hne)).1⟩

end Nq.Liveness
