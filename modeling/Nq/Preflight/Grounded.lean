/-
  Nq.Preflight.Grounded — whether an admissible verdict rests on admitted evidence.

  `disk_state` always does (`disk_grounded`). `dns_state` and `service_state` date a row by
  its stamp as it is stored and project it by its stamp without the space around it, so a
  row whose stamp is padded has no age, and is admitted however old it is
  (`a_padded_stamp_never_goes_stale`); so does `ingest_state` its generation, and a failed
  source with a later text is the newest support whatever instant it is. `sqlite_wal_state`
  classifies the whole window and then supports it with the rows that project. Each is
  grounded exactly where that does not happen (`admissible_is_grounded_iff`).
-/

import Nq.Preflight.Clock
import Nq.Preflight.DiskState
import Nq.Preflight.DnsState
import Nq.Preflight.IngestState
import Nq.Preflight.ServiceState
import Nq.Preflight.WalState

namespace Nq.Preflight

open List hiding le_antisymm le_refl not_le
open Receipts (Codec WitnessPacket)
open Sql (Table)

/-! ## Evidence -/

/-- The stamp of the projections made at `now`. -/
def generatedAt (crates : Crates) (now : Int) : String := (crates.format now).getD ""

/-- What an answer rests on: it is supported, every support has the identity of a valid
    packet that was projected, the answer is the same `without` the rows that are refused,
    and where its kind is about time, its newest support is fresh. -/
structure Evidence (crates : Crates) (projected : WitnessPacket → Prop) (thresholdSeconds : Option Int) (now : Int)
    (result without : PreflightResult) : Prop where
  supported : result.supports ≠ []
  identified : ∀ s ∈ result.supports, ∃ packet, projected packet ∧ packet.validate crates.codec = .ok () ∧
    ∃ identity, packetIdentity crates.codec packet = some identity ∧ s.witnessPacket = some identity
  unchanged : without.verdict = result.verdict
  fresh : ∀ n ∈ thresholdSeconds, ∃ newest ∈ result.observedAtMax, FreshStamp crates n now newest

def Grounded (crates : Crates) (projected : WitnessPacket → Prop) (thresholdSeconds : Option Int) (now : Int)
    (result without : PreflightResult) : Prop :=
  result.verdict = .admissibleWithScope → Evidence crates projected thresholdSeconds now result without

section

variable (crates : Crates) (now : Int)

/-- The rows a projector refuses. -/
def refuses {α : Type} (project : α → String → Except ProjectionRefusal WitnessPacket) (r : α) : Bool :=
  !projects (project · (generatedAt crates now)) r

def DnsGrounded (t : DnsTable) (key : DnsObservationTuple) : Prop :=
  Grounded crates (fun packet => ∃ r ∈ t.rows, projectDnsObservation crates r (generatedAt crates now) = .ok packet)
    (some dnsStateStaleThresholdSeconds) now (evaluateDnsStatePreflightAt crates t key now)
    (evaluateDnsStatePreflightAt crates (t.delete (refuses crates now (projectDnsObservation crates))) key now)

def ServiceGrounded (t : ServiceTable) (key : ServiceObservationTuple) : Prop :=
  Grounded crates (fun packet => ∃ r ∈ t.rows, projectServiceObservation crates r (generatedAt crates now) = .ok packet)
    (some serviceStateStaleThresholdSeconds) now (evaluateServiceStatePreflightAt crates t key now)
    (evaluateServiceStatePreflightAt crates (t.delete (refuses crates now (projectServiceObservation crates))) key now)

def WalGrounded (t : WalTable) (target : SqliteWalTarget) : Prop :=
  Grounded crates (fun packet => ∃ r ∈ t.table.rows,
    projectWalObservation crates r (generatedAt crates now) = .ok packet)
    (some walStaleThresholdSeconds) now (evaluateSqliteWalStatePreflightAt crates t target now)
    (evaluateSqliteWalStatePreflightAt crates (t.delete (refuses crates now (projectWalObservation crates))) target now)

/-- The tables without the generations and the sources that are refused. -/
def IngestTables.withoutRefused (t : IngestTables) : IngestTables :=
  ⟨t.generations.delete (refuses crates now (projectIngestGeneration crates)),
    t.sourceRuns.delete (refuses crates now fun src => projectIngestSource crates src.generationId src)⟩

def IngestGrounded (t : IngestTables) : Prop :=
  Grounded crates (fun packet => (∃ gen ∈ t.generations.rows,
    projectIngestGeneration crates gen (generatedAt crates now) = .ok packet) ∨
      ∃ src ∈ t.sourceRuns.rows, projectIngestSource crates src.generationId src (generatedAt crates now) = .ok packet)
    (some ingestStateStaleThresholdSeconds) now (evaluateIngestStatePreflightAt crates t now)
    (evaluateIngestStatePreflightAt crates (t.withoutRefused crates now) now)

variable (message : FindingId → String) (ws : WarningState) (host : String) (target : Option String)

/-- A finding of the substrate that is refused; standing is not projected. -/
def refusesFinding (r : WarningRow) : Bool :=
  r.kind ∈ diskStateSubstrateDetectors && refuses crates now (projectDiskStateFinding crates) (snapshot message ws r)

def DiskGrounded : Prop :=
  Grounded crates (fun packet => ∃ r ∈ ws.rows,
    projectDiskStateFinding crates (snapshot message ws r) (generatedAt crates now) = .ok packet)
    none now (evaluateDiskStatePreflightAt crates message ws host target now)
    (evaluateDiskStatePreflightAt crates message (ws.delete (refusesFinding crates now message ws)) host target now)

end

/-! ## The conditions -/

section

variable (crates : Crates) (now : Int)

/-- The latest row, if it is an answer that projects, has an RFC 3339 stamp as it is stored. -/
def DnsDated (t : DnsTable) (key : DnsObservationTuple) : Prop :=
  ∀ r ∈ latestObservationForTuple t key, isAnswer r.obs.responseKind = true →
    projects (projectDnsObservation crates · (generatedAt crates now)) r = true → (crates.parse r.obs.observedAt).isSome

def ServiceDated (t : ServiceTable) (key : ServiceObservationTuple) : Prop :=
  ∀ r ∈ latestServiceObservationForTuple t key,
    projects (projectServiceObservation crates · (generatedAt crates now)) r = true →
      (crates.parse r.obs.observedAt).isSome

/-- The rows of the window that project. -/
def projectedWindow (t : WalTable) (target : SqliteWalTarget) : List WalRow :=
  (walWindow crates t target now).filter (projects (projectWalObservation crates · (generatedAt crates now)))

/-- A window past the gates would be past them with the rows that project alone: these are
    enough, and their last is fresh. -/
def WalProjected (t : WalTable) (target : SqliteWalTarget) : Prop :=
  Classifiable crates (walWindow crates t target now) now →
    walMinSamplesElevated ≤ (projectedWindow crates now t target).length ∧
      ∃ latest ∈ (projectedWindow crates now t target).getLast?,
        FreshStamp crates walStaleThresholdSeconds now latest.obs.observedAt

/-- The failed sources of a generation that project. -/
def FailedProjected (t : IngestTables) (gen : GenerationRow) (src : IngestSourceRun) : Prop :=
  src ∈ loadFailedSourceRuns t gen.generationId ∧
    projects (projectIngestSource crates gen.generationId · (generatedAt crates now)) src = true

/-- A generation that projects and is not stale has an RFC 3339 stamp as it is stored, if no
    failed source that projects has a later text; and if one has, the latest is fresh. -/
structure IngestDated (t : IngestTables) (gen : GenerationRow) : Prop where
  alone : (∀ src, FailedProjected crates now t gen src → src.receivedAt ≤ gen.completedAt) →
    (crates.parse gen.completedAt).isSome
  later : ∀ src, FailedProjected crates now t gen src → gen.completedAt < src.receivedAt →
    (∀ other, FailedProjected crates now t gen other → other.receivedAt ≤ src.receivedAt) →
      FreshStamp crates ingestStateStaleThresholdSeconds now src.receivedAt

end

/-! ## Each evaluator -/

section

variable {crates : Crates} {now : Int} (hjcs : ∀ packet, ∃ bytes, crates.codec.packetToVec packet = .ok bytes)

theorem projects_of_refuses {α : Type} {project : α → String → Except ProjectionRefusal WitnessPacket} {r : α}
    (h : projects (project · (generatedAt crates now)) r = true) : refuses crates now project r = false := by
  unfold refuses
  rw [h]
  rfl

include hjcs

theorem exists_identity (packet : WitnessPacket) : ∃ identity, packetIdentity crates.codec packet = some identity := by
  obtain ⟨bytes, hbytes⟩ := hjcs packet
  unfold packetIdentity WitnessPacket.digest
  rw [hbytes]
  exact ⟨_, rfl⟩

theorem dns_grounded_iff {t : DnsTable} {key : DnsObservationTuple} : DnsGrounded crates now t key ↔
    DnsDated crates now t key := by
  constructor
  · intro hgrounded r hr hk hp
    obtain ⟨packet, hpacket⟩ := projects_iff.mp hp
    by_contra hunread
    have hstale : isStale dnsStateStaleThresholdSeconds (crates.ageSeconds r.obs.observedAt now) = false :=
      isStale_of_unread hunread
    obtain ⟨newest, hnewest, hfresh⟩ := (hgrounded (evaluateDns_admissible.mpr ⟨r, hr, hk, hp, hstale⟩)).fresh _ rfl
    rw [(evaluateDns_supported hr hpacket hstale hk).2] at hnewest
    cases hnewest
    exact hunread (freshStamp_iff.mp hfresh).1
  · intro hdated hadmissible
    obtain ⟨r, hr, hk, hp, hstale⟩ := evaluateDns_admissible.mp hadmissible
    obtain ⟨packet, hpacket⟩ := projects_iff.mp hp
    obtain ⟨hsupports, hmax⟩ := evaluateDns_supported hr hpacket hstale hk
    obtain ⟨identity, hidentity⟩ := exists_identity hjcs packet
    refine ⟨by rw [hsupports]; simp, fun s hs => ?_, ?_, ?_⟩
    · rw [hsupports, mem_singleton] at hs
      subst hs
      exact ⟨packet, ⟨r, mem_of_mem_filter (Stored.latest_mem hr), hpacket⟩, projectDnsObservation_validates hpacket,
        identity, hidentity, hidentity⟩
    · rw [hadmissible]
      exact evaluateDns_admissible.mpr ⟨r, latestObservationForTuple_delete hr (projects_of_refuses hp), hk, hp, hstale⟩
    · rintro n ⟨⟩
      exact ⟨r.obs.observedAt, hmax, freshStamp_iff.mpr ⟨hdated r hr hk hp, hstale⟩⟩

theorem service_grounded_iff {t : ServiceTable} {key : ServiceObservationTuple} :
    ServiceGrounded crates now t key ↔ ServiceDated crates now t key := by
  constructor
  · intro hgrounded r hr hp
    obtain ⟨packet, hpacket⟩ := projects_iff.mp hp
    by_contra hunread
    have hstale : isStale serviceStateStaleThresholdSeconds (crates.ageSeconds r.obs.observedAt now) = false :=
      isStale_of_unread hunread
    obtain ⟨newest, hnewest, hfresh⟩ := (hgrounded (evaluateService_admissible.mpr ⟨r, hr, hp, hstale⟩)).fresh _ rfl
    rw [(evaluateService_supported hr hpacket hstale).2] at hnewest
    cases hnewest
    exact hunread (freshStamp_iff.mp hfresh).1
  · intro hdated hadmissible
    obtain ⟨r, hr, hp, hstale⟩ := evaluateService_admissible.mp hadmissible
    obtain ⟨packet, hpacket⟩ := projects_iff.mp hp
    obtain ⟨hsupports, hmax⟩ := evaluateService_supported hr hpacket hstale
    obtain ⟨identity, hidentity⟩ := exists_identity hjcs packet
    refine ⟨by rw [hsupports]; simp, fun s hs => ?_, ?_, ?_⟩
    · rw [hsupports, mem_singleton] at hs
      subst hs
      exact ⟨packet, ⟨r, mem_of_mem_filter (Stored.latest_mem hr), hpacket⟩,
        projectServiceObservation_validates hpacket, identity, hidentity, hidentity⟩
    · rw [hadmissible]
      exact evaluateService_admissible.mpr ⟨r,
        latestServiceObservationForTuple_delete hr (projects_of_refuses hp), hp, hstale⟩
    · rintro n ⟨⟩
      exact ⟨r.obs.observedAt, hmax, freshStamp_iff.mpr ⟨hdated r hr hp, hstale⟩⟩

omit hjcs in
theorem freshStamp_iff_parse {n : Int} {stamp : String} :
    FreshStamp crates n now stamp ↔ ∃ t ∈ crates.parse stamp, wholeSeconds (now - t) ≤ n := by
  unfold FreshStamp Crates.ageSeconds
  cases crates.parse stamp <;> simp

omit hjcs in
/-- Without some of its rows, a window past the gates is past them if enough are left and the
    last is fresh. -/
theorem Classifiable.filter_iff {window : List WalRow} (h : Classifiable crates window now) (p : WalRow → Bool) :
    Classifiable crates (window.filter p) now ↔ walMinSamplesElevated ≤ (window.filter p).length ∧
      ∃ latest ∈ (window.filter p).getLast?, FreshStamp crates walStaleThresholdSeconds now latest.obs.observedAt := by
  simp only [freshStamp_iff_parse]
  constructor
  · intro hp
    exact ⟨hp.many, hp.fresh⟩
  · rintro ⟨hmany, hfresh⟩
    refine ⟨findSome?_eq_none_iff.mpr fun r hr => ?_, findSome?_eq_none_iff.mpr fun r hr => ?_, hfresh, hmany⟩
    · exact findSome?_eq_none_iff.mp h.accessible r (mem_of_mem_filter hr)
    · exact findSome?_eq_none_iff.mp h.consistent r (mem_of_mem_filter hr)

omit hjcs in
/-- The last row of a window has its greatest stamp. -/
theorem max?_observedAt {window : List WalRow} (hsorted : window.Pairwise WalRow.upTo) {latest : WalRow}
    (h : window.getLast? = some latest) : (window.map fun r => r.obs.observedAt).max? = some latest.obs.observedAt := by
  refine max?_eq_some_iff.mpr ⟨List.mem_map.mpr ⟨latest, mem_of_getLast? h, rfl⟩, fun stamp hstamp => ?_⟩
  obtain ⟨r, hr, rfl⟩ := List.mem_map.mp hstamp
  exact (upTo_of_getLast hsorted h r hr).le

theorem wal_grounded_iff {t : WalTable} {target : SqliteWalTarget} : WalGrounded crates now t target ↔
    WalProjected crates now t target := by
  have hwithout : walWindow crates (t.delete (refuses crates now (projectWalObservation crates))) target now =
      projectedWindow crates now t target := by
    rw [walWindow_delete]
    exact filter_congr fun r _ => Bool.not_not _
  constructor
  · intro hgrounded hc
    have hadmissible := evaluateSqliteWal_admissible.mpr hc
    have hunchanged := (hgrounded hadmissible).unchanged
    rw [hadmissible, evaluateSqliteWal_admissible, hwithout] at hunchanged
    exact (hc.filter_iff _).mp hunchanged
  · intro hprojected hadmissible
    have hc := evaluateSqliteWal_admissible.mp hadmissible
    obtain ⟨hmany, latest, hlatest, hfresh⟩ := hprojected hc
    obtain ⟨hsupports, hmax⟩ := evaluateSqliteWal_supported hc
    have hstamps : (evaluateSqliteWalStatePreflightAt crates t target now).supports.filterMap
      PreflightSupport.observedAt =
        (projectedWindow crates now t target).map fun r => r.obs.observedAt := by
      rw [hsupports]
      exact filterMap_supportAdmitted (fun r packet => by rfl) _
    refine ⟨fun hnil => ?_, fun s hs => ?_, ?_, ?_⟩
    · rw [hnil] at hstamps
      have hlength := congrArg List.length hstamps
      rw [length_map] at hlength
      unfold walMinSamplesElevated at hmany
      simp at hlength
      omega
    · rw [hsupports] at hs
      obtain ⟨r, hr, packet, hpacket, rfl⟩ := mem_supportAdmitted.mp hs
      obtain ⟨identity, hidentity⟩ := exists_identity hjcs packet
      exact ⟨packet, ⟨r, mem_of_mem_filter (mem_of_mem_filter (mem_walWindow.mp hr)), hpacket⟩,
        projectWalObservation_validates hpacket, identity, hidentity, hidentity⟩
    · rw [hadmissible, evaluateSqliteWal_admissible, hwithout]
      exact (hc.filter_iff _).mpr ⟨hmany, latest, hlatest, hfresh⟩
    · rintro n ⟨⟩
      refine ⟨latest.obs.observedAt, ?_, hfresh⟩
      rw [hmax, hstamps]
      exact max?_observedAt (walWindow_pairwise.filter _) hlatest

/-- The greatest stamp of a generation and its failed sources. -/
theorem ingest_grounded_iff {t : IngestTables} : IngestGrounded crates now t ↔ ∀ gen ∈ loadLatestGeneration t,
    projects (projectIngestGeneration crates · (generatedAt crates now)) gen = true →
      isStale ingestStateStaleThresholdSeconds (crates.ageSeconds gen.completedAt now) = false →
        IngestDated crates now t gen := by
  -- the stamps of the supports are the generation's and those of the failed sources that project
  have hstamps : ∀ {gen : GenerationRow} {packet : WitnessPacket}, loadLatestGeneration t = some gen →
      projectIngestGeneration crates gen (generatedAt crates now) = .ok packet → ∀ {stamp : String},
      stamp ∈ (evaluateIngestStatePreflightAt crates t now).supports.filterMap PreflightSupport.observedAt ↔
        stamp = gen.completedAt ∨ ∃ src, FailedProjected crates now t gen src ∧ src.receivedAt = stamp := by
    intro gen packet hgen hpacket stamp
    have hsources : (admitSources crates gen.generationId (generatedAt crates now)
      (loadFailedSourceRuns t gen.generationId)).1.filterMap
        PreflightSupport.observedAt = _ := filterMap_supportAdmitted (fun src packet => by rfl) _
    rw [(evaluateIngest_supported hgen hpacket).1, filterMap_cons_some (b := gen.completedAt) (by rfl), mem_cons]
    refine or_congr Iff.rfl ?_
    rw [← generatedAt, hsources, List.mem_map]
    simp only [mem_filter]
    rfl
  constructor
  · intro hgrounded gen hgen hp hstale
    obtain ⟨packet, hpacket⟩ := projects_iff.mp hp
    obtain ⟨newest, hnewest, hfresh⟩ := (hgrounded (evaluateIngest_admissible.mpr ⟨gen, hgen, hp, hstale⟩)).fresh _ rfl
    rw [(evaluateIngest_supported hgen hpacket).2, Option.mem_def, max?_eq_some_iff] at hnewest
    obtain ⟨hmem, hmax⟩ := hnewest
    have hgenle := hmax _ ((hstamps hgen hpacket).mpr (Or.inl rfl))
    refine ⟨fun halone => ?_, fun src hsrc hlater hgreatest => ?_⟩
    · have heq : newest = gen.completedAt := by
        rcases (hstamps hgen hpacket).mp hmem with h | ⟨src, hsrc, rfl⟩
        · exact h
        · exact le_antisymm (halone src hsrc) hgenle
      exact (freshStamp_iff.mp (heq ▸ hfresh)).1
    · have heq : newest = src.receivedAt := by
        have hle := hmax _ ((hstamps hgen hpacket).mpr (Or.inr ⟨src, hsrc, rfl⟩))
        rcases (hstamps hgen hpacket).mp hmem with rfl | ⟨other, hother, rfl⟩
        · exact absurd hle (not_le.mpr hlater)
        · exact le_antisymm (hgreatest other hother) hle
      exact heq ▸ hfresh
  · intro hdated hadmissible
    obtain ⟨gen, hgen, hp, hstale⟩ := evaluateIngest_admissible.mp hadmissible
    obtain ⟨packet, hpacket⟩ := projects_iff.mp hp
    obtain ⟨hsupports, hmax⟩ := evaluateIngest_supported hgen hpacket
    have hgenrow : gen ∈ t.generations.rows := (Sql.firstBy_greatest completedLater_iff hgen).1
    refine ⟨by rw [hsupports]; simp, fun s hs => ?_, ?_, ?_⟩
    · rw [hsupports, mem_cons] at hs
      rcases hs with rfl | hs
      · obtain ⟨identity, hidentity⟩ := exists_identity hjcs packet
        exact ⟨packet, Or.inl ⟨gen, hgenrow, hpacket⟩, projectIngestGeneration_validates hpacket, identity,
          hidentity, hidentity⟩
      · obtain ⟨src, hsrc, packet', hpacket', rfl⟩ := mem_supportAdmitted.mp hs
        obtain ⟨identity, hidentity⟩ := exists_identity hjcs packet'
        obtain ⟨hrow, hid, _⟩ := mem_loadFailedSourceRuns.mp hsrc
        exact ⟨packet', Or.inr ⟨src, hrow, hid ▸ hpacket'⟩, projectIngestSource_validates hpacket',
          identity, hidentity, hidentity⟩
    · rw [hadmissible]
      exact evaluateIngest_admissible.mpr ⟨gen, loadLatestGeneration_delete hgen (projects_of_refuses hp), hp, hstale⟩
    · rintro n ⟨⟩
      obtain ⟨halone, hlater⟩ := hdated gen hgen hp hstale
      obtain ⟨newest, hnewest⟩ :=
        Option.isSome_iff_exists.mp (isSome_max?_of_mem ((hstamps hgen hpacket).mpr (Or.inl rfl)))
      refine ⟨newest, hmax.trans hnewest, ?_⟩
      obtain ⟨hmem, hgreatest⟩ := max?_eq_some_iff.mp hnewest
      have hsources : ∀ src, FailedProjected crates now t gen src → src.receivedAt ≤ newest :=
        fun src hsrc => hgreatest _ ((hstamps hgen hpacket).mpr (Or.inr ⟨src, hsrc, rfl⟩))
      rcases (hstamps hgen hpacket).mp hmem with rfl | ⟨src, hsrc, rfl⟩
      · exact freshStamp_iff.mpr ⟨halone hsources, hstale⟩
      · rcases (hgreatest _ ((hstamps hgen hpacket).mpr (Or.inl rfl))).lt_or_eq with hlt | heq
        · exact hlater src hsrc hlt hsources
        · rw [← heq] at hsources ⊢
          exact freshStamp_iff.mpr ⟨halone hsources, hstale⟩

section

variable {message : FindingId → String} {ws : WarningState} {host : String} {target : Option String}

/-- A finding of the substrate that is asked about, and projects. -/
def AdmittedFinding (crates : Crates) (now : Int) (message : FindingId → String) (ws : WarningState) (host : String)
    (target : Option String) (r : WarningRow) : Prop :=
  Asked host target r ∧ r.kind ∈ diskStateSubstrateDetectors ∧
    projects (projectDiskStateFinding crates · (generatedAt crates now)) (snapshot message ws r) = true

omit hjcs in
theorem mem_admittedSubstrate {s : FindingSnapshot} :
    s ∈ admittedSubstrate crates message ws host target (generatedAt crates now) ↔
    ∃ r ∈ ws.rows, AdmittedFinding crates now message ws host target r ∧ snapshot message ws r = s := by
  unfold admittedSubstrate diskSubstrate
  rw [mem_filter, mem_partitioned]
  constructor
  · rintro ⟨⟨r, hr, hasked, hkind, rfl⟩, hp⟩
    exact ⟨r, hr, ⟨hasked, hkind, hp⟩, rfl⟩
  · rintro ⟨r, hr, ⟨hasked, hkind, hp⟩, rfl⟩
    exact ⟨⟨r, hr, hasked, hkind, rfl⟩, hp⟩

omit hjcs in
/-- The answer is admissible with scope exactly where the admitted findings do not contradict
    each other, a witness stands, and one of them is observable. -/
theorem evaluateDisk_admissible :
    (evaluateDiskStatePreflightAt crates message ws host target now).verdict = .admissibleWithScope ↔
    (¬ ∃ r ∈ ws.rows, AdmittedFinding crates now message ws host target r ∧ r.kind = "smart_status_lies" ∧
      r.visibilityState ≠ .suppressed) ∧
    ¬ Stands ws host target "node_unobservable" ∧
    ¬ (Stands ws host target "zfs_witness_silent" ∧ Stands ws host target "smart_witness_silent") ∧
    ∃ r ∈ ws.rows, AdmittedFinding crates now message ws host target r ∧ r.visibilityState ≠ .suppressed := by
  have hlies : reports "smart_status_lies"
    (admittedSubstrate crates message ws host target (generatedAt crates now)) = true ↔
      ∃ r ∈ ws.rows, AdmittedFinding crates now message ws host target r ∧ r.kind = "smart_status_lies" ∧
        r.visibilityState ≠ .suppressed := by
    rw [reports_iff]
    constructor
    · rintro ⟨s, hs, hdetector, hobservable⟩
      obtain ⟨r, hr, hadmitted, rfl⟩ := mem_admittedSubstrate.mp hs
      exact ⟨r, hr, hadmitted, hdetector, (isObservable_snapshot r).mp hobservable⟩
    · rintro ⟨r, hr, hadmitted, hkind, hvisible⟩
      exact ⟨_, mem_admittedSubstrate.mpr ⟨r, hr, hadmitted, rfl⟩, hkind, (isObservable_snapshot r).mpr hvisible⟩
  have hsome : (∃ s ∈ admittedSubstrate crates message ws host target (generatedAt crates now), s.isObservable = true) ↔
      ∃ r ∈ ws.rows, AdmittedFinding crates now message ws host target r ∧ r.visibilityState ≠ .suppressed := by
    constructor
    · rintro ⟨s, hs, hobservable⟩
      obtain ⟨r, hr, hadmitted, rfl⟩ := mem_admittedSubstrate.mp hs
      exact ⟨r, hr, hadmitted, (isObservable_snapshot r).mp hobservable⟩
    · rintro ⟨r, hr, hadmitted, hvisible⟩
      exact ⟨_, mem_admittedSubstrate.mpr ⟨r, hr, hadmitted, rfl⟩, (isObservable_snapshot r).mpr hvisible⟩
  have hstands : ∀ kind ∈ diskStateStandingDetectors,
      reports kind (partitioned diskStateStandingDetectors target (exportFindings message ws host)) = true ↔
        Stands ws host target kind :=
    fun kind hkind => reports_partitioned hkind
  have hnode := hstands "node_unobservable" (by decide)
  have hzfs := hstands "zfs_witness_silent" (by decide)
  have hsmart := hstands "smart_witness_silent" (by decide)
  rw [verdict_evaluateDisk, computeVerdict_admissible, ← hlies, ← hsome, ← hnode, ← hzfs, ← hsmart,
    Bool.not_eq_true, Bool.not_eq_true]
  rfl

omit hjcs in
/-- A row stays where it is not a finding of the substrate, or projects. -/
theorem mem_withoutRefused {r : WarningRow} : r ∈ (ws.delete (refusesFinding crates now message ws)).rows ↔
    r ∈ ws.rows ∧ (r.kind ∈ diskStateSubstrateDetectors →
      projects (projectDiskStateFinding crates · (generatedAt crates now)) (snapshot message ws r) = true) := by
  rw [Table.rows_delete, mem_filter]
  refine and_congr Iff.rfl ?_
  unfold refusesFinding refuses
  by_cases hkind : r.kind ∈ diskStateSubstrateDetectors
  · simp [hkind]
  · simp [hkind]

omit hjcs in
/-- The admitted findings are those they were with the refused ones beside them. -/
theorem admitted_without {p : WarningRow → Prop} :
    (∃ r ∈ (ws.delete (refusesFinding crates now message ws)).rows,
      AdmittedFinding crates now message (ws.delete (refusesFinding crates now message ws)) host target r ∧ p r) ↔
    ∃ r ∈ ws.rows, AdmittedFinding crates now message ws host target r ∧ p r := by
  constructor
  · rintro ⟨r, hr, hadmitted, h⟩
    exact ⟨r, (mem_withoutRefused.mp hr).1, hadmitted, h⟩
  · rintro ⟨r, hr, hadmitted, h⟩
    exact ⟨r, mem_withoutRefused.mpr ⟨hr, fun _ => hadmitted.2.2⟩, hadmitted, h⟩

omit hjcs in
theorem stands_without {kind : String} (hkind : kind ∉ diskStateSubstrateDetectors) :
    Stands (ws.delete (refusesFinding crates now message ws)) host target kind ↔ Stands ws host target kind := by
  unfold Stands
  constructor
  · rintro ⟨r, hr, h⟩
    exact ⟨r, (mem_withoutRefused.mp hr).1, h⟩
  · rintro ⟨r, hr, hasked, rfl, hvisible⟩
    exact ⟨r, mem_withoutRefused.mpr ⟨hr, fun h => absurd h hkind⟩, hasked, rfl, hvisible⟩

omit hjcs in
theorem mem_supports_evaluateDisk {s : PreflightSupport} :
    s ∈ (evaluateDiskStatePreflightAt crates message ws host target now).supports ↔
    ∃ r ∈ ws.rows, AdmittedFinding crates now message ws host target r ∧ r.visibilityState ≠ .suppressed ∧
      ∃ packet, projectDiskStateFinding crates (snapshot message ws r) (generatedAt crates now) = .ok packet ∧
        { (snapshot message ws r).makeSupport with witnessPacket := packetIdentity crates.codec packet } = s := by
  rw [supports_evaluateDisk, mem_supportAdmitted]
  constructor
  · rintro ⟨snap, hsnap, packet, hpacket, rfl⟩
    obtain ⟨hmem, hobservable⟩ := mem_filter.mp hsnap
    obtain ⟨r, hr, hadmitted, rfl⟩ := mem_admittedSubstrate.mp hmem
    exact ⟨r, hr, hadmitted, (isObservable_snapshot r).mp hobservable, packet, hpacket, rfl⟩
  · rintro ⟨r, hr, hadmitted, hvisible, packet, hpacket, rfl⟩
    exact ⟨_, mem_filter.mpr ⟨mem_admittedSubstrate.mpr ⟨r, hr, hadmitted, rfl⟩,
      (isObservable_snapshot r).mpr hvisible⟩, packet, hpacket, rfl⟩

/-- What `disk_state` admits, it admits of the findings that are projected. -/
theorem disk_grounded : DiskGrounded crates now message ws host target := by
  intro hadmissible
  obtain ⟨hlies, hnode, hsilent, r, hr, hadmitted, hvisible⟩ := evaluateDisk_admissible.mp hadmissible
  refine ⟨fun hnil => ?_, fun s hs => ?_, ?_, fun n hn => nomatch hn⟩
  · obtain ⟨packet, hpacket⟩ := projects_iff.mp hadmitted.2.2
    have hmem := mem_supports_evaluateDisk.mpr ⟨r, hr, hadmitted, hvisible, packet, hpacket, rfl⟩
    rw [hnil] at hmem
    cases hmem
  · obtain ⟨r', hr', _, _, packet, hpacket, rfl⟩ := mem_supports_evaluateDisk.mp hs
    obtain ⟨identity, hidentity⟩ := exists_identity hjcs packet
    exact ⟨packet, ⟨r', hr', hpacket⟩, projectDiskStateFinding_validates hpacket, identity, hidentity, hidentity⟩
  · rw [hadmissible, evaluateDisk_admissible, admitted_without, admitted_without, stands_without (by decide),
      stands_without (by decide), stands_without (by decide)]
    exact ⟨hlies, hnode, hsilent, r, hr, hadmitted, hvisible⟩

end

end

/-- Where every row of the window projects, the rows that project are enough. -/
theorem walProjected_of_projects {crates : Crates} {now : Int} {t : WalTable} {target : SqliteWalTarget}
    (h : ∀ r ∈ walWindow crates t target now,
      projects (projectWalObservation crates · (generatedAt crates now)) r = true) :
    WalProjected crates now t target := by
  intro hc
  have hall : projectedWindow crates now t target = walWindow crates t target now := filter_eq_self.mpr h
  obtain ⟨latest, hlatest, x, hx, hage⟩ := hc.fresh
  rw [hall]
  exact ⟨hc.many, latest, hlatest, wholeSeconds (now - x), by simp [Crates.ageSeconds, Option.mem_def.mp hx], hage⟩

/-! ## Noon -/

def noon : Int := day + seconds 43200

def noonText : String := String.ofList (dayText 43200 0)

theorem format_noon : dayCrates.format noon = some noonText :=
  dayFormat_iff.mpr ⟨43200, 0, by omega, by omega, rfl, rfl⟩

theorem generatedAt_noon : generatedAt dayCrates noon = noonText := by rw [generatedAt, format_noon, Option.getD_some]

theorem parse_noon : dayCrates.parse noonText = some noon := dayCrates_rfc3339.parse_format _ _ format_noon

theorem trimmed_noon : trimmed noonText = noonText := by
  rw [trimmed, noonText, String.toList_ofList]
  exact congrArg String.ofList (by decide)

def question : DnsObservationTuple := ⟨"sushi-k", "8.8.8.8", "nq.neutral.zone", "A"⟩

def dnsRow (observedAt : String) : DnsRow :=
  ⟨1, { generationId := 1, vantageHost := "sushi-k", resolver := "8.8.8.8", queryName := "nq.neutral.zone"
        queryType := "A", responseKind := .success, rcode := some 0
        answerSummary := some "23.92.30.41", minTtlSeconds := some 300
        durationMs := 42, observedAt, errorDetail := none }⟩

def dnsTable (observedAt : String) : DnsTable := ⟨[dnsRow observedAt], nodup_singleton _⟩

def kea : ServiceObservationTuple := ⟨"sushi-k", "systemd", "kea-dhcp4"⟩

def noonServices : ServiceTable :=
  ⟨[⟨1, { generationId := 1, host := "sushi-k", serviceManager := "systemd", serviceName := "kea-dhcp4"
          activeState := "active", subState := none, loadState := none, unitFileState := none
          observedAt := noonText }⟩], nodup_singleton _⟩

def noonIngest : IngestTables where
  generations := ⟨[{ generationId := 1, startedAt := noonText, completedAt := noonText, status := .complete
                     sourcesExpected := 1, sourcesOk := 1, sourcesFailed := 0 }], nodup_singleton _⟩
  sourceRuns := .empty

def noonFindings : WarningState :=
  ⟨[{ host := "nas", kind := "zfs_pool_degraded", subject := "tank", firstSeenGen := 1, firstSeenAt := noonText
      lastSeenGen := 1, lastSeenAt := noonText }], nodup_singleton _⟩

/-- One of the hundred looks of a probe at a small WAL; a window of fewer is not classified. -/
def noonWal (k : Nat) : WalRow :=
  ⟨k + 1, { generationId := k + 1, host := "labelwatch", dbFilePath := "/var/lib/labelwatch.db"
            observationStatus := .observed, walPresent := some true, walBytes := some 4096, walMtime := none
            dbBytes := some 8192, dbMtime := some noonText, procAccess := .notAttempted
            pinnedReaderPresent := none, pinnedReaderPid := none, pinnedReaderCommand := none
            observedAt := noonText, errorDetail := none }⟩

variable (k : Nat)

theorem noonWal_checked : (noonWal k).obs.Checked where
  walBytes := by rintro n ⟨⟩; decide
  dbBytes := by rintro n ⟨⟩; decide
  walAbsent := fun _ h => absurd rfl h
  unread := fun _ => ⟨rfl, rfl, rfl⟩
  read := fun h => nomatch h
  unpinned := fun h => nomatch h
  reader := rfl
  observed := fun _ => ⟨rfl, rfl, rfl, rfl, rfl⟩
  unobserved := fun h => absurd rfl h

def noonWals : WalTable where
  table := ⟨(List.range 100).map noonWal, nodup_numbered (fun _ => rfl) 100⟩
  checked := by
    intro r hr
    obtain ⟨k, _, rfl⟩ := List.mem_map.mp hr
    exact noonWal_checked k

def labelwatchDb : SqliteWalTarget := ⟨"labelwatch", "/var/lib/labelwatch.db"⟩

theorem noonWal_projects : projects (projectWalObservation dayCrates · noonText) (noonWal k) = true := by
  have hid : ¬((k : Int) + 1 ≤ 0) := by omega
  have hhost : trimmed "labelwatch" = "labelwatch" := by decide
  have hpath : trimmed "/var/lib/labelwatch.db" = "/var/lib/labelwatch.db" := by decide
  have hstamp : ∀ {empty notRfc3339 s}, recoverStamp dayCrates empty notRfc3339 noonText = .ok s ↔ noonText = s := by
    intro empty notRfc3339 s
    rw [recoverStamp_ok, trimmed_noon, parse_noon]
    simp [show noonText ≠ "" by decide]
  rw [projects_iff]
  simp only [projectWalObservation, refusedAs_ok, Collections.check_ok, Collections.rejectIf_ok, noonWal, hhost, hpath]
  simp only [Sql.bind_ok, Collections.okOr_ok, Collections.rejectIf_ok, hstamp, validated_ok]
  refine ⟨_, decide_eq_false hid, rfl, by decide, by decide, true,
    rfl, 4096, rfl, 8192, rfl, (), by decide, (), by decide,
    noonText, rfl, noonText, rfl, noonText, hstamp.mpr rfl, validate_legacyPacket ?_ ⟨noon, ?_⟩ ⟨noon, ?_⟩ ?_ ?_, rfl⟩
  · intro s hs
    simp only [cons_append, nil_append, mem_cons, not_mem_nil, or_false] at hs
    have hsource : Nonblank "wal_observation:" := ⟨'w', by decide, by decide⟩
    rcases hs with rfl | rfl | rfl | rfl | rfl | rfl | rfl
    · exact ⟨'s', by decide, by decide⟩
    · exact ⟨'h', by decide, by decide⟩
    · exact ⟨'l', by decide, by decide⟩
    · exact ⟨'2', by decide, by decide⟩
    · exact ⟨'2', by decide, by decide⟩
    · exact hsource.append_right _
    · exact ⟨'p', by decide, by decide⟩
  · exact Sql.toOption_eq_some.mp parse_noon
  · exact Sql.toOption_eq_some.mp parse_noon
  · simp [Receipts.Json.field]
  · simp [Receipts.Json.field]

theorem mem_noonWals {r : WalRow} (hr : r ∈ walWindow dayCrates noonWals labelwatchDb noon) : ∃ k, r = noonWal k := by
  obtain ⟨k, _, e⟩ := List.mem_map.mp (mem_of_mem_filter (mem_of_mem_filter (mem_walWindow.mp hr)))
  exact ⟨k, e.symm⟩

theorem length_noonWals : (walWindow dayCrates noonWals labelwatchDb noon).length = 100 := by
  have hstart : walWindowStart dayCrates noon ≤ noonText := by decide
  have hall : recentRows dayCrates noonWals labelwatchDb noon = (List.range 100).map noonWal := by
    unfold recentRows WalTable.history
    rw [filter_filter]
    refine filter_eq_self.mpr fun r hr => ?_
    obtain ⟨k, _, rfl⟩ := List.mem_map.mp hr
    exact Bool.and_eq_true_iff.mpr ⟨decide_eq_true hstart, rfl⟩
  rw [length_walWindow, hall, length_map, List.length_range]

theorem noonWals_classifiable : Classifiable dayCrates (walWindow dayCrates noonWals labelwatchDb noon) noon where
  accessible := by
    refine findSome?_eq_none_iff.mpr fun r hr => ?_
    obtain ⟨k, rfl⟩ := mem_noonWals hr
    rfl
  consistent := by
    refine findSome?_eq_none_iff.mpr fun r hr => contradiction_eq_none fun x hx raw hraw y hy => ?_
    obtain ⟨k, rfl⟩ := mem_noonWals hr
    rcases hraw with hraw | hraw
    · cases hraw
      rw [show (noonWal k).obs.observedAt = noonText from rfl, parse_noon] at hx
      rw [parse_noon] at hy
      cases hx
      cases hy
      exact le_refl _
    · cases hraw
  fresh := by
    have hne : walWindow dayCrates noonWals labelwatchDb noon ≠ [] := by
      intro hnil
      have hlength := length_noonWals
      rw [hnil] at hlength
      cases hlength
    obtain ⟨k, hk⟩ := mem_noonWals (getLast_mem hne)
    exact ⟨_, getLast?_eq_some_getLast hne, noon, by rw [hk]; exact parse_noon, by decide⟩
  many := by
    rw [length_noonWals]
    decide

/-! ## A padded stamp -/

/-- The text of midnight, as a row has it, and after a space. -/
def midnight : String := String.ofList (dayText 0 0)
def padded : String := " " ++ midnight

/-- What is read is what is written, and no text of the day starts with a space. -/
theorem parse_padded : dayCrates.parse padded = none := by
  rw [parse_dayCrates]
  unfold dayParse
  split
  · rename_i h
    obtain ⟨n, f, _, _, _, e⟩ := dayFormat_iff.mp h
    have hhead := congrArg (fun s => s.toList.head?) e
    simp [padded, dayText] at hhead
  · rfl

/-! ## Admissible verdicts -/

/-- In every database and at every instant, an admissible verdict rests on admitted evidence
    exactly where stamps are read as they are stored, and the rows of a WAL window that
    project classify it. -/
theorem admissible_is_grounded_iff (crates : Crates)
    (hjcs : ∀ packet, ∃ bytes, crates.codec.packetToVec packet = .ok bytes) (now : Int)
    (dns : DnsTable) (question : DnsObservationTuple) (services : ServiceTable) (service : ServiceObservationTuple)
    (wal : WalTable) (database : SqliteWalTarget) (ingest : IngestTables)
    (message : FindingId → String) (ws : WarningState) (host : String) (target : Option String) :
    (DnsGrounded crates now dns question ↔ DnsDated crates now dns question) ∧
    (ServiceGrounded crates now services service ↔ ServiceDated crates now services service) ∧
    (WalGrounded crates now wal database ↔ WalProjected crates now wal database) ∧
    (IngestGrounded crates now ingest ↔ ∀ gen ∈ loadLatestGeneration ingest,
      projects (projectIngestGeneration crates · (generatedAt crates now)) gen = true →
        isStale ingestStateStaleThresholdSeconds (crates.ageSeconds gen.completedAt now) = false →
          IngestDated crates now ingest gen) ∧
    DiskGrounded crates now message ws host target :=
  ⟨dns_grounded_iff hjcs, service_grounded_iff hjcs, wal_grounded_iff hjcs, ingest_grounded_iff hjcs,
    disk_grounded hjcs⟩

/-- At noon, over rows of noon, each of the five is admissible, and grounded. -/
theorem grounded_at_noon :
    ((evaluateDnsStatePreflightAt dayCrates (dnsTable noonText) question noon).verdict = .admissibleWithScope ∧
      DnsGrounded dayCrates noon (dnsTable noonText) question) ∧
    ((evaluateServiceStatePreflightAt dayCrates noonServices kea noon).verdict = .admissibleWithScope ∧
      ServiceGrounded dayCrates noon noonServices kea) ∧
    ((evaluateSqliteWalStatePreflightAt dayCrates noonWals labelwatchDb noon).verdict = .admissibleWithScope ∧
      WalGrounded dayCrates noon noonWals labelwatchDb) ∧
    ((evaluateIngestStatePreflightAt dayCrates noonIngest noon).verdict = .admissibleWithScope ∧
      IngestGrounded dayCrates noon noonIngest) ∧
    ((evaluateDiskStatePreflightAt dayCrates (fun _ => "pool tank is DEGRADED") noonFindings "nas" none noon).verdict =
        .admissibleWithScope ∧
      DiskGrounded dayCrates noon (fun _ => "pool tank is DEGRADED") noonFindings "nas" none) := by
  obtain ⟨hdns, hservice, hwal, hingest, hdisk⟩ :=
    admissible_is_grounded_iff dayCrates (fun _ => ⟨_, rfl⟩) noon (dnsTable noonText)
    question noonServices kea noonWals labelwatchDb noonIngest (fun _ =>
      "pool tank is DEGRADED") noonFindings "nas" none
  have hread : (dayCrates.parse noonText).isSome = true := by rw [parse_noon]; rfl
  refine ⟨⟨by decide +kernel, hdns.mpr ?_⟩, ⟨by decide +kernel, hservice.mpr ?_⟩,
    ⟨evaluateSqliteWal_admissible.mpr noonWals_classifiable, hwal.mpr ?_⟩, ⟨by decide +kernel, hingest.mpr ?_⟩,
    by decide +kernel, hdisk⟩
  · intro r hr _ _
    cases hr
    exact hread
  · intro r hr _
    cases hr
    exact hread
  · refine walProjected_of_projects fun r hr => ?_
    obtain ⟨k, rfl⟩ := mem_noonWals hr
    rw [generatedAt_noon]
    exact noonWal_projects k
  · intro gen hgen _ _
    cases hgen
    refine ⟨fun _ => hread, fun src hsrc => ?_⟩
    cases hsrc.1

/-- A success from midnight whose stamp follows a space is admissible at noon. -/
theorem a_padded_stamp_never_goes_stale :
    (evaluateDnsStatePreflightAt dayCrates (dnsTable padded) question noon).verdict = .admissibleWithScope ∧
      ¬ DnsGrounded dayCrates noon (dnsTable padded) question := by
  have hjcs : ∀ packet, ∃ bytes, dayCrates.codec.packetToVec packet = .ok bytes := fun packet => ⟨_, rfl⟩
  refine ⟨by decide +kernel, fun h => ?_⟩
  have hdated := (dns_grounded_iff hjcs).mp h (dnsRow padded) (by decide) rfl (by decide +kernel)
  rw [show (dnsRow padded).obs.observedAt = padded from rfl, parse_padded] at hdated
  cases hdated

end Nq.Preflight
