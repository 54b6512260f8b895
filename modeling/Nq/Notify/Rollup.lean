/-
  Nq.Notify.Rollup — pending notifications as cards (`nq-db/src/notify.rs`).

  `rollup_pending` puts each notification into a bucket by lane, host and detector family,
  and a legacy one also by the text `kind:subject:host`, so that it stays a card of its own.
  Nothing is lost or doubled, cards come lane by lane, and the worst findings lead
  (`rollup_grouped`). Two legacy findings of a host share a card exactly where the colon does
  not tell `kind:subject` apart (`rollup_partition`), as it does where kinds have none.
-/

import Mathlib.Data.Prod.Lex
import Mathlib.Data.String.Basic
import Mathlib.Order.OrderDual
import Nq.Collections.Buckets
import Nq.Collections.Ordered
import Nq.Notify.Pending
import Nq.Text.Percent

namespace Nq

open Collections (buckets)
open List hiding lt_irrefl
open Text.Percent (cut_inj)

/-! ## Cards -/

structure NotificationRollup where
  host : String
  stateKind : StateKind
  detectorFamily : String
  findings : List PendingNotification

def StateKind.asStr : StateKind → String
  | .incident => "incident"
  | .degradation => "degradation"
  | .maintenance => "maintenance"
  | .informational => "informational"
  | .legacyUnclassified => "legacy_unclassified"

def StateKind.laneOrder : StateKind → Nat
  | .incident => 0
  | .degradation => 1
  | .maintenance => 2
  | .informational => 3
  | .legacyUnclassified => 4

def detectorFamily (kind : String) : String :=
  if kind = "wal_bloat" ∨ kind = "freelist_bloat" then "sqlite"
  else if "zfs_".toList <+: kind.toList then "zfs"
  else if kind = "disk_pressure" ∨ kind = "mem_pressure" ∨ kind = "resource_drift" ∨ kind = "stale_host" then "host"
  else if kind = "stale_service" ∨ kind = "service_status" ∨ kind = "service_flap" ∨
    kind = "signal_dropout" then "service"
  else if kind = "log_silence" ∨ kind = "error_shift" then "logs"
  else if kind = "metric_signal" ∨ kind = "scrape_regime_shift" then "metric"
  else if kind = "check_failed" ∨ kind = "check_error" then "saved_check"
  else if kind = "source_error" then "source"
  else "other"

/-- What keeps legacy findings apart. -/
def PendingNotification.dedup (n : PendingNotification) : String :=
  if n.stateKind = .legacyUnclassified then n.kind ++ ":" ++ n.subject ++ ":" ++ n.host else ""

abbrev RollupKey := Nat ×ₗ (String ×ₗ (String ×ₗ (String ×ₗ String)))

def PendingNotification.rollupKey (n : PendingNotification) : RollupKey :=
  toLex (n.stateKind.laneOrder, toLex (n.stateKind.asStr, toLex (n.host, toLex (detectorFamily n.kind, n.dedup))))

/-- Severity first, the worst leading, then kind and subject. -/
def PendingNotification.cardKey (n : PendingNotification) : Natᵒᵈ ×ₗ (String ×ₗ String) :=
  toLex (OrderDual.toDual (severityRank n.severity), toLex (n.kind, n.subject))

/-- A bucket as a card. -/
def rollupOf (b : RollupKey × List PendingNotification) : NotificationRollup :=
  let findings := b.2.insertionSort fun a b => a.cardKey ≤ b.cardKey
  let rest := ofLex (ofLex (ofLex b.1).2).2
  { host := rest.1
    stateKind := (findings.head?.map (·.stateKind)).getD .legacyUnclassified
    detectorFamily := (ofLex rest.2).1
    findings }

def rollupPending (pending : List PendingNotification) : List NotificationRollup :=
  (buckets PendingNotification.rollupKey pending).map rollupOf

/-! ## What cards hold -/

/-- Two findings are to share a card: of one lane, host and family, and of one identity where
they are legacy. -/
structure Together (a b : PendingNotification) : Prop where
  stateKind : a.stateKind = b.stateKind
  host : a.host = b.host
  family : detectorFamily a.kind = detectorFamily b.kind
  legacy : a.stateKind = .legacyUnclassified → a.id = b.id

/-- The rollups of a list, but for legacy findings that share a card. -/
structure Grouped (pending : List PendingNotification) (rollups : List NotificationRollup) : Prop where
  perm : (rollups.flatMap (·.findings)).Perm pending
  card : ∀ r ∈ rollups, r.findings ≠ [] ∧
    ∀ a ∈ r.findings, a.host = r.host ∧ a.stateKind = r.stateKind ∧ detectorFamily a.kind = r.detectorFamily
  /-- What is to share a card is in no two cards. -/
  apart : rollups.Pairwise fun r r' => ∀ a ∈ r.findings, ∀ b ∈ r'.findings, ¬Together a b
  lanes : rollups.Pairwise fun r r' => r.stateKind.laneOrder ≤ r'.stateKind.laneOrder
  worstFirst : ∀ r ∈ rollups, r.findings.Pairwise fun a b =>
    severityRank b.severity < severityRank a.severity ∨
    severityRank b.severity = severityRank a.severity ∧ toLex (a.kind, a.subject) ≤ toLex (b.kind, b.subject)

/-- A card with a legacy finding holds that finding alone. -/
def LegacyAlone (rollups : List NotificationRollup) : Prop :=
  ∀ r ∈ rollups, ∀ a ∈ r.findings, a.stateKind = .legacyUnclassified → ∀ b ∈ r.findings, b.id = a.id

/-- No two legacy findings of a host and a family read the same up to where the kind ends. -/
def ColonsTellApart (pending : List PendingNotification) : Prop :=
  ∀ a ∈ pending, ∀ b ∈ pending, a.stateKind = .legacyUnclassified → b.stateKind = .legacyUnclassified → a.host =
    b.host → detectorFamily a.kind = detectorFamily b.kind → a.kind ++ ":" ++ a.subject = b.kind ++ ":" ++ b.subject →
    a.kind = b.kind ∧ a.subject = b.subject

section

variable {a b : PendingNotification} {pending : List PendingNotification}

theorem laneOrder_injective : Function.Injective StateKind.laneOrder := by
  intro a b h
  cases a <;> cases b <;> first | rfl | cases h

theorem rollupKey_eq : a.rollupKey = b.rollupKey ↔
    a.stateKind = b.stateKind ∧ a.host = b.host ∧ detectorFamily a.kind = detectorFamily b.kind ∧
      a.dedup = b.dedup := by
  constructor
  · intro h
    obtain ⟨hlane, h⟩ := Prod.mk.inj (toLex.injective h)
    obtain ⟨_, h⟩ := Prod.mk.inj (toLex.injective h)
    obtain ⟨hhost, h⟩ := Prod.mk.inj (toLex.injective h)
    obtain ⟨hfamily, hdedup⟩ := Prod.mk.inj (toLex.injective h)
    exact ⟨laneOrder_injective hlane, hhost, hfamily, hdedup⟩
  · intro h
    obtain ⟨hkind, hhost, hfamily, hdedup⟩ := h
    unfold PendingNotification.rollupKey
    rw [hkind, hhost, hfamily, hdedup]

theorem string_append_cancel {s t u : String} (h : s ++ u = t ++ u) : s = t := by
  have hlist := congrArg String.toList h
  rw [String.toList_append, String.toList_append] at hlist
  exact String.toList_inj.mp (append_cancel_right hlist)

theorem dedup_eq (ha : a.stateKind = .legacyUnclassified) (hb : b.stateKind = .legacyUnclassified)
    (hhost : a.host = b.host) :
    a.dedup = b.dedup ↔ a.kind ++ ":" ++ a.subject = b.kind ++ ":" ++ b.subject := by
  unfold PendingNotification.dedup
  rw [if_pos ha, if_pos hb, hhost]
  exact ⟨fun h => string_append_cancel (string_append_cancel h), fun h => by rw [h]⟩

/-- What is to share a card has one key. -/
theorem Together.key (h : Together a b) : a.rollupKey = b.rollupKey := by
  refine rollupKey_eq.mpr ⟨h.stateKind, h.host, h.family, ?_⟩
  by_cases hlegacy : a.stateKind = .legacyUnclassified
  · obtain ⟨_, hkind, hsubject⟩ := FindingId.mk.inj (h.legacy hlegacy)
    rw [dedup_eq hlegacy (h.stateKind ▸ hlegacy) h.host, hkind, hsubject]
  · unfold PendingNotification.dedup
    rw [if_neg hlegacy, if_neg (h.stateKind ▸ hlegacy)]

variable {c : RollupKey × List PendingNotification}

theorem mem_rollupOf : a ∈ (rollupOf c).findings ↔ a ∈ c.2 :=
  (perm_insertionSort _ _).mem_iff

/-- A card of a bucket: its fields are those of what it holds. -/
theorem rollupOf_card (h : Collections.Holds PendingNotification.rollupKey c) :
    (rollupOf c).findings ≠ [] ∧ ∀ a ∈ (rollupOf c).findings,
      a.host = (rollupOf c).host ∧ a.stateKind = (rollupOf c).stateKind ∧
        detectorFamily a.kind = (rollupOf c).detectorFamily := by
  obtain ⟨key, as⟩ := c
  have hne : (rollupOf (key, as)).findings ≠ [] := by
    intro hnil
    obtain ⟨first, hfirst⟩ := exists_mem_of_ne_nil as h.filled
    have hmem : first ∈ (rollupOf (key, as)).findings := mem_rollupOf.mpr hfirst
    rw [hnil] at hmem
    cases hmem
  refine ⟨hne, fun a ha => ?_⟩
  have hkey : a.rollupKey = key := h.alike a (mem_rollupOf.mp ha)
  obtain ⟨first, rest, hfindings⟩ := exists_cons_of_ne_nil hne
  have hfirst : first.rollupKey = key := h.alike first (mem_rollupOf.mp (hfindings ▸ mem_cons_self))
  have hkind : (rollupOf (key, as)).stateKind = first.stateKind := by
    show ((rollupOf (key, as)).findings.head?.map (·.stateKind)).getD .legacyUnclassified = _
    rw [hfindings]
    rfl
  refine ⟨?_, ?_, ?_⟩
  · show a.host = (ofLex (ofLex (ofLex key).2).2).1
    rw [← hkey]
    rfl
  · rw [hkind]
    exact (rollupKey_eq.mp (hkey.trans hfirst.symm)).1
  · show detectorFamily a.kind = (ofLex (ofLex (ofLex (ofLex key).2).2).2).1
    rw [← hkey]
    rfl

theorem rollupOf_worstFirst (c : RollupKey × List PendingNotification) : (rollupOf c).findings.Pairwise fun a b =>
    severityRank b.severity < severityRank a.severity ∨
    severityRank b.severity = severityRank a.severity ∧ toLex (a.kind, a.subject) ≤ toLex (b.kind, b.subject) := by
  have hsorted : (rollupOf c).findings.Pairwise fun a b => a.cardKey ≤ b.cardKey := Collections.sortOn_pairwise c.2
  refine hsorted.imp fun {a b} hle => ?_
  rcases Prod.Lex.toLex_le_toLex.mp hle with hlt | ⟨heq, hle⟩
  · exact .inl (OrderDual.toDual_lt_toDual.mp hlt)
  · exact .inr ⟨(OrderDual.toDual_inj.mp heq).symm, hle⟩

theorem rollup_perm (pending : List PendingNotification) :
    ((rollupPending pending).flatMap (·.findings)).Perm pending := by
  unfold rollupPending
  rw [flatMap_map]
  have hcards : ((buckets PendingNotification.rollupKey pending).flatMap fun c => (rollupOf c).findings).Perm
      ((buckets PendingNotification.rollupKey pending).flatMap Prod.snd) :=
    List.Perm.flatMap_left _ fun c _ => perm_insertionSort _ _
  exact hcards.trans (Collections.buckets_perm _ _)

/-- The lane of a card is that of its bucket. -/
theorem rollupOf_lane (h : Collections.Holds PendingNotification.rollupKey c) :
    (rollupOf c).stateKind.laneOrder = (ofLex c.1).1 := by
  obtain ⟨hne, hcard⟩ := rollupOf_card h
  obtain ⟨a, ha⟩ := exists_mem_of_ne_nil _ hne
  rw [← (hcard a ha).2.1, ← h.alike a (mem_rollupOf.mp ha)]
  rfl

/-- Nothing is lost or doubled, what is to share a card is in one card, cards come lane by
lane, and the worst findings lead. -/
theorem rollup_grouped (pending : List PendingNotification) : Grouped pending (rollupPending pending) := by
  have hholds := Collections.mem_buckets PendingNotification.rollupKey pending
  have hsorted := pairwise_map.mp (Collections.buckets_sorted PendingNotification.rollupKey pending)
  refine ⟨rollup_perm pending, fun r hr => ?_, ?_, ?_, fun r hr => ?_⟩
  · obtain ⟨c, hc, rfl⟩ := List.mem_map.mp hr
    exact rollupOf_card (hholds c hc)
  · refine pairwise_map.mpr (hsorted.imp_of_mem fun {c c'} hc hc' hlt a ha b hb htogether => ?_)
    have hkey := htogether.key
    rw [(hholds c hc).alike a (mem_rollupOf.mp ha), (hholds c' hc').alike b (mem_rollupOf.mp hb)] at hkey
    exact absurd hlt (hkey ▸ lt_irrefl _)
  · refine pairwise_map.mpr (hsorted.imp_of_mem fun {c c'} hc hc' hlt => ?_)
    rw [rollupOf_lane (hholds c hc), rollupOf_lane (hholds c' hc')]
    rcases Prod.Lex.lt_iff.mp hlt with hlane | ⟨hlane, _⟩
    · exact Nat.le_of_lt hlane
    · exact Nat.le_of_eq hlane
  · obtain ⟨c, _, rfl⟩ := List.mem_map.mp hr
    exact rollupOf_worstFirst c

theorem mem_pending (hc : c ∈ buckets PendingNotification.rollupKey pending) (ha : a ∈ c.2) : a ∈ pending :=
  (Collections.buckets_perm _ _).mem_iff.mp (mem_flatMap.mpr ⟨c, hc, ha⟩)

/-- Notifications of one key are in one bucket. -/
theorem bucket_of_key (ha : a ∈ pending) (hb : b ∈ pending) (hkey : a.rollupKey = b.rollupKey) :
    ∃ c ∈ buckets PendingNotification.rollupKey pending, a ∈ c.2 ∧ b ∈ c.2 := by
  have hholds := Collections.mem_buckets PendingNotification.rollupKey pending
  obtain ⟨c, hc, hac⟩ :=
    mem_flatMap.mp ((Collections.buckets_perm PendingNotification.rollupKey pending).mem_iff.mpr ha)
  obtain ⟨c', hc', hbc⟩ :=
    mem_flatMap.mp ((Collections.buckets_perm PendingNotification.rollupKey pending).mem_iff.mpr hb)
  have hsame : c.1 = c'.1 := by rw [← (hholds c hc).alike a hac, ← (hholds c' hc').alike b hbc, hkey]
  have hnodup : ((buckets PendingNotification.rollupKey pending).map Prod.fst).Nodup :=
    (Collections.buckets_sorted _ _).imp fun h => ne_of_lt h
  have hcc : c = c' := inj_on_of_nodup_map hnodup hc hc' hsame
  exact ⟨c, hc, hac, hcc ▸ hbc⟩

theorem legacyAlone_iff (pending : List PendingNotification) : LegacyAlone (rollupPending pending) ↔
    ColonsTellApart pending := by
  constructor
  · intro h a ha b hb hlegacy hlegacy' hhost hfamily htext
    have hkey : a.rollupKey = b.rollupKey :=
      rollupKey_eq.mpr ⟨hlegacy.trans hlegacy'.symm, hhost, hfamily, (dedup_eq hlegacy hlegacy' hhost).mpr htext⟩
    obtain ⟨c, hc, hac, hbc⟩ := bucket_of_key ha hb hkey
    have hid := h _ (mem_map_of_mem hc) a (mem_rollupOf.mpr hac) hlegacy b (mem_rollupOf.mpr hbc)
    obtain ⟨_, hkind, hsubject⟩ := FindingId.mk.inj hid
    exact ⟨hkind.symm, hsubject.symm⟩
  · intro h r hr a ha hlegacy b hb
    obtain ⟨c, hc, rfl⟩ := List.mem_map.mp hr
    have hholds := Collections.mem_buckets PendingNotification.rollupKey pending c hc
    have hac := mem_rollupOf.mp ha
    have hbc := mem_rollupOf.mp hb
    obtain ⟨hkind, hhost, hfamily, hdedup⟩ := rollupKey_eq.mp ((hholds.alike a hac).trans (hholds.alike b hbc).symm)
    have hlegacy' : b.stateKind = .legacyUnclassified := hkind ▸ hlegacy
    obtain ⟨hkind, hsubject⟩ := h a (mem_pending hc hac) b (mem_pending hc hbc) hlegacy hlegacy' hhost hfamily
      ((dedup_eq hlegacy hlegacy' hhost).mp hdedup)
    unfold PendingNotification.id
    rw [hhost, hkind, hsubject]

/-- A legacy finding whose identity no other legacy one has is its whole card. -/
theorem alone_of_unique {rollups : List NotificationRollup} (h : Grouped pending rollups) (halone : LegacyAlone rollups)
    {r : NotificationRollup} (hr : r ∈ rollups) (ha : a ∈ r.findings) (hlegacy : a.stateKind = .legacyUnclassified)
    (hunique : pending.countP (fun b => b.stateKind = .legacyUnclassified ∧ b.id = a.id) = 1) : r.findings = [a] := by
  have hall : ∀ b ∈ r.findings, b.stateKind = .legacyUnclassified ∧ b.id = a.id := fun b hb =>
    ⟨((h.card r hr).2 b hb).2.1.trans (((h.card r hr).2 a ha).2.1.symm.trans hlegacy), halone r hr a ha hlegacy b hb⟩
  have hcount : r.findings.countP (fun b => b.stateKind = .legacyUnclassified ∧ b.id = a.id) = r.findings.length :=
    countP_eq_length.mpr fun b hb => decide_eq_true (hall b hb)
  obtain ⟨before, after, hsplit⟩ := append_of_mem hr
  have hperm := h.perm.countP_eq (fun b : PendingNotification =>
    decide (b.stateKind = .legacyUnclassified ∧ b.id = a.id))
  rw [hsplit, flatMap_append, flatMap_cons, countP_append, countP_append, hcount, hunique] at hperm
  obtain ⟨x, hx⟩ : ∃ x, r.findings = [x] := length_eq_one_iff.mp (by
    have hpos := length_pos_of_mem ha
    omega)
  rw [hx] at ha
  rw [hx, mem_singleton.mp ha]

/-- Kinds without a colon are told apart by the first one. -/
theorem colonsTellApart_of_plain (h : ∀ n ∈ pending, n.stateKind = .legacyUnclassified → ':' ∉ n.kind.toList) :
    ColonsTellApart pending := by
  intro a ha b hb hlegacy hlegacy' _ _ htext
  have hlist := congrArg String.toList htext
  simp only [String.toList_append, append_assoc] at hlist
  obtain ⟨hkind, hsubject⟩ := cut_inj (h a ha hlegacy) (h b hb hlegacy') hlist
  exact ⟨String.toList_inj.mp hkind, String.toList_inj.mp hsubject⟩

end

/-- The rollups group what is pending, whatever it is; and legacy findings each stay a card of
their own exactly where colons tell them apart, as they do where no legacy kind has one. -/
theorem rollup_partition (pending : List PendingNotification) :
    Grouped pending (rollupPending pending) ∧
    (LegacyAlone (rollupPending pending) ↔ ColonsTellApart pending) ∧
    (ColonsTellApart pending → ∀ r ∈ rollupPending pending, ∀ a ∈ r.findings, a.stateKind = .legacyUnclassified →
      pending.countP (fun b => b.stateKind = .legacyUnclassified ∧ b.id = a.id) = 1 → r.findings = [a]) ∧
    ((∀ n ∈ pending, n.stateKind = .legacyUnclassified → ':' ∉ n.kind.toList) → ColonsTellApart pending) :=
  ⟨rollup_grouped pending, legacyAlone_iff pending,
    fun h _ hr _ ha => alone_of_unique (rollup_grouped pending) ((legacyAlone_iff pending).mpr h) hr ha,
      colonsTellApart_of_plain⟩

/-! ## Two findings on one card -/

def legacyFinding (kind subject : String) : PendingNotification where
  host := "db-1"
  domain := "host"
  kind := kind
  subject := subject
  severity := "warning"
  notificationKind := .new
  consecutiveGens := 1
  firstSeenAt := "2026-07-26T00:00:00Z"
  peakValue := none
  stateKind := .legacyUnclassified
  diagnosis := none

theorem two_legacy_findings_share_a_card :
    ¬LegacyAlone (rollupPending [legacyFinding "raid:array" "md0", legacyFinding "raid" "array:md0"]) := by
  intro h
  have hcard : (rollupPending [legacyFinding "raid:array" "md0", legacyFinding "raid" "array:md0"]).map (·.findings) =
      [[legacyFinding "raid" "array:md0", legacyFinding "raid:array" "md0"]] := by decide +kernel
  obtain ⟨r, hr, hfindings⟩ := List.mem_map.mp (hcard ▸ mem_singleton_self _)
  have hid := h r hr (legacyFinding "raid" "array:md0") (by rw [hfindings]; simp)
    rfl (legacyFinding "raid:array" "md0") (by rw [hfindings]; simp)
  exact absurd hid (by decide)

/-- Two findings of a kind without a colon stay apart. -/
theorem plain_legacy_findings_stay_apart : ∃ r ∈ rollupPending [legacyFinding "raid" "md0", legacyFinding "raid" "md1"],
    r.findings = [legacyFinding "raid" "md0"] := by
  obtain ⟨hgrouped, _, halone, hplain⟩ := rollup_partition [legacyFinding "raid" "md0", legacyFinding "raid" "md1"]
  have hmem : legacyFinding "raid" "md0" ∈
      (rollupPending [legacyFinding "raid" "md0", legacyFinding "raid" "md1"]).flatMap (·.findings) :=
    hgrouped.perm.mem_iff.mpr mem_cons_self
  obtain ⟨r, hr, ha⟩ := mem_flatMap.mp hmem
  refine ⟨r, hr, halone (hplain fun n hn _ => ?_) r hr _ ha rfl (by decide)⟩
  simp only [mem_cons, not_mem_nil, or_false] at hn
  rcases hn with rfl | rfl <;> simp [legacyFinding]

end Nq
