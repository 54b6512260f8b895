/-
  Nq.LeasePresence.Transport — the gather from a pfSense box
  (`nq-monitor/src/lease_presence_transport.rs`).

  One script prints the DHCP backend, the lease files and the ARP table, each behind a line
  of its own, and the reader looks for these lines again. The backend is always read back
  (`backend_splitSections`). The leases and the ARP table are exactly when neither holds
  the line written behind it (`splitSections_iff`): a host name in a lease is text of a
  client (`a_host_name_ends_the_leases`).
-/

import Nq.Text.Find
import Nq.Text.Words

namespace Nq.LeasePresence

open List
open Text (trim isWhitespace cut MarkedOff)

inductive DhcpBackend where
  | isc | kea | unknown
  deriving DecidableEq, Repr

def sectionBackend : List Char := "===NQ_BACKEND===".toList
def sectionLeases : List Char := "===NQ_LEASES===".toList
def sectionArp : List Char := "===NQ_ARP===".toList
def sectionEnd : List Char := "===NQ_END===".toList

/-! ## The script -/

/-- What the script finds: each lease file there is, and what `arp -an` prints. -/
structure Firewall where
  /-- `/var/dhcpd/var/db/dhcpd.leases`. -/
  iscLeases : Option (List Char)
  /-- `/var/db/kea/kea-leases4.csv`. -/
  keaLeases : Option (List Char)
  /-- `/var/lib/kea/kea-leases4.csv`. -/
  keaLibLeases : Option (List Char)
  arp : List Char

namespace Firewall

def backend (fw : Firewall) : DhcpBackend :=
  if fw.iscLeases.isSome then .isc else if fw.keaLeases.isSome then .kea else .unknown

/-- The lease files, one after the other. -/
def leases (fw : Firewall) : List Char := fw.iscLeases.getD [] ++ fw.keaLeases.getD [] ++ fw.keaLibLeases.getD []

end Firewall

def DhcpBackend.token : DhcpBackend → List Char
  | .isc => "isc".toList
  | .kea => "kea".toList
  | .unknown => "unknown".toList

def echo (s : List Char) : List Char := s ++ ['\n']

/-- What `remote_read_script` prints. -/
def remoteRead (fw : Firewall) : List Char :=
  echo sectionBackend ++ echo fw.backend.token ++ echo sectionLeases ++ fw.leases ++ echo sectionArp ++ fw.arp ++
    echo sectionEnd

/-! ## The reader -/

def between (s start stop : List Char) : List Char :=
  match cut start s with
  | none => []
  | some (_, after) =>
    match cut stop after with
    | some (x, _) => x
    | none => after

def splitSections (gather : List Char) : DhcpBackend × List Char × List Char :=
  let token := trim (between gather sectionBackend sectionLeases)
  let backend := if token = "isc".toList then .isc else if token = "kea".toList then .kea else .unknown
  (backend, trim (between gather sectionLeases sectionArp), trim (between gather sectionArp sectionEnd))

/-! ## Sections -/

variable {x : List Char} (s : List Char)

theorem filter_trim : (trim s).filter (!isWhitespace ·) = s.filter (!isWhitespace ·) := by
  have hdrop : ∀ s : List Char, (s.dropWhile isWhitespace).filter (!isWhitespace ·) = s.filter (!isWhitespace ·) := by
    intro s
    induction s with
    | nil => rfl
    | cons c s ih =>
      by_cases hc : isWhitespace c = true
      · rw [dropWhile_cons_of_pos hc, ih]
        simp [hc]
      · rw [dropWhile_cons_of_neg hc]
  unfold trim List.rdropWhile
  rw [filter_reverse, hdrop, ← filter_reverse, reverse_reverse, hdrop]

/-- A text cut short at a character that shows is another text, trimmed or not. -/
theorem trim_ne_of_cut {a r : List Char} {c : Char} (hc : isWhitespace c = false) : trim a ≠ trim (a ++ c :: r) := by
  intro h
  have hlength := congrArg (fun s => (s.filter (!isWhitespace ·)).length) h
  simp [filter_trim, hc] at hlength

theorem trim_newline : trim ('\n' :: s) = trim s := by
  unfold trim
  rw [dropWhile_cons_of_pos (by decide)]

theorem markedOff_newline {mark : List Char} (hmark : '\n' ∉ mark) (hne : mark ≠ []) :
    MarkedOff mark ('\n' :: x) ↔ MarkedOff mark x := by
  have h := Text.markedOff_append_cons hmark hne (a := []) (b := x)
  rw [nil_append] at h
  rw [h]
  exact and_iff_right fun hinfix => hne (infix_nil.mp hinfix)

/-- A section is read back, but for its margins, exactly when its lines hold no mark that ends it. -/
theorem between_eq_iff {front start stop rest : List Char} (hstart : start ≠ []) (hstop : stop ≠ [])
    (hshows : isWhitespace (stop.head hstop) = false) (hfront : MarkedOff start front) :
    trim (between (front ++ (start ++ (x ++ (stop ++ rest)))) start stop) = trim x ↔ MarkedOff stop x := by
  obtain ⟨before, after, hcut, hcases⟩ := Text.cut_append hstart front (x ++ (stop ++ rest))
  rcases hcases with ⟨_, _, rfl⟩ | ⟨hoff, _⟩
  · obtain ⟨section_, after', hcut', hcases'⟩ := Text.cut_append hstop x rest
    have hbetween : between (front ++ (start ++ (x ++ (stop ++ rest)))) start stop = section_ := by
      unfold between
      rw [hcut]
      simp only [hcut']
    rw [hbetween]
    rcases hcases' with ⟨hoff, rfl, _⟩ | ⟨hoff, r, rfl⟩
    · exact iff_of_true rfl hoff
    · exact iff_of_false (trim_ne_of_cut hshows) hoff
  · exact absurd hfront hoff

section

variable (fw : Firewall)

theorem remoteRead_leases : remoteRead fw = (echo sectionBackend ++ echo fw.backend.token) ++
    (sectionLeases ++ (('\n' :: fw.leases) ++ (sectionArp ++ ('\n' :: (fw.arp ++ echo sectionEnd))))) := by
  simp [remoteRead, echo]

theorem remoteRead_arp : remoteRead fw = (echo sectionBackend ++ echo fw.backend.token ++ sectionLeases ++ '\n' ::
    fw.leases) ++ (sectionArp ++ (('\n' :: fw.arp) ++ (sectionEnd ++ ['\n']))) := by
  simp [remoteRead, echo]

theorem backend_splitSections : (splitSections (remoteRead fw)).1 = fw.backend := by
  have hread : remoteRead fw = [] ++ (sectionBackend ++ (('\n' :: echo fw.backend.token) ++
      (sectionLeases ++ (('\n' :: fw.leases) ++ (sectionArp ++ ('\n' :: (fw.arp ++ echo sectionEnd))))))) := by
    simp [remoteRead, echo]
  have htoken : trim (between (remoteRead fw) sectionBackend sectionLeases) = trim ('\n' :: echo fw.backend.token) := by
    rw [hread]
    exact (between_eq_iff (by decide) (by decide) (by decide) (by decide)).mpr (by cases fw.backend <;> decide)
  unfold splitSections
  rw [htoken]
  dsimp only
  cases fw.backend <;> decide

/-- The sections are what the script printed exactly when neither the leases nor the ARP table
    holds the mark behind it. -/
theorem splitSections_iff : splitSections (remoteRead fw) = (fw.backend, trim fw.leases, trim fw.arp) ↔
    MarkedOff sectionArp fw.leases ∧ MarkedOff sectionEnd fw.arp := by
  have hleases : trim (between (remoteRead fw) sectionLeases sectionArp) = trim fw.leases ↔
      MarkedOff sectionArp fw.leases := by
    rw [remoteRead_leases, ← trim_newline fw.leases, ← markedOff_newline (x := fw.leases) (by decide) (by decide)]
    exact between_eq_iff (by decide) (by decide) (by decide) (by cases fw.backend <;> decide)
  have harp : MarkedOff sectionArp fw.leases →
      (trim (between (remoteRead fw) sectionArp sectionEnd) = trim fw.arp ↔ MarkedOff sectionEnd fw.arp) := by
    intro hoff
    -- the lines before the leases end with one, so no mark runs from them into the leases
    have hfront : MarkedOff sectionArp (echo sectionBackend ++
        echo fw.backend.token ++ sectionLeases ++ '\n' :: fw.leases) := by
      have hnone : ¬sectionArp <:+: echo sectionBackend ++ echo fw.backend.token ++ sectionLeases := by
        cases fw.backend <;> decide
      have hmark : '\n' ∉ sectionArp := by decide
      exact (Text.markedOff_append_cons hmark (by decide)).mpr ⟨hnone, hoff⟩
    rw [remoteRead_arp, ← trim_newline fw.arp, ← markedOff_newline (x := fw.arp) (by decide) (by decide)]
    exact between_eq_iff (by decide) (by decide) (by decide) hfront
  have hsplit : ∀ gather, splitSections gather = ((splitSections gather).1,
      trim (between gather sectionLeases sectionArp), trim (between gather sectionArp sectionEnd)) := fun _ => rfl
  rw [hsplit, backend_splitSections, Prod.mk.injEq, Prod.mk.injEq]
  constructor
  · rintro ⟨_, hl, ha⟩
    exact ⟨hleases.mp hl, (harp (hleases.mp hl)).mp ha⟩
  · rintro ⟨hl, ha⟩
    exact ⟨rfl, hleases.mpr hl, (harp hl).mpr ha⟩

end

/-! ## A host name -/

/-- One ISC lease, with the name its client gave. -/
def leaseOf (hostName : List Char) : List Char :=
  "lease 10.0.0.66 \x7b\n  binding state active;\n  client-hostname \"".toList ++ hostName ++ "\";\n\x7d\n".toList

def boxOf (hostName : List Char) : Firewall :=
  ⟨some (leaseOf hostName), none, none, "? (10.0.0.5) at (incomplete) on igc1".toList⟩

/-- A client that names itself like the mark ends the leases there, and the rest of its lease
    becomes the head of the ARP table. -/
theorem a_host_name_ends_the_leases :
    ¬∀ fw : Firewall, splitSections (remoteRead fw) = (fw.backend, trim fw.leases, trim fw.arp) := by
  intro h
  have hbox := h (boxOf sectionArp)
  have hlengths := congrArg (fun x => x.2.1.length) hbox
  revert hlengths
  decide +kernel

end Nq.LeasePresence
