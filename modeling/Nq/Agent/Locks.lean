/-
  Nq.Agent.Locks — the file locks that the kernel lists, as the WAL probe reads them
  (`nq-monitor-agent/src/collect/sqlite_wal_probe.rs`).

  A line names the file by device and inode in its sixth word. A lock that waits for another has
  an arrow in front of its kind, which puts another word in that place: waiting locks are not
  counted.

  - `decodeDev_makedev`: both numbers of a device come back out of its `dev_t`.
  - `countInodeMatches_lists`: in whatever text lists the locks, the probe counts those that are
    held on the file.
-/

import Nq.Text.Lines
import Nq.Text.Digits
import Nq.Text.Tokens

namespace Nq.Agent

open List
open Text (fromStrRadix twoDigits)

/-! ## Devices -/

/-- `gnu_dev_makedev` -/
def makedev (major minor : UInt32) : UInt64 :=
  ((major.toUInt64 &&& (0xfff : UInt64)) <<< (8 : UInt64)) |||
    ((major.toUInt64 &&& (0xfffff000 : UInt64)) <<< (32 : UInt64)) |||
    (minor.toUInt64 &&& (0xff : UInt64)) ||| ((minor.toUInt64 &&& (0xffffff00 : UInt64)) <<< (12 : UInt64))

def decodeDev (dev : UInt64) : UInt64 × UInt64 :=
  (((dev >>> (8 : UInt64)) &&& (0xfff : UInt64)) ||| ((dev >>> (32 : UInt64)) &&& (0xfffff000 : UInt64)),
    (dev &&& (0xff : UInt64)) ||| ((dev >>> (12 : UInt64)) &&& (0xffffff00 : UInt64)))

theorem mask_bits (j : Nat) : (0xfff#64).getLsbD j = decide (j < 12) ∧
    (0xfffff000#64).getLsbD j = decide (12 ≤ j ∧ j < 32) ∧
    (0xff#64).getLsbD j = decide (j < 8) ∧ (0xffffff00#64).getLsbD j = decide (8 ≤ j ∧ j < 32) := by
  by_cases hj : j < 64
  · revert j
    decide
  · have hout := fun x : BitVec 64 => x.getLsbD_of_ge j (by omega)
    simp [hout]
    omega

/-- The bits of either number are kept apart. -/
theorem decodeDev_makedev (major minor : UInt32) :
    decodeDev (makedev major minor) = (major.toUInt64, minor.toUInt64) := by
  have hwide : ∀ (x : UInt32) (j : Nat), 32 ≤ j → x.toBitVec.getLsbD j = false :=
    fun x j hj => x.toBitVec.getLsbD_of_ge j hj
  unfold decodeDev makedev
  refine Prod.ext ?_ ?_
  · apply UInt64.toBitVec_inj.mp
    apply BitVec.eq_of_getLsbD_eq
    intro i hi
    simp [mask_bits]
    grind
  · apply UInt64.toBitVec_inj.mp
    apply BitVec.eq_of_getLsbD_eq
    intro i hi
    simp [mask_bits]
    grind

/-! ## Lines -/

/-- The sixth word of a line, as device and inode. -/
def parseLockLineInode (line : List Char) : Option (Nat × Nat × Nat) := do
  let field ← (Text.splitWhitespace line)[5]?
  match field.splitOn ':' with
  | [major, minor, inode] => do
    let major ← fromStrRadix 16 major
    let minor ← fromStrRadix 16 minor
    let inode ← fromStrRadix 10 inode
    return (major, minor, inode)
  | _ => none

def countInodeMatches (body : List Char) (dev ino : UInt64) : Nat :=
  let target := decodeDev dev
  (((Text.lines body).filterMap parseLockLineInode).filter fun found =>
    found.1 = target.1.toNat && found.2.1 = target.2.toNat && found.2.2 = ino.toNat).length

/-! ## The list of the kernel -/

/-- A lock as it is listed. -/
structure Lock where
  ordinal : List Char
  waits : Bool
  kind : List Char
  mode : List Char
  access : List Char
  pid : List Char
  major : UInt32
  minor : UInt32
  inode : UInt64
  extent : List (List Char)
  pid_plain : ':' ∉ pid

def Lock.place (l : Lock) : List Char :=
  twoDigits 16 l.major.toNat ++ ':' :: (twoDigits 16 l.minor.toNat ++ ':' :: Nat.toDigits 10 l.inode.toNat)

/-- The words of its line. -/
def Lock.words (l : Lock) : List (List Char) :=
  l.ordinal :: ((if l.waits then [['-', '>']] else []) ++ l.kind :: l.mode :: l.access :: l.pid :: l.place :: l.extent)

/-- The text has a line for each lock, with spaces between the words. -/
def Lists (body : List Char) (locks : List Lock) : Prop :=
  List.Forall₂ (fun line (l : Lock) => Text.splitWhitespace line = l.words) (Text.lines body) locks

/-- Held, and on that file. -/
def Lock.holds (major minor : UInt32) (ino : UInt64) (l : Lock) : Bool :=
  !l.waits && l.major = major && l.minor = minor && l.inode = ino

theorem splitOn_place (l : Lock) :
    l.place.splitOn ':' = [twoDigits 16 l.major.toNat, twoDigits 16 l.minor.toNat, Nat.toDigits 10 l.inode.toNat] := by
  have hplain : ∀ {ds : List Char}, (∀ c ∈ ds, ∃ d < 16, c = Nat.digitChar d) → ∀ c ∈ ds, (c == ':') = false := by
    intro ds hds c hc
    obtain ⟨d, hd, rfl⟩ := hds c hc
    simp [(Text.digitChar_ne d hd).2]
  have hhex : ∀ n, ∀ c ∈ twoDigits 16 n, (c == ':') = false :=
    fun n => hplain fun c hc => Text.mem_twoDigits (by omega) hc
  have hinode : ∀ c ∈ Nat.toDigits 10 l.inode.toNat, (c == ':') = false :=
    hplain fun c hc => Text.toDigit_of_mem (by omega) c hc
  unfold Lock.place List.splitOn
  rw [splitOnP_append_cons _ _ (by simp), splitOnP_append_cons _ _ (by simp), splitOnP_eq_singleton (hhex _),
    splitOnP_eq_singleton (hhex _), splitOnP_eq_singleton hinode]
  rfl

variable {l : Lock} {line : List Char}

theorem parseLockLineInode_held (hline : Text.splitWhitespace line = l.words) (hheld : l.waits = false) :
    parseLockLineInode line = some (l.major.toNat, l.minor.toNat, l.inode.toNat) := by
  have hplace : (Text.splitWhitespace line)[5]? = some l.place := by simp [hline, Lock.words, hheld]
  have hmajor : fromStrRadix 16 (twoDigits 16 l.major.toNat) = some l.major.toNat :=
    Text.fromStrRadix_digits (Text.readDigits_twoDigits (by omega) _) Text.twoDigits_ne_nil (fun c hc =>
      Text.mem_twoDigits (by omega) hc)
      (by have := l.major.toNat_lt; omega)
  have hminor : fromStrRadix 16 (twoDigits 16 l.minor.toNat) = some l.minor.toNat :=
    Text.fromStrRadix_digits (Text.readDigits_twoDigits (by omega) _) Text.twoDigits_ne_nil (fun c hc =>
      Text.mem_twoDigits (by omega) hc)
      (by have := l.minor.toNat_lt; omega)
  have hinode : fromStrRadix 10 (Nat.toDigits 10 l.inode.toNat) = some l.inode.toNat :=
    Text.fromStrRadix_digits (Text.readDigits_toDigits (by omega) _) Nat.toDigits_ne_nil (fun c hc =>
      Text.toDigit_of_mem (by omega) c hc)
      l.inode.toNat_lt
  simp [parseLockLineInode, hplace, splitOn_place, hmajor, hminor, hinode]

/-- In the place of the file, the line of a waiting lock has the process. -/
theorem parseLockLineInode_waiting (hline : Text.splitWhitespace line = l.words) (hwaits : l.waits = true) :
    parseLockLineInode line = none := by
  have hpid : (Text.splitWhitespace line)[5]? = some l.pid := by simp [hline, Lock.words, hwaits]
  have hone : l.pid.splitOn ':' = [l.pid] := by
    refine splitOnP_eq_singleton fun c hc => ?_
    simpa using ne_of_mem_of_not_mem hc l.pid_plain
  simp [parseLockLineInode, hpid, hone]

/-- Of the locks that are listed, those are counted that are held on the file. -/
theorem countInodeMatches_lists {body : List Char} {locks : List Lock}
    (h : Lists body locks) (major minor : UInt32) (ino : UInt64) :
    countInodeMatches body (makedev major minor) ino = (locks.filter (·.holds major minor ino)).length := by
  unfold countInodeMatches Lists at *
  rw [decodeDev_makedev]
  dsimp only
  generalize Text.lines body = lines at h
  induction h with
  | nil => rfl
  | @cons line l lines locks hline _ ih =>
    rcases hwaits : l.waits
    · rw [filterMap_cons_some (parseLockLineInode_held hline hwaits), filter_cons, filter_cons]
      have hsame : (l.holds major minor ino = true) ↔
        ((l.major.toNat = major.toUInt64.toNat && l.minor.toNat = minor.toUInt64.toNat &&
          l.inode.toNat = ino.toNat) = true) := by
        simp [Lock.holds, hwaits, UInt32.toNat_inj, UInt64.toNat_inj]
      by_cases hholds : l.holds major minor ino = true
      · rw [if_pos (hsame.mp hholds), if_pos hholds, length_cons, length_cons, ih]
      · rw [if_neg (fun he => hholds (hsame.mpr he)), if_neg hholds, ih]
    · rw [filterMap_cons_none (parseLockLineInode_waiting hline hwaits), filter_cons, ih]
      simp [Lock.holds, hwaits]

end Nq.Agent
