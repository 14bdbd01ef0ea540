import MinixFsck.Images

/-! A second run on the image a first `-m` run left: the inode's bit goes in the first, its mode
in the second. -/
namespace MinixFsck

section Counts

variable (e : Env) (hr : e.opts.repair = true) (ha : e.opts.automatic = true)
include hr ha

/-- With `-a`, an iteration of the inode loop on an inode with no count and its bit set
clears the bit and leaves the inode table as it was. -/
theorem checkInodeCount_unmarks {s : St} {i : Nat} (hc : s.icount i = 0) (hm : s.imap i = true) :
    (checkInodeCount e s i).imap i = false ∧ (checkInodeCount e s i).ibuf = s.ibuf := by
  simp [checkInodeCount, modeCheck, countCheck, hm, hc, offer, ask, hr, ha, St.say,
    St.unmarkInode]

/-- With `-a -m`, an iteration of the inode loop on an inode with no count, its bit clear and
its mode not 0 clears the mode and sets `changed`. -/
theorem checkInodeCount_clears_mode (hw : e.opts.warnMode = true) {s : St} {i : Nat}
    (hc : s.icount i = 0) (hm : s.imap i = false) (hmode : e.geo.modeOf s.ibuf i ≠ 0) :
    (checkInodeCount e s i).changed = true ∧ e.geo.modeOf (checkInodeCount e s i).ibuf i = 0 := by
  simp [checkInodeCount, modeCheck, countCheck, hm, hc, hmode, hw, offer, ask, hr, ha, St.say]

/-- The iteration that clears the bit of an inode no entry names leaves, whenever its mode
is not 0, exactly what the same iteration of a later `-a -m` run clears again. -/
theorem checkInodeCount_not_idempotent (hw : e.opts.warnMode = true) {s t : St} {i : Nat}
    (hc : s.icount i = 0) (hm : s.imap i = true) (hmode : e.geo.modeOf s.ibuf i ≠ 0)
    (htc : t.icount i = 0) (htm : t.imap i = (checkInodeCount e s i).imap i)
    (hti : t.ibuf = (checkInodeCount e s i).ibuf) : (checkInodeCount e t i).changed = true := by
  obtain ⟨h1, h2⟩ := checkInodeCount_unmarks e hr ha hc hm
  exact (checkInodeCount_clears_mode e hr ha hw htc (htm.trans h1) (by rw [hti, h2]; exact hmode)).1

end Counts

/-- The root directory, 32 bytes in zone 5, holds `.` and `..`; inode 2, a regular file of
mode 0100644, is marked in use but named by no entry. -/
def unusedFileImage : Nat → Block :=
  tinyImage (bitmapBlock [1, 2]) (bitmapBlock [1])
    (withInodeV1 (withInodeV1 Block.zero 1 0o40755 32 2 [5]) 2 0o100644 0 1 []) fun n =>
      if n = 5 then dirBlock [(1, "."), (1, "..")] else Block.zero

/-- `-a -m -f`. -/
def automaticWarnOpts : Opts := { automaticOpts with warnMode := true }

set_option maxRecDepth 20000 in
/-- The first `-a -m` run on `unusedFileImage` clears inode 2's bit and returns 3; the second,
on the image the first wrote, clears inode 2's mode, sets `changed` again and returns 3. -/
theorem second_run_clears_mode :
    (main automaticWarnOpts tinyIo 100 (St.start unusedFileImage [])).2 = .code 3 ∧
    (main automaticWarnOpts tinyIo 100
      (St.start (main automaticWarnOpts tinyIo 100 (St.start unusedFileImage [])).1.disk [])).1.changed =
        true ∧
    (main automaticWarnOpts tinyIo 100
      (St.start (main automaticWarnOpts tinyIo 100 (St.start unusedFileImage [])).1.disk [])).2 =
        .code 3 := by
  decide

end MinixFsck
