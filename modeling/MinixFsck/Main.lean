import MinixFsck.Counts

/-! A whole run of `main` from `read_superblock` on: `read_tables` with `get_dirsize`, the
boot gate, `check_root`, `check`, the write-back, and the exit code. -/
namespace MinixFsck

/-- The device and the operator input a run starts from, every other global zeroed. -/
def St.start (disk : Nat → Block) (input : List Char) : St :=
  ⟨disk, Block.zero, fun _ => false, fun _ => false, fun _ => 0, fun _ => 0, false, false, 0,
    Block.zero, input, [], [], Block.zero⟩

/-- Whether a `read` of `count` blocks from block `start` returns all of them. -/
def regionReadable (io : Io) (start count : Nat) : Bool :=
  (List.range count).all fun b => io.readOk (start + b)

/-- `read_tables` up to `get_dirsize`: the inode map, the zone map and the inode table are
read back to back from block 2, and a `FIRSTZONE` that differs from `NORM_FIRSTZONE` is
only warned about. -/
def readTables (io : Io) (g : Geo) (s : St) : Except String St :=
  let imapAt := 2
  let zmapAt := imapAt + g.imaps
  let inodesAt := zmapAt + g.zmaps
  if !regionReadable io imapAt g.imaps then .error "Unable to read inode map"
  else if !regionReadable io zmapAt g.zmaps then .error "Unable to read zone map"
  else if !regionReadable io inodesAt g.inodeBlocks then .error "Unable to read inodes"
  else
    let s := { s with imap := bitOf (regionByte s.disk imapAt), zmap := bitOf (regionByte s.disk zmapAt),
                      ibuf := regionByte s.disk inodesAt, super := s.disk 1 }
    .ok (if g.normFirstzone ≠ g.firstzone then { s.say .firstzoneWarning with errors := true } else s)

/-- `get_dirsize`: the first of 16, 32, .., 512 at which the root's first block holds the
name "..", as `dirsize`, with `namelen = dirsize - 2`; the superblock's values otherwise. -/
def getDirsize (e : Env) (s : St) : Geo × St :=
  let (blk, s) := readBlock e (e.geo.zoneOf s.ibuf rootIno 0) s
  match [16, 32, 64, 128, 256, 512].find? (fun size => isDotDotName (blk.bytes (size + 2) 3)) with
  | some size => ({ e.geo with dirsize := size, namelen := size - 2 }, s)
  | none => (e.geo, s)

/-- The new `s_state`: `MINIX_VALID_FS` set, `MINIX_ERROR_FS` set exactly when an error was
left uncorrected. -/
def stateAfter (state : Nat) (errors : Bool) : Nat :=
  let st := state ||| minixValidFs
  if errors then st ||| minixErrorFs else st &&& 0xFFFD

/-- `write_super_block`; the message is the one `die` prints if the write fails. -/
def writeSuperBlock (e : Env) (s : St) : St × Option String :=
  let s := { s with super := s.super.set16 stateOffset (stateAfter (s.super.get16 stateOffset) s.errors) }
  if !e.io.writeOk 1 then (s, some "unable to write super-block")
  else ({ s with disk := Function.update s.disk 1 ((s.disk 1).overwrite s.super) }, none)

/-- One `write` of `count` blocks of `bytes` at block `start`; `none` if it comes short. -/
def writeRegion (io : Io) (start count : Nat) (bytes : Nat → UInt8) (disk : Nat → Block) :
    Option (Nat → Block) :=
  if (List.range count).all fun b => io.writeOk (start + b) then
    some fun p =>
      if start ≤ p ∧ p < start + count then
        (disk p).overwrite fun o => bytes ((p - start) * blockSize + o)
      else disk p
  else none

/-- `write_tables`: the superblock, then, from where that write left the file position, the
inode map, the zone map and the inode table. -/
def writeTables (e : Env) (s : St) : St × Option String :=
  let g := e.geo
  match writeSuperBlock e s with
  | (s, some m) => (s, some m)
  | (s, none) =>
  match writeRegion e.io 2 g.imaps (packByte s.imap) s.disk with
  | none => (s, some "Unable to write inode map")
  | some d =>
  match writeRegion e.io (2 + g.imaps) g.zmaps (packByte s.zmap) d with
  | none => ({ s with disk := d }, some "Unable to write zone map")
  | some d =>
  match writeRegion e.io (2 + g.imaps + g.zmaps) g.inodeBlocks s.ibuf d with
  | none => ({ s with disk := d }, some "Unable to write inodes")
  | some d => ({ s with disk := d }, none)

theorem writeSuperBlock_fst (e : Env) (s : St) :
    (writeSuperBlock e s).1 =
      let sb := s.super.set16 stateOffset (stateAfter (s.super.get16 stateOffset) s.errors)
      { s with super := sb,
               disk := if e.io.writeOk 1 then Function.update s.disk 1 ((s.disk 1).overwrite sb)
                 else s.disk } := by
  unfold writeSuperBlock
  cases e.io.writeOk 1 <;> rfl

/-- `write_tables` changes the device and, through `write_super_block`, the superblock
buffer, and nothing else. -/
theorem writeTables_fst (e : Env) (s : St) :
    ∃ d, (writeTables e s).1 = { (writeSuperBlock e s).1 with disk := d } := by
  unfold writeTables
  split <;> rename_i heq <;> rw [heq] <;> dsimp only
  · exact ⟨_, rfl⟩
  · split
    · exact ⟨_, rfl⟩
    · split
      · exact ⟨_, rfl⟩
      · split <;> exact ⟨_, rfl⟩

/-- How a run of `main` ends: its return code, `die` (exit 8) with its message, or still
running when the fuel is spent. -/
inductive Exit where
  | code (n : Nat)
  | fatal (msg : String)
  | diverged
  deriving DecidableEq, Repr

/-- `main` from `read_superblock` to `check_root`: the run either ends there (the boot gate,
or `die`), or goes on to `check` with these globals. -/
def setup (o : Opts) (io : Io) (s : St) : Except (St × Exit) (Env × St) :=
  match readSuperblock io s.disk with
  | .error m => .error (s, .fatal m)
  | .ok g =>
  let state := (s.disk 1).get16 stateOffset
  if state &&& minixErrorFs = 0 ∧ state &&& minixValidFs ≠ 0 ∧ !o.force then .error (s, .code 0) else
  match readTables io g s with
  | .error m => .error (s, .fatal m)
  | .ok s =>
  let (g, s) := getDirsize ⟨o, io, g⟩ s
  if !isDir (g.modeOf s.ibuf rootIno) then .error (s, .fatal "root inode isn't a directory")
  else .ok (⟨o, io, g⟩, s)

/-- `main` from `check` on: the pass, the write-back, and the exit code. -/
def finish (e : Env) (fuel : Nat) (s : St) : St × Exit :=
  match check e fuel s with
  | (s, .outOfFuel) => (s, .diverged)
  | (s, .fatal m) => (s, .fatal m)
  | (s, .ok) =>
  let (s, died) :=
    if s.changed then writeTables e s else if e.opts.repair then writeSuperBlock e s else (s, none)
  match died with
  | some m => (s, .fatal m)
  | none => (s, .code ((if s.changed then 3 else 0) + (if s.errors then 4 else 0)))

/-- The state `finish` ends in: the write-back acts only after a pass that ended normally. -/
theorem finish_fst (e : Env) (fuel : Nat) (s : St) :
    (finish e fuel s).1 =
      match check e fuel s with
      | (t, .ok) =>
        (if t.changed then writeTables e t else if e.opts.repair then writeSuperBlock e t
          else (t, none)).1
      | (t, _) => t := by
  unfold finish
  split <;> rename_i heq <;> simp only [heq]
  split <;> rfl

/-- A pass that ran out of fuel is a run that has not ended. -/
theorem finish_diverged {e : Env} {fuel : Nat} {s : St} (h : (check e fuel s).2 = .outOfFuel) :
    (finish e fuel s).2 = .diverged := by
  unfold finish
  generalize check e fuel s = r at h ⊢
  obtain ⟨t, o⟩ := r
  cases h
  rfl

/-- `main` after the command line is parsed and the device opened. -/
def main (o : Opts) (io : Io) (fuel : Nat) (s : St) : St × Exit :=
  match setup o io s with
  | .error r => r
  | .ok (e, s) => finish e fuel s

end MinixFsck
