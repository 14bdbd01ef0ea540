import MinixFsck.Zones

/-! The directory traversal: `get_inode`, `check_file` and `recursive_check`, in both
versions. The recursion runs on fuel, so that a traversal that does not end is a run
whose every fuel budget is spent. -/
namespace MinixFsck

/-- How a fuel-bounded stretch of the run ended: normally, out of fuel, or in `die`. -/
inductive Outcome where
  | ok
  | outOfFuel
  | fatal (msg : String)
  deriving DecidableEq, Repr

/-- Go on with `k` after a stretch that ended normally; any other end is passed up. -/
def andThen (r : St × Outcome) (k : St → St × Outcome) : St × Outcome :=
  if r.2 = .ok then k r.1 else r

@[simp] theorem andThen_ok (s : St) (k : St → St × Outcome) : andThen (s, .ok) k = k s := rfl

@[simp] theorem andThen_spent (s : St) (k : St → St × Outcome) :
    andThen (s, .outOfFuel) k = (s, .outOfFuel) := rfl

@[simp] theorem andThen_fatal (s : St) (m : String) (k : St → St × Outcome) :
    andThen (s, .fatal m) k = (s, .fatal m) := rfl

theorem andThen_of_ne {r : St × Outcome} {k : St → St × Outcome} (h : r.2 ≠ .ok) :
    andThen r k = r :=
  if_neg h

theorem andThen_outOfFuel {r : St × Outcome} {k : St → St × Outcome} (h : r.2 = .outOfFuel) :
    (andThen r k).2 = .outOfFuel := by
  rw [andThen_of_ne (h ▸ nofun), h]

/-- A chain that ended normally ran its first stretch to a normal end and then `k`. -/
theorem andThen_eq_ok {r : St × Outcome} {k : St → St × Outcome} (h : (andThen r k).2 = .ok) :
    r.2 = .ok ∧ andThen r k = k r.1 := by
  by_cases hr : r.2 = .ok
  · exact ⟨hr, if_pos hr⟩
  · rw [andThen_of_ne hr] at h
    exact absurd h hr

/-- A transitive relation that holds over the first stretch of a chain and over every
continuation holds over the chain, however the first stretch ends. -/
theorem andThen_rel {R : St → St → Prop} (htrans : ∀ {a b c}, R a b → R b c → R a c) {s : St}
    {r : St × Outcome} {k : St → St × Outcome} (hr : R s r.1) (hk : ∀ t, R t (k t).1) :
    R s (andThen r k).1 := by
  unfold andThen
  split
  · exact htrans hr (hk _)
  · exact hr

/-- The count at the end of `get_inode`: `if (!++inode_count[nr])` warns, undoes the
increment and sets `errors_uncorrected`. -/
def countInode (s : St) (nr : Nat) : St :=
  if s.icount nr = 255 then { s.say .countTooBig with errors := true }
  else { s with icount := Function.update s.icount nr (s.icount nr + 1) }

theorem countInode_icount (s : St) (nr : Nat) : (countInode s nr).icount nr = bump (s.icount nr) := by
  unfold countInode bump
  split_ifs with h <;> simp [h, St.say]

theorem countInode_icount_eq (s : St) (nr : Nat) :
    (countInode s nr).icount = Function.update s.icount nr (bump (s.icount nr)) := by
  unfold countInode bump
  split_ifs with h
  · simp [St.say, ← h]
  · rfl

@[simp] theorem countInode_zcount (s : St) (nr : Nat) : (countInode s nr).zcount = s.zcount := by
  unfold countInode
  split_ifs <;> rfl

/-- The classification in `get_inode`: only a mode that is none of the seven file types
prints. The per-type statistics are not modelled. -/
def classify (e : Env) (nr : Nat) (s : St) : St :=
  let m := e.geo.modeOf s.ibuf nr
  if isDir m || isReg m || isChr m || isBlk m || isLnk m || isSock m || isFifo m then s
  else s.say (.oddMode (getCurrentName e.geo s) m)

@[simp] theorem classify_icount (e : Env) (nr : Nat) (s : St) : (classify e nr s).icount = s.icount := by
  unfold classify
  dsimp only
  split_ifs <;> rfl

@[simp] theorem classify_zcount (e : Env) (nr : Nat) (s : St) : (classify e nr s).zcount = s.zcount := by
  unfold classify
  dsimp only
  split_ifs <;> rfl

/-- What `get_inode` does about an inode met for the first time whose bitmap bit is clear:
ask to mark it with `-r`/`-a`, else record an uncorrected error. -/
def unusedInode (e : Env) (nr : Nat) (s : St) : St :=
  if e.opts.repair then offer e.opts "Mark in use" true (·.markInode nr) s
  else { s with errors := true }

@[simp] theorem unusedInode_icount (e : Env) (nr : Nat) (s : St) :
    (unusedInode e nr s).icount = s.icount := by
  unfold unusedInode
  split_ifs <;> simp (disch := simp) [offer_icount]

@[simp] theorem unusedInode_zcount (e : Env) (nr : Nat) (s : St) :
    (unusedInode e nr s).zcount = s.zcount := by
  unfold unusedInode
  split_ifs <;> simp (disch := simp) [offer_zcount]

/-- The same in `get_inode2`: its `else errors_uncorrected = 1` belongs to the inner `ask`,
so without `-r`/`-a` nothing is recorded. -/
def unusedInode2 (e : Env) (nr : Nat) (s : St) : St :=
  if e.opts.repair then
    let (a, s) := ask e.opts "Mark in use" true s
    if a then s.markInode nr else { s with errors := true }
  else s

@[simp] theorem unusedInode2_icount (e : Env) (nr : Nat) (s : St) :
    (unusedInode2 e nr s).icount = s.icount := by
  unfold unusedInode2
  dsimp only
  split_ifs <;> simp

@[simp] theorem unusedInode2_zcount (e : Env) (nr : Nat) (s : St) :
    (unusedInode2 e nr s).zcount = s.zcount := by
  unfold unusedInode2
  dsimp only
  split_ifs <;> simp

/-- `get_inode` and `get_inode2`, given what each does about an unmarked inode; `false` is
the `NULL` returned for an inode number outside `[1, INODES]`. -/
def getInodeWith (unused : Env → Nat → St → St) (e : Env) (nr : Nat) (s : St) : Bool × St :=
  if nr = 0 ∨ e.geo.ninodes < nr then (false, s) else
  let s :=
    if s.icount nr ≠ 0 then s else
    classify e nr
      (if s.imap nr then s else unused e nr (s.say (.markedUnused nr (getCurrentName e.geo s))))
  (true, countInode s nr)

def getInode : Env → Nat → St → Bool × St := getInodeWith unusedInode

def getInode2 : Env → Nat → St → Bool × St := getInodeWith unusedInode2

/-- `inode_count` after `get_inode(nr)`: inode `nr` counted once more, saturating at 255,
when `nr` is in `[1, INODES]`. -/
def Geo.countIno (g : Geo) (c : Nat → Nat) (nr : Nat) : Nat → Nat :=
  if nr = 0 ∨ g.ninodes < nr then c else Function.update c nr (bump (c nr))

/-- `get_inode` counts the inode it returns, and only that one. -/
theorem getInodeWith_icount {unused : Env → Nat → St → St}
    (hu : ∀ e nr s, (unused e nr s).icount = s.icount) (e : Env) (nr : Nat) (s : St) :
    (getInodeWith unused e nr s).2.icount = e.geo.countIno s.icount nr := by
  unfold getInodeWith Geo.countIno
  split_ifs <;> simp [countInode_icount_eq, hu, St.say, *]

theorem getInodeWith_zcount {unused : Env → Nat → St → St}
    (hu : ∀ e nr s, (unused e nr s).zcount = s.zcount) (e : Env) (nr : Nat) (s : St) :
    (getInodeWith unused e nr s).2.zcount = s.zcount := by
  unfold getInodeWith
  split_ifs <;> simp [hu]

/-- `strcmp(".", name) == 0`. -/
def isDotName (name : List UInt8) : Bool := name.getD 0 0 = 46 && name.getD 1 0 = 0

/-- `strcmp("..", name) == 0`. -/
def isDotDotName (name : List UInt8) : Bool :=
  name.getD 0 0 = 46 && name.getD 1 0 = 46 && name.getD 2 0 = 0

/-- The start of `check_file`: the inode number of the entry at `offset` (0 after a bad
one, which is removed on a yes) and its `namelen` bytes of name. -/
def readEntry (mb : Env → Nat → Nat → St → Nat × St) (e : Env) (dir offset : Nat) (s : St) :
    Nat × List UInt8 × St :=
  let (block, s) := mb e dir (offset / blockSize) s
  let (blk, s) := readBlock e block s
  let o := offset % blockSize
  let name := blk.bytes (o + 2) e.geo.namelen
  if e.geo.ninodes < blk.get16 o then
    (0, name, offer e.opts " Remove" true (writeBlock e block (blk.set16 o 0))
      (s.say (.badInodeNr (getCurrentName e.geo s) name)))
  else (blk.get16 o, name, s)

theorem readEntry_icount {mb : Env → Nat → Nat → St → Nat × St} (e : Env)
    (hmb : ∀ ino b s, (mb e ino b s).2.icount = s.icount) (dir offset : Nat) (s : St) :
    (readEntry mb e dir offset s).2.2.icount = s.icount := by
  unfold readEntry
  dsimp only
  split_ifs <;> simp (disch := simp) [offer_icount, St.say, hmb]

theorem readEntry_zcount {mb : Env → Nat → Nat → St → Nat × St} (e : Env)
    (hmb : ∀ ino b s, (mb e ino b s).2.zcount = s.zcount) (dir offset : Nat) (s : St) :
    (readEntry mb e dir offset s).2.2.zcount = s.zcount := by
  unfold readEntry
  dsimp only
  split_ifs <;> simp (disch := simp) [offer_zcount, hmb]

/-- The checks of `check_file` on the entries at offset 0 and `dirsize`: `true` when the
entry is the expected `'.'` or `'..'` and `check_file` returns there; any other entry at
those offsets is reported. -/
def dotEntries (g : Geo) (offset : Nat) (found : Bool) (name : List UInt8) (s : St) : Bool × St :=
  if offset = 0 ∧ found ∧ isDotName name then (true, s) else
  let s := if offset = 0 then reportError g .dotNotFirst s else s
  if offset = g.dirsize ∧ found ∧ isDotDotName name then (true, s) else
  (false, if offset = g.dirsize then reportError g .dotdotNotSecond s else s)

/-- What the `.`/`..` checks do to the globals: nothing, or one or both of their reports. -/
theorem dotEntries_cases (g : Geo) (offset : Nat) (found : Bool) (name : List UInt8) (s : St) :
    (dotEntries g offset found name s).2 = s ∨
      (dotEntries g offset found name s).2 = reportError g .dotNotFirst s ∨
      (dotEntries g offset found name s).2 = reportError g .dotdotNotSecond s ∨
      (dotEntries g offset found name s).2 =
        reportError g .dotdotNotSecond (reportError g .dotNotFirst s) := by
  unfold dotEntries
  dsimp only
  split_ifs <;> simp

@[simp] theorem dotEntries_icount (g : Geo) (offset : Nat) (found : Bool) (name : List UInt8)
    (s : St) : (dotEntries g offset found name s).2.icount = s.icount := by
  unfold dotEntries
  dsimp only
  split_ifs <;> rfl

@[simp] theorem dotEntries_zcount (g : Geo) (offset : Nat) (found : Bool) (name : List UInt8)
    (s : St) : (dotEntries g offset found name s).2.zcount = s.zcount := by
  unfold dotEntries
  dsimp only
  split_ifs <;> rfl

theorem dotEntries_dot {g : Geo} {name : List UInt8} {s : St} (h : isDotName name = true) :
    dotEntries g 0 true name s = (true, s) := by
  simp [dotEntries, h]

theorem dotEntries_dotdot {g : Geo} {name : List UInt8} {s : St} (hd : 0 < g.dirsize)
    (h : isDotDotName name = true) : dotEntries g g.dirsize true name s = (true, s) := by
  simp [dotEntries, h, Nat.pos_iff_ne_zero.1 hd]

/-- An entry at neither offset 0 nor `dirsize` is never reported by the `.`/`..` checks. -/
theorem dotEntries_other {g : Geo} {offset : Nat} {found : Bool} {name : List UInt8} {s : St}
    (h0 : offset ≠ 0) (hd : offset ≠ g.dirsize) : dotEntries g offset found name s = (false, s) := by
  simp [dotEntries, h0, hd]

/-- `check_file`'s listing of an entry with `-l`, with its number, mode and link count
under `-v`. -/
def listEntry (e : Env) (ino : Nat) (s : St) : St :=
  let g := e.geo
  if e.opts.list then
    s.say (.listing (if e.opts.verbose then some (ino, g.modeOf s.ibuf ino, g.nlinksOf s.ibuf ino)
      else none) (getCurrentName g s) (isDir (g.modeOf s.ibuf ino)))
  else s

@[simp] theorem listEntry_icount (e : Env) (ino : Nat) (s : St) :
    (listEntry e ino s).icount = s.icount := by
  unfold listEntry
  split_ifs <;> rfl

@[simp] theorem listEntry_zcount (e : Env) (ino : Nat) (s : St) :
    (listEntry e ino s).zcount = s.zcount := by
  unfold listEntry
  split_ifs <;> rfl

/-- `check_file2` before recursing: `name_depth++` without copying the name again. -/
def skipName (s : St) (_ : List UInt8) : St := { s with depth := s.depth + 1 }

/-- What tells `check_file` and `check_file2` apart: the resolver and the `get_inode` each
calls, and how each enters the name before recursing. -/
structure FileOps where
  mapBlock : Env → Nat → Nat → St → Nat × St
  getInode : Env → Nat → St → Bool × St
  push : St → List UInt8 → St

def fileOps : FileOps := ⟨mapBlock, getInode, pushName⟩

def fileOps2 : FileOps := ⟨mapBlock2, getInode2, skipName⟩

/-- `check_file2` for a version 2 file system, `check_file` otherwise. -/
def opsOf (g : Geo) : FileOps := if g.version2 then fileOps2 else fileOps

/-- What `check_file` and `check_file2` do to `inode_count` through their helpers: the
resolver and the name entry leave it alone, and `get_inode` counts the inode it returns. -/
structure FileOps.CountsOnce (ops : FileOps) (e : Env) : Prop where
  mapBlock : ∀ ino b s, (ops.mapBlock e ino b s).2.icount = s.icount
  getInode : ∀ nr s, (ops.getInode e nr s).2.icount = e.geo.countIno s.icount nr
  push : ∀ s name, (ops.push s name).icount = s.icount

theorem opsOf_countsOnce (e : Env) : (opsOf e.geo).CountsOnce e := by
  unfold opsOf
  split
  · exact ⟨mapBlock2_icount e, getInodeWith_icount unusedInode2_icount e, fun _ _ => rfl⟩
  · exact ⟨mapBlock_icount e, getInodeWith_icount unusedInode_icount e, fun _ _ => rfl⟩

/-- Neither `check_file` nor `check_file2` touches `zone_count` but through `check_zones`. -/
theorem opsOf_zcount (e : Env) :
    (∀ ino b s, ((opsOf e.geo).mapBlock e ino b s).2.zcount = s.zcount) ∧
    (∀ nr s, ((opsOf e.geo).getInode e nr s).2.zcount = s.zcount) ∧
    (∀ s name, ((opsOf e.geo).push s name).zcount = s.zcount) := by
  unfold opsOf
  split
  · exact ⟨mapBlock2_zcount e, getInodeWith_zcount unusedInode2_zcount e, fun _ _ => rfl⟩
  · exact ⟨mapBlock_zcount e, getInodeWith_zcount unusedInode_zcount e, fun _ _ => rfl⟩

/-- `check_file` up to its recursion: read the entry at `offset` and fetch its inode; `none`
when `check_file` returns there, else the inode number and name it goes on with. -/
def fetchEntry (ops : FileOps) (e : Env) (dir offset : Nat) (s : St) :
    Option (Nat × List UInt8) × St :=
  let (ino, name, s) := readEntry ops.mapBlock e dir offset s
  let (found, s) := ops.getInode e ino (pushName s name)
  let (done, s) := dotEntries e.geo offset found name { s with depth := s.depth - 1 }
  (if done || !found then none else some (ino, name), s)

/-- Reading an entry counts the inode it names, as `readEntry` leaves the number. -/
theorem fetchEntry_icount {ops : FileOps} {e : Env} (h : ops.CountsOnce e) (dir offset : Nat)
    (s : St) : (fetchEntry ops e dir offset s).2.icount =
      e.geo.countIno s.icount (readEntry ops.mapBlock e dir offset s).1 := by
  unfold fetchEntry
  simp [h.getInode, readEntry_icount e h.mapBlock, pushName]

/-- `check_file` on an entry it goes on with, up to the recursion: enter the name, list the
entry, and walk its zones. -/
def enterEntry (ops : FileOps) (e : Env) (ino : Nat) (name : List UInt8) (s : St) : St :=
  checkZones e ino (listEntry e ino (ops.push s name))

theorem enterEntry_icount {ops : FileOps} {e : Env} (h : ops.CountsOnce e) (ino : Nat)
    (name : List UInt8) (s : St) : (enterEntry ops e ino name s).icount = s.icount := by
  simp [enterEntry, h.push]

/-- `name_depth--; return;` -/
def leave (s : St) : St × Outcome := ({ s with depth := s.depth - 1 }, .ok)

/-- `check_file` and `check_file2`, given `rc`, the recursion into a directory. -/
def checkFileWith (ops : FileOps) (e : Env) (rc : Nat → St → St × Outcome) (dir offset : Nat)
    (s : St) : St × Outcome :=
  let r := fetchEntry ops e dir offset s
  match r.1 with
  | none => (r.2, .ok)
  | some (ino, name) =>
    let s := enterEntry ops e ino name r.2
    if isDir (e.geo.modeOf s.ibuf ino) then andThen (rc ino s) leave else leave s

def checkFile : Env → (Nat → St → St × Outcome) → Nat → Nat → St → St × Outcome :=
  checkFileWith fileOps

def checkFile2 : Env → (Nat → St → St × Outcome) → Nat → Nat → St → St × Outcome :=
  checkFileWith fileOps2

/-- A call of the recursion: `recursive_check(ino)`, or its loop at `offset`. -/
inductive Call where
  | dir (ino : Nat)
  | loop (ino offset : Nat)
  deriving DecidableEq, Repr

/-- The size check of `recursive_check`: a directory shorter than two entries is reported. -/
def sizeCheck (g : Geo) (ino : Nat) (s : St) : St :=
  if g.sizeOf s.ibuf ino < 2 * g.dirsize then reportError g .dirTooSmall s else s

@[simp] theorem sizeCheck_icount (g : Geo) (ino : Nat) (s : St) :
    (sizeCheck g ino s).icount = s.icount := by
  unfold sizeCheck
  split_ifs <;> rfl

@[simp] theorem sizeCheck_zcount (g : Geo) (ino : Nat) (s : St) :
    (sizeCheck g ino s).zcount = s.zcount := by
  unfold sizeCheck
  split_ifs <;> rfl

/-- `offset += dirsize` on an `unsigned int`. -/
def nextOffset (g : Geo) (offset : Nat) : Nat := (offset + g.dirsize) % 2 ^ 32

/-- `recursive_check`/`recursive_check2` and their loop
`for (offset = 0; offset < dir->i_size; offset += dirsize)`, with `unsigned int` offsets.
Entering a directory and each iteration spend one unit of fuel. -/
def trav (e : Env) : Nat → Call → St → St × Outcome
  | 0, _, s => (s, .outOfFuel)
  | n + 1, .dir ino, s =>
    if !isDir (e.geo.modeOf s.ibuf ino) then (s, .fatal "internal error")
    else trav e n (.loop ino 0) (sizeCheck e.geo ino s)
  | n + 1, .loop ino offset, s =>
    if offset < e.geo.sizeOf s.ibuf ino then
      andThen (checkFileWith (opsOf e.geo) e (fun i s => trav e n (.dir i) s) ino offset s)
        fun s => trav e n (.loop ino (nextOffset e.geo offset)) s
    else (s, .ok)

theorem trav_dir_eq {e : Env} {n ino : Nat} {s : St} (hd : isDir (e.geo.modeOf s.ibuf ino) = true) :
    trav e (n + 1) (.dir ino) s = trav e n (.loop ino 0) (sizeCheck e.geo ino s) := by
  simp [trav, hd]

theorem trav_loop_eq {e : Env} {n ino offset : Nat} {s : St}
    (ho : offset < e.geo.sizeOf s.ibuf ino) :
    trav e (n + 1) (.loop ino offset) s =
      andThen (checkFileWith (opsOf e.geo) e (fun i s => trav e n (.dir i) s) ino offset s)
        fun s => trav e n (.loop ino (nextOffset e.geo offset)) s := by
  simp [trav, ho]

end MinixFsck
