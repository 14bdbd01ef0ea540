import MinixFsck.Traverse

/-! `check_counts`/`check_counts2`: the observed counts against the bitmaps and link
counts, and `check`/`check2`, the whole verification pass. -/
namespace MinixFsck

/-- The `-m` check of `check_counts`: an inode not in use whose mode is not cleared. -/
def modeCheck (e : Env) (s : St) (i : Nat) : St :=
  if !s.imap i && e.geo.modeOf s.ibuf i ≠ 0 && e.opts.warnMode then
    offer e.opts "Clear" true (fun s => { s with ibuf := e.geo.setMode s.ibuf i 0, changed := true })
      (s.say (.modeNotCleared i))
  else s

@[simp] theorem modeCheck_icount (e : Env) (s : St) (i : Nat) :
    (modeCheck e s i).icount = s.icount := by
  unfold modeCheck
  split_ifs <;> simp (disch := simp) [offer_icount]

/-- The rest of an iteration of the inode loop of `check_counts`: the bitmap bit against
the count, then the link count. -/
def countCheck (e : Env) (s : St) (i : Nat) : St :=
  let g := e.geo
  if s.icount i = 0 then
    if !s.imap i then s else
    offer e.opts "Clear" true (·.unmarkInode i) (s.say (.inodeNotUsed i))
  else
    let s :=
      if s.imap i then s else
      offer e.opts "Set" true (·.markInode i) (s.say (.inodeUsedUnmarked i))
    if g.nlinksOf s.ibuf i ≠ s.icount i then
      offer e.opts "Set i_nlinks to count" true
        (fun t => { t with ibuf := g.setNlinks t.ibuf i (t.icount i), changed := true })
        (s.say (.nlinksDiffer i (g.modeOf s.ibuf i) (g.nlinksOf s.ibuf i) (s.icount i)))
    else s

@[simp] theorem countCheck_icount (e : Env) (s : St) (i : Nat) :
    (countCheck e s i).icount = s.icount := by
  unfold countCheck
  dsimp only
  split_ifs <;> simp (disch := simp) [offer_icount]

/-- One iteration of the inode loop of `check_counts`. -/
def checkInodeCount (e : Env) (s : St) (i : Nat) : St := countCheck e (modeCheck e s i) i

@[simp] theorem checkInodeCount_icount (e : Env) (s : St) (i : Nat) :
    (checkInodeCount e s i).icount = s.icount := by
  simp [checkInodeCount]

/-- `bad_zone(i)`: `none` when `lseek` fails, which happens when the `int` product
`BLOCK_SIZE*i` is negative; else whether the one-block read failed. -/
def badZone (e : Env) (i : Nat) : Option Bool :=
  let off := blockSize * i % 2 ^ 32
  if 2 ^ 31 ≤ off then none else some !(e.io.readOk (off / blockSize))

/-- One iteration of the zone loop of `check_counts`. -/
def checkZoneCount (e : Env) (s : St) (i : Nat) : St × Outcome :=
  let used := zoneInUse e.geo s i
  if (if used then 1 else 0) = s.zcount i then (s, .ok)
  else if s.zcount i = 0 then
    match badZone e i with
    | none => (s, .fatal "seek failed in bad_zone")
    | some true => (s, .ok)
    | some false =>
      (offer e.opts "Unmark" true (unmarkZone e.geo · i) (s.say (.zoneNoFile i)), .ok)
  else
    (s.say (if used then .zoneInUseCounted i (s.zcount i) else .zoneNotInUseCounted i (s.zcount i)),
      .ok)

@[simp] theorem checkZoneCount_icount (e : Env) (s : St) (i : Nat) :
    (checkZoneCount e s i).1.icount = s.icount := by
  unfold checkZoneCount
  dsimp only
  split_ifs <;> (try split) <;> simp (disch := simp) [offer_icount, St.say]

def zoneLoop (e : Env) : List Nat → St → St × Outcome
  | [], s => (s, .ok)
  | i :: is, s => andThen (checkZoneCount e s i) (zoneLoop e is)

theorem zoneLoop_icount (e : Env) : ∀ (is : List Nat) (s : St), (zoneLoop e is s).1.icount = s.icount
  | [], _ => rfl
  | i :: is, s => by
    have h := checkZoneCount_icount e s i
    simp only [zoneLoop]
    generalize checkZoneCount e s i = r at h
    obtain ⟨t, o⟩ := r
    cases o <;> simpa only [andThen_ok, andThen_spent, andThen_fatal, zoneLoop_icount] using h

/-- `check_counts`/`check_counts2`: inodes `1 .. INODES`, then zones `FIRSTZONE .. ZONES-1`. -/
def checkCounts (e : Env) (s : St) : St × Outcome :=
  let s := (List.range' 1 e.geo.ninodes).foldl (checkInodeCount e) s
  zoneLoop e (List.range' e.geo.firstzone (e.geo.zones - e.geo.firstzone)) s

/-- `check_counts` reads the inode counts and never changes them. -/
theorem checkCounts_icount (e : Env) (s : St) : (checkCounts e s).1.icount = s.icount := by
  simp [checkCounts, zoneLoop_icount, foldl_icount]

/-- The start of `check`/`check2`: clear the counters and walk the root's zones. -/
def traverseStart (e : Env) (s : St) : St :=
  checkZones e rootIno { s with icount := fun _ => 0, zcount := fun _ => 0 }

/-- The traversal part of `check`/`check2`: `recursive_check(ROOT_INO)` after the start. -/
def traverse (e : Env) (fuel : Nat) (s : St) : St × Outcome :=
  trav e fuel (.dir rootIno) (traverseStart e s)

/-- `check`/`check2`. -/
def check (e : Env) (fuel : Nat) (s : St) : St × Outcome :=
  andThen (traverse e fuel s) (checkCounts e)

end MinixFsck
