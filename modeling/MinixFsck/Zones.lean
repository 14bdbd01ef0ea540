import MinixFsck.State

/-! Zone numbers: the range check `check_zone_nr`, the block-map resolvers `map_block` and
`map_block2`, and the zone walk `add_zone` .. `add_zone_tind2` with `check_zones`. -/
namespace MinixFsck

/-- `check_zone_nr`/`check_zone_nr2`: a zone number that is 0 or in `[FIRSTZONE, ZONES)` is
returned as it is; any other is reported, 0 is returned, and the flag says the operator
agreed to clear it. -/
def checkZoneNr (e : Env) (nr : Nat) (s : St) : Nat × Bool × St :=
  if nr = 0 then (0, false, s) else
  let bad (m : Path → Msg) : Nat × Bool × St :=
    let (a, s) := ask e.opts "Remove block" true (s.say (m (getCurrentName e.geo s)))
    (0, a, s)
  if nr < e.geo.firstzone then bad .zoneLow
  else if e.geo.zones ≤ nr then bad .zoneHigh
  else (nr, false, s)

@[simp] theorem checkZoneNr_icount (e : Env) (nr : Nat) (s : St) :
    (checkZoneNr e nr s).2.2.icount = s.icount := by
  unfold checkZoneNr
  split_ifs <;> simp [St.say]

@[simp] theorem checkZoneNr_zcount (e : Env) (nr : Nat) (s : St) :
    (checkZoneNr e nr s).2.2.zcount = s.zcount := by
  unfold checkZoneNr
  split_ifs <;> simp

/-- `check_zone_nr(inode->i_zone + k, &changed)`: a clear zeroes the slot and sets
`changed`. -/
def slotNr (e : Env) (ino k : Nat) (s : St) : Nat × St :=
  let (r, c, s) := checkZoneNr e (e.geo.zoneOf s.ibuf ino k) s
  (r, if c then { s with ibuf := e.geo.setZone s.ibuf ino k 0, changed := true } else s)

@[simp] theorem slotNr_icount (e : Env) (ino k : Nat) (s : St) :
    (slotNr e ino k s).2.icount = s.icount := by
  unfold slotNr
  dsimp only
  split_ifs <;> simp

@[simp] theorem slotNr_zcount (e : Env) (ino k : Nat) (s : St) :
    (slotNr e ino k s).2.zcount = s.zcount := by
  unfold slotNr
  dsimp only
  split_ifs <;> simp

/-- One indirect step of the resolvers: read `block`, check its entry `i`, and write the
block back if that entry was cleared (`blk_chg`). -/
def indirect (e : Env) (block i : Nat) (s : St) : Nat × St :=
  let (blk, s) := readBlock e block s
  let (r, c, s) := checkZoneNr e (e.geo.entry blk i) s
  (r, if c then writeBlock e block (e.geo.clearEntry blk i) s else s)

@[simp] theorem indirect_icount (e : Env) (block i : Nat) (s : St) :
    (indirect e block i s).2.icount = s.icount := by
  unfold indirect
  dsimp only
  split_ifs <;> simp

@[simp] theorem indirect_zcount (e : Env) (block i : Nat) (s : St) :
    (indirect e block i s).2.zcount = s.zcount := by
  unfold indirect
  dsimp only
  split_ifs <;> simp

/-- `map_block`: the zone holding block `blknr` of a version 1 file. -/
def mapBlock (e : Env) (ino blknr : Nat) (s : St) : Nat × St :=
  if blknr < 7 then slotNr e ino blknr s else
  let blknr := blknr - 7
  if blknr < 512 then
    let (block, s) := slotNr e ino 7 s
    indirect e block blknr s
  else
    let blknr := blknr - 512
    let (block, s) := slotNr e ino 8 s
    let (block, s) := indirect e block (blknr / 512) s
    indirect e block (blknr % 512) s

@[simp] theorem mapBlock_icount (e : Env) (ino blknr : Nat) (s : St) :
    (mapBlock e ino blknr s).2.icount = s.icount := by
  unfold mapBlock
  dsimp only
  split_ifs <;> simp

@[simp] theorem mapBlock_zcount (e : Env) (ino blknr : Nat) (s : St) :
    (mapBlock e ino blknr s).2.zcount = s.zcount := by
  unfold mapBlock
  dsimp only
  split_ifs <;> simp

/-- `map_block2`, with its branches as written: the double-indirect branch is taken when
`blknr >= 256 * 256`, and the triple-indirect one subtracts `256 * 256` from a smaller
`unsigned int`. -/
def mapBlock2 (e : Env) (ino blknr : Nat) (s : St) : Nat × St :=
  if blknr < 7 then slotNr e ino blknr s else
  let blknr := blknr - 7
  if blknr < 256 then
    let (block, s) := slotNr e ino 7 s
    indirect e block blknr s
  else
  let blknr := blknr - 256
  if 256 * 256 ≤ blknr then
    let (block, s) := slotNr e ino 8 s
    let (block, s) := indirect e block (blknr / 256) s
    indirect e block (blknr % 256) s
  else
    let blknr := (blknr + 2 ^ 32 - 256 * 256) % 2 ^ 32
    let (block, s) := slotNr e ino 9 s
    let (block, s) := indirect e block (blknr / (256 * 256)) s
    let (block, s) := indirect e block (blknr / 256 % 256) s
    indirect e block (blknr % 256) s

@[simp] theorem mapBlock2_icount (e : Env) (ino blknr : Nat) (s : St) :
    (mapBlock2 e ino blknr s).2.icount = s.icount := by
  unfold mapBlock2
  dsimp only
  split_ifs <;> simp

@[simp] theorem mapBlock2_zcount (e : Env) (ino blknr : Nat) (s : St) :
    (mapBlock2 e ino blknr s).2.zcount = s.zcount := by
  unfold mapBlock2
  dsimp only
  split_ifs <;> simp

/-- The first check of `add_zone` on a valid zone: a zone counted before is reported, and
the pointer is cleared on a yes. Returns whether the pointer is kept. -/
def usedBefore (e : Env) (block : Nat) (s : St) : Bool × St :=
  if s.zcount block ≠ 0 then
    let (a, s) := ask e.opts "Clear" true (s.say (.usedBefore (getCurrentName e.geo s)))
    (!a, s)
  else (true, s)

@[simp] theorem usedBefore_icount (e : Env) (block : Nat) (s : St) :
    (usedBefore e block s).2.icount = s.icount := by
  unfold usedBefore
  split_ifs <;> simp [St.say]

/-- The end of `add_zone` for a kept zone: mark it in `zone_map` on a yes if it is not
marked, and count it, saturating at 255. -/
def countZone (e : Env) (block : Nat) (s : St) : St :=
  let s :=
    if zoneInUse e.geo s block then s else
    offer e.opts "Correct" true (markZone e.geo · block)
      (s.say (.blockNotInUse block (getCurrentName e.geo s)))
  { s with zcount := Function.update s.zcount block (bump (s.zcount block)) }

@[simp] theorem countZone_icount (e : Env) (block : Nat) (s : St) :
    (countZone e block s).icount = s.icount := by
  unfold countZone
  split_ifs <;> simp (disch := simp) [offer_icount]

/-- `add_zone`/`add_zone2`. Returns the zone counted (0 for none) and whether the pointer
was cleared. -/
def addZone (e : Env) (znr : Nat) (s : St) : Nat × Bool × St :=
  let (block, cleared, s) := checkZoneNr e znr s
  if block = 0 then (0, cleared, s) else
  let (keep, s) := usedBefore e block s
  if keep then (block, false, countZone e block s) else (0, true, s)

@[simp] theorem addZone_icount (e : Env) (znr : Nat) (s : St) :
    (addZone e znr s).2.2.icount = s.icount := by
  unfold addZone
  dsimp only
  split_ifs <;> simp

/-- The loop of the indirect walkers over the entries of `blk`: walk each entry with `f`,
zero the entries it cleared, and remember that the block changed (`chg_blk`). -/
def walkEntries (g : Geo) (f : Nat → St → Bool × St) :
    List Nat → Block × Bool × St → Block × Bool × St
  | [], acc => acc
  | i :: is, (blk, chg, s) =>
    let (c, s) := f (g.entry blk i) s
    walkEntries g f is (if c then (g.clearEntry blk i, true, s) else (blk, chg, s))

theorem walkEntries_icount (g : Geo) {f : Nat → St → Bool × St}
    (hf : ∀ z t, (f z t).2.icount = t.icount) :
    ∀ (is : List Nat) (blk : Block) (chg : Bool) (s : St),
      (walkEntries g f is (blk, chg, s)).2.2.icount = s.icount
  | [], _, _, _ => rfl
  | i :: is, blk, chg, s => by
    simp only [walkEntries]
    split_ifs <;> rw [walkEntries_icount g hf, hf]

/-- `add_zone` (level 0), `add_zone_ind` (1), `add_zone_dind` (2) and `add_zone_tind2` (3):
count the pointer and, below it, every entry of its indirect block; write the block back if
an entry was cleared. Returns whether the pointer itself was cleared. -/
def addZoneTree (e : Env) : Nat → Nat → St → Bool × St
  | 0, znr, s => let (_, c, s) := addZone e znr s; (c, s)
  | level + 1, znr, s =>
    let (block, c, s) := addZone e znr s
    if block = 0 then (c, s) else
    let (blk, s) := readBlock e block s
    let (blk, chg, s) :=
      walkEntries e.geo (fun z s => addZoneTree e level z s) (List.range e.geo.fanout)
        (blk, false, s)
    (c, if chg then writeBlock e block blk s else s)

def addZoneInd (e : Env) : Nat → St → Bool × St := addZoneTree e 1

def addZoneDind (e : Env) : Nat → St → Bool × St := addZoneTree e 2

def addZoneTind2 (e : Env) : Nat → St → Bool × St := addZoneTree e 3

@[simp] theorem addZoneTree_icount (e : Env) : ∀ (level znr : Nat) (s : St),
    (addZoneTree e level znr s).2.icount = s.icount
  | 0, znr, s => addZone_icount e znr s
  | level + 1, znr, s => by
    simp only [addZoneTree]
    split_ifs <;> simp [walkEntries_icount _ (addZoneTree_icount e level)]

/-- One `i_zone` slot of inode `i` walked with `level` indirect levels; a clear zeroes the
slot and sets `changed` (the walkers get `&changed` as `corrected`). -/
def zoneSlot (e : Env) (i : Nat) (s : St) (k level : Nat) : St :=
  let (c, s) := addZoneTree e level (e.geo.zoneOf s.ibuf i k) s
  if c then { s with ibuf := e.geo.setZone s.ibuf i k 0, changed := true } else s

@[simp] theorem zoneSlot_icount (e : Env) (i : Nat) (s : St) (k level : Nat) :
    (zoneSlot e i s k level).icount = s.icount := by
  unfold zoneSlot
  dsimp only
  split_ifs <;> simp

/-- `check_zones`/`check_zones2`: walk the zones of a directory, regular file or symlink
unless `inode_count[i] > 1` says they were walked already. -/
def checkZones (e : Env) (i : Nat) (s : St) : St :=
  if i = 0 ∨ e.geo.ninodes < i then s
  else if 1 < s.icount i then s
  else
    let m := e.geo.modeOf s.ibuf i
    if !(isDir m || isReg m || isLnk m) then s
    else
      let s := (List.range 7).foldl (fun s k => zoneSlot e i s k 0) s
      (List.range e.geo.indirections).foldl (fun s j => zoneSlot e i s (7 + j) (j + 1)) s

theorem checkZones_of_counted {e : Env} {i : Nat} {s : St} (h : 1 < s.icount i) :
    checkZones e i s = s := by
  unfold checkZones
  split_ifs <;> rfl

theorem foldl_icount {α : Type} {f : St → α → St} (hf : ∀ s a, (f s a).icount = s.icount) :
    ∀ (l : List α) (s : St), (l.foldl f s).icount = s.icount
  | [], _ => rfl
  | a :: l, s => (foldl_icount hf l _).trans (hf s a)

@[simp] theorem checkZones_icount (e : Env) (i : Nat) (s : St) :
    (checkZones e i s).icount = s.icount := by
  unfold checkZones
  dsimp only
  split_ifs <;> simp [foldl_icount]

end MinixFsck
