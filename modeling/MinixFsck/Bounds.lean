import MinixFsck.Images

/-! The tables `read_tables` allocates and the indices the checker uses in them. -/
namespace MinixFsck

/-- What the checks of `read_superblock` give: `inode_map` has a bit for inodes
`0 .. INODES` and `zone_map` one for `ZONES - FIRSTZONE + 1` zones. -/
theorem readSuperblock_bitmaps {io : Io} {disk : Nat → Block} {g : Geo}
    (h : readSuperblock io disk = .ok g) :
    g.ninodes + 1 ≤ g.imaps * blockSize * 8 ∧ g.zmapNeed ≤ g.zmaps * blockSize * 8 := by
  obtain ⟨_, _, _, _, hc⟩ := readSuperblock_ok h
  obtain ⟨rfl, hb⟩ := checkGeometry_ok hc
  exact hb

/-- `ZONES` is a 16- or 32-bit field. -/
theorem readSuperblock_zones_lt {io : Io} {disk : Nat → Block} {g : Geo}
    (h : readSuperblock io disk = .ok g) : g.zones < 2 ^ 32 := by
  obtain ⟨v2, _, _, _, hc⟩ := readSuperblock_ok h
  obtain ⟨rfl, -⟩ := checkGeometry_ok hc
  have h16 := (disk 1).get16_lt 2
  have h20 := (disk 1).get16_lt 20
  have h22 := (disk 1).get16_lt (20 + 2)
  cases v2 <;> simp only [Super.decode, Block.get32, if_true, if_false, Bool.false_eq_true] <;> omega

/-- Inode `i` of `[1, INODES]` lies inside the `INODE_BUFFER_SIZE` bytes read. -/
theorem inode_inside_buffer (g : Geo) {i : Nat} (h1 : 1 ≤ i) (h2 : i ≤ g.ninodes) :
    g.inodeOffset i + g.inodeSize ≤ g.inodeBufferSize := by
  unfold Geo.inodeOffset Geo.inodeBufferSize Geo.inodeBlocks Geo.inodesPerBlock Geo.inodeSize
  cases g.version2 <;> simp only [if_true, if_false, Bool.false_eq_true, blockSize] <;> omega

/-- The bit of a data zone in `[FIRSTZONE, ZONES)` lies inside `zone_map`. -/
theorem zoneBit_lt {io : Io} {disk : Nat → Block} {g : Geo} (h : readSuperblock io disk = .ok g)
    {x : Nat} (h1 : g.firstzone ≤ x) (h2 : x < g.zones) : zoneBit g x < g.zmaps * blockSize * 8 := by
  have hb := (readSuperblock_bitmaps h).2
  have hz := readSuperblock_zones_lt h
  unfold Geo.zmapNeed at hb
  unfold zoneBit
  omega

/-- A zone number `check_zone_nr` lets through is 0 or a data zone, the range the zone
counts and `zone_map` are indexed by. -/
theorem checkZoneNr_range (e : Env) (nr : Nat) (s : St) :
    (checkZoneNr e nr s).1 = 0 ∨
      e.geo.firstzone ≤ (checkZoneNr e nr s).1 ∧ (checkZoneNr e nr s).1 < e.geo.zones := by
  unfold checkZoneNr
  dsimp only
  split_ifs <;> simp only [true_or]
  omega

/-- `read_superblock` accepts `s_ninodes = 0` (with data from zone 4, `NORM_FIRSTZONE` for no
inode blocks): the inode table is then empty, yet `check_root` and `recursive_check` read
`Inode + ROOT_INO`, its first 32 bytes. -/
theorem readSuperblock_accepts_no_inodes :
    ∃ g, readSuperblock ⟨fun _ => true, fun _ => true⟩
        (fun n => if n = 1 then superV1 0 20 4 else Block.zero) = .ok g ∧
      g.ninodes = 0 ∧ g.inodeBufferSize = 0 ∧ g.inodeBufferSize < g.inodeOffset rootIno + g.inodeSize :=
  ⟨_, rfl, by decide, by decide, by decide⟩

end MinixFsck
