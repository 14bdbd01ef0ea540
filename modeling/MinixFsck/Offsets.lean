import MinixFsck.Bounds

/-! Seek offsets: `BLOCK_SIZE*nr` wraps at 2^32 in `read_block` and `write_block`, and turns
negative past 2^31 in `bad_zone`. -/
namespace MinixFsck

/-- The unsigned product wraps at 2^32: `lseek` reaches block `nr` modulo 2^22. -/
theorem phys_eq_mod (nr : Nat) : phys nr = nr % 2 ^ 22 := by
  unfold phys blockSize
  rw [show (2 : Nat) ^ 32 = 1024 * 2 ^ 22 by decide, Nat.mul_mod_mul_left,
    Nat.mul_div_cancel_left _ (by decide)]

theorem phys_eq_self_iff (nr : Nat) : phys nr = nr ↔ nr < 2 ^ 22 := by
  rw [phys_eq_mod]
  exact ⟨fun h => h ▸ Nat.mod_lt _ (by decide), Nat.mod_eq_of_lt⟩

/-- The `int` product of `bad_zone` is negative, and its `lseek` fails, exactly when bit 21 of
`i` is set, counting modulo 2^22. -/
theorem badZone_eq_none_iff (e : Env) (i : Nat) : badZone e i = none ↔ 2 ^ 21 ≤ i % 2 ^ 22 := by
  unfold badZone blockSize
  rw [show (2 : Nat) ^ 32 = 1024 * 2 ^ 22 by decide, Nat.mul_mod_mul_left]
  dsimp only
  split_ifs with h
  · simp only [true_iff]; omega
  · simp only [reduceCtorEq, false_iff]; omega

/-- A zone marked in `zone_map` and counted by no inode makes `check_counts` call `bad_zone`,
which dies when its seek fails. -/
theorem checkZoneCount_fatal {e : Env} {s : St} {i : Nat} (hu : zoneInUse e.geo s i = true)
    (hz : s.zcount i = 0) (hb : 2 ^ 21 ≤ i % 2 ^ 22) :
    (checkZoneCount e s i).2 = .fatal "seek failed in bad_zone" := by
  unfold checkZoneCount
  rw [(badZone_eq_none_iff e i).2 hb]
  simp [hu, hz]

/-- What exact offsets ask of a geometry: for every data zone, `read_block` and `write_block`
reach the zone itself, and the seek of `bad_zone` succeeds. -/
def OffsetsExact (e : Env) : Prop :=
  ∀ nr, e.geo.firstzone ≤ nr → nr < e.geo.zones → phys nr = nr ∧ badZone e nr ≠ none

/-- The offsets are exact exactly for geometries whose zones stay below 2^21: the last zone
of a larger one either wraps the unsigned product or makes the `int` product negative. -/
theorem offsetsExact_iff (e : Env) (h : e.geo.firstzone < e.geo.zones) :
    OffsetsExact e ↔ e.geo.zones ≤ 2 ^ 21 := by
  constructor
  · intro hx
    by_contra hz
    obtain ⟨hp, hb⟩ := hx (e.geo.zones - 1) (by omega) (by omega)
    rw [phys_eq_self_iff] at hp
    rw [Ne, badZone_eq_none_iff, Nat.mod_eq_of_lt hp] at hb
    omega
  · intro hz nr _ h2
    rw [phys_eq_self_iff, Ne, badZone_eq_none_iff, Nat.mod_eq_of_lt (by omega)]
    omega

/-- A version 2 superblock with 14-character names, one inode-map block, marked valid. -/
def superV2 (ninodes zones zmaps firstzone : Nat) : Block :=
  ((((((Block.zero.set16 0 ninodes).set16 4 1).set16 6 zmaps).set16 8 firstzone).set16 16
    minix2SuperMagic).set16 stateOffset minixValidFs).set32 20 zones

/-- A version 2 image of 2^22 + 2 zones: 512 zone-map blocks cover them, and the data starts at
`NORM_FIRSTZONE`, block 516. -/
def wideZonesImage (n : Nat) : Block :=
  if n = 1 then superV2 16 (2 ^ 22 + 2) 512 516 else Block.zero

def wideZonesGeo : Geo := ⟨true, 16, 2 ^ 22 + 2, 1, 512, 516, 16, 14⟩

/-- A device on which every read and write succeeds. -/
def fullIo : Io := ⟨fun _ => true, fun _ => true⟩

/-- `read_superblock` accepts `wideZonesImage`, whose zones run past 2^22. Reading zone 2^22
reads the boot block, writing zone 2^22 + 1 overwrites the superblock and its magic number, and
the probe of a marked but uncounted zone 2^21 dies. -/
theorem readSuperblock_admits_wrapping_offsets :
    readSuperblock fullIo wideZonesImage = .ok wideZonesGeo ∧
      ¬OffsetsExact ⟨automaticOpts, fullIo, wideZonesGeo⟩ ∧
      (readBlock ⟨automaticOpts, fullIo, wideZonesGeo⟩ (2 ^ 22) (tinyTables wideZonesImage)).1 =
        wideZonesImage 0 ∧
      ((writeBlock ⟨automaticOpts, fullIo, wideZonesGeo⟩ (2 ^ 22 + 1) Block.zero
        (tinyTables wideZonesImage)).disk 1).get16 16 = 0 ∧
      (checkZoneCount ⟨automaticOpts, fullIo, wideZonesGeo⟩
        { tinyTables wideZonesImage with zmap := fun _ => true } (2 ^ 21)).2 =
        .fatal "seek failed in bad_zone" :=
  ⟨rfl, by rw [offsetsExact_iff _ (by decide)]; decide, rfl, by decide,
    checkZoneCount_fatal rfl rfl (by decide)⟩

end MinixFsck
