import MinixFsck.Bounds
import MinixFsck.Agreed

/-! What a stretch of the traversal does to the device and to the zone tables. -/
namespace MinixFsck

/-- The device blocks that differ between `s` and `t` lie where `write_block` writes: at
`phys nr` for a block number `nr` other than 0 in `[FIRSTZONE, ZONES)`. -/
def WritesData (g : Geo) (s t : St) : Prop :=
  ∀ p, t.disk p ≠ s.disk p → ∃ nr, p = phys nr ∧ nr ≠ 0 ∧ g.firstzone ≤ nr ∧ nr < g.zones

/-- The zone tables of an automatic run against those read, `s₀`: a data zone is counted at
most once and marked once counted, and a zone is marked only if it was marked when read or
is counted. -/
def AutoZones (e : Env) (s₀ s : St) : Prop :=
  ∀ z, e.geo.firstzone ≤ z → z < e.geo.zones →
    s.zcount z ≤ 1 ∧ (s.zcount z = 1 → zoneInUse e.geo s z = true) ∧
      (zoneInUse e.geo s₀ z = true → zoneInUse e.geo s z = true) ∧
      (zoneInUse e.geo s z = true → s.zcount z = 0 → zoneInUse e.geo s₀ z = true)

/-- A stretch of the traversal from `s` to `t`: it writes only data blocks, and in an
automatic run it keeps the zone tables in agreement with those read. -/
structure Effects (e : Env) (s t : St) : Prop where
  writes : WritesData e.geo s t
  zones : e.opts.automatic = true → e.opts.repair = true → ∀ s₀, AutoZones e s₀ s → AutoZones e s₀ t

namespace Effects

variable {e : Env}

theorem refl (s : St) : Effects e s s := ⟨fun _ h => absurd rfl h, fun _ _ _ h => h⟩

theorem trans {a b c : St} (h1 : Effects e a b) (h2 : Effects e b c) : Effects e a c where
  writes p hp := by
    by_cases hb : b.disk p = a.disk p
    · exact h2.writes p fun h => hp (h.trans hb)
    · exact h1.writes p hb
  zones ha hr s₀ h := h2.zones ha hr s₀ (h1.zones ha hr s₀ h)

/-- A stretch that writes only data blocks and leaves the zone tables alone. -/
theorem of_writes {s t : St} (hw : WritesData e.geo s t) (hz : t.zcount = s.zcount)
    (hm : t.zmap = s.zmap) : Effects e s t where
  writes := hw
  zones _ _ s₀ h z h1 h2 := by simpa only [zoneInUse, hz, hm] using h z h1 h2

/-- A stretch that leaves the device and the zone tables alone. -/
theorem of_eq {s t : St} (hd : t.disk = s.disk) (hz : t.zcount = s.zcount) (hm : t.zmap = s.zmap) :
    Effects e s t :=
  of_writes (fun p hp => absurd (congrFun hd p) hp) hz hm

end Effects

section Steps

variable (e : Env)

theorem ask_effects (p : String) (d : Bool) (s : St) : Effects e s (ask e.opts p d s).2 := by
  obtain ⟨⟨_, h⟩, -⟩ := ask_spec e.opts p d s
  exact .of_eq (by rw [h]) (by rw [h]) (by rw [h])

/-- `write_block` writes only a block it accepts, at the position its offset reaches. -/
theorem writeBlock_effects (nr : Nat) (b : Block) (s : St) : Effects e s (writeBlock e nr b s) := by
  unfold writeBlock reportError
  split_ifs with h0 hb
  · exact .of_eq rfl rfl rfl
  · exact .of_eq rfl rfl rfl
  · refine .of_writes (fun p hp => ⟨nr, ?_, h0, by omega, by omega⟩) rfl rfl
    by_contra hne
    exact hp (Function.update_noteq hne _ _)
  · exact .of_eq rfl rfl rfl

/-- Every update the helpers make but `write_block` leaves the device and the zone tables
alone. -/
theorem effects_closed : Closed e (Effects e) :=
  ⟨.refl, .trans, ask_effects e, fun _ _ => .of_eq rfl rfl rfl, fun _ => .of_eq rfl rfl rfl,
    fun _ _ => .of_eq rfl rfl rfl, fun _ _ => .of_eq rfl rfl rfl, fun _ _ => .of_eq rfl rfl rfl,
    writeBlock_effects e⟩

/-- With `-a`, `add_zone` keeps a pointer to a zone only if the zone is not counted yet. -/
theorem usedBefore_fresh_auto (ha : e.opts.automatic = true) (hr : e.opts.repair = true)
    {block : Nat} {s : St} (h : (usedBefore e block s).1 = true) :
    (usedBefore e block s).2.zcount block = 0 :=
  usedBefore_fresh_agreed h (.inl ⟨ha, hr⟩)

theorem zoneInUse_markZone (g : Geo) (s : St) (x z : Nat) :
    zoneInUse g (markZone g s x) z = (zoneInUse g s z || decide (zoneBit g z = zoneBit g x)) := by
  by_cases h : zoneBit g z = zoneBit g x <;> simp [zoneInUse, markZone, Function.update_apply, h]

/-- `countZone` with `-a`: the zone is marked and counted, nothing else changes in the zone
tables. -/
theorem countZone_auto (ha : e.opts.automatic = true) (hr : e.opts.repair = true) (block : Nat)
    (s : St) :
    (countZone e block s).zcount = Function.update s.zcount block (bump (s.zcount block)) ∧
      ∀ z, zoneInUse e.geo (countZone e block s) z =
        (zoneInUse e.geo s z || decide (zoneBit e.geo z = zoneBit e.geo block)) :=
  countZone_agreed (.inl ⟨ha, hr⟩)

/-- Counting and marking a data zone that is not counted yet keeps the zone tables in
agreement with those read. -/
theorem autoZones_countZone {block : Nat} {s s₀ : St} (h1 : e.geo.firstzone ≤ block)
    (h2 : block < e.geo.zones) (h0 : s.zcount block = 0)
    (hc : (countZone e block s).zcount = Function.update s.zcount block (bump (s.zcount block)))
    (hm : ∀ z, zoneInUse e.geo (countZone e block s) z =
      (zoneInUse e.geo s z || decide (zoneBit e.geo z = zoneBit e.geo block)))
    (h : AutoZones e s₀ s) : AutoZones e s₀ (countZone e block s) := by
  intro z k1 k2
  obtain ⟨i1, i2, i3, i4⟩ := h z k1 k2
  rw [hc, hm]
  by_cases hz : z = block
  · subst hz
    simp [h0, bump]
  · have hb : zoneBit e.geo z ≠ zoneBit e.geo block := by unfold zoneBit; omega
    simp only [Function.update_noteq hz, hb, decide_False, Bool.or_false]
    exact ⟨i1, i2, i3, i4⟩

/-- Counting a data zone that is not counted yet, as `add_zone` does with `-a`. -/
theorem countZone_effects {block : Nat} {s : St} (h1 : e.geo.firstzone ≤ block)
    (h2 : block < e.geo.zones) (h0 : e.opts.automatic = true → e.opts.repair = true → s.zcount block = 0) :
    Effects e s (countZone e block s) := by
  refine ⟨fun p hp => absurd ?_ hp, fun ha hr s₀ h => ?_⟩
  · unfold countZone
    dsimp only
    split_ifs
    · rfl
    · exact congrFun (offer_disk (fun t => show (markZone e.geo t block).disk = t.disk from rfl) _) p
  obtain ⟨hc, hm⟩ := countZone_auto e ha hr block s
  exact autoZones_countZone e h1 h2 (h0 ha hr) hc hm h

theorem addZone_effects (znr : Nat) (s : St) : Effects e s (addZone e znr s).2.2 := by
  unfold addZone
  dsimp only
  have h0 := (effects_closed e).checkZoneNr znr s
  have hv := checkZoneNr_range e znr s
  split_ifs with hb hk
  · exact h0
  · have hv := hv.resolve_left hb
    exact (h0.trans ((effects_closed e).usedBefore _ _)).trans
      (countZone_effects e hv.1 hv.2 fun ha hr => usedBefore_fresh_auto e ha hr hk)
  · exact h0.trans ((effects_closed e).usedBefore _ _)

theorem checkZones_effects (i : Nat) (s : St) : Effects e s (checkZones e i s) :=
  (effects_closed e).checkZones (addZone_effects e) i s

end Steps

section Traverse

variable (e : Env)

theorem pushName_effects (s : St) (name : List UInt8) : Effects e s (pushName s name) :=
  .of_eq rfl rfl rfl

theorem depth_effects (s : St) (d : Nat) : Effects e s { s with depth := d } := .of_eq rfl rfl rfl

/-- The traversal, however its fuel ends. -/
theorem trav_effects (n : Nat) (c : Call) (s : St) : Effects e s (trav e n c s).1 :=
  (effects_closed e).trav (addZone_effects e) (pushName_effects e) (depth_effects e) n c s

end Traverse

/-- Every device block the traversal changes, from the walk of the root's zones on, lies where
`write_block` writes: at `phys nr` for a block number `nr` other than 0 in
`[FIRSTZONE, ZONES)`. While `ZONES <= 2^22` the offset `BLOCK_SIZE*nr` does not wrap, so with
`FIRSTZONE >= NORM_FIRSTZONE` the block lies in `[NORM_FIRSTZONE, ZONES)`, past the tables. -/
theorem traverse_writes_data (e : Env) (fuel : Nat) (s : St) :
    WritesData e.geo s (traverse e fuel s).1 ∧
      (e.geo.normFirstzone ≤ e.geo.firstzone → e.geo.zones ≤ 2 ^ 22 →
        ∀ p, (traverse e fuel s).1.disk p ≠ s.disk p → e.geo.normFirstzone ≤ p ∧ p < e.geo.zones) := by
  have hw : WritesData e.geo s (traverse e fuel s).1 :=
    ((checkZones_effects e rootIno _).trans (trav_effects e fuel _ _)).writes
  refine ⟨hw, fun hn hz p hp => ?_⟩
  obtain ⟨nr, rfl, -, h1, h2⟩ := hw p hp
  have hp : phys nr = nr := by
    unfold phys blockSize
    rw [Nat.mod_eq_of_lt (by omega), Nat.mul_div_cancel_left _ (by decide)]
  omega

/-- A version 1 image whose superblock puts the first data zone at 4, the block of the inode
table, one short of `NORM_FIRSTZONE`; the root directory, 32 bytes, lies in zone 4, so its first
entry reads inode 1's mode, 0o40755, as an inode number. -/
def lowFirstzoneImage (n : Nat) : Block :=
  if n = 1 then superV1 16 20 4
  else tinyImage (bitmapBlock [1]) (bitmapBlock [1]) (withInodeV1 Block.zero 1 0o40755 32 2 [4])
    (fun _ => Block.zero) n

/-- The geometry `read_superblock` reads from `lowFirstzoneImage`. -/
def lowFirstzoneGeo : Geo := ⟨false, 16, 20, 1, 1, 4, 16, 14⟩

/-- `read_superblock` accepts `lowFirstzoneImage`, whose `FIRSTZONE` is 4 and `NORM_FIRSTZONE`
5. An automatic traversal removes the root's first entry, 16877 > INODES, and `write_block(4)`
writes the inode-table block: byte 0, the low byte of inode 1's mode, goes from 237 to 0. -/
theorem lowFirstzone_writes_inode_table :
    readSuperblock tinyIo lowFirstzoneImage = .ok lowFirstzoneGeo ∧
      lowFirstzoneGeo.firstzone = 4 ∧ lowFirstzoneGeo.normFirstzone = 5 ∧
      lowFirstzoneImage 4 0 = 237 ∧
      (traverse ⟨automaticOpts, tinyIo, lowFirstzoneGeo⟩ 10 (tinyTables lowFirstzoneImage)).1.disk 4 0 = 0 :=
  ⟨readSuperblock_superV1 (by decide) rfl (by decide) (by decide) (by decide), rfl, by decide, by decide,
    by decide⟩

end MinixFsck
