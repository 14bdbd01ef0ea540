import MinixFsck.Images
import Mathlib.Data.List.Basic

/-! `write_tables` against `read_superblock` and `read_tables`: the tables go back where they
were read from. -/
namespace MinixFsck

/-- Packing the bits of a byte array gives the array back. -/
theorem packByte_bitOf (b : Nat → UInt8) (j : Nat) : packByte (bitOf b) j = b j := by
  have hk : ∀ k ∈ List.range 8, ∀ acc : Nat,
      (if bitOf b (8 * j + k) then 2 ^ k else 0) + acc =
        (if (b j).toNat.testBit k then 2 ^ k else 0) + acc := by
    intro k hk _
    have hk := List.mem_range.mp hk
    simp only [bitOf, show (8 * j + k) / 8 = j by omega, show (8 * j + k) % 8 = k by omega]
  unfold packByte
  rw [List.foldr_ext _ _ _ hk]
  obtain ⟨v⟩ := b j
  revert v
  decide

section Region

variable {io : Io} {start count : Nat} {bytes : Nat → UInt8} {disk d : Nat → Block}

theorem writeRegion_some (h : writeRegion io start count bytes disk = some d) (p : Nat) :
    d p = if start ≤ p ∧ p < start + count then
      (disk p).overwrite fun o => bytes ((p - start) * blockSize + o) else disk p := by
  unfold writeRegion at h
  split_ifs at h
  cases h
  rfl

/-- A region write puts its bytes where a region read of the same blocks finds them. -/
theorem regionByte_writeRegion (h : writeRegion io start count bytes disk = some d) {j : Nat}
    (hj : j < count * blockSize) : regionByte d start j = bytes j := by
  unfold regionByte
  rw [writeRegion_some h, if_pos (by unfold blockSize at hj ⊢; omega)]
  unfold Block.overwrite
  rw [if_pos (Nat.mod_lt _ (by decide)), Nat.add_sub_cancel_left]
  exact congrArg bytes (Nat.div_add_mod' j blockSize)

theorem writeRegion_outside (h : writeRegion io start count bytes disk = some d) {p : Nat}
    (hp : p < start ∨ start + count ≤ p) : d p = disk p := by
  rw [writeRegion_some h, if_neg (by omega)]

/-- Writing back the bytes a region already holds changes no byte of a block. -/
theorem writeRegion_same (h : writeRegion io start count bytes disk = some d)
    (hb : ∀ j, j < count * blockSize → bytes j = regionByte disk start j) (p o : Nat)
    (ho : o < blockSize) : d p o = disk p o := by
  rw [writeRegion_some h]
  split_ifs with hp
  · unfold Block.overwrite regionByte at *
    unfold blockSize at ho hb ⊢
    rw [if_pos ho]
    dsimp only
    rw [hb _ (by omega), show start + ((p - start) * 1024 + o) / 1024 = p by omega,
      show ((p - start) * 1024 + o) % 1024 = o by omega]
  · rfl

/-- A region write from block 2 on, of the bytes `disk₀` holds there, keeps every byte of a
block that agreed with `disk₀` (the bytes of `s_state` apart) agreeing. -/
theorem writeRegion_agrees {disk₀ : Nat → Block} (h : writeRegion io start count bytes disk = some d)
    (hs : 2 ≤ start) (hb : ∀ j, j < count * blockSize → bytes j = regionByte disk₀ start j)
    (ha : ∀ p o, o < blockSize → ¬(p = 1 ∧ (o = stateOffset ∨ o = stateOffset + 1)) →
      disk p o = disk₀ p o) (p o : Nat) (ho : o < blockSize)
    (hp : ¬(p = 1 ∧ (o = stateOffset ∨ o = stateOffset + 1))) : d p o = disk₀ p o := by
  refine (writeRegion_same h (fun j hj => ?_) p o ho).trans (ha p o ho hp)
  rw [hb j hj]
  exact (ha _ _ (Nat.mod_lt _ (by decide)) fun h => absurd h.1 (by unfold blockSize; omega)).symm

end Region

section Tables

variable {e : Env} {t : St}

/-- A `write_tables` that does not die wrote the superblock, then the three regions in turn,
from the tables it was given. -/
theorem writeTables_none (hw : (writeTables e t).2 = none) :
    e.io.writeOk 1 = true ∧ ∃ d₁ d₂,
      writeRegion e.io 2 e.geo.imaps (packByte t.imap) (writeSuperBlock e t).1.disk = some d₁ ∧
      writeRegion e.io (2 + e.geo.imaps) e.geo.zmaps (packByte t.zmap) d₁ = some d₂ ∧
      writeRegion e.io (2 + e.geo.imaps + e.geo.zmaps) e.geo.inodeBlocks t.ibuf d₂ =
        some (writeTables e t).1.disk ∧
      (writeTables e t).1.super = (writeSuperBlock e t).1.super := by
  have hfst := writeSuperBlock_fst e t
  have hsnd : (writeSuperBlock e t).2 =
      if e.io.writeOk 1 then none else some "unable to write super-block" := by
    unfold writeSuperBlock
    cases e.io.writeOk 1 <;> rfl
  unfold writeTables at hw ⊢
  generalize writeSuperBlock e t = w at hfst hsnd hw ⊢
  obtain ⟨s, o⟩ := w
  dsimp only at hfst hsnd
  subst hfst hsnd
  revert hw
  cases e.io.writeOk 1 <;> intro hw
  · simp at hw
  simp only [eq_self_iff_true, if_true] at hw ⊢
  refine ⟨trivial, ?_⟩
  split at hw
  · exact absurd hw nofun
  rename_i d₁ h₁
  split at hw
  · exact absurd hw nofun
  rename_i d₂ h₂
  split at hw
  · exact absurd hw nofun
  rename_i d₃ h₃
  exact ⟨d₁, d₂, h₁, h₂, h₃, rfl⟩

/-- `write_tables` puts the superblock buffer in block 1 and the inode map, the zone map and the
inode table in the blocks `read_tables` reads them from, and leaves every block outside
`[1, NORM_FIRSTZONE)` as it was. When the tables hold what the device holds, the write-back
changes no byte of a block but the two bytes of `s_state`. -/
theorem writeTables_round_trip (e : Env) (t : St) (hw : (writeTables e t).2 = none) :
    (∀ o, o < blockSize → (writeTables e t).1.disk 1 o = (writeTables e t).1.super o) ∧
    (∀ j, j < e.geo.imaps * blockSize →
      regionByte (writeTables e t).1.disk 2 j = packByte t.imap j) ∧
    (∀ j, j < e.geo.zmaps * blockSize →
      regionByte (writeTables e t).1.disk (2 + e.geo.imaps) j = packByte t.zmap j) ∧
    (∀ j, j < e.geo.inodeBufferSize →
      regionByte (writeTables e t).1.disk (2 + e.geo.imaps + e.geo.zmaps) j = t.ibuf j) ∧
    (∀ p, p = 0 ∨ e.geo.normFirstzone ≤ p → (writeTables e t).1.disk p = t.disk p) ∧
    (t.super = t.disk 1 → t.imap = bitOf (regionByte t.disk 2) →
      t.zmap = bitOf (regionByte t.disk (2 + e.geo.imaps)) →
      t.ibuf = regionByte t.disk (2 + e.geo.imaps + e.geo.zmaps) →
      ∀ p o, o < blockSize → ¬(p = 1 ∧ (o = stateOffset ∨ o = stateOffset + 1)) →
        (writeTables e t).1.disk p o = t.disk p o) := by
  obtain ⟨hok, d₁, d₂, r1, r2, r3, hsup⟩ := writeTables_none hw
  have hsd : (writeSuperBlock e t).1.disk =
      Function.update t.disk 1 ((t.disk 1).overwrite (writeSuperBlock e t).1.super) := by
    rw [writeSuperBlock_fst]
    simp [hok]
  have hss : (writeSuperBlock e t).1.super =
      t.super.set16 stateOffset (stateAfter (t.super.get16 stateOffset) t.errors) := by
    rw [writeSuperBlock_fst]
  have hnorm : e.geo.normFirstzone = 2 + e.geo.imaps + e.geo.zmaps + e.geo.inodeBlocks := rfl
  refine ⟨fun o ho => ?_, fun j hj => ?_, fun j hj => ?_, fun j hj => regionByte_writeRegion r3 hj,
    fun p hp => ?_, fun hs hi hz hi' => ?_⟩
  · rw [writeRegion_outside r3 (by omega), writeRegion_outside r2 (by omega),
      writeRegion_outside r1 (by omega), hsd, Function.update_same, hsup]
    exact if_pos ho
  · unfold regionByte
    have := (Nat.div_lt_iff_lt_mul (by decide)).2 hj
    rw [writeRegion_outside r3 (by omega), writeRegion_outside r2 (by omega)]
    exact regionByte_writeRegion r1 hj
  · unfold regionByte
    rw [writeRegion_outside r3 (by have := (Nat.div_lt_iff_lt_mul (by decide)).2 hj; omega)]
    exact regionByte_writeRegion r2 hj
  · rw [writeRegion_outside r3 (by omega), writeRegion_outside r2 (by omega),
      writeRegion_outside r1 (by omega), hsd, Function.update_noteq (by omega)]
  have h0 : ∀ p o, o < blockSize → ¬(p = 1 ∧ (o = stateOffset ∨ o = stateOffset + 1)) →
      (writeSuperBlock e t).1.disk p o = t.disk p o := by
    intro p o ho hp
    rw [hsd]
    by_cases h1 : p = 1
    case neg => rw [Function.update_noteq h1]
    subst h1
    rw [Function.update_same, hss, hs]
    simp only [Block.overwrite, if_pos ho]
    exact Block.set16_apply_of_ne _ _ _ _ (by omega) (by omega)
  have h1 := writeRegion_agrees r1 le_rfl (fun j _ => by rw [hi, packByte_bitOf]) h0
  have h2 := writeRegion_agrees r2 (by omega) (fun j _ => by rw [hz, packByte_bitOf]) h1
  exact writeRegion_agrees r3 (by omega) (fun j _ => by rw [hi']) h2

end Tables

/-- Writing back the tables `read_tables` leaves for `danglingImage` succeeds and gives the
inode table back unchanged. -/
theorem writeTables_round_trip_dangling :
    (writeTables (tinyEnv automaticOpts) (tinyTables danglingImage)).2 = none ∧
      (writeTables (tinyEnv automaticOpts) (tinyTables danglingImage)).1.disk 4 0 =
        danglingImage 4 0 :=
  ⟨by decide, (writeTables_round_trip _ _ (by decide)).2.2.2.2.2 rfl rfl rfl rfl 4 0 (by decide)
    (by decide)⟩

end MinixFsck
