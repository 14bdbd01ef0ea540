import MinixFsck.Images
import Mathlib.Data.List.Nodup

/-! The zone walk against the zone tree it walks: on fresh data zones `check_zones` counts each
zone of the file once and writes nothing. -/
namespace MinixFsck

/-- The zones pointer `znr` reaches with `level` levels of indirection below it, as the device
holds them: the pointer itself, then, for an indirect block, the zones each of its `fanout`
entries reaches, in order. A 0 pointer reaches nothing. -/
def Geo.treeZones (g : Geo) (disk : Nat → Block) : Nat → Nat → List Nat
  | 0, znr => if znr = 0 then [] else [znr]
  | l + 1, znr => if znr = 0 then [] else
      znr :: (List.range g.fanout).flatMap fun i => g.treeZones disk l (g.entry (disk (phys znr)) i)

/-- The zones of inode `i`'s file in the order `check_zones` walks them: the trees below the
seven direct slots, then below `i_zone[7]`, `i_zone[8]` and, for version 2, `i_zone[9]`, each
with one more level of indirection. -/
def Geo.fileZones (g : Geo) (disk : Nat → Block) (ibuf : Block) (i : Nat) : List Nat :=
  (List.range 7).flatMap (fun k => g.treeZones disk 0 (g.zoneOf ibuf i k)) ++
    (List.range g.indirections).flatMap fun j => g.treeZones disk (j + 1) (g.zoneOf ibuf i (7 + j))

/-- The zones of `L` are distinct data zones the device reads, none counted in `s`. -/
def Fresh (e : Env) (s : St) (L : List Nat) : Prop :=
  L.Nodup ∧ ∀ z ∈ L, e.geo.firstzone ≤ z ∧ z < e.geo.zones ∧ e.io.readOk (phys z) = true ∧
    s.zcount z = 0

instance (e : Env) (s : St) (L : List Nat) : Decidable (Fresh e s L) :=
  inferInstanceAs (Decidable (_ ∧ _))

/-- `t` is `s` with each zone of `L` counted once: the device and the inode table as they
were, and `zone_count` 1 on `L`. -/
structure Counted (L : List Nat) (s t : St) : Prop where
  disk : t.disk = s.disk
  ibuf : t.ibuf = s.ibuf
  zcount : ∀ z, t.zcount z = if z ∈ L then 1 else s.zcount z

namespace Counted

theorem nil (s : St) : Counted [] s s := ⟨rfl, rfl, fun _ => rfl⟩

theorem append {L₁ L₂ : List Nat} {s t u : St} (h1 : Counted L₁ s t) (h2 : Counted L₂ t u) :
    Counted (L₁ ++ L₂) s u := by
  refine ⟨h2.disk.trans h1.disk, h2.ibuf.trans h1.ibuf, fun z => ?_⟩
  rw [h2.zcount, h1.zcount]
  by_cases z2 : z ∈ L₂ <;> by_cases z1 : z ∈ L₁ <;> simp [z1, z2]

end Counted

section Walk

variable {e : Env}

/-- Counting the zones of a first stretch keeps the rest fresh. -/
theorem Fresh.of_append {L₁ L₂ : List Nat} {s : St} (h : Fresh e s (L₁ ++ L₂)) :
    Fresh e s L₁ ∧ ∀ t, Counted L₁ s t → Fresh e t L₂ := by
  obtain ⟨hn, hv⟩ := h
  rw [List.nodup_append] at hn
  refine ⟨⟨hn.1, fun z hz => hv z (List.mem_append_left _ hz)⟩, fun t ht => ⟨hn.2.1, fun z hz => ?_⟩⟩
  obtain ⟨h1, h2, h3, h4⟩ := hv z (List.mem_append_right _ hz)
  exact ⟨h1, h2, h3, by rw [ht.zcount, if_neg fun h => hn.2.2 h hz, h4]⟩

theorem addZone_zero (s : St) : addZone e 0 s = (0, false, s) := by
  simp [addZone, checkZoneNr]

/-- `add_zone` on a data zone not counted yet: `check_zone_nr` and the duplicate test let it
through, and it is counted. -/
theorem addZone_fresh {znr : Nat} {s : St} (h0 : znr ≠ 0) (h1 : e.geo.firstzone ≤ znr)
    (h2 : znr < e.geo.zones) (hc : s.zcount znr = 0) :
    addZone e znr s = (znr, false, countZone e znr s) := by
  simp [addZone, checkZoneNr, usedBefore, h0, Nat.not_lt.2 h1, Nat.not_le.2 h2, hc]

theorem countZone_counted {znr : Nat} {s : St} (hc : s.zcount znr = 0) :
    Counted [znr] s (countZone e znr s) := by
  have hk : ∀ t : St, (offer e.opts "Correct" true (markZone e.geo · znr) t).disk = t.disk ∧
      (offer e.opts "Correct" true (markZone e.geo · znr) t).ibuf = t.ibuf ∧
      (offer e.opts "Correct" true (markZone e.geo · znr) t).zcount = t.zcount := fun t => by
    unfold offer
    dsimp only
    split_ifs <;> simp [markZone]
  have hz : ∀ z, Function.update s.zcount znr (bump (s.zcount znr)) z =
      if z ∈ [znr] then 1 else s.zcount z := fun z => by
    by_cases h : z = znr
    · subst h
      simp [hc, bump]
    · simp [h]
  unfold countZone
  dsimp only
  split_ifs
  · exact ⟨rfl, rfl, hz⟩
  · obtain ⟨k1, k2, k3⟩ := hk (s.say (.blockNotInUse znr (getCurrentName e.geo s)))
    exact ⟨k1, k2, fun z => by rw [← hz z, k3]; rfl⟩

theorem readBlock_ok {nr : Nat} {s : St} (h0 : nr ≠ 0) (hr : e.io.readOk (phys nr) = true) :
    readBlock e nr s = (s.disk (phys nr), s) := by
  simp [readBlock, h0, hr]

/-- The loop of an indirect walker over a block's entries, given the walk one level down. -/
theorem walkEntries_counted {level : Nat} (blk : Block)
    (ih : ∀ znr s, Fresh e s (e.geo.treeZones s.disk level znr) →
      (addZoneTree e level znr s).1 = false ∧
        Counted (e.geo.treeZones s.disk level znr) s (addZoneTree e level znr s).2) :
    ∀ (is : List Nat) (s : St),
      Fresh e s (is.flatMap fun i => e.geo.treeZones s.disk level (e.geo.entry blk i)) →
      ∃ t, walkEntries e.geo (fun z s => addZoneTree e level z s) is (blk, false, s) =
          (blk, false, t) ∧
        Counted (is.flatMap fun i => e.geo.treeZones s.disk level (e.geo.entry blk i)) s t
  | [], s, _ => ⟨s, rfl, .nil s⟩
  | i :: is, s, hf => by
    rw [List.flatMap_cons] at hf ⊢
    obtain ⟨hf1, hf2⟩ := hf.of_append
    obtain ⟨hc, hk⟩ := ih _ s hf1
    simp only [walkEntries]
    generalize addZoneTree e level (e.geo.entry blk i) s = r at hc hk ⊢
    obtain ⟨c, t⟩ := r
    dsimp only at hc hk ⊢
    subst hc
    have hrest := walkEntries_counted blk ih is t (by rw [hk.disk]; exact hf2 t hk)
    rw [hk.disk] at hrest
    obtain ⟨u, hu, hcu⟩ := hrest
    exact ⟨u, hu, hk.append hcu⟩

/-- The walk of a zone tree, `add_zone` at level 0 and the indirect walkers above it, counts
the zones of a fresh tree once each, clears no pointer and writes no block. -/
theorem addZoneTree_counted : ∀ (level znr : Nat) (s : St),
    Fresh e s (e.geo.treeZones s.disk level znr) →
    (addZoneTree e level znr s).1 = false ∧
      Counted (e.geo.treeZones s.disk level znr) s (addZoneTree e level znr s).2
  | level, 0, s, _ => by
    cases level <;> simp only [addZoneTree, addZone_zero, Geo.treeZones, if_true] <;>
      exact ⟨trivial, .nil s⟩
  | 0, znr + 1, s, hf => by
    simp only [Geo.treeZones, if_neg (Nat.succ_ne_zero znr)] at hf ⊢
    obtain ⟨-, hv⟩ := hf
    obtain ⟨h1, h2, -, hc⟩ := hv _ (List.mem_singleton_self _)
    simp only [addZoneTree, addZone_fresh (Nat.succ_ne_zero znr) h1 h2 hc]
    exact ⟨trivial, countZone_counted hc⟩
  | level + 1, znr + 1, s, hf => by
    simp only [Geo.treeZones, if_neg (Nat.succ_ne_zero znr)] at hf ⊢
    obtain ⟨hf1, hf2⟩ := (show Fresh e s ([znr + 1] ++ _) from hf).of_append
    obtain ⟨-, hv⟩ := hf1
    obtain ⟨h1, h2, hr, hc⟩ := hv _ (List.mem_singleton_self _)
    have k0 := countZone_counted (e := e) hc
    obtain ⟨t, ht, hk⟩ := walkEntries_counted (s.disk (phys (znr + 1)))
      (addZoneTree_counted level) (List.range e.geo.fanout) (countZone e (znr + 1) s)
      (by rw [k0.disk]; exact hf2 _ k0)
    rw [k0.disk] at hk
    simp only [addZoneTree, addZone_fresh (Nat.succ_ne_zero znr) h1 h2 hc,
      if_neg (Nat.succ_ne_zero znr), readBlock_ok (Nat.succ_ne_zero znr) hr, k0.disk, ht]
    exact ⟨trivial, k0.append hk⟩

/-- The slot loops of `check_zones`, given the slot and the level of each iteration. -/
theorem slots_counted (i : Nat) (kf lf : Nat → Nat) : ∀ (l : List Nat) (s : St),
    Fresh e s (l.flatMap fun a => e.geo.treeZones s.disk (lf a) (e.geo.zoneOf s.ibuf i (kf a))) →
    Counted (l.flatMap fun a => e.geo.treeZones s.disk (lf a) (e.geo.zoneOf s.ibuf i (kf a))) s
      (l.foldl (fun s a => zoneSlot e i s (kf a) (lf a)) s)
  | [], s, _ => .nil s
  | a :: l, s, hf => by
    rw [List.flatMap_cons] at hf ⊢
    obtain ⟨hf1, hf2⟩ := hf.of_append
    obtain ⟨hc, hk⟩ := addZoneTree_counted _ _ s hf1
    have hs : zoneSlot e i s (kf a) (lf a) = (addZoneTree e (lf a) (e.geo.zoneOf s.ibuf i (kf a)) s).2 := by
      unfold zoneSlot
      generalize addZoneTree e (lf a) (e.geo.zoneOf s.ibuf i (kf a)) s = r at hc ⊢
      obtain ⟨c, t⟩ := r
      dsimp only at hc ⊢
      rw [hc, if_neg Bool.false_ne_true]
    rw [List.foldl_cons, hs]
    have hrest := slots_counted i kf lf l _ (by rw [hk.disk, hk.ibuf]; exact hf2 _ hk)
    rw [hk.disk, hk.ibuf] at hrest
    exact hk.append hrest

end Walk

/-- `check_zones` on an inode of `[1, INODES]` it walks (a directory, regular file or symlink
not counted twice yet), whose zones as the device holds them are distinct data zones the device
reads, none counted yet: it counts each zone of the file once, clears no pointer, and writes
neither the device nor the inode table. -/
theorem checkZones_counts_file (e : Env) (i : Nat) (s : St) (hi : 1 ≤ i ∧ i ≤ e.geo.ninodes)
    (hc : s.icount i ≤ 1)
    (hm : (isDir (e.geo.modeOf s.ibuf i) || isReg (e.geo.modeOf s.ibuf i) ||
      isLnk (e.geo.modeOf s.ibuf i)) = true)
    (hf : Fresh e s (e.geo.fileZones s.disk s.ibuf i)) :
    Counted (e.geo.fileZones s.disk s.ibuf i) s (checkZones e i s) := by
  unfold checkZones
  rw [if_neg (by omega), if_neg (by omega)]
  dsimp only
  rw [if_neg (by simp [hm])]
  obtain ⟨h1, h2⟩ := (show Fresh e s (_ ++ _) from hf).of_append
  have k1 := slots_counted i (fun k => k) (fun _ => 0) (List.range 7) s h1
  have k2 := slots_counted i (fun j => 7 + j) (fun j => j + 1) (List.range e.geo.indirections) _
    (by rw [k1.disk, k1.ibuf]; exact h2 _ k1)
  rw [k1.disk, k1.ibuf] at k2
  exact k1.append k2

set_option maxRecDepth 20000 in
/-- File 2 of `indirectImage` reaches zone 6 directly and zone 8 through the indirect block 7:
`check_zones` counts the three once each. -/
theorem checkZones_counts_file_indirect :
    (1 ≤ 2 ∧ 2 ≤ tinyGeo.ninodes) ∧ (tinyTables indirectImage).icount 2 ≤ 1 ∧
    (isDir (tinyGeo.modeOf (tinyTables indirectImage).ibuf 2) ||
      isReg (tinyGeo.modeOf (tinyTables indirectImage).ibuf 2) ||
      isLnk (tinyGeo.modeOf (tinyTables indirectImage).ibuf 2)) = true ∧
    Fresh (tinyEnv automaticOpts) (tinyTables indirectImage)
      (tinyGeo.fileZones indirectImage (tinyTables indirectImage).ibuf 2) ∧
    tinyGeo.fileZones indirectImage (tinyTables indirectImage).ibuf 2 = [6, 7, 8] ∧
    Counted (tinyGeo.fileZones indirectImage (tinyTables indirectImage).ibuf 2)
      (tinyTables indirectImage) (checkZones (tinyEnv automaticOpts) 2 (tinyTables indirectImage)) :=
  ⟨by decide, by decide, by decide, by decide, by decide,
    checkZones_counts_file (tinyEnv automaticOpts) 2 _ (by decide) (by decide) (by decide)
      (by decide)⟩

end MinixFsck
