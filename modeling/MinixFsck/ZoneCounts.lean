import MinixFsck.InodeCounts
import MinixFsck.Frame
import MinixFsck.Freeing

/-! `zone_count` after a read-only run: each file walked once, each zone its tree reaches
through accepted pointers counted once per reference, up to 255. -/
namespace MinixFsck

/-- The zones `add_zone` counts below pointer `znr` with `level` levels of indirection when no
pointer is removed: the pointer when `check_zone_nr` accepts it, then, for an indirect zone,
the zones each entry of the block `read_block` gives reaches (zeros for a block that fails to
read). -/
def Geo.checkedZones (g : Geo) (io : Io) (disk : Nat → Block) : Nat → Nat → List Nat
  | 0, znr => if znr = 0 ∨ znr < g.firstzone ∨ g.zones ≤ znr then [] else [znr]
  | l + 1, znr => if znr = 0 ∨ znr < g.firstzone ∨ g.zones ≤ znr then [] else
      znr :: (List.range g.fanout).flatMap fun i => g.checkedZones io disk l
        (g.entry (if io.readOk (phys znr) then disk (phys znr) else Block.zero) i)

/-- The zones of inode `i`'s file that `check_zones` counts when no pointer is removed, in the
order it walks them. -/
def Geo.checkedFileZones (g : Geo) (io : Io) (disk : Nat → Block) (ibuf : Block) (i : Nat) :
    List Nat :=
  (List.range 7).flatMap (fun k => g.checkedZones io disk 0 (g.zoneOf ibuf i k)) ++
    (List.range g.indirections).flatMap fun j =>
      g.checkedZones io disk (j + 1) (g.zoneOf ibuf i (7 + j))

/-- Whether `check_zones(i)` walks the zones of inode `i` from `s`: an inode of `[1, INODES]`
counted at most once, that is a directory, a regular file or a symlink. -/
def walksZones (e : Env) (s : St) (i : Nat) : Bool :=
  !(i = 0 ∨ e.geo.ninodes < i) && !(1 < s.icount i) &&
    (isDir (e.geo.modeOf s.ibuf i) || isReg (e.geo.modeOf s.ibuf i) ||
      isLnk (e.geo.modeOf s.ibuf i))

/-- `t` is `s` with one more count for each reference in `L`, each count saturating at 255, and
the device and the inode table as they were. -/
structure Recounted (L : List Nat) (s t : St) : Prop where
  disk : t.disk = s.disk
  ibuf : t.ibuf = s.ibuf
  zcount : ∀ z, t.zcount z = bump^[L.count z] (s.zcount z)

namespace Recounted

theorem of_eq {s t : St} (hd : t.disk = s.disk) (hi : t.ibuf = s.ibuf) (hz : t.zcount = s.zcount) :
    Recounted [] s t :=
  ⟨hd, hi, fun z => by rw [hz]; rfl⟩

theorem refl (s : St) : Recounted [] s s := of_eq rfl rfl rfl

theorem say (s : St) (m : Msg) : Recounted [] s (s.say m) := of_eq rfl rfl rfl

theorem append {L₁ L₂ : List Nat} {s t u : St} (h1 : Recounted L₁ s t) (h2 : Recounted L₂ t u) :
    Recounted (L₁ ++ L₂) s u :=
  ⟨h2.disk.trans h1.disk, h2.ibuf.trans h1.ibuf, fun z => by
    rw [h2.zcount, h1.zcount, List.count_append, Nat.add_comm, Function.iterate_add_apply]⟩

end Recounted

/-- `zone_count[block]` counted once more by `add_zone`. -/
theorem update_bump_apply (c : Nat → Nat) (block z : Nat) :
    Function.update c block (bump (c block)) z = bump^[[block].count z] (c z) := by
  by_cases h : z = block
  · subst h
    simp
  · simp [h, Ne.symm h]

/-- The end of `add_zone` counts the zone once, whatever the answer to "Correct". -/
theorem countZone_recounted (e : Env) (block : Nat) (s : St) :
    Recounted [block] s (countZone e block s) := by
  have hz := update_bump_apply s.zcount block
  unfold countZone
  dsimp only
  split_ifs
  · exact ⟨rfl, rfl, hz⟩
  · have hk : ∀ t : St, (markZone e.geo t block).disk = t.disk ∧ (markZone e.geo t block).ibuf =
        t.ibuf ∧ (markZone e.geo t block).zcount = t.zcount := fun _ => ⟨rfl, rfl, rfl⟩
    refine ⟨offer_disk (fun t => (hk t).1) _, ?_, fun z => ?_⟩
    · unfold offer
      dsimp only
      split_ifs <;> simp only [ask_ibuf, (hk _).2.1, St.say]
    · rw [← hz, offer_zcount (fun t => (hk t).2.2)]
      rfl

/-- `read_block`: the block, or zeros for block 0 and for a block that fails to read. -/
theorem readBlock_recounted (e : Env) (nr : Nat) (s : St) :
    (readBlock e nr s).1 =
        (if nr = 0 then Block.zero else if e.io.readOk (phys nr) then s.disk (phys nr) else Block.zero) ∧
      Recounted [] s (readBlock e nr s).2 := by
  unfold readBlock
  split_ifs <;> exact ⟨rfl, .of_eq rfl rfl rfl⟩

section ReadOnly

variable {e : Env} (hr : e.opts.repair = false)
include hr

theorem ask_recounted (p : String) (d : Bool) (s : St) :
    (ask e.opts p d s).1 = false ∧ Recounted [] s (ask e.opts p d s).2 :=
  ⟨(ask_spec e.opts p d s).2 hr, .of_eq (ask_disk ..) (ask_ibuf ..) (ask_zcount ..)⟩

/-- `check_zone_nr` removes no pointer: it returns the number when it accepts it, else 0. -/
theorem checkZoneNr_readOnly (nr : Nat) (s : St) :
    (checkZoneNr e nr s).1 = (if nr = 0 ∨ nr < e.geo.firstzone ∨ e.geo.zones ≤ nr then 0 else nr) ∧
      (checkZoneNr e nr s).2.1 = false ∧ Recounted [] s (checkZoneNr e nr s).2.2 := by
  have hbad : ∀ m : Path → Msg,
      (ask e.opts "Remove block" true (s.say (m (getCurrentName e.geo s)))).1 = false ∧
        Recounted [] s (ask e.opts "Remove block" true (s.say (m (getCurrentName e.geo s)))).2 :=
    fun m =>
      have hk := ask_recounted hr "Remove block" true (s.say (m (getCurrentName e.geo s)))
      ⟨hk.1, (Recounted.say s _).append hk.2⟩
  unfold checkZoneNr
  by_cases h0 : nr = 0
  · rw [if_pos h0, if_pos (Or.inl h0)]
    exact ⟨rfl, rfl, .refl s⟩
  rw [if_neg h0]
  dsimp only
  by_cases h1 : nr < e.geo.firstzone
  · rw [if_pos h1, if_pos (Or.inr (Or.inl h1))]
    exact ⟨rfl, hbad _⟩
  by_cases h2 : e.geo.zones ≤ nr
  · rw [if_neg h1, if_pos h2, if_pos (Or.inr (Or.inr h2))]
    exact ⟨rfl, hbad _⟩
  · rw [if_neg h1, if_neg h2, if_neg (by omega)]
    exact ⟨rfl, rfl, .refl s⟩

theorem usedBefore_readOnly (block : Nat) (s : St) :
    (usedBefore e block s).1 = true ∧ Recounted [] s (usedBefore e block s).2 := by
  unfold usedBefore
  split_ifs
  · have hk := ask_recounted hr "Clear" true (s.say (.usedBefore (getCurrentName e.geo s)))
    dsimp only
    rw [hk.1]
    exact ⟨rfl, (Recounted.say s _).append hk.2⟩
  · exact ⟨rfl, .refl s⟩

/-- `add_zone` counts the pointer when `check_zone_nr` accepts it, and clears nothing. -/
theorem addZone_readOnly (znr : Nat) (s : St) :
    (addZone e znr s).1 =
        (if znr = 0 ∨ znr < e.geo.firstzone ∨ e.geo.zones ≤ znr then 0 else znr) ∧
      (addZone e znr s).2.1 = false ∧
      Recounted (if znr = 0 ∨ znr < e.geo.firstzone ∨ e.geo.zones ≤ znr then [] else [znr]) s
        (addZone e znr s).2.2 := by
  obtain ⟨hb, hc, hk⟩ := checkZoneNr_readOnly hr znr s
  unfold addZone
  generalize checkZoneNr e znr s = r at hb hc hk ⊢
  obtain ⟨block, c, t⟩ := r
  dsimp only at hb hc hk ⊢
  subst hc
  by_cases hv : znr = 0 ∨ znr < e.geo.firstzone ∨ e.geo.zones ≤ znr
  · rw [if_pos hv] at hb
    rw [if_pos hv, if_pos hv]
    subst block
    rw [if_pos rfl]
    exact ⟨rfl, rfl, hk⟩
  · rw [if_neg hv] at hb
    rw [if_neg hv, if_neg hv]
    subst block
    obtain ⟨hu, hk'⟩ := usedBefore_readOnly hr znr t
    rw [if_neg fun h => hv (.inl h)]
    generalize usedBefore e znr t = r at hu hk' ⊢
    obtain ⟨keep, u⟩ := r
    dsimp only at hu hk' ⊢
    subst hu
    exact ⟨rfl, rfl, (hk.append hk').append (countZone_recounted e znr _)⟩

omit hr in
/-- The entry loop of an indirect walker, given the walk one level down. -/
theorem walkEntries_readOnly {level : Nat} (blk : Block)
    (ih : ∀ znr s, (addZoneTree e level znr s).1 = false ∧
      Recounted (e.geo.checkedZones e.io s.disk level znr) s (addZoneTree e level znr s).2) :
    ∀ (is : List Nat) (s : St), ∃ t,
      walkEntries e.geo (fun z s => addZoneTree e level z s) is (blk, false, s) = (blk, false, t) ∧
        Recounted (is.flatMap fun i => e.geo.checkedZones e.io s.disk level (e.geo.entry blk i)) s t
  | [], s => ⟨s, rfl, .refl s⟩
  | i :: is, s => by
    obtain ⟨hc, hk⟩ := ih (e.geo.entry blk i) s
    simp only [walkEntries, List.flatMap_cons]
    generalize addZoneTree e level (e.geo.entry blk i) s = r at hc hk ⊢
    obtain ⟨c, t⟩ := r
    dsimp only at hc hk ⊢
    subst hc
    obtain ⟨u, hu, hku⟩ := walkEntries_readOnly blk ih is t
    rw [hk.disk] at hku
    exact ⟨u, hu, hk.append hku⟩

/-- `add_zone` and the indirect walkers above it count the zones of the checked tree, clear no
pointer and write no block. -/
theorem addZoneTree_readOnly : ∀ (level znr : Nat) (s : St),
    (addZoneTree e level znr s).1 = false ∧
      Recounted (e.geo.checkedZones e.io s.disk level znr) s (addZoneTree e level znr s).2
  | 0, znr, s => by
    obtain ⟨-, hc, hk⟩ := addZone_readOnly hr znr s
    exact ⟨hc, hk⟩
  | level + 1, znr, s => by
    obtain ⟨hb, hc, hk⟩ := addZone_readOnly hr znr s
    simp only [addZoneTree, Geo.checkedZones]
    generalize addZone e znr s = r at hb hc hk ⊢
    obtain ⟨block, c, t⟩ := r
    dsimp only at hb hc hk ⊢
    subst hc
    by_cases hv : znr = 0 ∨ znr < e.geo.firstzone ∨ e.geo.zones ≤ znr
    · rw [if_pos hv] at hb hk
      rw [if_pos hv]
      subst block
      rw [if_pos rfl]
      exact ⟨rfl, hk⟩
    rw [if_neg hv] at hb hk
    rw [if_neg hv]
    subst block
    rw [if_neg fun h => hv (.inl h)]
    obtain ⟨hblk, hkr⟩ := readBlock_recounted e znr t
    rw [if_neg fun h => hv (.inl h), hk.disk] at hblk
    generalize readBlock e znr t = r at hblk hkr ⊢
    obtain ⟨blk, t'⟩ := r
    dsimp only at hblk hkr ⊢
    subst blk
    obtain ⟨u, hu, hku⟩ := walkEntries_readOnly _ (addZoneTree_readOnly level)
      (List.range e.geo.fanout) t'
    rw [hu]
    rw [hkr.disk, hk.disk] at hku
    exact ⟨rfl, (hk.append hkr).append hku⟩

/-- The slot loops of `check_zones`, given the slot and the level of each iteration. -/
theorem slots_readOnly (i : Nat) (kf lf : Nat → Nat) : ∀ (l : List Nat) (s : St),
    Recounted (l.flatMap fun a => e.geo.checkedZones e.io s.disk (lf a) (e.geo.zoneOf s.ibuf i (kf a)))
      s (l.foldl (fun s a => zoneSlot e i s (kf a) (lf a)) s)
  | [], s => .refl s
  | a :: l, s => by
    obtain ⟨hc, hk⟩ := addZoneTree_readOnly hr (lf a) (e.geo.zoneOf s.ibuf i (kf a)) s
    have hs : zoneSlot e i s (kf a) (lf a) =
        (addZoneTree e (lf a) (e.geo.zoneOf s.ibuf i (kf a)) s).2 := by
      unfold zoneSlot
      dsimp only
      rw [hc, if_neg Bool.false_ne_true]
    rw [List.flatMap_cons, List.foldl_cons, hs]
    have hrest := slots_readOnly i kf lf l (addZoneTree e (lf a) (e.geo.zoneOf s.ibuf i (kf a)) s).2
    rw [hk.disk, hk.ibuf] at hrest
    exact hk.append hrest

/-- `check_zones` counts the checked zones of the file it walks. -/
theorem checkZones_readOnly (i : Nat) (s : St) :
    Recounted (if walksZones e s i then e.geo.checkedFileZones e.io s.disk s.ibuf i else []) s
      (checkZones e i s) := by
  unfold checkZones
  by_cases hw : walksZones e s i
  · rw [if_pos hw]
    simp only [walksZones, Bool.and_eq_true, Bool.not_eq_true', decide_eq_false_iff_not] at hw
    rw [if_neg hw.1.1, if_neg hw.1.2]
    dsimp only
    rw [if_neg (by simp [hw.2])]
    have k1 := slots_readOnly hr i (fun k => k) (fun _ => 0) (List.range 7) s
    have k2 := slots_readOnly hr i (fun j => 7 + j) (fun j => j + 1) (List.range e.geo.indirections)
      ((List.range 7).foldl (fun s k => zoneSlot e i s k 0) s)
    rw [k1.disk, k1.ibuf] at k2
    exact k1.append k2
  · rw [if_neg hw]
    dsimp only
    split_ifs <;> first | exact .refl s | simp_all [walksZones]

end ReadOnly

/-- The inode whose zones `check_file` walks at entry `offset` of directory `dir`, if it walks
one: the entry goes on past the `.` and `..` tests, and `check_zones` passes its guards. -/
def entryWalks (e : Env) (dir offset : Nat) (s : St) : List Nat :=
  match fetchEntry (opsOf e.geo) e dir offset s with
  | (some (ino, name), t) =>
    if walksZones e (listEntry e ino ((opsOf e.geo).push t name)) ino then [ino] else []
  | (none, _) => []

/-- The inodes whose zones a traversal walks, in order. A directory `recursive_check` enters
again has its entries fetched again, but `check_zones` walks an inode only while it is counted
at most once. -/
def travWalks (e : Env) : Nat → Call → St → List Nat
  | 0, _, _ => []
  | n + 1, .dir ino, s =>
    if !isDir (e.geo.modeOf s.ibuf ino) then []
    else travWalks e n (.loop ino 0) (sizeCheck e.geo ino s)
  | n + 1, .loop ino offset, s =>
    if offset < e.geo.sizeOf s.ibuf ino then
      let r := checkFileWith (opsOf e.geo) e (fun i s => trav e n (.dir i) s) ino offset s
      entryWalks e ino offset s ++
        ((match fileStep e (opsOf e.geo) ino offset s with
          | .inl _ => []
          | .inr (c, u) => travWalks e n (.dir c) u) ++
        if r.2 = .ok then travWalks e n (.loop ino (nextOffset e.geo offset)) r.1 else [])
    else []

/-- The inodes whose zones `check`/`check2` walks, in order: the root, from the state with the
counters cleared, then those the traversal walks. -/
def checkWalks (e : Env) (fuel : Nat) (s : St) : List Nat :=
  (if walksZones e { s with icount := fun _ => 0, zcount := fun _ => 0 } rootIno then [rootIno]
    else []) ++
    travWalks e fuel (.dir rootIno) (traverseStart e s)

theorem flatMap_ite_singleton {α β : Type} (b : Bool) (x : α) (f : α → List β) :
    (if b then [x] else []).flatMap f = if b then f x else [] := by
  cases b <;> simp

theorem fetchEntry_zcount (e : Env) (dir offset : Nat) (s : St) :
    (fetchEntry (opsOf e.geo) e dir offset s).2.zcount = s.zcount := by
  obtain ⟨zmb, zgi, -⟩ := opsOf_zcount e
  unfold fetchEntry
  simp [zgi, readEntry_zcount e zmb, pushName]

section Traversal

variable {e : Env} (hr : e.opts.repair = false)
include hr

/-- A read-only stretch that counts no zone: the device and the inode table stay, and no
question is answered yes. -/
theorem Recounted.of_keeps {s t : St} (hy : anyYes s.out = false) (hk : Keeps e.opts s t)
    (hz : t.zcount = s.zcount) : Recounted [] s t ∧ anyYes t.out = false := by
  have ht : anyYes t.out = false := (hk.readOnly hr).trans hy
  have hf := hk.frame ht
  exact ⟨.of_eq hf.disk hf.ibuf hz, ht⟩

/-- `check_file` up to its recursion counts the zones of the file it walks, if any. -/
theorem fileStep_readOnly (dir offset : Nat) (s : St) (hy : anyYes s.out = false) :
    Recounted ((entryWalks e dir offset s).flatMap (e.geo.checkedFileZones e.io s.disk s.ibuf)) s
        (match fileStep e (opsOf e.geo) dir offset s with | .inl t => t | .inr (_, u) => u) ∧
      anyYes (match fileStep e (opsOf e.geo) dir offset s with
        | .inl t => t | .inr (_, u) => u).out = false := by
  obtain ⟨hmb, hgi, hpush⟩ := opsOf_keeps e e.geo
  obtain ⟨-, -, zpush⟩ := opsOf_zcount e
  have h1 := fetchEntry_keeps e hmb hgi dir offset s
  have z1 := fetchEntry_zcount e dir offset s
  unfold fileStep entryWalks
  generalize fetchEntry (opsOf e.geo) e dir offset s = r at h1 z1 ⊢
  obtain ⟨_ | ⟨ino, name⟩, t⟩ := r
  · exact Recounted.of_keeps hr hy h1 z1
  obtain ⟨k1, hy1⟩ := Recounted.of_keeps hr hy h1 z1
  obtain ⟨k2, hy2⟩ := Recounted.of_keeps hr hy1 ((hpush t name).trans (listEntry_keeps e ino _))
    (by rw [listEntry_zcount, zpush])
  have k3 := checkZones_readOnly hr ino (listEntry e ino ((opsOf e.geo).push t name))
  have hy3 := ((checkZones_keeps e ino _).readOnly hr).trans hy2
  rw [k2.disk, k2.ibuf, k1.disk, k1.ibuf] at k3
  have k := (k1.append k2).append k3
  rw [List.nil_append, List.nil_append, ← flatMap_ite_singleton] at k
  dsimp only
  by_cases hd : isDir (e.geo.modeOf (enterEntry (opsOf e.geo) e ino name t).ibuf ino) = true
  · rw [if_pos hd]
    exact ⟨k, hy3⟩
  · rw [if_neg hd]
    exact ⟨⟨k.disk, k.ibuf, k.zcount⟩, hy3⟩

/-- A read-only traversal, however its fuel ends, counts the zones of the files it walks, each
read from the device as the traversal found it. -/
theorem trav_readOnly : ∀ (n : Nat) (c : Call) (s : St), anyYes s.out = false →
    Recounted ((travWalks e n c s).flatMap (e.geo.checkedFileZones e.io s.disk s.ibuf)) s
        (trav e n c s).1 ∧ anyYes (trav e n c s).1.out = false
  | 0, _, s, hy => ⟨.refl s, hy⟩
  | n + 1, .dir ino, s, hy => by
    simp only [trav, travWalks]
    split_ifs
    · exact ⟨.refl s, hy⟩
    · have hk : Keeps e.opts s (sizeCheck e.geo ino s) := by
        unfold sizeCheck
        split_ifs
        · exact keeps_reportError _ .dirTooSmall (fun _ => rfl) s
        · exact .refl s
      obtain ⟨k1, hy1⟩ := Recounted.of_keeps hr hy hk (by rw [sizeCheck_zcount])
      obtain ⟨k2, hy2⟩ := trav_readOnly n (.loop ino 0) _ hy1
      rw [k1.disk, k1.ibuf] at k2
      exact ⟨k1.append k2, hy2⟩
  | n + 1, .loop ino offset, s, hy => by
    by_cases ho : offset < e.geo.sizeOf s.ibuf ino
    case neg =>
      simp only [trav, travWalks, if_neg ho]
      exact ⟨.refl s, hy⟩
    have hf := fileStep_readOnly hr ino offset s hy
    simp only [trav, travWalks, if_pos ho, checkFileWith_eq, List.flatMap_append]
    cases hs : fileStep e (opsOf e.geo) ino offset s with
    | inl t =>
      rw [hs] at hf
      obtain ⟨k1, hy1⟩ := hf
      obtain ⟨k2, hy2⟩ := trav_readOnly n (.loop ino (nextOffset e.geo offset)) t hy1
      rw [k1.disk, k1.ibuf] at k2
      simp only [andThen_ok, if_true, List.flatMap_nil, List.nil_append]
      exact ⟨k1.append k2, hy2⟩
    | inr cu =>
      obtain ⟨c, u⟩ := cu
      rw [hs] at hf
      obtain ⟨k1, hy1⟩ := hf
      obtain ⟨k2, hy2⟩ := trav_readOnly n (.dir c) u hy1
      rw [k1.disk, k1.ibuf] at k2
      dsimp only
      generalize trav e n (.dir c) u = r at k2 hy2 ⊢
      obtain ⟨t, o⟩ := r
      dsimp only at k2 hy2
      cases o with
      | ok =>
        obtain ⟨k3, hy3⟩ := trav_readOnly n (.loop ino (nextOffset e.geo offset))
          { t with depth := t.depth - 1 } hy2
        have hz : e.geo.checkedFileZones e.io ({ t with depth := t.depth - 1 } : St).disk
            ({ t with depth := t.depth - 1 } : St).ibuf = e.geo.checkedFileZones e.io s.disk s.ibuf :=
          congrArg₂ _ (k2.disk.trans k1.disk) (k2.ibuf.trans k1.ibuf)
        rw [hz] at k3
        simp only [andThen_ok, leave, if_true, ← List.append_assoc]
        have k12 := k1.append k2
        exact ⟨(show Recounted _ s { t with depth := t.depth - 1 } from
          ⟨k12.disk, k12.ibuf, k12.zcount⟩).append k3, hy3⟩
      | outOfFuel =>
        simp only [andThen_spent, reduceCtorEq, if_false, List.flatMap_nil, List.append_nil]
        exact ⟨k1.append k2, hy2⟩
      | fatal m =>
        simp only [andThen_fatal, reduceCtorEq, if_false, List.flatMap_nil, List.append_nil]
        exact ⟨k1.append k2, hy2⟩

end Traversal

/-- From `s` to `t` the inode counts only grow, and the inodes of `L` are distinct, not counted
in `s` and counted in `t`. -/
structure WalkedOnce (L : List Nat) (s t : St) : Prop where
  nodup : L.Nodup
  fresh : ∀ i ∈ L, s.icount i = 0
  counted : ∀ i ∈ L, 1 ≤ t.icount i
  mono : ∀ i, s.icount i ≤ t.icount i

namespace WalkedOnce

theorem of_mono {s t : St} (h : ∀ i, s.icount i ≤ t.icount i) : WalkedOnce [] s t :=
  ⟨List.nodup_nil, nofun, nofun, h⟩

theorem of_eq {s t : St} (h : t.icount = s.icount) : WalkedOnce [] s t :=
  of_mono fun i => (congrFun h i).ge

theorem append {L₁ L₂ : List Nat} {s t u : St} (h1 : WalkedOnce L₁ s t) (h2 : WalkedOnce L₂ t u) :
    WalkedOnce (L₁ ++ L₂) s u where
  nodup := List.nodup_append.2 ⟨h1.nodup, h2.nodup, fun i hi hi' => by
    have := h1.counted i hi
    rw [h2.fresh i hi'] at this
    omega⟩
  fresh i hi := by
    rcases List.mem_append.1 hi with hi | hi
    · exact h1.fresh i hi
    · have := h1.mono i
      rw [h2.fresh i hi] at this
      omega
  counted i hi := by
    rcases List.mem_append.1 hi with hi | hi
    · exact (h1.counted i hi).trans (h2.mono i)
    · exact h2.counted i hi
  mono i := (h1.mono i).trans (h2.mono i)

end WalkedOnce

theorem countIno_mono (g : Geo) (c : Nat → Nat) (nr i : Nat) : c i ≤ g.countIno c nr i := by
  unfold Geo.countIno bump
  by_cases hi : i = nr
  · subst hi
    split_ifs <;> simp_all
  · split_ifs <;> simp [Function.update_noteq hi]

theorem fetchEntry_ino {ops : FileOps} {e : Env} {dir offset i : Nat} {name : List UInt8} {s : St}
    (h : (fetchEntry ops e dir offset s).1 = some (i, name)) :
    i = (readEntry ops.mapBlock e dir offset s).1 := by
  unfold fetchEntry at h
  generalize readEntry ops.mapBlock e dir offset s = r at h ⊢
  obtain ⟨ino, name', t⟩ := r
  simp only [] at h
  split_ifs at h
  simp only [Option.some.injEq, Prod.mk.injEq] at h
  exact h.1.symm

/-- `check_file` walks the zones of an inode only when it has just counted it for the first
time. -/
theorem entryWalks_walkedOnce (e : Env) (dir offset : Nat) {s t : St}
    (ht : t.icount = e.geo.countIno s.icount (readEntry (opsOf e.geo).mapBlock e dir offset s).1) :
    WalkedOnce (entryWalks e dir offset s) s t := by
  have hc := opsOf_countsOnce e
  have hw : ∀ i ∈ entryWalks e dir offset s, s.icount i = 0 ∧ t.icount i = 1 := by
    intro i hi
    have hfi := fetchEntry_icount hc dir offset s
    unfold entryWalks at hi
    generalize hr : fetchEntry (opsOf e.geo) e dir offset s = r at hi hfi
    obtain ⟨_ | ⟨ino, name⟩, u⟩ := r
    · cases hi
    dsimp only at hi hfi
    split_ifs at hi with hwz
    · rw [List.mem_singleton] at hi
      subst hi
      have hino := fetchEntry_ino (congrArg Prod.fst hr)
      simp only [walksZones, listEntry_icount, hc.push, hfi, Bool.and_eq_true, Bool.not_eq_true',
        decide_eq_false_iff_not, not_or, not_lt] at hwz
      rw [ht, ← hino]
      rw [← hino] at hwz
      unfold Geo.countIno at hwz ⊢
      rw [if_neg (by omega)] at hwz ⊢
      rw [Function.update_same] at hwz ⊢
      unfold bump at hwz ⊢
      split_ifs at hwz ⊢ <;> omega
    · cases hi
  refine ⟨?_, fun i hi => (hw i hi).1, fun i hi => (hw i hi).2.ge, fun i => ?_⟩
  · unfold entryWalks
    split
    · split_ifs <;> simp
    · exact List.nodup_nil
  · rw [ht]
    exact countIno_mono _ _ _ i

theorem fileStep_walkedOnce (e : Env) (dir offset : Nat) (s : St) :
    WalkedOnce (entryWalks e dir offset s) s
      (match fileStep e (opsOf e.geo) dir offset s with | .inl t => t | .inr (_, u) => u) := by
  have hf := fileStep_icount (opsOf_countsOnce e) dir offset s
  cases hs : fileStep e (opsOf e.geo) dir offset s <;> rw [hs] at hf <;>
    exact entryWalks_walkedOnce e dir offset hf

/-- Along a traversal, however it ends, `check_zones` walks the zones of each inode at most
once, and only of an inode it had not counted when the stretch began. -/
theorem trav_walkedOnce (e : Env) : ∀ (n : Nat) (c : Call) (s : St),
    WalkedOnce (travWalks e n c s) s (trav e n c s).1
  | 0, _, s => .of_eq rfl
  | n + 1, .dir ino, s => by
    simp only [trav, travWalks]
    split_ifs
    · exact .of_eq rfl
    · exact (WalkedOnce.of_eq (sizeCheck_icount ..)).append (trav_walkedOnce e n (.loop ino 0) _)
  | n + 1, .loop ino offset, s => by
    by_cases ho : offset < e.geo.sizeOf s.ibuf ino
    case neg =>
      simp only [trav, travWalks, if_neg ho]
      exact .of_eq rfl
    have hf := fileStep_walkedOnce e ino offset s
    simp only [trav, travWalks, if_pos ho, checkFileWith_eq]
    cases hs : fileStep e (opsOf e.geo) ino offset s with
    | inl t =>
      rw [hs] at hf
      simp only [andThen_ok, if_true, List.nil_append]
      exact hf.append (trav_walkedOnce e n _ t)
    | inr cu =>
      obtain ⟨c, u⟩ := cu
      rw [hs] at hf
      have h2 := trav_walkedOnce e n (.dir c) u
      dsimp only
      generalize trav e n (.dir c) u = r at h2 ⊢
      obtain ⟨t, o⟩ := r
      cases o with
      | ok =>
        simp only [andThen_ok, leave, if_true, ← List.append_assoc]
        have h12 := hf.append h2
        exact (show WalkedOnce _ s { t with depth := t.depth - 1 } from
          ⟨h12.nodup, h12.fresh, h12.counted, h12.mono⟩).append (trav_walkedOnce e n _ _)
      | outOfFuel =>
        simp only [andThen_spent, reduceCtorEq, if_false, List.append_nil]
        exact hf.append h2
      | fatal m =>
        simp only [andThen_fatal, reduceCtorEq, if_false, List.append_nil]
        exact hf.append h2

/-- In every run of `check`/`check2`, whatever the answers and however the traversal ends,
`check_zones` walks the zones of each inode at most once during the traversal, and every inode
whose zones it walks ends counted: `inode_count[i] > 1` keeps it from walking a file again when
`recursive_check` reaches it through another entry. -/
theorem traverse_walks_once (e : Env) (fuel : Nat) (s : St) :
    (travWalks e fuel (.dir rootIno) (traverseStart e s)).Nodup ∧
      ∀ i ∈ travWalks e fuel (.dir rootIno) (traverseStart e s), 1 ≤ (check e fuel s).1.icount i := by
  have h := trav_walkedOnce e fuel (.dir rootIno) (traverseStart e s)
  refine ⟨h.nodup, fun i hi => ?_⟩
  rw [(check_frees e fuel s).icount]
  exact h.counted i hi

/-- The traversal of a read-only run, from the root's `check_zones` on, counts the references
`checkWalks` lists. -/
theorem traverse_zcount_readOnly {e : Env} {fuel : Nat} {s : St} (hr : e.opts.repair = false)
    (hy : anyYes s.out = false) (z : Nat) :
    (traverse e fuel s).1.zcount z =
      min 255 (((checkWalks e fuel s).flatMap (e.geo.checkedFileZones e.io s.disk s.ibuf)).count z) := by
  have k1 := checkZones_readOnly hr rootIno { s with icount := fun _ => 0, zcount := fun _ => 0 }
  have hy1 : anyYes (traverseStart e s).out = false := ((checkZones_keeps e _ _).readOnly hr).trans hy
  obtain ⟨k2, -⟩ := trav_readOnly hr fuel (.dir rootIno) (traverseStart e s) hy1
  rw [traverseStart, k1.disk, k1.ibuf] at k2
  have k := k1.append k2
  rw [← flatMap_ite_singleton, ← List.flatMap_append] at k
  rw [traverse, traverseStart, k.zcount, checkWalks, traverseStart]
  exact bump_iterate_zero _

/-- A read-only run of `check`/`check2` counts each zone once for every reference to it from
the zone trees of the files whose zones it walks, up to 255: the trees as the device holds them
when the run starts, through every pointer `check_zone_nr` accepts, below every indirect zone
the device reads. -/
theorem check_zcount_readOnly (e : Env) (fuel : Nat) (s : St) (hr : e.opts.repair = false)
    (hy : anyYes s.out = false) (z : Nat) :
    (check e fuel s).1.zcount z =
      min 255 (((checkWalks e fuel s).flatMap (e.geo.checkedFileZones e.io s.disk s.ibuf)).count z) := by
  rw [(check_frees e fuel s).zcount]
  exact traverse_zcount_readOnly hr hy z

set_option maxRecDepth 20000 in
/-- A read-only run on `twoLinkImage` walks the zones of the root and of directory 2 once each,
though `a` and `b` both name directory 2. -/
theorem check_zcount_readOnly_twoLink :
    (tinyEnv readOnlyOpts).opts.repair = false ∧ anyYes (tinyTables twoLinkImage).out = false ∧
      checkWalks (tinyEnv readOnlyOpts) 20 (tinyTables twoLinkImage) = [1, 2] ∧
      (check (tinyEnv readOnlyOpts) 20 (tinyTables twoLinkImage)).1.zcount 6 =
        min 255 (((checkWalks (tinyEnv readOnlyOpts) 20 (tinyTables twoLinkImage)).flatMap
          ((tinyEnv readOnlyOpts).geo.checkedFileZones (tinyEnv readOnlyOpts).io
            (tinyTables twoLinkImage).disk (tinyTables twoLinkImage).ibuf)).count 6) :=
  ⟨rfl, rfl, by decide,
    check_zcount_readOnly (tinyEnv readOnlyOpts) 20 (tinyTables twoLinkImage) rfl rfl 6⟩

end MinixFsck
