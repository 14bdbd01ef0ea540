import MinixFsck.Bounds
import MinixFsck.Termination

/-! The tables a run writes: every write lands inside what `read_tables` allocated, as long as
`INODES` is not 0. -/
namespace MinixFsck

/-- `t` differs from `s` only where the checker may write: `inode_count` and `inode_map` at
inodes `1 .. INODES`, `zone_count` at data zones `FIRSTZONE .. ZONES-1`, `zone_map` at their
bits `1 .. ZONES-FIRSTZONE`, and `inode_buffer` inside its `INODE_BUFFER_SIZE` bytes. -/
structure InTables (g : Geo) (s t : St) : Prop where
  icount : ∀ i, i = 0 ∨ g.ninodes < i → t.icount i = s.icount i
  imap : ∀ i, i = 0 ∨ g.ninodes < i → t.imap i = s.imap i
  zcount : ∀ z, z < g.firstzone ∨ g.zones ≤ z → t.zcount z = s.zcount z
  zmap : ∀ b, b = 0 ∨ g.zones - g.firstzone < b → t.zmap b = s.zmap b
  ibuf : ∀ o, g.inodeBufferSize ≤ o → t.ibuf o = s.ibuf o

namespace InTables

variable {g : Geo}

theorem refl (s : St) : InTables g s s :=
  ⟨fun _ _ => rfl, fun _ _ => rfl, fun _ _ => rfl, fun _ _ => rfl, fun _ _ => rfl⟩

theorem trans {a b c : St} (h1 : InTables g a b) (h2 : InTables g b c) : InTables g a c :=
  ⟨fun i h => (h2.icount i h).trans (h1.icount i h), fun i h => (h2.imap i h).trans (h1.imap i h),
    fun z h => (h2.zcount z h).trans (h1.zcount z h), fun b h => (h2.zmap b h).trans (h1.zmap b h),
    fun o h => (h2.ibuf o h).trans (h1.ibuf o h)⟩

theorem of_eq {s t : St} (h1 : t.icount = s.icount) (h2 : t.imap = s.imap)
    (h3 : t.zcount = s.zcount) (h4 : t.zmap = s.zmap) (h5 : t.ibuf = s.ibuf) : InTables g s t :=
  ⟨fun _ _ => h1 ▸ rfl, fun _ _ => h2 ▸ rfl, fun _ _ => h3 ▸ rfl, fun _ _ => h4 ▸ rfl,
    fun _ _ => h5 ▸ rfl⟩

end InTables

section Primitives

variable {g : Geo}

/-- An inode of `[1, INODES]`, the inodes `get_inode` returns. -/
def Geo.validIno (g : Geo) (i : Nat) : Prop := 1 ≤ i ∧ i ≤ g.ninodes

/-- A field at offset `d` of width `w` inside an inode of `[1, INODES]` lies inside
`inode_buffer`. -/
theorem field_inside {i d w o : Nat} (hi : g.validIno i) (hd : d + w ≤ g.inodeSize)
    (ho : g.inodeBufferSize ≤ o) : g.inodeOffset i + d + w ≤ o := by
  have := inode_inside_buffer g hi.1 hi.2
  omega

theorem set16_outside {b : Block} {p v o : Nat} (h : p + 2 ≤ o) : b.set16 p v o = b o :=
  Block.set16_apply_of_ne _ _ _ _ (by omega) (by omega)

theorem set32_outside {b : Block} {p v o : Nat} (h : p + 4 ≤ o) : b.set32 p v o = b o := by
  unfold Block.set32
  rw [set16_outside (by omega), set16_outside (by omega)]

/-- Clearing `i_zone[k]` of an inode of `[1, INODES]`, `k` one of its 9 or 10 slots, writes
inside `inode_buffer`. -/
theorem setZone_outside {b : Block} {i k v o : Nat} (hi : g.validIno i)
    (hk : k < 7 + g.indirections) (ho : g.inodeBufferSize ≤ o) : g.setZone b i k v o = b o := by
  unfold Geo.setZone Geo.zoneOffset
  split_ifs with hv
  · have := field_inside (d := 24 + 4 * k) (w := 4) hi
      (by simp [Geo.inodeSize, Geo.indirections, hv] at hk ⊢; omega) ho
    exact set32_outside (by omega)
  · have := field_inside (d := 14 + 2 * k) (w := 2) hi
      (by simp [Geo.inodeSize, Geo.indirections, hv] at hk ⊢; omega) ho
    exact set16_outside (by omega)

theorem setMode_outside {b : Block} {i v o : Nat} (hi : g.validIno i)
    (ho : g.inodeBufferSize ≤ o) : g.setMode b i v o = b o :=
  have := field_inside (d := 0) (w := 2) hi (by unfold Geo.inodeSize; split <;> omega) ho
  set16_outside (by omega)

theorem setNlinks_outside {b : Block} {i v o : Nat} (hi : g.validIno i)
    (ho : g.inodeBufferSize ≤ o) : g.setNlinks b i v o = b o := by
  unfold Geo.setNlinks
  split_ifs with hv
  · have := field_inside (d := 2) (w := 2) hi (by simp [Geo.inodeSize, hv]) ho
    exact set16_outside (by omega)
  · exact Function.update_noteq
      (by have := field_inside (d := 13) (w := 1) hi (by simp [Geo.inodeSize, hv]) ho; omega) _ _

/-- A write of `inode_buffer` that leaves its bytes past `INODE_BUFFER_SIZE` alone. -/
theorem ibuf_inTables {s : St} {b : Block} (hb : ∀ o, g.inodeBufferSize ≤ o → b o = s.ibuf o) :
    InTables g s { s with ibuf := b, changed := true } :=
  ⟨fun _ _ => rfl, fun _ _ => rfl, fun _ _ => rfl, fun _ _ => rfl, hb⟩

theorem ask_inTables (o : Opts) (p : String) (d : Bool) (s : St) : InTables g s (ask o p d s).2 :=
  .of_eq (ask_icount ..) (ask_imap ..) (ask_zcount ..) (ask_zmap ..) (ask_ibuf ..)

theorem say_inTables (s : St) (m : Msg) : InTables g s (s.say m) := .of_eq rfl rfl rfl rfl rfl

theorem reportError_inTables (g' : Geo) (m : Path → Msg) (s : St) :
    InTables g s (reportError g' m s) :=
  .of_eq rfl rfl rfl rfl rfl

theorem pushName_inTables (s : St) (name : List UInt8) : InTables g s (pushName s name) :=
  .of_eq rfl rfl rfl rfl rfl

theorem depth_inTables (s : St) (d : Nat) : InTables g s { s with depth := d } :=
  .of_eq rfl rfl rfl rfl rfl

theorem offer_inTables {o : Opts} {p : String} {d : Bool} {fix : St → St}
    (hfix : ∀ t, InTables g t (fix t)) (s : St) : InTables g s (offer o p d fix s) := by
  unfold offer
  dsimp only
  split_ifs
  · exact (ask_inTables o p d s).trans (hfix _)
  · exact ask_inTables o p d s

theorem markInode_inTables {i : Nat} (hi : g.validIno i) (s : St) : InTables g s (s.markInode i) :=
  ⟨fun _ _ => rfl, fun _ h => Function.update_noteq (by unfold Geo.validIno at hi; omega) _ _,
    fun _ _ => rfl, fun _ _ => rfl, fun _ _ => rfl⟩

theorem unmarkInode_inTables {i : Nat} (hi : g.validIno i) (s : St) :
    InTables g s (s.unmarkInode i) :=
  ⟨fun _ _ => rfl, fun _ h => Function.update_noteq (by unfold Geo.validIno at hi; omega) _ _,
    fun _ _ => rfl, fun _ _ => rfl, fun _ _ => rfl⟩

theorem markZone_inTables {z : Nat} (h1 : g.firstzone ≤ z) (h2 : z < g.zones) (s : St) :
    InTables g s (markZone g s z) :=
  ⟨fun _ _ => rfl, fun _ _ => rfl, fun _ _ => rfl,
    fun _ h => Function.update_noteq (by unfold zoneBit; omega) _ _, fun _ _ => rfl⟩

theorem unmarkZone_inTables {z : Nat} (h1 : g.firstzone ≤ z) (h2 : z < g.zones) (s : St) :
    InTables g s (unmarkZone g s z) :=
  ⟨fun _ _ => rfl, fun _ _ => rfl, fun _ _ => rfl,
    fun _ h => Function.update_noteq (by unfold zoneBit; omega) _ _, fun _ _ => rfl⟩

theorem readBlock_inTables (e : Env) (nr : Nat) (s : St) : InTables g s (readBlock e nr s).2 := by
  unfold readBlock
  split_ifs
  · exact .refl s
  · exact .refl s
  · exact reportError_inTables _ _ s

theorem writeBlock_inTables (e : Env) (nr : Nat) (b : Block) (s : St) :
    InTables g s (writeBlock e nr b s) := by
  unfold writeBlock
  split_ifs <;> exact .of_eq rfl rfl rfl rfl rfl

theorem foldl_inTables {α : Type} (f : St → α → St) (P : α → Prop)
    (hf : ∀ s a, P a → InTables g s (f s a)) :
    ∀ (l : List α) (s : St), (∀ a ∈ l, P a) → InTables g s (l.foldl f s)
  | [], s, _ => .refl s
  | a :: l, s, hl => (hf s a (hl a (List.mem_cons_self a l))).trans
      (foldl_inTables f P hf l _ fun b hb => hl b (List.mem_cons_of_mem a hb))

end Primitives

section Zones

variable (e : Env)

theorem two_le_indirections (g : Geo) : 2 ≤ g.indirections := by
  unfold Geo.indirections
  split <;> omega

theorem setZone_inTables {i k : Nat} (hi : e.geo.validIno i) (hk : k < 7 + e.geo.indirections)
    (v : Nat) (s : St) :
    InTables e.geo s { s with ibuf := e.geo.setZone s.ibuf i k v, changed := true } :=
  ibuf_inTables fun _ ho => setZone_outside hi hk ho

theorem checkZoneNr_inTables (nr : Nat) (s : St) : InTables e.geo s (checkZoneNr e nr s).2.2 := by
  unfold checkZoneNr
  split_ifs <;> simp only []
  all_goals first | exact .refl s | exact (say_inTables s _).trans (ask_inTables _ _ _ _)

theorem slotNr_inTables {ino k : Nat} (hi : e.geo.validIno ino) (hk : k < 7 + e.geo.indirections)
    (s : St) : InTables e.geo s (slotNr e ino k s).2 := by
  unfold slotNr
  dsimp only
  split_ifs
  · exact (checkZoneNr_inTables e _ s).trans (setZone_inTables e hi hk 0 _)
  · exact checkZoneNr_inTables e _ s

theorem indirect_inTables (block i : Nat) (s : St) : InTables e.geo s (indirect e block i s).2 := by
  unfold indirect
  dsimp only
  have k := (readBlock_inTables e block s).trans
    (checkZoneNr_inTables e (e.geo.entry (readBlock e block s).1 i) _)
  split_ifs
  · exact k.trans (writeBlock_inTables e _ _ _)
  · exact k

/-- `map_block` on a directory of `[1, INODES]` writes only its slots 0 to 8. -/
theorem mapBlock_inTables {ino : Nat} (hi : e.geo.validIno ino) (blknr : Nat) (s : St) :
    InTables e.geo s (mapBlock e ino blknr s).2 := by
  have h2 := two_le_indirections e.geo
  unfold mapBlock
  dsimp only
  split_ifs
  · exact slotNr_inTables e hi (by omega) s
  · exact (slotNr_inTables e hi (by omega) s).trans (indirect_inTables e _ _ _)
  · exact ((slotNr_inTables e hi (by omega) s).trans (indirect_inTables e _ _ _)).trans
      (indirect_inTables e _ _ _)

/-- `map_block2` writes slot 9 too, which a version 2 inode has. -/
theorem mapBlock2_inTables {ino : Nat} (hi : e.geo.validIno ino) (hv : e.geo.version2 = true)
    (blknr : Nat) (s : St) : InTables e.geo s (mapBlock2 e ino blknr s).2 := by
  have h3 : e.geo.indirections = 3 := by simp [Geo.indirections, hv]
  have ind := indirect_inTables e
  unfold mapBlock2
  dsimp only
  split_ifs
  · exact slotNr_inTables e hi (by omega) s
  · exact (slotNr_inTables e hi (by omega) s).trans (ind _ _ _)
  · exact ((slotNr_inTables e hi (by omega) s).trans (ind _ _ _)).trans (ind _ _ _)
  · exact (((slotNr_inTables e hi (by omega) s).trans (ind _ _ _)).trans (ind _ _ _)).trans
      (ind _ _ _)

theorem usedBefore_inTables (block : Nat) (s : St) : InTables e.geo s (usedBefore e block s).2 := by
  unfold usedBefore
  split_ifs
  · exact (say_inTables s _).trans (ask_inTables _ _ _ _)
  · exact .refl s

theorem countZone_inTables {block : Nat} (h1 : e.geo.firstzone ≤ block) (h2 : block < e.geo.zones)
    (s : St) : InTables e.geo s (countZone e block s) := by
  have hz : ∀ t : St, InTables e.geo t
      { t with zcount := Function.update t.zcount block (bump (t.zcount block)) } := fun t =>
    ⟨fun _ _ => rfl, fun _ _ => rfl, fun _ h => Function.update_noteq (by omega) _ _,
      fun _ _ => rfl, fun _ _ => rfl⟩
  unfold countZone
  dsimp only
  split_ifs
  · exact hz s
  · exact ((say_inTables s _).trans (offer_inTables (markZone_inTables h1 h2) _)).trans (hz _)

theorem addZone_inTables (znr : Nat) (s : St) : InTables e.geo s (addZone e znr s).2.2 := by
  have h0 := checkZoneNr_inTables e znr s
  have hv := checkZoneNr_range e znr s
  unfold addZone
  dsimp only
  split_ifs with hb
  · exact h0
  · have hv := hv.resolve_left hb
    exact (h0.trans (usedBefore_inTables e _ _)).trans (countZone_inTables e hv.1 hv.2 _)
  · exact h0.trans (usedBefore_inTables e _ _)

theorem walkEntries_inTables (g : Geo) {f : Nat → St → Bool × St}
    (hf : ∀ z t, InTables e.geo t (f z t).2) :
    ∀ (is : List Nat) (acc : Block × Bool × St), InTables e.geo acc.2.2 (walkEntries g f is acc).2.2
  | [], _ => .refl _
  | i :: is, (blk, chg, s) => by
    simp only [walkEntries]
    split_ifs
    · exact (hf _ s).trans (walkEntries_inTables g hf is (g.clearEntry blk i, true, _))
    · exact (hf _ s).trans (walkEntries_inTables g hf is (blk, chg, _))

theorem addZoneTree_inTables : ∀ (level znr : Nat) (s : St),
    InTables e.geo s (addZoneTree e level znr s).2
  | 0, znr, s => addZone_inTables e znr s
  | level + 1, znr, s => by
    have h0 := addZone_inTables e znr s
    simp only [addZoneTree]
    generalize addZone e znr s = r at h0 ⊢
    obtain ⟨block, c, t⟩ := r
    have k := (readBlock_inTables e block t).trans (walkEntries_inTables e e.geo
      (addZoneTree_inTables level) (List.range e.geo.fanout) ((readBlock e block t).1, false, _))
    dsimp only at h0 ⊢
    split_ifs
    · exact h0
    · exact (h0.trans k).trans (writeBlock_inTables e _ _ _)
    · exact h0.trans k

theorem zoneSlot_inTables {i : Nat} (hi : e.geo.validIno i) (s : St) {k : Nat} (level : Nat)
    (hk : k < 7 + e.geo.indirections) : InTables e.geo s (zoneSlot e i s k level) := by
  have k0 := addZoneTree_inTables e level (e.geo.zoneOf s.ibuf i k) s
  unfold zoneSlot
  simp only []
  split_ifs
  · exact k0.trans (setZone_inTables e hi hk 0 _)
  · exact k0

/-- `check_zones` tests its inode number, so it writes inside the tables whatever it is
given. -/
theorem checkZones_inTables (i : Nat) (s : St) : InTables e.geo s (checkZones e i s) := by
  unfold checkZones
  dsimp only
  split_ifs with h0
  · exact .refl s
  · exact .refl s
  · exact .refl s
  · have hi : e.geo.validIno i := by unfold Geo.validIno; omega
    exact (foldl_inTables _ (· < 7) (fun t k hk => zoneSlot_inTables e hi t 0 (by omega)) _ s
      fun _ hk => List.mem_range.1 hk).trans
      (foldl_inTables _ (· < e.geo.indirections)
        (fun t j hj => zoneSlot_inTables e hi t _ (by omega)) _ _ fun _ hj => List.mem_range.1 hj)

end Zones

section Traverse

variable (e : Env)

theorem countInode_inTables {nr : Nat} (hi : e.geo.validIno nr) (s : St) :
    InTables e.geo s (countInode s nr) := by
  unfold countInode
  split_ifs
  · exact .of_eq rfl rfl rfl rfl rfl
  · exact ⟨fun _ h => Function.update_noteq (by unfold Geo.validIno at hi; omega) _ _,
      fun _ _ => rfl, fun _ _ => rfl, fun _ _ => rfl, fun _ _ => rfl⟩

theorem classify_inTables (nr : Nat) (s : St) : InTables e.geo s (classify e nr s) := by
  unfold classify
  dsimp only
  split_ifs
  · exact .refl s
  · exact say_inTables s _

theorem unusedInode_inTables {nr : Nat} (hi : e.geo.validIno nr) (s : St) :
    InTables e.geo s (unusedInode e nr s) := by
  unfold unusedInode
  split_ifs
  · exact offer_inTables (markInode_inTables hi) s
  · exact .of_eq rfl rfl rfl rfl rfl

theorem unusedInode2_inTables {nr : Nat} (hi : e.geo.validIno nr) (s : St) :
    InTables e.geo s (unusedInode2 e nr s) := by
  unfold unusedInode2
  dsimp only
  split_ifs
  · exact (ask_inTables _ _ _ s).trans (markInode_inTables hi _)
  · exact (ask_inTables _ _ _ s).trans (.of_eq rfl rfl rfl rfl rfl)
  · exact .refl s

/-- `get_inode` writes only for an inode number it has tested. -/
theorem getInodeWith_inTables {unused : Env → Nat → St → St}
    (hu : ∀ nr s, e.geo.validIno nr → InTables e.geo s (unused e nr s)) (nr : Nat) (s : St) :
    InTables e.geo s (getInodeWith unused e nr s).2 := by
  unfold getInodeWith
  dsimp only
  split_ifs with h0
  · exact .refl s
  all_goals have hi : e.geo.validIno nr := by unfold Geo.validIno; omega
  · exact countInode_inTables e hi s
  · exact (classify_inTables e nr s).trans (countInode_inTables e hi _)
  · exact ((((say_inTables s _).trans (hu nr _ hi)).trans (classify_inTables e nr _)).trans
      (countInode_inTables e hi _))

theorem readEntry_inTables {mb : Env → Nat → Nat → St → Nat × St} {dir : Nat}
    (hmb : ∀ b s, InTables e.geo s (mb e dir b s).2) (offset : Nat) (s : St) :
    InTables e.geo s (readEntry mb e dir offset s).2.2 := by
  unfold readEntry
  simp only []
  have k := (hmb (offset / blockSize) s).trans
    (readBlock_inTables e (mb e dir (offset / blockSize) s).1 _)
  split_ifs
  · exact k.trans ((say_inTables _ _).trans (offer_inTables (writeBlock_inTables e _ _) _))
  · exact k

theorem dotEntries_inTables (offset : Nat) (found : Bool) (name : List UInt8) (s : St) :
    InTables e.geo s (dotEntries e.geo offset found name s).2 := by
  rcases dotEntries_cases e.geo offset found name s with k | k | k | k <;> rw [k]
  · exact .refl s
  · exact reportError_inTables _ _ s
  · exact reportError_inTables _ _ s
  · exact (reportError_inTables _ _ s).trans (reportError_inTables _ _ _)

theorem listEntry_inTables (ino : Nat) (s : St) : InTables e.geo s (listEntry e ino s) := by
  unfold listEntry
  dsimp only
  split
  · exact say_inTables s _
  · exact .refl s

theorem sizeCheck_inTables (ino : Nat) (s : St) : InTables e.geo s (sizeCheck e.geo ino s) := by
  unfold sizeCheck
  split_ifs
  · exact reportError_inTables _ _ s
  · exact .refl s

/-- What `check_file` and `check_file2` get from their helpers: the resolver writes inside the
tables for a directory of `[1, INODES]`, `get_inode` always, and `get_inode` finds only an
inode of `[1, INODES]`. -/
theorem opsOf_inTables :
    (∀ dir, e.geo.validIno dir → ∀ b s, InTables e.geo s ((opsOf e.geo).mapBlock e dir b s).2) ∧
    (∀ nr s, InTables e.geo s ((opsOf e.geo).getInode e nr s).2) ∧
    (∀ nr s, ((opsOf e.geo).getInode e nr s).1 = true → e.geo.validIno nr) ∧
    (∀ s name, InTables e.geo s ((opsOf e.geo).push s name)) := by
  unfold opsOf
  split
  next hv =>
    exact ⟨fun _ hd => mapBlock2_inTables e hd hv,
      getInodeWith_inTables e fun _ s hi => unusedInode2_inTables e hi s, fun _ _ => getInodeWith_found,
      fun _ _ => depth_inTables _ _⟩
  next =>
    exact ⟨fun _ hd => mapBlock_inTables e hd,
      getInodeWith_inTables e fun _ s hi => unusedInode_inTables e hi s, fun _ _ => getInodeWith_found,
      pushName_inTables⟩

/-- `check_file` on a directory of `[1, INODES]`, given that the recursion writes inside the
tables on each inode `get_inode` found. -/
theorem checkFileWith_inTables {ops : FileOps} {dir : Nat}
    (hmb : ∀ b s, InTables e.geo s (ops.mapBlock e dir b s).2)
    (hgi : ∀ nr s, InTables e.geo s (ops.getInode e nr s).2)
    (hfound : ∀ nr s, (ops.getInode e nr s).1 = true → e.geo.validIno nr)
    (hpush : ∀ s name, InTables e.geo s (ops.push s name)) {rc : Nat → St → St × Outcome}
    (hrc : ∀ i t, e.geo.validIno i → InTables e.geo t (rc i t).1) (offset : Nat) (s : St) :
    InTables e.geo s (checkFileWith ops e rc dir offset s).1 := by
  have hf : InTables e.geo s (fetchEntry ops e dir offset s).2 := by
    have h1 := readEntry_inTables e hmb offset s
    unfold fetchEntry
    generalize readEntry ops.mapBlock e dir offset s = r at h1 ⊢
    obtain ⟨ino, name, t⟩ := r
    exact (((h1.trans (pushName_inTables t name)).trans (hgi ino _)).trans
      (depth_inTables _ _)).trans (dotEntries_inTables e ..)
  have hv : ∀ ino name, (fetchEntry ops e dir offset s).1 = some (ino, name) →
      e.geo.validIno ino := fun _ _ h =>
    let ⟨_, hg⟩ := fetchEntry_found h
    hfound _ _ hg
  unfold checkFileWith
  generalize fetchEntry ops e dir offset s = r at hf hv ⊢
  obtain ⟨_ | ⟨ino, name⟩, t⟩ := r
  · exact hf
  · have h2 := hf.trans ((hpush t name).trans ((listEntry_inTables e ino _).trans
      (checkZones_inTables e ino _)))
    dsimp only
    split_ifs
    · exact andThen_rel (R := InTables e.geo) InTables.trans (h2.trans (hrc ino _ (hv _ _ rfl)))
        fun _ => depth_inTables _ _
    · exact h2.trans (depth_inTables _ _)

/-- The directory a call of the recursion reads. -/
def Call.ino : Call → Nat
  | .dir ino => ino
  | .loop ino _ => ino

/-- `recursive_check` on a directory of `[1, INODES]` writes inside the tables, however its
fuel ends: each directory it recurses into was found by `get_inode`. -/
theorem trav_inTables : ∀ (n : Nat) (c : Call) (s : St), e.geo.validIno c.ino →
    InTables e.geo s (trav e n c s).1
  | 0, _, s, _ => .refl s
  | n + 1, .dir ino, s, hi => by
    simp only [trav]
    split_ifs
    · exact .refl s
    · exact (sizeCheck_inTables e ino s).trans (trav_inTables n (.loop ino 0) _ hi)
  | n + 1, .loop ino offset, s, hi => by
    obtain ⟨hmb, hgi, hfound, hpush⟩ := opsOf_inTables e
    simp only [trav]
    split_ifs
    · exact andThen_rel (R := InTables e.geo) InTables.trans
        (checkFileWith_inTables e (hmb ino hi) hgi hfound hpush
          (fun i t hi' => trav_inTables n (.dir i) t hi') offset s)
        fun t => trav_inTables n (.loop ino _) t hi
    · exact .refl s

end Traverse

section Counts

variable (e : Env)

theorem modeCheck_inTables {i : Nat} (hi : e.geo.validIno i) (s : St) :
    InTables e.geo s (modeCheck e s i) := by
  have hz : ∀ t : St, InTables e.geo t
      { t with ibuf := e.geo.setMode t.ibuf i 0, changed := true } := fun _ =>
    ibuf_inTables fun _ ho => setMode_outside hi ho
  unfold modeCheck
  split_ifs
  · exact (say_inTables s _).trans (offer_inTables hz _)
  · exact .refl s

theorem countCheck_inTables {i : Nat} (hi : e.geo.validIno i) (s : St) :
    InTables e.geo s (countCheck e s i) := by
  have hn : ∀ t : St, InTables e.geo t
      { t with ibuf := e.geo.setNlinks t.ibuf i (t.icount i), changed := true } := fun _ =>
    ibuf_inTables fun _ ho => setNlinks_outside hi ho
  have hm := fun t : St => (say_inTables t (.inodeUsedUnmarked i)).trans
    (offer_inTables (o := e.opts) (p := "Set") (d := true) (markInode_inTables hi) _)
  unfold countCheck
  dsimp only
  split_ifs
  · exact .refl s
  · exact (say_inTables s _).trans (offer_inTables (unmarkInode_inTables hi) _)
  · exact (say_inTables s _).trans (offer_inTables hn _)
  · exact .refl s
  · exact (hm s).trans ((say_inTables _ _).trans (offer_inTables hn _))
  · exact hm s

theorem checkInodeCount_inTables {i : Nat} (hi : e.geo.validIno i) (s : St) :
    InTables e.geo s (checkInodeCount e s i) :=
  (modeCheck_inTables e hi s).trans (countCheck_inTables e hi _)

theorem checkZoneCount_inTables {z : Nat} (h1 : e.geo.firstzone ≤ z) (h2 : z < e.geo.zones)
    (s : St) : InTables e.geo s (checkZoneCount e s z).1 := by
  unfold checkZoneCount
  dsimp only
  split_ifs <;> (try split) <;>
    first
    | exact .refl s
    | exact say_inTables s _
    | exact (say_inTables s _).trans (offer_inTables (unmarkZone_inTables h1 h2) _)

theorem zoneLoop_inTables : ∀ (zs : List Nat) (s : St),
    (∀ z ∈ zs, e.geo.firstzone ≤ z ∧ z < e.geo.zones) → InTables e.geo s (zoneLoop e zs s).1
  | [], s, _ => .refl s
  | z :: zs, s, hz =>
    have hz0 := hz z (List.mem_cons_self z zs)
    andThen_rel (R := InTables e.geo) InTables.trans (checkZoneCount_inTables e hz0.1 hz0.2 s)
      fun t => zoneLoop_inTables zs t fun y hy => hz y (List.mem_cons_of_mem z hy)

/-- `check_counts` loops over the inodes `1 .. INODES` and the zones `FIRSTZONE .. ZONES-1`. -/
theorem checkCounts_inTables (s : St) : InTables e.geo s (checkCounts e s).1 :=
  (foldl_inTables _ e.geo.validIno (fun t _ hi => checkInodeCount_inTables e hi t) _ s
    fun i hi => by rw [List.mem_range'_1] at hi; unfold Geo.validIno; omega).trans
    (zoneLoop_inTables e _ _ fun z hz => by rw [List.mem_range'_1] at hz; omega)

end Counts

section Run

variable (e : Env)

/-- The pass from the state `read_tables` leaves, whose counters are all 0: clearing them
changes nothing, and the walk starts at the root, inode 1, which is in `[1, INODES]` when
`INODES` is not 0. -/
theorem check_inTables (hi : 1 ≤ e.geo.ninodes) (fuel : Nat) {s : St}
    (h1 : s.icount = fun _ => 0) (h2 : s.zcount = fun _ => 0) :
    InTables e.geo s (check e fuel s).1 := by
  have ht : InTables e.geo s (traverse e fuel s).1 := by
    unfold traverse traverseStart
    exact ((InTables.of_eq (t := { s with icount := fun _ => 0, zcount := fun _ => 0 }) h1.symm
      rfl h2.symm rfl rfl).trans (checkZones_inTables e rootIno _)).trans
      (trav_inTables e fuel (.dir rootIno) _ (show 1 ≤ 1 ∧ 1 ≤ e.geo.ninodes from ⟨le_rfl, hi⟩))
  exact andThen_rel (R := InTables e.geo) InTables.trans ht (checkCounts_inTables e)

/-- The write-back writes the device and the superblock buffer, not the tables. -/
theorem finish_inTables (hi : 1 ≤ e.geo.ninodes) (fuel : Nat) {s : St}
    (h1 : s.icount = fun _ => 0) (h2 : s.zcount = fun _ => 0) :
    InTables e.geo s (finish e fuel s).1 := by
  have hc := check_inTables e hi fuel h1 h2
  rw [finish_fst]
  generalize check e fuel s = r at hc ⊢
  obtain ⟨t, _ | _ | _⟩ := r
  · obtain ⟨d, hd⟩ := writeTables_fst e t
    dsimp only at hc ⊢
    refine hc.trans ?_
    split_ifs
    · rw [hd, writeSuperBlock_fst]
      exact .of_eq rfl rfl rfl rfl rfl
    · rw [writeSuperBlock_fst]
      exact .of_eq rfl rfl rfl rfl rfl
    · exact .refl t
  all_goals exact hc

theorem getDirsize_counts (s : St) :
    (getDirsize e s).2.icount = s.icount ∧ (getDirsize e s).2.zcount = s.zcount := by
  unfold getDirsize
  dsimp only
  split <;> exact ⟨readBlock_icount .., readBlock_zcount ..⟩

/-- `main` up to `check` leaves the counters as they were. -/
theorem setup_counts {o : Opts} {io : Io} {s t : St} (h : setup o io s = .ok (e, t)) :
    t.icount = s.icount ∧ t.zcount = s.zcount := by
  unfold setup at h
  cases hg : readSuperblock io s.disk with
  | error m => rw [hg] at h; cases h
  | ok g =>
    rw [hg] at h
    dsimp only at h
    split_ifs at h
    cases ht : readTables io g s with
    | error m => rw [ht] at h; cases h
    | ok u =>
      rw [ht] at h
      dsimp only at h
      split_ifs at h
      cases h
      have hu : u.icount = s.icount ∧ u.zcount = s.zcount := by
        unfold readTables at ht
        dsimp only at ht
        split_ifs at ht <;> cases ht <;> exact ⟨rfl, rfl⟩
      obtain ⟨k1, k2⟩ := getDirsize_counts ⟨o, io, g⟩ u
      exact ⟨k1.trans hu.1, k2.trans hu.2⟩

/-- A run of `main` on a file system with at least one inode writes `inode_count`,
`zone_count`, `inode_map`, `zone_map` and `inode_buffer` only at the entries the checker may
index: whatever the options, the operator's answers and the device's errors, and however the
run ends. -/
theorem main_writes_inside_tables (o : Opts) (io : Io) (fuel : Nat) (disk : Nat → Block)
    (input : List Char) {s₀ : St} (hs : setup o io (St.start disk input) = .ok (e, s₀))
    (hi : 1 ≤ e.geo.ninodes) : InTables e.geo s₀ (main o io fuel (St.start disk input)).1 := by
  obtain ⟨h1, h2⟩ := setup_counts e hs
  unfold main
  rw [hs]
  exact finish_inTables e hi fuel h1 h2

set_option maxRecDepth 20000 in
/-- The automatic repair of `danglingImage`, which removes an entry and writes a block. -/
theorem main_writes_inside_tables_dangling :
    setup automaticOpts tinyIo (St.start danglingImage []) =
      .ok (tinyEnv automaticOpts, tinyTables danglingImage) ∧
    1 ≤ (tinyEnv automaticOpts).geo.ninodes ∧
    InTables (tinyEnv automaticOpts).geo (tinyTables danglingImage)
      (main automaticOpts tinyIo 100 (St.start danglingImage [])).1 :=
  ⟨rfl, by decide, main_writes_inside_tables _ _ _ 100 _ _ rfl (by decide)⟩

end Run

/-- For a geometry `read_superblock` accepts, what `InTables` leaves alone covers every entry
past the five tables `read_tables` allocates: `INODES + 1` and `ZONES` counters, `IMAPS` and
`ZMAPS` blocks of bits, and `INODE_BUFFER_SIZE` bytes. -/
theorem InTables.past_allocation {io : Io} {disk : Nat → Block} {g : Geo} {s t : St}
    (hg : readSuperblock io disk = .ok g) (h : InTables g s t) :
    (∀ i, g.ninodes + 1 ≤ i → t.icount i = s.icount i) ∧
    (∀ z, g.zones ≤ z → t.zcount z = s.zcount z) ∧
    (∀ b, g.imaps * blockSize * 8 ≤ b → t.imap b = s.imap b) ∧
    (∀ b, g.zmaps * blockSize * 8 ≤ b → t.zmap b = s.zmap b) ∧
    ∀ o, g.inodeBufferSize ≤ o → t.ibuf o = s.ibuf o := by
  obtain ⟨hb1, hb2⟩ := readSuperblock_bitmaps hg
  have hz := readSuperblock_zones_lt hg
  unfold Geo.zmapNeed at hb2
  exact ⟨fun i _ => h.icount i (by omega), fun z _ => h.zcount z (by omega),
    fun b _ => h.imap b (by omega), fun b _ => h.zmap b (by omega), h.ibuf⟩

end MinixFsck
