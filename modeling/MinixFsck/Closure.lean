import MinixFsck.Traverse

/-! Relations between states that the basic updates keep, and so every helper of the traversal
keeps, proved once for any such relation. -/
namespace MinixFsck

/-- A relation between states kept by each update the helpers make. -/
structure Closed (e : Env) (R : St → St → Prop) : Prop where
  refl : ∀ s, R s s
  trans : ∀ {a b c}, R a b → R b c → R a c
  ask : ∀ p d s, R s (MinixFsck.ask e.opts p d s).2
  say : ∀ s m, R s (s.say m)
  errors : ∀ s, R s { s with errors := true }
  ibuf : ∀ s b, R s { s with ibuf := b, changed := true }
  markInode : ∀ s x, R s (s.markInode x)
  icount : ∀ s c, R s { s with icount := c }
  writeBlock : ∀ nr b s, R s (writeBlock e nr b s)

namespace Closed

variable {e : Env} {R : St → St → Prop} (h : Closed e R)
include h

theorem say_ask (s : St) (m : Msg) (p : String) (d : Bool) :
    R s (MinixFsck.ask e.opts p d (s.say m)).2 :=
  h.trans (h.say s m) (h.ask p d _)

theorem offer {p : String} {d : Bool} {fix : St → St} (hfix : ∀ t, R t (fix t)) (s : St) :
    R s (MinixFsck.offer e.opts p d fix s) := by
  unfold MinixFsck.offer
  dsimp only
  split_ifs
  · exact h.trans (h.ask p d s) (hfix _)
  · exact h.ask p d s

theorem reportError (m : Path → Msg) (s : St) : R s (MinixFsck.reportError e.geo m s) :=
  h.trans (h.say s _) (h.errors _)

theorem readBlock (nr : Nat) (s : St) : R s (MinixFsck.readBlock e nr s).2 := by
  unfold MinixFsck.readBlock
  split_ifs
  · exact h.refl s
  · exact h.refl s
  · exact h.reportError _ s

theorem checkZoneNr (nr : Nat) (s : St) : R s (MinixFsck.checkZoneNr e nr s).2.2 := by
  unfold MinixFsck.checkZoneNr
  split_ifs <;> simp only []
  all_goals first | exact h.refl s | exact h.say_ask s _ _ _

theorem slotNr (ino k : Nat) (s : St) : R s (MinixFsck.slotNr e ino k s).2 := by
  unfold MinixFsck.slotNr
  dsimp only
  split_ifs
  · exact h.trans (h.checkZoneNr _ s) (h.ibuf _ _)
  · exact h.checkZoneNr _ s

theorem indirect (block i : Nat) (s : St) : R s (MinixFsck.indirect e block i s).2 := by
  unfold MinixFsck.indirect
  dsimp only
  have k := h.trans (h.readBlock block s)
    (h.checkZoneNr (e.geo.entry (MinixFsck.readBlock e block s).1 i) _)
  split_ifs
  · exact h.trans k (h.writeBlock _ _ _)
  · exact k

theorem mapBlock (ino blknr : Nat) (s : St) : R s (MinixFsck.mapBlock e ino blknr s).2 := by
  unfold MinixFsck.mapBlock
  dsimp only
  split_ifs
  · exact h.slotNr _ _ s
  · exact h.trans (h.slotNr _ _ s) (h.indirect _ _ _)
  · exact h.trans (h.trans (h.slotNr _ _ s) (h.indirect _ _ _)) (h.indirect _ _ _)

theorem mapBlock2 (ino blknr : Nat) (s : St) : R s (MinixFsck.mapBlock2 e ino blknr s).2 := by
  unfold MinixFsck.mapBlock2
  dsimp only
  split_ifs
  · exact h.slotNr _ _ s
  · exact h.trans (h.slotNr _ _ s) (h.indirect _ _ _)
  · exact h.trans (h.trans (h.slotNr _ _ s) (h.indirect _ _ _)) (h.indirect _ _ _)
  · exact h.trans (h.trans (h.trans (h.slotNr _ _ s) (h.indirect _ _ _)) (h.indirect _ _ _))
      (h.indirect _ _ _)

theorem usedBefore (block : Nat) (s : St) : R s (MinixFsck.usedBefore e block s).2 := by
  unfold MinixFsck.usedBefore
  split_ifs
  · exact h.say_ask s _ _ _
  · exact h.refl s

theorem foldl {α : Type} (f : St → α → St) (hf : ∀ s a, R s (f s a)) :
    ∀ (l : List α) (s : St), R s (l.foldl f s)
  | [], s => h.refl s
  | a :: l, s => h.trans (hf s a) (foldl f hf l _)

theorem walkEntries (g : Geo) {f : Nat → St → Bool × St} (hf : ∀ z t, R t (f z t).2) :
    ∀ (is : List Nat) (acc : Block × Bool × St), R acc.2.2 (MinixFsck.walkEntries g f is acc).2.2
  | [], _ => h.refl _
  | i :: is, (blk, chg, s) => by
    simp only [MinixFsck.walkEntries]
    split_ifs
    · exact h.trans (hf (g.entry blk i) s) (walkEntries g hf is (g.clearEntry blk i, true, _))
    · exact h.trans (hf (g.entry blk i) s) (walkEntries g hf is (blk, chg, _))

section Walk

variable (hadd : ∀ znr s, R s (addZone e znr s).2.2)
include hadd

theorem addZoneTree : ∀ (level znr : Nat) (s : St), R s (MinixFsck.addZoneTree e level znr s).2
  | 0, znr, s => hadd znr s
  | level + 1, znr, s => by
    have h0 := hadd znr s
    simp only [MinixFsck.addZoneTree]
    generalize addZone e znr s = r at h0 ⊢
    obtain ⟨block, c, t⟩ := r
    have k := h.trans (h.readBlock block t) (h.walkEntries e.geo (addZoneTree level)
      (List.range e.geo.fanout) ((MinixFsck.readBlock e block t).1, false, _))
    dsimp only at h0 ⊢
    split_ifs
    · exact h0
    · exact h.trans (h.trans h0 k) (h.writeBlock _ _ _)
    · exact h.trans h0 k

theorem zoneSlot (i : Nat) (s : St) (k level : Nat) : R s (MinixFsck.zoneSlot e i s k level) := by
  have k0 := h.addZoneTree hadd level (e.geo.zoneOf s.ibuf i k) s
  unfold MinixFsck.zoneSlot
  simp only []
  split_ifs
  · exact h.trans k0 (h.ibuf _ _)
  · exact k0

theorem checkZones (i : Nat) (s : St) : R s (MinixFsck.checkZones e i s) := by
  unfold MinixFsck.checkZones
  dsimp only
  split_ifs
  · exact h.refl s
  · exact h.refl s
  · exact h.refl s
  · exact h.trans (h.foldl _ (fun t k => h.zoneSlot hadd i t k 0) _ s)
      (h.foldl _ (fun t j => h.zoneSlot hadd i t _ _) _ _)

end Walk

theorem countInode (s : St) (nr : Nat) : R s (MinixFsck.countInode s nr) := by
  unfold MinixFsck.countInode
  split_ifs
  · exact h.trans (h.say s _) (h.errors _)
  · exact h.icount s _

theorem classify (nr : Nat) (s : St) : R s (MinixFsck.classify e nr s) := by
  unfold MinixFsck.classify
  dsimp only
  split_ifs
  · exact h.refl s
  · exact h.say s _

theorem unusedInode (nr : Nat) (s : St) : R s (MinixFsck.unusedInode e nr s) := by
  unfold MinixFsck.unusedInode
  split_ifs
  · exact h.offer (fun t => h.markInode t nr) s
  · exact h.errors s

theorem unusedInode2 (nr : Nat) (s : St) : R s (MinixFsck.unusedInode2 e nr s) := by
  unfold MinixFsck.unusedInode2
  dsimp only
  split_ifs
  · exact h.trans (h.ask _ _ s) (h.markInode _ _)
  · exact h.trans (h.ask _ _ s) (h.errors _)
  · exact h.refl s

theorem getInodeWith {unused : Env → Nat → St → St} (hu : ∀ nr s, R s (unused e nr s))
    (nr : Nat) (s : St) : R s (MinixFsck.getInodeWith unused e nr s).2 := by
  unfold MinixFsck.getInodeWith
  dsimp only
  split_ifs
  · exact h.refl s
  · exact h.countInode s nr
  · exact h.trans (h.classify nr s) (h.countInode _ nr)
  · exact h.trans (h.trans (h.trans (h.say s _) (hu nr _)) (h.classify nr _)) (h.countInode _ nr)

theorem readEntry {mb : Env → Nat → Nat → St → Nat × St} (hmb : ∀ ino b s, R s (mb e ino b s).2)
    (dir offset : Nat) (s : St) : R s (MinixFsck.readEntry mb e dir offset s).2.2 := by
  unfold MinixFsck.readEntry
  simp only []
  have k := h.trans (hmb dir (offset / blockSize) s)
    (h.readBlock (mb e dir (offset / blockSize) s).1 _)
  split_ifs
  · exact h.trans k (h.trans (h.say _ _) (h.offer (h.writeBlock _ _) _))
  · exact k

theorem dotEntries (offset : Nat) (found : Bool) (name : List UInt8) (s : St) :
    R s (MinixFsck.dotEntries e.geo offset found name s).2 := by
  rcases dotEntries_cases e.geo offset found name s with k | k | k | k <;> rw [k]
  · exact h.refl s
  · exact h.reportError _ s
  · exact h.reportError _ s
  · exact h.trans (h.reportError _ s) (h.reportError _ _)

theorem listEntry (ino : Nat) (s : St) : R s (MinixFsck.listEntry e ino s) := by
  unfold MinixFsck.listEntry
  dsimp only
  split
  · exact h.say s _
  · exact h.refl s

theorem sizeCheck (ino : Nat) (s : St) : R s (MinixFsck.sizeCheck e.geo ino s) := by
  unfold MinixFsck.sizeCheck
  split_ifs
  · exact h.reportError _ s
  · exact h.refl s

/-- The resolver and the `get_inode` of either variant. -/
theorem opsOf :
    (∀ ino b s, R s ((MinixFsck.opsOf e.geo).mapBlock e ino b s).2) ∧
      ∀ nr s, R s ((MinixFsck.opsOf e.geo).getInode e nr s).2 := by
  unfold MinixFsck.opsOf
  split
  · exact ⟨h.mapBlock2, h.getInodeWith h.unusedInode2⟩
  · exact ⟨h.mapBlock, h.getInodeWith h.unusedInode⟩

section Traverse

/-! A relation that `add_zone`, the name entry and the changes of `name_depth` also keep is
kept by `check_file` and by the whole of `recursive_check`, however its fuel ends. -/

variable (hadd : ∀ znr s, R s (addZone e znr s).2.2) (hname : ∀ s name, R s (pushName s name))
  (hdepth : ∀ s d, R s { s with depth := d })

include hname hdepth in
theorem fetchEntry {ops : FileOps} (hmb : ∀ ino b s, R s (ops.mapBlock e ino b s).2)
    (hgi : ∀ nr s, R s (ops.getInode e nr s).2) (dir offset : Nat) (s : St) :
    R s (MinixFsck.fetchEntry ops e dir offset s).2 := by
  have h1 := h.readEntry hmb dir offset s
  unfold MinixFsck.fetchEntry
  generalize MinixFsck.readEntry ops.mapBlock e dir offset s = r at h1 ⊢
  obtain ⟨ino, name, t⟩ := r
  exact h.trans (h.trans (h.trans (h.trans h1 (hname t name)) (hgi ino _)) (hdepth _ _))
    (h.dotEntries ..)

include hadd in
theorem enterEntry {ops : FileOps} (hpush : ∀ s name, R s (ops.push s name)) (ino : Nat)
    (name : List UInt8) (s : St) : R s (MinixFsck.enterEntry ops e ino name s) :=
  h.trans (h.trans (hpush s name) (h.listEntry ino _)) (h.checkZones hadd ino _)

include hadd hname hdepth in
theorem checkFileWith {ops : FileOps} (hmb : ∀ ino b s, R s (ops.mapBlock e ino b s).2)
    (hgi : ∀ nr s, R s (ops.getInode e nr s).2) (hpush : ∀ s name, R s (ops.push s name))
    {rc : Nat → St → St × Outcome} (hrc : ∀ i t, R t (rc i t).1) (dir offset : Nat) (s : St) :
    R s (MinixFsck.checkFileWith ops e rc dir offset s).1 := by
  have hf := h.fetchEntry hname hdepth hmb hgi dir offset s
  unfold MinixFsck.checkFileWith
  generalize MinixFsck.fetchEntry ops e dir offset s = r at hf ⊢
  obtain ⟨_ | ⟨ino, name⟩, t⟩ := r
  · exact hf
  · have hv := h.trans hf (h.enterEntry hadd hpush ino name t)
    dsimp only
    split_ifs
    · exact andThen_rel (R := R) h.trans (h.trans hv (hrc ino _)) fun _ => hdepth _ _
    · exact h.trans hv (hdepth _ _)

include hadd hname hdepth in
/-- The traversal from any call, however its fuel ends. -/
theorem trav : ∀ (n : Nat) (c : Call) (s : St), R s (MinixFsck.trav e n c s).1
  | 0, _, s => h.refl s
  | n + 1, .dir ino, s => by
    simp only [MinixFsck.trav]
    split_ifs
    · exact h.refl s
    · exact h.trans (h.sizeCheck ino s) (trav n _ _)
  | n + 1, .loop ino offset, s => by
    obtain ⟨hmb, hgi⟩ := h.opsOf
    have hpush : ∀ t name, R t ((MinixFsck.opsOf e.geo).push t name) := fun t name => by
      unfold MinixFsck.opsOf
      split
      · exact hdepth t _
      · exact hname t name
    simp only [MinixFsck.trav]
    split_ifs
    · exact andThen_rel (R := R) h.trans (h.checkFileWith hadd hname hdepth hmb hgi hpush
        (fun i t => trav n (.dir i) t) ino offset s) fun _ => trav n _ _
    · exact h.refl s

end Traverse

end Closed

end MinixFsck
