import MinixFsck.Images

/-! Runs in which no repair is accepted leave the device, the inode table and the bitmaps as
they were read. -/
namespace MinixFsck

/-- A question answered yes. -/
def Msg.accepted : Msg → Bool
  | .question _ _ a => a
  | _ => false

/-- Some question of the log was answered yes. -/
def anyYes (l : List Msg) : Bool := l.any Msg.accepted

@[simp] theorem anyYes_append (l l' : List Msg) : anyYes (l ++ l') = (anyYes l || anyYes l') :=
  List.any_append

@[simp] theorem anyYes_nil : anyYes [] = false := rfl

@[simp] theorem anyYes_singleton (m : Msg) : anyYes [m] = m.accepted := by simp [anyYes]

theorem anyYes_mono {l l' : List Msg} (h : l <+: l') (hy : anyYes l = true) :
    anyYes l' = true := by
  obtain ⟨t, rfl⟩ := h
  simp [hy]

/-- The globals that only an accepted repair changes. -/
structure Frame (s s' : St) : Prop where
  disk : s'.disk = s.disk
  ibuf : s'.ibuf = s.ibuf
  imap : s'.imap = s.imap
  zmap : s'.zmap = s.zmap
  changed : s'.changed = s.changed
  writes : s'.writes = s.writes
  super : s'.super = s.super

theorem Frame.trans {a b c : St} (h1 : Frame a b) (h2 : Frame b c) : Frame a c :=
  ⟨h2.1.trans h1.1, h2.2.trans h1.2, h2.3.trans h1.3, h2.4.trans h1.4, h2.5.trans h1.5,
    h2.6.trans h1.6, h2.7.trans h1.7⟩

/-- `s'` extends the log of `s`, adds no yes to it without `-r`/`-a`, and keeps the frame of
`s` unless its log holds a yes. -/
structure Keeps (o : Opts) (s s' : St) : Prop where
  log : s.out <+: s'.out
  readOnly : o.repair = false → anyYes s'.out = anyYes s.out
  frame : anyYes s'.out = false → Frame s s'

section Keeps

variable {o : Opts}

theorem Keeps.refl (s : St) : Keeps o s s :=
  ⟨List.prefix_refl _, fun _ => rfl, fun _ => ⟨rfl, rfl, rfl, rfl, rfl, rfl, rfl⟩⟩

theorem Keeps.trans {a b c : St} (h1 : Keeps o a b) (h2 : Keeps o b c) : Keeps o a c := by
  refine ⟨h1.log.trans h2.log, fun h => (h2.readOnly h).trans (h1.readOnly h),
    fun hy => (h1.frame ?_).trans (h2.frame hy)⟩
  cases hb : anyYes b.out
  · rfl
  · simp [anyYes_mono h2.log hb] at hy

/-- Anything goes once a yes is in the log. -/
theorem Keeps.of_yes {s t s' : St} (hk : Keeps o s t) (hy : anyYes t.out = true)
    (hp : t.out <+: s'.out) : Keeps o s s' := by
  have hy' := anyYes_mono hp hy
  refine ⟨hk.log.trans hp, fun h => ?_, fun h => by simp [hy'] at h⟩
  rw [hy', ← hk.readOnly h, hy]

theorem keeps_bookkeeping (s : St) (ic zc : Nat → Nat) (er : Bool) (d : Nat) (ns : Block)
    (inp : List Char) :
    Keeps o s
      { s with icount := ic, zcount := zc, errors := er, depth := d, names := ns, input := inp } :=
  ⟨List.prefix_refl _, fun _ => rfl, fun _ => ⟨rfl, rfl, rfl, rfl, rfl, rfl, rfl⟩⟩

theorem pushName_keeps (s : St) (name : List UInt8) : Keeps o s (pushName s name) :=
  keeps_bookkeeping ..

theorem keeps_say (s : St) (m : Msg) (hm : m.accepted = false) : Keeps o s (s.say m) :=
  ⟨List.prefix_append _ _, fun _ => by simp [St.say, hm],
    fun _ => ⟨rfl, rfl, rfl, rfl, rfl, rfl, rfl⟩⟩

theorem keeps_reportError (g : Geo) (m : Path → Msg) (hm : ∀ p, (m p).accepted = false)
    (s : St) : Keeps o s (reportError g m s) :=
  (keeps_say s _ (hm _)).trans (keeps_bookkeeping ..)

theorem ask_keeps (p : String) (d : Bool) (s : St) : Keeps o s (ask o p d s).2 := by
  unfold ask
  split_ifs with hr
  · exact ⟨List.prefix_append _ _, fun _ => by simp [St.say, Msg.accepted],
      fun _ => ⟨rfl, rfl, rfl, rfl, rfl, rfl, rfl⟩⟩
  all_goals
    have hr : o.repair = true := by simpa using hr
    refine ⟨?_, fun h => by simp [hr] at h, fun _ => ?_⟩ <;> (try split) <;>
      first | exact List.prefix_append _ _ | exact ⟨rfl, rfl, rfl, rfl, rfl, rfl, rfl⟩

theorem ask_yes (p : String) (d : Bool) (s : St) (h : (ask o p d s).1 = true) :
    anyYes (ask o p d s).2.out = true := by
  unfold ask at *
  split_ifs at * <;> (try split at *) <;> simp_all [St.say, Msg.accepted]

theorem keeps_say_ask (s : St) {m : Msg} (hm : m.accepted = false) (p : String) (d : Bool) :
    Keeps o s (ask o p d (s.say m)).2 :=
  (keeps_say s m hm).trans (ask_keeps p d _)

theorem offer_keeps (p : String) (d : Bool) {fix : St → St} (hfix : ∀ t, t.out <+: (fix t).out)
    (s : St) : Keeps o s (offer o p d fix s) := by
  unfold offer
  dsimp only
  split_ifs with ha
  · exact (ask_keeps p d s).of_yes (ask_yes p d s ha) (hfix _)
  · exact ask_keeps p d s

theorem keeps_say_offer (s : St) {m : Msg} (hm : m.accepted = false) (p : String) (d : Bool)
    {fix : St → St} (hfix : ∀ t, t.out <+: (fix t).out) : Keeps o s (offer o p d fix (s.say m)) :=
  (keeps_say s m hm).trans (offer_keeps p d hfix _)

theorem keeps_foldl {α : Type} (f : St → α → St) (hf : ∀ s a, Keeps o s (f s a)) :
    ∀ (l : List α) (s : St), Keeps o s (l.foldl f s)
  | [], s => .refl s
  | a :: l, s => (hf s a).trans (keeps_foldl f hf l _)

theorem keeps_andThen {s : St} {r : St × Outcome} {k : St → St × Outcome} (hr : Keeps o s r.1)
    (hk : ∀ t, Keeps o t (k t).1) : Keeps o s (andThen r k).1 :=
  andThen_rel (R := Keeps o) Keeps.trans hr hk

end Keeps

section Zones

variable (e : Env)

theorem writeBlock_out (nr : Nat) (b : Block) (s : St) : s.out <+: (writeBlock e nr b s).out := by
  unfold writeBlock reportError St.say
  split_ifs <;> simp

theorem readBlock_keeps (nr : Nat) (s : St) : Keeps e.opts s (readBlock e nr s).2 := by
  unfold readBlock
  split_ifs
  · exact .refl s
  · exact .refl s
  · exact keeps_reportError _ .readBad (fun _ => rfl) s

theorem checkZoneNr_keeps (nr : Nat) (s : St) : Keeps e.opts s (checkZoneNr e nr s).2.2 := by
  unfold checkZoneNr
  split_ifs <;> simp only []
  · exact .refl s
  all_goals first | exact .refl s | exact keeps_say_ask _ (by rfl) _ _

/-- A cleared zone number was cleared on a yes. -/
theorem checkZoneNr_yes (nr : Nat) (s : St) (h : (checkZoneNr e nr s).2.1 = true) :
    anyYes (checkZoneNr e nr s).2.2.out = true := by
  unfold checkZoneNr at *
  simp only [] at h ⊢
  split_ifs at h ⊢ <;> exact ask_yes _ _ _ h

theorem slotNr_keeps (ino k : Nat) (s : St) : Keeps e.opts s (slotNr e ino k s).2 := by
  unfold slotNr
  dsimp only
  split_ifs with hc
  · exact (checkZoneNr_keeps e _ s).of_yes (checkZoneNr_yes e _ s hc) (List.prefix_refl _)
  · exact checkZoneNr_keeps e _ s

theorem indirect_keeps (block i : Nat) (s : St) : Keeps e.opts s (indirect e block i s).2 := by
  unfold indirect
  dsimp only
  have h := (readBlock_keeps e block s).trans (checkZoneNr_keeps e (e.geo.entry (readBlock e block s).1 i) _)
  split_ifs with hc
  · exact h.of_yes (checkZoneNr_yes e _ _ hc) (writeBlock_out e _ _ _)
  · exact h

theorem mapBlock_keeps (ino blknr : Nat) (s : St) : Keeps e.opts s (mapBlock e ino blknr s).2 := by
  unfold mapBlock
  dsimp only
  split_ifs
  · exact slotNr_keeps e _ _ s
  · exact (slotNr_keeps e _ _ s).trans (indirect_keeps e _ _ _)
  · exact ((slotNr_keeps e _ _ s).trans (indirect_keeps e _ _ _)).trans (indirect_keeps e _ _ _)

theorem mapBlock2_keeps (ino blknr : Nat) (s : St) :
    Keeps e.opts s (mapBlock2 e ino blknr s).2 := by
  unfold mapBlock2
  dsimp only
  split_ifs
  · exact slotNr_keeps e _ _ s
  · exact (slotNr_keeps e _ _ s).trans (indirect_keeps e _ _ _)
  · exact ((slotNr_keeps e _ _ s).trans (indirect_keeps e _ _ _)).trans (indirect_keeps e _ _ _)
  · exact (((slotNr_keeps e _ _ s).trans (indirect_keeps e _ _ _)).trans
      (indirect_keeps e _ _ _)).trans (indirect_keeps e _ _ _)

theorem usedBefore_keeps (block : Nat) (s : St) : Keeps e.opts s (usedBefore e block s).2 := by
  unfold usedBefore
  split_ifs
  · exact keeps_say_ask _ (by rfl) _ _
  · exact .refl s

/-- A dropped pointer was dropped on a yes. -/
theorem usedBefore_yes (block : Nat) (s : St) (h : (usedBefore e block s).1 = false) :
    anyYes (usedBefore e block s).2.out = true := by
  unfold usedBefore at *
  split_ifs at h ⊢
  exact ask_yes _ _ _ (by simpa using h)

theorem countZone_keeps (block : Nat) (s : St) : Keeps e.opts s (countZone e block s) := by
  unfold countZone
  dsimp only
  split_ifs
  · exact keeps_bookkeeping ..
  · refine .trans ?_ (keeps_bookkeeping ..)
    exact keeps_say_offer _ (by rfl) _ _ fun _ => by exact List.prefix_refl _

theorem addZone_keeps (znr : Nat) (s : St) : Keeps e.opts s (addZone e znr s).2.2 := by
  unfold addZone
  dsimp only
  have h0 := checkZoneNr_keeps e znr s
  split_ifs
  · exact h0
  · exact (h0.trans (usedBefore_keeps e _ _)).trans (countZone_keeps e _ _)
  · exact h0.trans (usedBefore_keeps e _ _)

/-- A cleared pointer was cleared on a yes. -/
theorem addZone_yes (znr : Nat) (s : St) (h : (addZone e znr s).2.1 = true) :
    anyYes (addZone e znr s).2.2.out = true := by
  unfold addZone at *
  dsimp only at h ⊢
  split_ifs at h ⊢ with h0 hk
  · exact checkZoneNr_yes e znr s h
  · exact usedBefore_yes e _ _ (by simpa using hk)

theorem keeps_flag {o : Opts} {s t : St} {c : Bool} (hk : Keeps o s t)
    (hc : c = true → anyYes s.out = true) : c = true → anyYes t.out = true :=
  fun h => anyYes_mono hk.log (hc h)

theorem keeps_flag_trans {o : Opts} {s t u : St} {c : Bool} (h0 : Keeps o s t)
    (y0 : c = true → anyYes t.out = true) (k : Keeps o t u) :
    Keeps o s u ∧ (c = true → anyYes u.out = true) :=
  ⟨h0.trans k, keeps_flag k y0⟩

/-- The entry loop of the indirect walkers keeps the frame, and marks its block changed only
on a yes. -/
theorem walkEntries_keeps (g : Geo) {f : Nat → St → Bool × St}
    (hf : ∀ z t, Keeps e.opts t (f z t).2 ∧ ((f z t).1 = true → anyYes (f z t).2.out = true)) :
    ∀ (is : List Nat) (blk : Block) (chg : Bool) (s : St), (chg = true → anyYes s.out = true) →
      Keeps e.opts s (walkEntries g f is (blk, chg, s)).2.2 ∧
      ((walkEntries g f is (blk, chg, s)).2.1 = true →
        anyYes (walkEntries g f is (blk, chg, s)).2.2.out = true)
  | [], _, _, s, h => ⟨.refl s, h⟩
  | i :: is, blk, chg, s, h => by
    obtain ⟨hk, hy⟩ := hf (g.entry blk i) s
    simp only [walkEntries]
    split_ifs with hc
    · obtain ⟨k, y⟩ := walkEntries_keeps g hf is _ true _ fun _ => hy hc
      exact ⟨hk.trans k, y⟩
    · obtain ⟨k, y⟩ := walkEntries_keeps g hf is blk chg _ (keeps_flag hk h)
      exact ⟨hk.trans k, y⟩

/-- The zone walk keeps the frame, and clears the pointer it starts from only on a yes. -/
theorem addZoneTree_keeps : ∀ (level znr : Nat) (s : St),
    Keeps e.opts s (addZoneTree e level znr s).2 ∧
      ((addZoneTree e level znr s).1 = true → anyYes (addZoneTree e level znr s).2.out = true)
  | 0, znr, s => ⟨addZone_keeps e znr s, addZone_yes e znr s⟩
  | level + 1, znr, s => by
    have h0 := addZone_keeps e znr s
    have y0 := addZone_yes e znr s
    simp only [addZoneTree]
    generalize addZone e znr s = r at h0 y0 ⊢
    obtain ⟨block, c, t⟩ := r
    dsimp only at h0 y0 ⊢
    obtain ⟨k, y⟩ := walkEntries_keeps e e.geo (addZoneTree_keeps level) (List.range e.geo.fanout)
      (readBlock e block t).1 false (readBlock e block t).2 fun h => absurd h (by simp)
    have k := (readBlock_keeps e block t).trans k
    split_ifs with hb hchg
    · exact ⟨h0, y0⟩
    · exact keeps_flag_trans h0 y0 (k.of_yes (y hchg) (writeBlock_out ..))
    · exact keeps_flag_trans h0 y0 k

theorem zoneSlot_keeps (i : Nat) (s : St) (k level : Nat) :
    Keeps e.opts s (zoneSlot e i s k level) := by
  obtain ⟨hk, hy⟩ := addZoneTree_keeps e level (e.geo.zoneOf s.ibuf i k) s
  unfold zoneSlot
  simp only []
  split_ifs with hc
  · exact hk.of_yes (hy hc) (List.prefix_refl _)
  · exact hk

theorem checkZones_keeps (i : Nat) (s : St) : Keeps e.opts s (checkZones e i s) := by
  unfold checkZones
  dsimp only
  split_ifs
  · exact .refl s
  · exact .refl s
  · exact .refl s
  · exact (keeps_foldl _ (fun t k => zoneSlot_keeps e i t k 0) _ s).trans
      (keeps_foldl _ (fun t j => zoneSlot_keeps e i t _ _) _ _)

end Zones

section Traverse

variable (e : Env)

theorem countInode_keeps (s : St) (nr : Nat) : Keeps e.opts s (countInode s nr) := by
  unfold countInode
  split_ifs
  · exact (keeps_say s .countTooBig rfl).trans (keeps_bookkeeping ..)
  · exact keeps_bookkeeping ..

theorem classify_keeps (nr : Nat) (s : St) : Keeps e.opts s (classify e nr s) := by
  unfold classify
  dsimp only
  split_ifs
  · exact .refl s
  · exact keeps_say s (.oddMode _ _) rfl

theorem unusedInode_keeps (nr : Nat) (s : St) : Keeps e.opts s (unusedInode e nr s) := by
  unfold unusedInode
  split_ifs
  · exact offer_keeps _ _ (fun _ => by exact List.prefix_refl _) s
  · exact keeps_bookkeeping ..

theorem unusedInode2_keeps (nr : Nat) (s : St) : Keeps e.opts s (unusedInode2 e nr s) := by
  unfold unusedInode2
  dsimp only
  split_ifs with _ ha
  · exact (ask_keeps _ _ s).of_yes (ask_yes _ _ s ha) (List.prefix_refl _)
  · exact (ask_keeps _ _ s).trans (keeps_bookkeeping ..)
  · exact .refl s

theorem getInodeWith_keeps {unused : Env → Nat → St → St}
    (hu : ∀ nr s, Keeps e.opts s (unused e nr s)) (nr : Nat) (s : St) :
    Keeps e.opts s (getInodeWith unused e nr s).2 := by
  unfold getInodeWith
  dsimp only
  split_ifs
  · exact .refl s
  · exact countInode_keeps e s nr
  · exact (classify_keeps e nr s).trans (countInode_keeps e _ nr)
  · exact (((keeps_say s (.markedUnused _ _) rfl).trans (hu nr _)).trans
      (classify_keeps e nr _)).trans (countInode_keeps e _ nr)

theorem readEntry_keeps {mb : Env → Nat → Nat → St → Nat × St}
    (hmb : ∀ ino b s, Keeps e.opts s (mb e ino b s).2) (dir offset : Nat) (s : St) :
    Keeps e.opts s (readEntry mb e dir offset s).2.2 := by
  unfold readEntry
  simp only []
  have h := (hmb dir (offset / blockSize) s).trans
    (readBlock_keeps e (mb e dir (offset / blockSize) s).1 _)
  split_ifs
  · exact h.trans (keeps_say_offer _ (by rfl) _ _ (writeBlock_out e _ _))
  · exact h

theorem dotEntries_keeps {o : Opts} (g : Geo) (offset : Nat) (found : Bool) (name : List UInt8)
    (s : St) : Keeps o s (dotEntries g offset found name s).2 := by
  have h1 := keeps_reportError (o := o) g .dotNotFirst (fun _ => rfl)
  have h2 := keeps_reportError (o := o) g .dotdotNotSecond (fun _ => rfl)
  rcases dotEntries_cases g offset found name s with h | h | h | h <;> rw [h]
  exacts [.refl s, h1 s, h2 s, (h1 s).trans (h2 _)]

theorem listEntry_keeps (ino : Nat) (s : St) : Keeps e.opts s (listEntry e ino s) := by
  unfold listEntry
  dsimp only
  split
  · exact keeps_say s (.listing _ _ _) rfl
  · exact .refl s

variable {ops : FileOps} (hmb : ∀ ino b s, Keeps e.opts s (ops.mapBlock e ino b s).2)
  (hgi : ∀ nr s, Keeps e.opts s (ops.getInode e nr s).2) (hpush : ∀ t n, Keeps e.opts t (ops.push t n))

include hmb hgi in
theorem fetchEntry_keeps (dir offset : Nat) (s : St) :
    Keeps e.opts s (fetchEntry ops e dir offset s).2 := by
  have h1 := readEntry_keeps e hmb dir offset s
  unfold fetchEntry
  generalize readEntry ops.mapBlock e dir offset s = r at h1 ⊢
  obtain ⟨ino, name, t⟩ := r
  exact (((h1.trans (pushName_keeps t name)).trans (hgi ino _)).trans (keeps_bookkeeping ..)).trans
    (dotEntries_keeps ..)

include hpush in
theorem enterEntry_keeps (ino : Nat) (name : List UInt8) (s : St) :
    Keeps e.opts s (enterEntry ops e ino name s) :=
  ((hpush s name).trans (listEntry_keeps e ino _)).trans (checkZones_keeps e ino _)

include hmb hgi hpush in
theorem checkFileWith_keeps {rc : Nat → St → St × Outcome}
    (hrc : ∀ i t, Keeps e.opts t (rc i t).1) (dir offset : Nat) (s : St) :
    Keeps e.opts s (checkFileWith ops e rc dir offset s).1 := by
  have h := fetchEntry_keeps e hmb hgi dir offset s
  unfold checkFileWith
  generalize fetchEntry ops e dir offset s = r at h ⊢
  obtain ⟨_ | ⟨ino, name⟩, t⟩ := r
  · exact h
  · have h := h.trans (enterEntry_keeps e hpush ino name t)
    dsimp only
    split_ifs
    · exact keeps_andThen (h.trans (hrc ino _)) fun _ => keeps_bookkeeping ..
    · exact h.trans (keeps_bookkeeping ..)

theorem opsOf_keeps (g : Geo) :
    (∀ ino b s, Keeps e.opts s ((opsOf g).mapBlock e ino b s).2) ∧
    (∀ nr s, Keeps e.opts s ((opsOf g).getInode e nr s).2) ∧
    (∀ t n, Keeps e.opts t ((opsOf g).push t n)) := by
  unfold opsOf
  split
  · exact ⟨mapBlock2_keeps e, getInodeWith_keeps e (unusedInode2_keeps e),
      fun _ _ => keeps_bookkeeping ..⟩
  · exact ⟨mapBlock_keeps e, getInodeWith_keeps e (unusedInode_keeps e), pushName_keeps⟩

theorem trav_keeps : ∀ (n : Nat) (c : Call) (s : St), Keeps e.opts s (trav e n c s).1
  | 0, _, s => .refl s
  | n + 1, .dir ino, s => by
    simp only [trav]
    split_ifs
    · exact .refl s
    · refine .trans ?_ (trav_keeps n _ _)
      unfold sizeCheck
      split_ifs
      · exact keeps_reportError _ .dirTooSmall (fun _ => rfl) s
      · exact .refl s
  | n + 1, .loop ino offset, s => by
    obtain ⟨hmb, hgi, hpush⟩ := opsOf_keeps e e.geo
    simp only [trav]
    split_ifs
    · exact keeps_andThen (checkFileWith_keeps e hmb hgi hpush
        (fun i t => trav_keeps n (.dir i) t) ino offset s) fun _ => trav_keeps n _ _
    · exact .refl s

end Traverse

section Counts

variable (e : Env)

theorem modeCheck_keeps (s : St) (i : Nat) : Keeps e.opts s (modeCheck e s i) := by
  unfold modeCheck
  split_ifs
  · exact keeps_say_offer _ (by rfl) _ _ fun _ => by exact List.prefix_refl _
  · exact .refl s

theorem countCheck_keeps (s : St) (i : Nat) : Keeps e.opts s (countCheck e s i) := by
  have hm : ∀ t i, Keeps e.opts t (offer e.opts "Set" true (·.markInode i)
      (t.say (.inodeUsedUnmarked i))) :=
    fun t i => keeps_say_offer t (by rfl) _ _ fun _ => by exact List.prefix_refl _
  have hl : ∀ t u, Keeps e.opts t u → Keeps e.opts t
      (offer e.opts "Set i_nlinks to count" true
        (fun t => { t with ibuf := e.geo.setNlinks t.ibuf i (t.icount i), changed := true })
        (u.say (.nlinksDiffer i (e.geo.modeOf u.ibuf i) (e.geo.nlinksOf u.ibuf i) (u.icount i)))) :=
    fun t u h => h.trans (keeps_say_offer u (by rfl) _ _ fun _ => by exact List.prefix_refl _)
  unfold countCheck
  dsimp only
  split_ifs
  · exact .refl s
  · exact keeps_say_offer _ (by rfl) _ _ fun _ => by exact List.prefix_refl _
  · exact hl s s (.refl s)
  · exact .refl s
  · exact hl s _ (hm s i)
  · exact hm s i

theorem checkInodeCount_keeps (s : St) (i : Nat) : Keeps e.opts s (checkInodeCount e s i) :=
  (modeCheck_keeps e s i).trans (countCheck_keeps e _ i)

theorem checkZoneCount_keeps (s : St) (i : Nat) : Keeps e.opts s (checkZoneCount e s i).1 := by
  unfold checkZoneCount
  dsimp only
  split_ifs <;> (try split) <;> dsimp only <;> first
    | exact .refl s
    | exact keeps_say_offer _ (by rfl) _ _ fun _ => by exact List.prefix_refl _
    | exact keeps_say s (.zoneInUseCounted _ _) rfl
    | exact keeps_say s (.zoneNotInUseCounted _ _) rfl

theorem zoneLoop_keeps : ∀ (l : List Nat) (s : St), Keeps e.opts s (zoneLoop e l s).1
  | [], s => .refl s
  | i :: is, s => keeps_andThen (checkZoneCount_keeps e s i) fun t => zoneLoop_keeps is t

theorem checkCounts_keeps (s : St) : Keeps e.opts s (checkCounts e s).1 :=
  (keeps_foldl _ (checkInodeCount_keeps e) _ s).trans (zoneLoop_keeps e _ _)

theorem check_keeps (fuel : Nat) (s : St) : Keeps e.opts s (check e fuel s).1 :=
  keeps_andThen ((keeps_bookkeeping ..).trans ((checkZones_keeps e _ _).trans (trav_keeps e _ _ _)))
    (checkCounts_keeps e)

end Counts

section Run

/-- `t` differs from `s` only in what the checker reads, counts and prints: the device,
`changed`, the `write_block` calls and the answers are those of `s`. -/
structure ReadsOnly (s t : St) : Prop where
  disk : t.disk = s.disk
  changed : t.changed = s.changed
  writes : t.writes = s.writes
  yes : anyYes t.out = anyYes s.out
  /-- What it prints records an error. -/
  quiet : t.errors = false → s.errors = false ∧ t.out = s.out

theorem ReadsOnly.refl (s : St) : ReadsOnly s s := ⟨rfl, rfl, rfl, rfl, fun h => ⟨h, rfl⟩⟩

theorem ReadsOnly.trans {a b c : St} (h1 : ReadsOnly a b) (h2 : ReadsOnly b c) : ReadsOnly a c :=
  ⟨h2.1.trans h1.1, h2.2.trans h1.2, h2.3.trans h1.3, h2.4.trans h1.4, fun h =>
    have h2' := h2.5 h
    have h1' := h1.5 h2'.1
    ⟨h1'.1, h2'.2.trans h1'.2⟩⟩

theorem readBlock_readsOnly (e : Env) (nr : Nat) (s : St) : ReadsOnly s (readBlock e nr s).2 := by
  unfold readBlock reportError St.say
  split_ifs
  · exact .refl s
  · exact .refl s
  · exact ⟨rfl, rfl, rfl, by simp [Msg.accepted], fun h => by simp at h⟩

theorem readTables_readsOnly {io : Io} {g : Geo} {s t : St} (h : readTables io g s = .ok t) :
    ReadsOnly s t := by
  unfold readTables at h
  dsimp only at h
  split_ifs at h
  all_goals cases h
  · exact ⟨rfl, rfl, rfl, by simp [St.say, Msg.accepted], fun h => by simp at h⟩
  · exact ⟨rfl, rfl, rfl, rfl, fun h => ⟨h, rfl⟩⟩

theorem getDirsize_readsOnly (e : Env) (s : St) : ReadsOnly s (getDirsize e s).2 := by
  unfold getDirsize
  dsimp only
  split <;> exact readBlock_readsOnly _ _ _

/-- `main` up to `check` writes nothing and asks nothing. -/
theorem setup_readsOnly (o : Opts) (io : Io) (s : St) :
    match setup o io s with
    | .error (t, _) => ReadsOnly s t
    | .ok (e, t) => e.opts = o ∧ ReadsOnly s t := by
  unfold setup
  cases readSuperblock io s.disk with
  | error m => exact .refl s
  | ok g =>
    dsimp only
    split_ifs
    · exact .refl s
    · cases ht : readTables io g s with
      | error m => exact .refl s
      | ok t =>
        have h := (readTables_readsOnly ht).trans (getDirsize_readsOnly ⟨o, io, g⟩ t)
        dsimp only
        split_ifs
        · exact h
        · exact ⟨rfl, h⟩

/-- What a run that accepts no repair leaves of the state `s` it checked: the `write_block`
calls, `changed`, the device but for the superblock in repair mode, the in-memory tables,
and the superblock buffer but for the `s_state` that `write_super_block` sets in repair
mode. -/
structure Untouched (o : Opts) (s r : St) : Prop where
  writes : r.writes = s.writes
  changed : r.changed = s.changed
  disk : ∀ p, p ≠ 1 ∨ o.repair = false → r.disk p = s.disk p
  ibuf : r.ibuf = s.ibuf
  imap : r.imap = s.imap
  zmap : r.zmap = s.zmap
  super : r.super = s.super ∨
    o.repair = true ∧
      r.super = s.super.set16 stateOffset (stateAfter (s.super.get16 stateOffset) r.errors)

theorem Frame.untouched {o : Opts} {s t : St} (fr : Frame s t) : Untouched o s t :=
  ⟨fr.writes, fr.changed, fun p _ => by rw [fr.disk], fr.ibuf, fr.imap, fr.zmap, .inl fr.super⟩

/-- The write-back of a pass that changed nothing: `write_super_block` in repair mode. -/
theorem Frame.untouched_writeSuperBlock {e : Env} {s t : St} (fr : Frame s t)
    (hr : e.opts.repair = true) : Untouched e.opts s (writeSuperBlock e t).1 := by
  rw [writeSuperBlock_fst]
  refine ⟨fr.writes, fr.changed, fun p hp => ?_, fr.ibuf, fr.imap, fr.zmap, .inr ⟨hr, ?_⟩⟩
  · have hp : p ≠ 1 := by simpa [hr] using hp
    split_ifs <;> simp [Function.update_noteq hp, fr.disk]
  · simp [fr.super]

theorem finish_untouched (e : Env) (fuel : Nat) (s : St) (hs : anyYes s.out = false)
    (hc : s.changed = false)
    (h : e.opts.repair = false ∨ anyYes (finish e fuel s).1.out = false) :
    Untouched e.opts s (finish e fuel s).1 := by
  have k := check_keeps e fuel s
  rw [finish_fst] at h ⊢
  generalize check e fuel s = c at k h ⊢
  obtain ⟨t, x⟩ := c
  have hy : anyYes t.out = false := by
    rcases h with h | h
    · rw [k.readOnly h, hs]
    · cases x <;> dsimp only at h <;> try exact h
      obtain ⟨d, hd⟩ := writeTables_fst e t
      split_ifs at h <;> simpa [hd, writeSuperBlock_fst] using h
  have fr : Frame s t := k.frame hy
  cases x <;> dsimp only
  · rw [if_neg (by simp [fr.changed, hc])]
    split_ifs with hr
    · exact fr.untouched_writeSuperBlock hr
    · exact fr.untouched
  all_goals exact fr.untouched

/-- A run that accepts no repair, read-only or with every question answered no, calls
`write_block` on no block, leaves `changed` clear and the device as it was but for the
superblock it rewrites in repair mode, and ends with the tables `read_tables` read. -/
theorem main_without_repair (o : Opts) (io : Io) (fuel : Nat) (disk : Nat → Block)
    (input : List Char)
    (h : o.repair = false ∨ anyYes (main o io fuel (St.start disk input)).1.out = false) :
    (main o io fuel (St.start disk input)).1.writes = [] ∧
      (main o io fuel (St.start disk input)).1.changed = false ∧
      (∀ p, p ≠ 1 ∨ o.repair = false → (main o io fuel (St.start disk input)).1.disk p = disk p) ∧
      ∀ e s₀, setup o io (St.start disk input) = .ok (e, s₀) →
        Untouched o s₀ (main o io fuel (St.start disk input)).1 := by
  have hs := setup_readsOnly o io (St.start disk input)
  unfold main at h ⊢
  generalize setup o io (St.start disk input) = r at hs h ⊢
  rcases r with ⟨t, x⟩ | ⟨e, s₀⟩
  · exact ⟨hs.writes, hs.changed, fun p _ => by rw [hs.disk]; rfl, fun _ _ h => by cases h⟩
  · obtain ⟨rfl, hs⟩ := hs
    have u := finish_untouched e fuel s₀ (by rw [hs.yes]; rfl) hs.changed h
    refine ⟨u.writes.trans hs.writes, u.changed.trans hs.changed, fun p hp => ?_, ?_⟩
    · rw [u.disk p hp, hs.disk]; rfl
    · rintro _ _ ⟨⟩
      exact u

set_option maxRecDepth 20000 in
/-- An interactive run on `danglingImage` whose operator answers no to removing the entry. -/
theorem main_without_repair_declined :
    (interactiveOpts.repair = false ∨
      anyYes (main interactiveOpts tinyIo 100 (St.start danglingImage ['n'])).1.out = false) ∧
    (main interactiveOpts tinyIo 100 (St.start danglingImage ['n'])).1.writes = [] ∧
    (main interactiveOpts tinyIo 100 (St.start danglingImage ['n'])).1.changed = false ∧
    (∀ p, p ≠ 1 ∨ interactiveOpts.repair = false →
      (main interactiveOpts tinyIo 100 (St.start danglingImage ['n'])).1.disk p =
        danglingImage p) ∧
    ∀ e s₀, setup interactiveOpts tinyIo (St.start danglingImage ['n']) = .ok (e, s₀) →
      Untouched interactiveOpts s₀
        (main interactiveOpts tinyIo 100 (St.start danglingImage ['n'])).1 :=
  have h : anyYes (main interactiveOpts tinyIo 100 (St.start danglingImage ['n'])).1.out =
      false := by decide
  ⟨.inr h, main_without_repair _ tinyIo 100 danglingImage ['n'] (.inr h)⟩

set_option maxRecDepth 20000 in
/-- With `-a`, `check_file` removes the entry naming inode 40 by writing block 5, yet
`changed` stays clear and the run exits 0. -/
theorem remove_entry_leaves_changed_clear :
    danglingImage 5 32 = 40 ∧
      (main automaticOpts tinyIo 100 (St.start danglingImage [])).1.disk 5 32 = 0 ∧
      (main automaticOpts tinyIo 100 (St.start danglingImage [])).1.writes = [5] ∧
      (main automaticOpts tinyIo 100 (St.start danglingImage [])).1.changed = false ∧
      (main automaticOpts tinyIo 100 (St.start danglingImage [])).2 = .code 0 := by
  decide

end Run

end MinixFsck
