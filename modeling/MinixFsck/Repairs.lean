import MinixFsck.Frame

/-! What the exit code says about the reports: without the 4 bit, every report that calls for a
repair was answered yes at once. -/
namespace MinixFsck

/-- A report that calls for a repair: every line the checks print but the `-l` listing, the
questions, and `get_inode`'s note on a mode that is none of the seven file types, which it
prints without setting `errors_uncorrected`. -/
def Msg.needsRepair : Msg → Bool
  | .oddMode .. | .listing .. | .question .. => false
  | _ => true

def Msg.isMarkedUnused : Msg → Bool
  | .markedUnused .. => true
  | _ => false

/-- Every report of the log that needs a repair, and that `x` does not let off, is followed
at once by a question answered yes. -/
def answered (x : Msg → Bool) : List Msg → Bool
  | [] => true
  | [m] => !m.needsRepair || x m
  | m :: m' :: l => (!m.needsRepair || x m || m'.accepted) && answered x (m' :: l)

theorem answered_append {x : Msg → Bool} : ∀ {a b : List Msg}, answered x a = true →
    answered x b = true → answered x (a ++ b) = true
  | [], _, _, hb => hb
  | [_], [], ha, _ => ha
  | [m], m' :: b, ha, hb => by
    simp only [answered] at ha
    simp [answered, ha, hb]
  | m :: m' :: a, b, ha, hb => by
    simp only [answered, Bool.and_eq_true] at ha
    have := answered_append ha.2 hb
    simp only [List.cons_append, answered, Bool.and_eq_true] at this ⊢
    exact ⟨ha.1, this⟩

theorem answered_of_quiet (x : Msg → Bool) :
    ∀ {l : List Msg}, (∀ m ∈ l, m.needsRepair = false) → answered x l = true
  | [], _ => rfl
  | [m], h => by simp [answered, h m (List.mem_singleton_self m)]
  | m :: m' :: l, h => by
    simp only [answered, h m (List.mem_cons_self _ _), Bool.not_false, Bool.true_or, Bool.true_and]
    exact answered_of_quiet x fun k hk => h k (List.mem_cons_of_mem _ hk)

/-- A report let off, then an answered log. -/
theorem answered_cons_of_letOff {x : Msg → Bool} {m : Msg} {l : List Msg} (hm : x m = true)
    (hl : answered x l = true) : answered x (m :: l) = true := by
  cases l with
  | nil => simp [answered, hm]
  | cons k l => simp [answered, hm, hl]

/-- A report and the question after it, answered yes. -/
theorem answered_report_yes (x : Msg → Bool) (m : Msg) (p : String) (d : Bool) :
    answered x [m, .question p d true] = true := by
  simp [answered, Msg.accepted, Msg.needsRepair]

/-- A log answered up to the reports `x` lets off, holding none of them, is answered. -/
theorem answered_mono {x : Msg → Bool} :
    ∀ {l : List Msg}, answered x l = true → (∀ m ∈ l, x m = false) →
      answered (fun _ => false) l = true
  | [], _, _ => rfl
  | [m], h, hx => by simpa [answered, hx m (List.mem_singleton_self m)] using h
  | m :: m' :: l, h, hx => by
    simp only [answered, Bool.and_eq_true] at h ⊢
    refine ⟨by simpa [hx m (List.mem_cons_self _ _)] using h.1,
      answered_mono h.2 fun k hk => hx k (List.mem_cons_of_mem _ hk)⟩

/-- The reports a run may leave unanswered for a while: `get_inode2`'s unmarked-inode report
on a version 2 file system without `-r`, whose `else errors_uncorrected = 1` belongs to the
question it never asks. -/
def letOff (e : Env) (m : Msg) : Bool := m.isMarkedUnused && e.geo.version2 && !e.opts.repair

/-- With no error recorded, every zone of `[FIRSTZONE, ZONES)` is counted at most once, and a
counted one is marked in `zone_map`. -/
def ZoneInv (g : Geo) (s : St) : Prop :=
  s.errors = false → ∀ z, g.firstzone ≤ z → z < g.zones →
    s.zcount z ≤ 1 ∧ (s.zcount z = 1 → zoneInUse g s z = true)

/-- With no error recorded, every inode reported unmarked and let off is in `[1, INODES]`,
counted, and still unmarked. -/
def PendingInv (e : Env) (s : St) : Prop :=
  s.errors = false → ∀ m ∈ s.out, letOff e m = true → ∃ nr p, m = .markedUnused nr p ∧
    1 ≤ nr ∧ nr ≤ e.geo.ninodes ∧ 1 ≤ s.icount nr ∧ s.imap nr = false

def Inv (e : Env) (s : St) : Prop := ZoneInv e.geo s ∧ PendingInv e s

/-- A stretch of the run from `s` to `s'`: errors are never cleared, counts never drop,
`inode_map` changes only on a yes, and from a state meeting the invariants the stretch keeps
them and adds a log part that is answered unless an error was recorded. -/
structure Answers (e : Env) (s s' : St) : Prop where
  errors : s'.errors = false → s.errors = false
  icount : ∀ n, s.icount n ≤ s'.icount n
  imap : e.opts.repair = false → s'.imap = s.imap
  run : Inv e s → Inv e s' ∧
    ∃ new, s'.out = s.out ++ new ∧ (s'.errors = false → answered (letOff e) new = true)

section Answers

variable {e : Env}

theorem Answers.refl (s : St) : Answers e s s :=
  ⟨id, fun _ => le_rfl, fun _ => rfl, fun h => ⟨h, [], by simp, fun _ => rfl⟩⟩

theorem Answers.trans {a b c : St} (h1 : Answers e a b) (h2 : Answers e b c) : Answers e a c where
  errors h := h1.errors (h2.errors h)
  icount n := Nat.le_trans (h1.icount n) (h2.icount n)
  imap h := (h2.imap h).trans (h1.imap h)
  run hi := by
    obtain ⟨hb, n1, e1, a1⟩ := h1.run hi
    obtain ⟨hc, n2, e2, a2⟩ := h2.run hb
    exact ⟨hc, n1 ++ n2, by rw [e2, e1, List.append_assoc],
      fun h => answered_append (a1 (h2.errors h)) (a2 h)⟩

theorem letOff_of_ne {m : Msg} (hm : m.isMarkedUnused = false) : letOff e m = false := by
  simp [letOff, hm]

/-- A stretch that only raises inode counts, changes `inode_map` only with `-r`, keeps both
invariants, and adds a log part that is answered unless an error was recorded. -/
theorem Answers.of_pending {s s' : St} (new : List Msg) (hout : s'.out = s.out ++ new)
    (hans : s'.errors = false → answered (letOff e) new = true)
    (herr : s'.errors = false → s.errors = false)
    (hic : ∀ n, s.icount n ≤ s'.icount n) (himap : e.opts.repair = false → s'.imap = s.imap)
    (hz : ZoneInv e.geo s → ZoneInv e.geo s') (hp : PendingInv e s → PendingInv e s') :
    Answers e s s' :=
  ⟨herr, hic, himap, fun hi => ⟨⟨hz hi.1, hp hi.2⟩, new, hout, hans⟩⟩

theorem letOff_repair {m : Msg} (h : letOff e m = true) : e.opts.repair = false := by
  simp only [letOff, Bool.and_eq_true, Bool.not_eq_true'] at h
  exact h.2

/-- The pending reports of `s` stay pending past a stretch that adds none, raises no count
down, and leaves `inode_map`. -/
theorem pendingInv_of_le {s s' : St} (new : List Msg) (hout : s'.out = s.out ++ new)
    (hm : ∀ m ∈ new, letOff e m = false) (herr : s'.errors = false → s.errors = false)
    (hic : ∀ n, s.icount n ≤ s'.icount n) (himap : e.opts.repair = false → s'.imap = s.imap) :
    PendingInv e s → PendingInv e s' := by
  intro hp he m hm' hl
  rw [hout, List.mem_append] at hm'
  rcases hm' with hm' | hm'
  · obtain ⟨nr, p, rfl, h1, h2, h3, h4⟩ := hp (herr he) m hm' hl
    exact ⟨nr, p, rfl, h1, h2, Nat.le_trans h3 (hic nr), by rw [himap (letOff_repair hl), h4]⟩
  · simp [hm m hm'] at hl

/-- A stretch that only raises inode counts, changes `inode_map` only with `-r`, keeps the
zone invariant, and adds answered messages, none of them let off. -/
theorem Answers.of_zones {s s' : St} (new : List Msg) (hout : s'.out = s.out ++ new)
    (hans : s'.errors = false → answered (letOff e) new = true)
    (hm : ∀ m ∈ new, letOff e m = false) (herr : s'.errors = false → s.errors = false)
    (hic : ∀ n, s.icount n ≤ s'.icount n) (himap : e.opts.repair = false → s'.imap = s.imap)
    (hz : ZoneInv e.geo s → ZoneInv e.geo s') : Answers e s s' :=
  .of_pending new hout hans herr hic himap hz (pendingInv_of_le new hout hm herr hic himap)

theorem zoneInv_of_eq {g : Geo} {s s' : St} (herr : s'.errors = false → s.errors = false)
    (hz : s'.zcount = s.zcount) (hzm : s'.zmap = s.zmap) : ZoneInv g s → ZoneInv g s' :=
  fun h he z h1 h2 => by simpa only [zoneInUse, hz, hzm] using h (herr he) z h1 h2

/-- A stretch that also leaves the zone counts and `zone_map` alone. -/
theorem Answers.quiet {s s' : St} (new : List Msg) (hout : s'.out = s.out ++ new)
    (hans : s'.errors = false → answered (letOff e) new = true)
    (hm : ∀ m ∈ new, letOff e m = false) (herr : s'.errors = false → s.errors = false)
    (hic : ∀ n, s.icount n ≤ s'.icount n) (himap : e.opts.repair = false → s'.imap = s.imap)
    (hz : s'.zcount = s.zcount) (hzm : s'.zmap = s.zmap) : Answers e s s' :=
  .of_zones new hout hans hm herr hic himap (zoneInv_of_eq herr hz hzm)

theorem answers_bookkeeping (s : St) (d : Nat) (ns : Block) (inp : List Char) (c : Bool)
    (ib : Block) (dk : Nat → Block) (w : List Nat) (sb : Block) :
    Answers e s { s with depth := d, names := ns, input := inp, changed := c, ibuf := ib,
                         disk := dk, writes := w, super := sb } :=
  .quiet [] (by simp) (fun _ => rfl) (by simp) id (fun _ => le_rfl) (fun _ => rfl) rfl rfl

theorem answers_withErrors (s : St) : Answers e s { s with errors := true } :=
  .quiet [] (by simp) (fun _ => rfl) (by simp) (by simp) (fun _ => le_rfl) (fun _ => rfl) rfl rfl

/-- A stretch that ends with an error recorded owes nothing. -/
theorem Answers.of_errors {s s' : St} (new : List Msg) (hout : s'.out = s.out ++ new)
    (he : s'.errors = true) (hic : ∀ n, s.icount n ≤ s'.icount n)
    (himap : e.opts.repair = false → s'.imap = s.imap) : Answers e s s' :=
  .of_pending new hout (by simp [he]) (by simp [he]) hic himap (fun _ h => by simp [he] at h)
    fun _ h => by simp [he] at h

/-- A report that records an error itself: past it nothing is owed. -/
theorem answers_say_error (s : St) (m : Msg) : Answers e s { s.say m with errors := true } :=
  .of_errors [m] rfl rfl (fun _ => le_rfl) fun _ => rfl

theorem answers_reportError (g : Geo) (m : Path → Msg) (s : St) :
    Answers e s (reportError g m s) :=
  answers_say_error s _

theorem answers_ask (p : String) (d : Bool) (s : St) : Answers e s (ask e.opts p d s).2 := by
  obtain ⟨⟨inp, hq⟩, -⟩ := ask_spec e.opts p d s
  rw [hq]
  exact .quiet _ rfl (fun _ => by simp [answered, Msg.needsRepair])
    (by simp [letOff, Msg.isMarkedUnused])
    (fun h => by simp at h; exact h.1) (fun _ => le_rfl) (fun _ => rfl) rfl rfl

/-- A report followed by its question: answered once the answer is yes, recorded otherwise. -/
theorem answers_say_ask (s : St) {m : Msg} (hm : letOff e m = false) (p : String)
    (d : Bool) : Answers e s (ask e.opts p d (s.say m)).2 := by
  obtain ⟨⟨inp, hq⟩, -⟩ := ask_spec e.opts p d (s.say m)
  rw [hq]
  refine .quiet [m, .question p d (ask e.opts p d (s.say m)).1] (by simp [St.say]) (fun h => ?_)
    (fun k hk => ?_) (fun h => by simp [St.say] at h; exact h.1) (fun _ => le_rfl) (fun _ => rfl)
    rfl rfl
  · have ha : (ask e.opts p d (s.say m)).1 = true := by simp [St.say] at h; exact h.2
    rw [ha]
    exact answered_report_yes _ _ _ _
  · simp only [List.mem_cons, List.mem_singleton, List.not_mem_nil, or_false] at hk
    rcases hk with rfl | rfl
    exacts [hm, by simp [letOff, Msg.isMarkedUnused]]

/-- A yes from `ask` needs `-r` or `-a`. -/
theorem ask_repair {p : String} {d : Bool} {s : St} (h : (ask e.opts p d s).1 = true) :
    e.opts.repair = true := by
  cases hr : e.opts.repair
  · simp [(ask_spec e.opts p d s).2 hr] at h
  · rfl

/-- A report, its question, and the fix applied on a yes. -/
theorem answers_say_offer (s : St) {m : Msg} (hm : letOff e m = false) (p : String)
    (d : Bool) {fix : St → St} (hfix : e.opts.repair = true → ∀ t, Answers e t (fix t)) :
    Answers e s (offer e.opts p d fix (s.say m)) := by
  have h := answers_say_ask (e := e) s hm p d
  unfold offer
  dsimp only
  split_ifs with ha
  · exact h.trans (hfix (ask_repair ha) _)
  · exact h

/-- A fix under `-r`: the log, the errors and the zone invariant as they were. -/
theorem Answers.of_repair {s s' : St} (hr : e.opts.repair = true) (hout : s'.out = s.out)
    (herr : s'.errors = s.errors) (hic : ∀ n, s.icount n ≤ s'.icount n)
    (hz : ZoneInv e.geo s → ZoneInv e.geo s') : Answers e s s' := by
  have hl : ∀ m, letOff e m = false := fun m => by simp [letOff, hr]
  refine ⟨fun h => herr ▸ h, hic, fun h => by simp [hr] at h, fun hi => ⟨⟨hz hi.1, ?_⟩,
    [], by simp [hout], fun _ => rfl⟩⟩
  intro _ m _ h
  simp [hl m] at h

theorem answers_markInode (hr : e.opts.repair = true) (t : St) (x : Nat) :
    Answers e t (t.markInode x) :=
  .of_repair hr rfl rfl (fun _ => le_rfl) fun h => h

theorem answers_unmarkInode (hr : e.opts.repair = true) (t : St) (x : Nat) :
    Answers e t (t.unmarkInode x) :=
  .of_repair hr rfl rfl (fun _ => le_rfl) fun h => h

theorem answers_markZone (t : St) (x : Nat) : Answers e t (markZone e.geo t x) := by
  refine .of_zones [] (by simp [markZone]) (fun _ => rfl) (by simp) id (fun _ => le_rfl)
    (fun _ => rfl) fun h he z h1 h2 => ?_
  obtain ⟨hc, hu⟩ := h he z h1 h2
  refine ⟨hc, fun h1 => ?_⟩
  simp only [zoneInUse, markZone, Function.update_apply] at hu ⊢
  split_ifs
  · rfl
  · exact hu h1

theorem Answers.errors_true {s s' : St} (h : Answers e s s') (he : s.errors = true) :
    s'.errors = true := by
  cases h' : s'.errors
  · simp [h.errors h'] at he
  · rfl

theorem answers_foldl {α : Type} (f : St → α → St) (hf : ∀ s a, Answers e s (f s a)) :
    ∀ (l : List α) (s : St), Answers e s (l.foldl f s)
  | [], s => .refl s
  | a :: l, s => (hf s a).trans (answers_foldl f hf l _)

theorem answers_andThen {s : St} {r : St × Outcome} {k : St → St × Outcome} (hr : Answers e s r.1)
    (hk : ∀ t, Answers e t (k t).1) : Answers e s (andThen r k).1 :=
  andThen_rel (R := Answers e) Answers.trans hr hk

end Answers

section Zones

variable (e : Env)

theorem readBlock_answers (nr : Nat) (s : St) : Answers e s (readBlock e nr s).2 := by
  unfold readBlock
  split_ifs
  · exact .refl s
  · exact .refl s
  · exact answers_reportError _ .readBad s

theorem writeBlock_answers (nr : Nat) (b : Block) (s : St) : Answers e s (writeBlock e nr b s) := by
  have h : Answers e s { s with writes := s.writes ++ [nr] } := answers_bookkeeping ..
  unfold writeBlock
  split_ifs
  · exact h
  · exact h.trans (answers_say_error _ .writeIgnored)
  · exact h.trans (answers_bookkeeping ..)
  · exact h.trans (answers_reportError _ .writeBad _)

theorem checkZoneNr_answers (nr : Nat) (s : St) : Answers e s (checkZoneNr e nr s).2.2 := by
  unfold checkZoneNr
  split_ifs <;> simp only []
  all_goals first | exact .refl s | exact answers_say_ask _ (by rfl) _ _

theorem slotNr_answers (ino k : Nat) (s : St) : Answers e s (slotNr e ino k s).2 := by
  unfold slotNr
  dsimp only
  split_ifs
  · exact (checkZoneNr_answers e _ s).trans (answers_bookkeeping ..)
  · exact checkZoneNr_answers e _ s

theorem indirect_answers (block i : Nat) (s : St) : Answers e s (indirect e block i s).2 := by
  unfold indirect
  dsimp only
  have h := (readBlock_answers e block s).trans
    (checkZoneNr_answers e (e.geo.entry (readBlock e block s).1 i) _)
  split_ifs
  · exact h.trans (writeBlock_answers e _ _ _)
  · exact h

theorem mapBlock_answers (ino blknr : Nat) (s : St) : Answers e s (mapBlock e ino blknr s).2 := by
  unfold mapBlock
  dsimp only
  split_ifs
  · exact slotNr_answers e _ _ s
  · exact (slotNr_answers e _ _ s).trans (indirect_answers e _ _ _)
  · exact ((slotNr_answers e _ _ s).trans (indirect_answers e _ _ _)).trans (indirect_answers e _ _ _)

theorem mapBlock2_answers (ino blknr : Nat) (s : St) :
    Answers e s (mapBlock2 e ino blknr s).2 := by
  unfold mapBlock2
  dsimp only
  split_ifs
  · exact slotNr_answers e _ _ s
  · exact (slotNr_answers e _ _ s).trans (indirect_answers e _ _ _)
  · exact ((slotNr_answers e _ _ s).trans (indirect_answers e _ _ _)).trans (indirect_answers e _ _ _)
  · exact (((slotNr_answers e _ _ s).trans (indirect_answers e _ _ _)).trans
      (indirect_answers e _ _ _)).trans (indirect_answers e _ _ _)

theorem usedBefore_answers (block : Nat) (s : St) : Answers e s (usedBefore e block s).2 := by
  unfold usedBefore
  split_ifs
  · exact answers_say_ask _ (by rfl) _ _
  · exact .refl s

/-- A pointer `add_zone` keeps was not counted before, unless an error was recorded. -/
theorem usedBefore_fresh (block : Nat) (s : St) (h : (usedBefore e block s).1 = true) :
    (usedBefore e block s).2.errors = true ∨ (usedBefore e block s).2.zcount block = 0 := by
  unfold usedBefore at *
  split_ifs at h ⊢ with hz
  · obtain ⟨⟨_, hq⟩, -⟩ := ask_spec e.opts "Clear" true (s.say (.usedBefore (getCurrentName e.geo s)))
    simp only [Bool.not_eq_true'] at h
    left
    rw [hq, h]
    simp
  · exact .inr (by simpa using hz)

/-- `countZone`'s offer: after it, with no error recorded, the zone is marked. -/
theorem offer_markZone (x : Nat) (m : Msg) (s : St) :
    let t := offer e.opts "Correct" true (markZone e.geo · x) (s.say m)
    t.zcount = s.zcount ∧ (t.errors = false → zoneInUse e.geo t x = true) := by
  obtain ⟨⟨_, hq⟩, -⟩ := ask_spec e.opts "Correct" true (s.say m)
  unfold offer
  dsimp only
  cases ha : (ask e.opts "Correct" true (s.say m)).1
  · rw [if_neg Bool.false_ne_true, hq, ha]
    exact ⟨rfl, fun h => by simp at h⟩
  · rw [if_pos rfl, hq]
    exact ⟨rfl, fun _ => by simp [markZone, zoneInUse]⟩

/-- Counting a zone not counted before keeps the zone invariant: the count becomes 1 and the
zone is marked, unless an error was recorded. -/
theorem countZone_answers (block : Nat) (s : St) (h : s.errors = true ∨ s.zcount block = 0) :
    Answers e s (countZone e block s) := by
  unfold countZone
  dsimp only
  generalize ht : (if zoneInUse e.geo s block = true then s else
    offer e.opts "Correct" true (markZone e.geo · block)
      (s.say (.blockNotInUse block (getCurrentName e.geo s)))) = t
  have h1 : Answers e s t := by
    subst ht
    split_ifs
    · exact .refl s
    · exact answers_say_offer _ (by rfl) _ _ fun _ t => answers_markZone t block
  have h2 : t.zcount = s.zcount ∧ (t.errors = false → zoneInUse e.geo t block = true) := by
    subst ht
    split_ifs with hu
    · exact ⟨rfl, fun _ => hu⟩
    · exact offer_markZone e block _ s
  refine h1.trans (.of_zones [] (by simp) (fun _ => rfl) (by simp) id (fun _ => le_rfl)
    (fun _ => rfl) fun hz he z hz1 hz2 => ?_)
  have hc : t.zcount block = 0 := by
    rw [h2.1]
    exact h.resolve_left (by rw [h1.errors he]; simp)
  by_cases hzb : z = block
  · subst hzb
    simp only [Function.update_same, hc, bump, zoneInUse] at hz ⊢
    exact ⟨by decide, fun _ => h2.2 he⟩
  · simpa only [Function.update_noteq hzb, zoneInUse] using hz he z hz1 hz2

theorem addZone_answers (znr : Nat) (s : St) : Answers e s (addZone e znr s).2.2 := by
  unfold addZone
  dsimp only
  have h0 := checkZoneNr_answers e znr s
  split_ifs with hb hk
  · exact h0
  · exact (h0.trans (usedBefore_answers e _ _)).trans
      (countZone_answers e _ _ (usedBefore_fresh e _ _ hk))
  · exact h0.trans (usedBefore_answers e _ _)

theorem walkEntries_answers (g : Geo) {f : Nat → St → Bool × St}
    (hf : ∀ z t, Answers e t (f z t).2) :
    ∀ (is : List Nat) (acc : Block × Bool × St), Answers e acc.2.2 (walkEntries g f is acc).2.2
  | [], _ => .refl _
  | i :: is, (blk, chg, s) => by
    simp only [walkEntries]
    have h := hf (g.entry blk i) s
    split_ifs
    · exact h.trans (walkEntries_answers g hf is (g.clearEntry blk i, true, _))
    · exact h.trans (walkEntries_answers g hf is (blk, chg, _))

theorem addZoneTree_answers : ∀ (level znr : Nat) (s : St), Answers e s (addZoneTree e level znr s).2
  | 0, znr, s => addZone_answers e znr s
  | level + 1, znr, s => by
    have h0 := addZone_answers e znr s
    simp only [addZoneTree]
    generalize addZone e znr s = r at h0 ⊢
    obtain ⟨block, c, t⟩ := r
    have k := (readBlock_answers e block t).trans (walkEntries_answers e e.geo
      (addZoneTree_answers level) (List.range e.geo.fanout) ((readBlock e block t).1, false, _))
    dsimp only at h0 ⊢
    split_ifs
    · exact h0
    · exact (h0.trans k).trans (writeBlock_answers e _ _ _)
    · exact h0.trans k

theorem zoneSlot_answers (i : Nat) (s : St) (k level : Nat) :
    Answers e s (zoneSlot e i s k level) := by
  have h := addZoneTree_answers e level (e.geo.zoneOf s.ibuf i k) s
  unfold zoneSlot
  simp only []
  split_ifs
  · exact h.trans (answers_bookkeeping ..)
  · exact h

theorem checkZones_answers (i : Nat) (s : St) : Answers e s (checkZones e i s) := by
  unfold checkZones
  dsimp only
  split_ifs
  · exact .refl s
  · exact .refl s
  · exact .refl s
  · exact (answers_foldl _ (fun t k => zoneSlot_answers e i t k 0) _ s).trans
      (answers_foldl _ (fun t j => zoneSlot_answers e i t _ _) _ _)

end Zones

section Traverse

variable (e : Env)

theorem countInode_cases (s : St) (nr : Nat) :
    countInode s nr = { s.say .countTooBig with errors := true } ∨
      countInode s nr = { s with icount := Function.update s.icount nr (s.icount nr + 1) } := by
  unfold countInode
  split_ifs
  · exact .inl rfl
  · exact .inr rfl

theorem countInode_answers (s : St) (nr : Nat) : Answers e s (countInode s nr) := by
  rcases countInode_cases s nr with h | h <;> rw [h]
  · exact answers_say_error s _
  · refine .quiet [] (by simp) (fun _ => rfl) (by simp) id (fun n => ?_) (fun _ => rfl) rfl rfl
    by_cases hn : n = nr
    · subst hn; simp
    · simp [Function.update_noteq hn]

theorem classify_cases (nr : Nat) (s : St) :
    classify e nr s = s ∨ ∃ p md, classify e nr s = s.say (.oddMode p md) := by
  unfold classify
  dsimp only
  split_ifs
  · exact .inl rfl
  · exact .inr ⟨_, _, rfl⟩

/-- The note on an odd mode calls for no repair. -/
theorem classify_answers (nr : Nat) (s : St) : Answers e s (classify e nr s) := by
  rcases classify_cases e nr s with h | ⟨p, md, h⟩ <;> rw [h]
  · exact .refl s
  · exact .quiet [_] rfl (fun _ => rfl) (by simp [letOff, Msg.isMarkedUnused]) id (fun _ => le_rfl)
      (fun _ => rfl) rfl rfl

/-- `get_inode2`'s unmarked-inode report without `-r`: no question follows, and the inode
stays pending, counted and unmarked, for `check_counts2`. -/
theorem markedUnused_pending {nr : Nat} {s : St} (p : Path) (hv : e.geo.version2 = true)
    (hr : e.opts.repair = false) (h1 : 1 ≤ nr) (h2 : nr ≤ e.geo.ninodes) (hm : s.imap nr = false) :
    Answers e s (countInode (classify e nr (s.say (.markedUnused nr p))) nr) := by
  have hl : letOff e (.markedUnused nr p) = true := by simp [letOff, Msg.isMarkedUnused, hv, hr]
  obtain ⟨l, ht, hl1⟩ : ∃ l, (classify e nr (s.say (.markedUnused nr p))) =
      { s with out := s.out ++ .markedUnused nr p :: l } ∧
      ∀ m ∈ l, m.needsRepair = false ∧ letOff e m = false := by
    rcases classify_cases e nr (s.say (.markedUnused nr p)) with h | ⟨q, md, h⟩ <;> rw [h]
    · exact ⟨[], by simp [St.say], by simp⟩
    · exact ⟨[.oddMode q md], by simp [St.say],
        by simp [Msg.needsRepair, letOff, Msg.isMarkedUnused]⟩
  rw [ht]
  rcases countInode_cases { s with out := s.out ++ .markedUnused nr p :: l } nr with h | h <;> rw [h]
  · exact .of_errors (.markedUnused nr p :: l ++ [.countTooBig]) (by simp [St.say]) rfl
      (fun _ => le_rfl) fun _ => rfl
  · have hic : ∀ n, s.icount n ≤ Function.update s.icount nr (s.icount nr + 1) n := fun n => by
      by_cases hn : n = nr
      · subst hn; simp
      · simp [Function.update_noteq hn]
    refine .of_pending (.markedUnused nr p :: l) rfl (fun _ => ?_) id hic (fun _ => rfl)
      (zoneInv_of_eq id rfl rfl) fun hp he m hm' hlm => ?_
    · exact answered_cons_of_letOff hl (answered_of_quiet _ fun m hm => (hl1 m hm).1)
    · simp only [List.mem_append, List.mem_cons] at hm'
      rcases hm' with hm' | rfl | hm'
      · obtain ⟨n, q, rfl, k1, k2, k3, k4⟩ := hp he _ hm' hlm
        exact ⟨n, q, rfl, k1, k2, Nat.le_trans k3 (hic n), k4⟩
      · exact ⟨nr, p, rfl, h1, h2, by simp, hm⟩
      · simp [(hl1 m hm').2] at hlm

theorem letOff_of_repair {m : Msg} (hr : e.opts.repair = true) : letOff e m = false := by
  simp [letOff, hr]

/-- `get_inode`: without `-r` its unmarked-inode report records the error at once. -/
theorem getInode_answers (nr : Nat) (s : St) :
    Answers e s (getInode e nr s).2 := by
  unfold getInode getInodeWith
  dsimp only
  split_ifs
  · exact .refl s
  · exact countInode_answers e s nr
  · exact (classify_answers e nr s).trans (countInode_answers e _ nr)
  · refine (Answers.trans ?_ (classify_answers e nr _)).trans (countInode_answers e _ nr)
    unfold unusedInode
    split_ifs with hr
    · exact answers_say_offer _ (letOff_of_repair e hr) _ _ fun hr t => answers_markInode hr t nr
    · exact answers_say_error s _

theorem getInode2_answers (hv : e.geo.version2 = true) (nr : Nat) (s : St) :
    Answers e s (getInode2 e nr s).2 := by
  unfold getInode2 getInodeWith
  dsimp only
  split_ifs with h0 hc him
  · exact .refl s
  · exact countInode_answers e s nr
  · exact (classify_answers e nr s).trans (countInode_answers e _ nr)
  · unfold unusedInode2
    split_ifs with hr
    · refine (Answers.trans ?_ (classify_answers e nr _)).trans (countInode_answers e _ nr)
      have h := answers_say_ask s (m := .markedUnused nr (getCurrentName e.geo s))
        (letOff_of_repair e hr) "Mark in use" true
      dsimp only
      split_ifs
      · exact h.trans (answers_markInode hr _ nr)
      · exact h.trans (answers_withErrors _)
    · exact markedUnused_pending e _ hv (by simpa using hr) (by omega) (by omega) (by simpa using him)

theorem readEntry_answers {mb : Env → Nat → Nat → St → Nat × St}
    (hmb : ∀ ino b s, Answers e s (mb e ino b s).2) (dir offset : Nat) (s : St) :
    Answers e s (readEntry mb e dir offset s).2.2 := by
  unfold readEntry
  simp only []
  have h := (hmb dir (offset / blockSize) s).trans
    (readBlock_answers e (mb e dir (offset / blockSize) s).1 _)
  split_ifs
  · exact h.trans (answers_say_offer _ (by rfl) _ _ fun _ t => writeBlock_answers e _ _ t)
  · exact h

theorem dotEntries_answers (offset : Nat) (found : Bool) (name : List UInt8) (s : St) :
    Answers e s (dotEntries e.geo offset found name s).2 := by
  have h1 := answers_reportError (e := e) e.geo .dotNotFirst
  have h2 := answers_reportError (e := e) e.geo .dotdotNotSecond
  rcases dotEntries_cases e.geo offset found name s with h | h | h | h <;> rw [h]
  exacts [.refl s, h1 s, h2 s, (h1 s).trans (h2 _)]

theorem listEntry_answers (ino : Nat) (s : St) : Answers e s (listEntry e ino s) := by
  unfold listEntry
  dsimp only
  split
  · exact .quiet [_] rfl (fun _ => rfl) (by simp [letOff, Msg.isMarkedUnused]) id (fun _ => le_rfl)
      (fun _ => rfl) rfl rfl
  · exact .refl s

theorem pushName_answers (s : St) (name : List UInt8) : Answers e s (pushName s name) :=
  answers_bookkeeping ..

variable {ops : FileOps} (hmb : ∀ ino b s, Answers e s (ops.mapBlock e ino b s).2)
  (hgi : ∀ nr s, Answers e s (ops.getInode e nr s).2) (hpush : ∀ t n, Answers e t (ops.push t n))

include hmb hgi in
theorem fetchEntry_answers (dir offset : Nat) (s : St) :
    Answers e s (fetchEntry ops e dir offset s).2 := by
  have h1 := readEntry_answers e hmb dir offset s
  unfold fetchEntry
  generalize readEntry ops.mapBlock e dir offset s = r at h1 ⊢
  obtain ⟨ino, name, t⟩ := r
  exact (((h1.trans (pushName_answers e t name)).trans (hgi ino _)).trans
    (answers_bookkeeping ..)).trans (dotEntries_answers ..)

include hpush in
theorem enterEntry_answers (ino : Nat) (name : List UInt8) (s : St) :
    Answers e s (enterEntry ops e ino name s) :=
  ((hpush s name).trans (listEntry_answers e ino _)).trans (checkZones_answers e ino _)

include hmb hgi hpush in
theorem checkFileWith_answers {rc : Nat → St → St × Outcome}
    (hrc : ∀ i t, Answers e t (rc i t).1) (dir offset : Nat) (s : St) :
    Answers e s (checkFileWith ops e rc dir offset s).1 := by
  have h := fetchEntry_answers e hmb hgi dir offset s
  unfold checkFileWith
  generalize fetchEntry ops e dir offset s = r at h ⊢
  obtain ⟨_ | ⟨ino, name⟩, t⟩ := r
  · exact h
  · have h := h.trans (enterEntry_answers e hpush ino name t)
    dsimp only
    split_ifs
    · exact answers_andThen (h.trans (hrc ino _)) fun _ => answers_bookkeeping ..
    · exact h.trans (answers_bookkeeping ..)

omit hmb hgi hpush in
theorem opsOf_answers :
    (∀ ino b s, Answers e s ((opsOf e.geo).mapBlock e ino b s).2) ∧
    (∀ nr s, Answers e s ((opsOf e.geo).getInode e nr s).2) ∧
    (∀ t n, Answers e t ((opsOf e.geo).push t n)) := by
  unfold opsOf
  split
  · exact ⟨mapBlock2_answers e, getInode2_answers e (by assumption), fun _ _ => answers_bookkeeping ..⟩
  · exact ⟨mapBlock_answers e, getInode_answers e, pushName_answers e⟩

omit hmb hgi hpush in
theorem trav_answers : ∀ (n : Nat) (c : Call) (s : St), Answers e s (trav e n c s).1
  | 0, _, s => .refl s
  | n + 1, .dir ino, s => by
    simp only [trav]
    split_ifs
    · exact .refl s
    · refine .trans ?_ (trav_answers n _ _)
      unfold sizeCheck
      split_ifs
      · exact answers_reportError _ .dirTooSmall s
      · exact .refl s
  | n + 1, .loop ino offset, s => by
    obtain ⟨hmb, hgi, hpush⟩ := opsOf_answers e
    simp only [trav]
    split_ifs
    · exact answers_andThen (checkFileWith_answers e hmb hgi hpush
        (fun i t => trav_answers n (.dir i) t) ino offset s) fun _ => trav_answers n _ _
    · exact .refl s

end Traverse

section Counts

variable (e : Env)

theorem modeCheck_answers (s : St) (i : Nat) : Answers e s (modeCheck e s i) := by
  unfold modeCheck
  split_ifs
  · exact answers_say_offer _ (by rfl) _ _ fun _ _ => answers_bookkeeping ..
  · exact .refl s

theorem countCheck_answers (s : St) (i : Nat) : Answers e s (countCheck e s i) := by
  unfold countCheck
  dsimp only
  split_ifs
  · exact .refl s
  · exact answers_say_offer _ (by rfl) _ _ fun hr t => answers_unmarkInode hr t i
  all_goals
    first
    | exact answers_say_offer _ (by rfl) _ _ fun _ _ => answers_bookkeeping ..
    | exact .refl s
    | exact (answers_say_offer _ (by rfl) _ _ fun hr t => answers_markInode hr t i).trans
        (answers_say_offer _ (by rfl) _ _ fun _ _ => answers_bookkeeping ..)
    | exact answers_say_offer _ (by rfl) _ _ fun hr t => answers_markInode hr t i

theorem checkInodeCount_answers (s : St) (i : Nat) : Answers e s (checkInodeCount e s i) :=
  (modeCheck_answers e s i).trans (countCheck_answers e _ i)

/-- Unmarking a zone of `[FIRSTZONE, ZONES)` that no file counted keeps the zone invariant:
the bits of two such zones differ. -/
theorem answers_unmarkZone (t : St) {i : Nat} (h1 : e.geo.firstzone ≤ i) (h2 : i < e.geo.zones)
    (hz : t.zcount i = 0) : Answers e t (unmarkZone e.geo t i) := by
  refine .of_zones [] (by simp [unmarkZone]) (fun _ => rfl) (by simp) id (fun _ => le_rfl)
    (fun _ => rfl) fun h he z hz1 hz2 => ?_
  by_cases hzi : z = i
  · subst hzi
    simp [unmarkZone, hz]
  · have hb : zoneBit e.geo z ≠ zoneBit e.geo i := by unfold zoneBit; omega
    simpa only [zoneInUse, unmarkZone, Function.update_noteq hb] using h he z hz1 hz2

/-- One zone of `check_counts`: the "counted=" lines never come while the zone invariant holds
with no error recorded. -/
theorem checkZoneCount_answers (s : St) {i : Nat} (h1 : e.geo.firstzone ≤ i)
    (h2 : i < e.geo.zones) : Answers e s (checkZoneCount e s i).1 := by
  unfold checkZoneCount
  dsimp only
  by_cases heq : (if zoneInUse e.geo s i then 1 else 0) = s.zcount i
  · rw [if_pos heq]
    exact .refl s
  rw [if_neg heq]
  by_cases hz : s.zcount i = 0
  · rw [if_pos hz]
    split
    · exact .refl s
    · exact .refl s
    · have h := answers_say_ask (e := e) s (m := .zoneNoFile i) (by rfl) "Unmark" true
      obtain ⟨⟨_, hq⟩, -⟩ := ask_spec e.opts "Unmark" true (s.say (.zoneNoFile i))
      unfold offer
      dsimp only
      split_ifs
      · exact h.trans (answers_unmarkZone e _ h1 h2 (by rw [hq]; exact hz))
      · exact h
  rw [if_neg hz]
  refine ⟨id, fun _ => le_rfl, fun _ => rfl, fun hi => ⟨⟨zoneInv_of_eq id rfl rfl hi.1,
    pendingInv_of_le [_] rfl (fun m hm => by rw [List.mem_singleton.1 hm]; split <;> rfl) id
      (fun _ => le_rfl) (fun _ => rfl) hi.2⟩, [_], rfl, fun he => absurd ?_ heq⟩⟩
  obtain ⟨hle, hin⟩ := hi.1 he i h1 h2
  have h1 : s.zcount i = 1 := by omega
  rw [hin h1, h1, if_pos rfl]

theorem zoneLoop_answers : ∀ (is : List Nat) (s : St),
    (∀ i ∈ is, e.geo.firstzone ≤ i ∧ i < e.geo.zones) → Answers e s (zoneLoop e is s).1
  | [], s, _ => .refl s
  | i :: is, s, h => by
    obtain ⟨h1, h2⟩ := h i (List.mem_cons_self _ _)
    exact answers_andThen (checkZoneCount_answers e s h1 h2)
      fun t => zoneLoop_answers is t fun j hj => h j (List.mem_cons_of_mem _ hj)

theorem checkCounts_answers (s : St) : Answers e s (checkCounts e s).1 :=
  (answers_foldl _ (checkInodeCount_answers e) _ s).trans
    (zoneLoop_answers e _ _ fun i hi => by simp only [List.mem_range'_1] at hi; omega)

/-- Without `-r` every question is answered no, and records an error. -/
theorem offer_errors (hr : e.opts.repair = false) (p : String) (d : Bool) (fix : St → St)
    (s : St) : (offer e.opts p d fix s).errors = true := by
  obtain ⟨⟨_, hq⟩, ha⟩ := ask_spec e.opts p d s
  unfold offer
  simp only [ha hr, if_neg Bool.false_ne_true, hq, Bool.not_false, Bool.or_true]

/-- An inode counted by the traversal but unmarked in `inode_map`: without `-r`,
`check_counts` records an error on it. -/
theorem checkInodeCount_errors (hr : e.opts.repair = false) {s : St} {i : Nat}
    (hc : 1 ≤ s.icount i) (hm : s.imap i = false) : (checkInodeCount e s i).errors = true := by
  have hmc := modeCheck_answers e s i
  have hc' : (modeCheck e s i).icount i ≠ 0 := by
    have := hmc.icount i
    omega
  have hm' : (modeCheck e s i).imap i = false := by rw [hmc.imap hr, hm]
  unfold checkInodeCount countCheck
  simp only [if_neg hc', hm', Bool.false_eq_true, if_false]
  split_ifs <;> exact offer_errors e hr _ _ _ _

end Counts

section Run

variable (e : Env)

/-- Without `-r`, an inode of the loop that is counted but unmarked when the loop comes to
it leaves an error recorded. -/
theorem foldl_checkInodeCount_errors (hr : e.opts.repair = false) {nr : Nat} :
    ∀ (l : List Nat) (s : St), nr ∈ l → 1 ≤ s.icount nr → s.imap nr = false →
      (l.foldl (checkInodeCount e) s).errors = true
  | i :: is, s, hmem, hc, hm => by
    have h := answers_foldl (e := e) _ (checkInodeCount_answers e) is (checkInodeCount e s i)
    rcases List.mem_cons.1 hmem with rfl | hmem
    · exact h.errors_true (checkInodeCount_errors e hr hc hm)
    · have hi := checkInodeCount_answers e s i
      exact foldl_checkInodeCount_errors hr is _ hmem (by rw [checkInodeCount_icount]; exact hc)
        (by rw [hi.imap hr]; exact hm)

/-- A pass that ends normally with no error recorded has answered every report, from a start
that printed nothing. -/
theorem check_answered {fuel : Nat} {s₀ t : St} (hq : s₀.errors = false → s₀.out = [])
    (hc : check e fuel s₀ = (t, .ok)) (he : t.errors = false) :
    answered (fun _ => false) t.out = true := by
  let z : St := { s₀ with icount := fun _ => 0, zcount := fun _ => 0 }
  have hz : Inv e z := by
    refine ⟨fun _ x _ _ => ⟨Nat.zero_le 1, nofun⟩, fun h m hm => ?_⟩
    simp [z, hq h] at hm
  unfold check traverse at hc
  generalize htr : trav e fuel (.dir rootIno) (traverseStart e s₀) = r at hc
  obtain ⟨t₁, o⟩ := r
  cases o <;> simp only [andThen_ok, andThen_spent, andThen_fatal, Prod.mk.injEq, reduceCtorEq,
    and_false] at hc
  have hA : Answers e z t₁ := (checkZones_answers e rootIno z).trans
    (by simpa only [htr] using trav_answers e fuel (.dir rootIno) (traverseStart e s₀))
  have hB : Answers e t₁ t := by simpa only [hc] using checkCounts_answers e t₁
  obtain ⟨⟨-, hp⟩, new, hout, hans⟩ := (hA.trans hB).run hz
  have hnew : t.out = new := by simpa [z, hq ((hA.trans hB).errors he)] using hout
  rw [hnew]
  refine answered_mono (hans he) fun m hm => ?_
  cases hl : letOff e m
  · rfl
  obtain ⟨nr, p, rfl, h1, h2, hc1, hm1⟩ := hp he m (hnew ▸ hm) hl
  have hr := letOff_repair hl
  have hic : t.icount = t₁.icount := by simpa only [hc] using checkCounts_icount e t₁
  have hf := foldl_checkInodeCount_errors e hr (List.range' 1 e.geo.ninodes) t₁
    (by simp only [List.mem_range'_1]; omega) (hic ▸ hc1) (hB.imap hr ▸ hm1)
  have hz := (zoneLoop_answers e (List.range' e.geo.firstzone (e.geo.zones - e.geo.firstzone)) _
    fun i hi => by simp only [List.mem_range'_1] at hi; omega).errors_true hf
  have heq : (checkCounts e t₁).1 = t := by rw [hc]
  unfold checkCounts at heq
  rw [heq] at hz
  simp [hz] at he

end Run

/-- `main` stops before `check` with a return code only at the clean-state gate, in the state
it started from. -/
theorem setup_code {o : Opts} {io : Io} {s t : St} {c : Nat}
    (h : setup o io s = .error (t, .code c)) : t = s := by
  unfold setup at h
  split at h
  · cases h
  · dsimp only at h
    split_ifs at h
    · cases h
      rfl
    · split at h
      · cases h
      · split_ifs at h
        cases h

/-- A run that ends with a return code below 4 passed `check`, and the write-back kept the
log and the clear error flag `check` ended with. -/
theorem finish_code {e : Env} {fuel c : Nat} {s : St} (h : (finish e fuel s).2 = .code c)
    (hc : c < 4) : ∃ t, check e fuel s = (t, .ok) ∧ (finish e fuel s).1.out = t.out ∧
      t.errors = false := by
  unfold finish at h ⊢
  generalize check e fuel s = r at h ⊢
  obtain ⟨t, _ | _ | m⟩ := r
  · have hw : ∀ w : St × Option String,
        w = (if t.changed then writeTables e t else if e.opts.repair then writeSuperBlock e t
          else (t, none)) → w.1.out = t.out ∧ w.1.errors = t.errors := by
      rintro w rfl
      split_ifs
      · obtain ⟨d, hd⟩ := writeTables_fst e t
        rw [hd, writeSuperBlock_fst]
        exact ⟨rfl, rfl⟩
      · rw [writeSuperBlock_fst]
        exact ⟨rfl, rfl⟩
      · exact ⟨rfl, rfl⟩
    obtain ⟨hout, herr⟩ := hw _ rfl
    dsimp only at h ⊢
    generalize (if t.changed then writeTables e t else if e.opts.repair then
      writeSuperBlock e t else (t, none)) = w at h hout herr ⊢
    obtain ⟨u, _ | m⟩ := w
    · dsimp only at hout herr
      refine ⟨t, rfl, hout, ?_⟩
      cases h
      cases he : t.errors
      · rfl
      · simp only [herr, he, if_true] at hc
        omega
    · cases h
  · cases h
  · cases h

end MinixFsck
