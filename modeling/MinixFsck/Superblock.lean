import MinixFsck.WriteBack
import MinixFsck.Closure

/-! The superblock a run leaves on the device: block 1 as read, with `s_state` updated, so the
next run reads the same geometry. -/
namespace MinixFsck

/-- The superblock buffer is unchanged from `s` to `t`. -/
def SameSuper (s t : St) : Prop := t.super = s.super

theorem sameSuper_closed (e : Env) : Closed e SameSuper where
  refl _ := rfl
  trans h1 h2 := h2.trans h1
  ask p d s := ask_super e.opts p d s
  say _ _ := rfl
  errors _ := rfl
  ibuf _ _ := rfl
  markInode _ _ := rfl
  icount _ _ := rfl
  writeBlock nr b s := by
    unfold SameSuper writeBlock
    split_ifs <;> rfl

section Check

variable (e : Env)

theorem addZone_super (znr : Nat) (s : St) : SameSuper s (addZone e znr s).2.2 := by
  have c := sameSuper_closed e
  have hz : ∀ block t, SameSuper t (countZone e block t) := fun block t => by
    unfold SameSuper countZone
    split_ifs <;>
      simp (disch := simp [markZone, unmarkZone, St.markInode, St.unmarkInode]) only [offer_super, St.say]
  unfold addZone
  dsimp only
  split_ifs
  · exact c.checkZoneNr znr s
  · exact c.trans (c.trans (c.checkZoneNr znr s) (c.usedBefore _ _)) (hz _ _)
  · exact c.trans (c.checkZoneNr znr s) (c.usedBefore _ _)

@[simp] theorem checkInodeCount_super (s : St) (i : Nat) : (checkInodeCount e s i).super = s.super := by
  have hm : (modeCheck e s i).super = s.super := by
    unfold modeCheck
    split_ifs <;>
      simp (disch := simp [markZone, unmarkZone, St.markInode, St.unmarkInode]) only [offer_super, St.say]
  unfold checkInodeCount countCheck
  dsimp only
  split_ifs <;>
    simp (disch := simp [markZone, unmarkZone, St.markInode, St.unmarkInode]) only [offer_super, St.say, hm]

theorem zoneLoop_super : ∀ (zs : List Nat) (s : St), SameSuper s (zoneLoop e zs s).1
  | [], _ => rfl
  | z :: zs, s => by
    refine andThen_rel (R := SameSuper) (sameSuper_closed e).trans ?_ fun t => zoneLoop_super zs t
    unfold SameSuper checkZoneCount
    dsimp only
    split_ifs <;> (try split) <;>
      simp (disch := simp [unmarkZone]) only [offer_super, St.say]

/-- `check`/`check2` never touches the superblock buffer, however it ends. -/
theorem check_super (fuel : Nat) (s : St) : (check e fuel s).1.super = s.super := by
  have c := sameSuper_closed e
  have ht : SameSuper s (traverse e fuel s).1 :=
    c.trans (c.checkZones (addZone_super e) rootIno { s with icount := fun _ => 0, zcount := fun _ => 0 })
      (c.trav (addZone_super e) (fun _ _ => rfl) (fun _ _ => rfl) fuel (.dir rootIno) _)
  refine andThen_rel (R := SameSuper) c.trans ht fun t => ?_
  exact c.trans (c.foldl _ (checkInodeCount_super e) _ t) (zoneLoop_super e _ _)

end Check

section State

/-- The bits of the new `s_state`: `MINIX_VALID_FS`, bit 0, set; `MINIX_ERROR_FS`, bit 1, set
exactly when an error was left uncorrected; every other bit of the 16-bit word as it was. -/
theorem testBit_stateAfter {state : Nat} (h : state < 2 ^ 16) (errors : Bool) (k : Nat) :
    (stateAfter state errors).testBit k =
      if k = 0 then true else if k = 1 then errors else state.testBit k := by
  have hv : Nat.testBit minixValidFs k = decide (k = 0) := by
    rw [minixValidFs, show (1 : Nat) = 2 ^ 0 from rfl, Nat.testBit_two_pow, decide_eq_decide]
    exact eq_comm
  have he : Nat.testBit minixErrorFs k = decide (k = 1) := by
    rw [minixErrorFs, show (2 : Nat) = 2 ^ 1 from rfl, Nat.testBit_two_pow, decide_eq_decide]
    exact eq_comm
  have hm : Nat.testBit 0xFFFD k = (decide (k < 16) && decide (k ≠ 1)) := by
    rw [show (0xFFFD : Nat) = (2 ^ 16 - 1) ^^^ 2 ^ 1 from rfl, Nat.testBit_xor,
      Nat.testBit_two_pow_sub_one, Nat.testBit_two_pow]
    by_cases h1 : k = 1
    · simp [h1]
    · simp [h1, Ne.symm h1]
  have hlow : state.testBit k = true → k < 16 := fun ht =>
    (Nat.pow_lt_pow_iff_right (by decide)).1 (lt_of_le_of_lt (Nat.testBit_implies_ge ht) h)
  unfold stateAfter
  cases errors <;>
    simp only [Nat.testBit_or, Nat.testBit_and, hv, he, hm, Bool.false_eq_true, if_true,
      if_false] <;>
    split_ifs <;> simp_all

theorem stateAfter_lt {state : Nat} (h : state < 2 ^ 16) (errors : Bool) :
    stateAfter state errors < 2 ^ 16 :=
  Nat.lt_pow_two_of_testBit _ fun k hk => by
    rw [testBit_stateAfter h, if_neg (by omega), if_neg (by omega)]
    exact Nat.testBit_lt_two_pow (lt_of_lt_of_le h (Nat.pow_le_pow_right (by decide) hk))

/-- `write_super_block` rewrites only the `s_state` word of the superblock buffer, and sets
its bits as `testBit_stateAfter` says. -/
theorem set16_stateAfter (sb : Block) (errors : Bool) :
    (∀ p, p ≠ stateOffset → p ≠ stateOffset + 1 →
      sb.set16 stateOffset (stateAfter (sb.get16 stateOffset) errors) p = sb p) ∧
    ∀ k, ((sb.set16 stateOffset (stateAfter (sb.get16 stateOffset) errors)).get16
        stateOffset).testBit k =
      if k = 0 then true else if k = 1 then errors else (sb.get16 stateOffset).testBit k := by
  refine ⟨fun p h1 h2 => Block.set16_apply_of_ne _ _ _ _ h1 h2, fun k => ?_⟩
  rw [Block.get16_set16, Nat.mod_eq_of_lt (show stateAfter _ errors < 65536 from
    stateAfter_lt (Block.get16_lt _ _) _)]
  exact testBit_stateAfter (Block.get16_lt _ _) errors k

/-- Writing back the word a block holds changes none of its bytes. -/
theorem set16_get16_self (b : Block) (o p : Nat) : b.set16 o (b.get16 o) p = b p := by
  have hb : ∀ u : UInt8, UInt8.ofNat u.toNat = u := fun u =>
    UInt8.toNat.inj (UInt8.toNat_ofNat_of_lt u.toNat_lt_size)
  have h0 := b.get8_lt o
  have h1 := b.get8_lt (o + 1)
  unfold Block.set16 Block.set8
  rw [show b.get16 o % 256 = b.get8 o by unfold Block.get16; omega,
    show b.get16 o / 256 = b.get8 (o + 1) by unfold Block.get16; omega]
  unfold Block.get8
  by_cases h : p = o + 1
  · subst h
    simp [hb]
  · rw [Function.update_noteq h]
    by_cases h' : p = o
    · subst h'
      simp [hb]
    · rw [Function.update_noteq h']

theorem get16_congr {b b' : Block} {o : Nat} (h0 : b' o = b o) (h1 : b' (o + 1) = b (o + 1)) :
    b'.get16 o = b.get16 o := by
  unfold Block.get16 Block.get8
  rw [h0, h1]

/-- On a state the clean-state gate lets through, `write_super_block` with no error recorded
writes back the state it read. -/
theorem stateAfter_clean {state : Nat} (h : state < 2 ^ 16) (h0 : state.testBit 0 = true)
    (h1 : state.testBit 1 = false) : stateAfter state false = state :=
  Nat.eq_of_testBit_eq fun k => by
    rw [testBit_stateAfter h]
    split_ifs with k0 k1
    · rw [k0, h0]
    · rw [k1, h1]
    · rfl

end State

section Run

@[simp] theorem readBlock_super (e : Env) (nr : Nat) (s : St) :
    (readBlock e nr s).2.super = s.super := by
  unfold readBlock
  split_ifs <;> rfl

theorem getDirsize_super (e : Env) (s : St) : (getDirsize e s).2.super = s.super := by
  unfold getDirsize
  dsimp only
  split <;> exact readBlock_super _ _ _

theorem readTables_super {io : Io} {g : Geo} {s t : St} (h : readTables io g s = .ok t) :
    t.super = s.disk 1 := by
  unfold readTables at h
  dsimp only at h
  split_ifs at h <;> cases h <;> rfl

/-- `main` up to `check` reads block 1 into the superblock buffer, or ends at the gate that
lets a clean file system through unchecked: with `MINIX_VALID_FS` set, `MINIX_ERROR_FS` clear
and the state as it was. -/
theorem setup_super (o : Opts) (io : Io) (s : St) :
    match setup o io s with
    | .error (t, x) => ∀ c, x = .code c → c = 0 ∧ t = s ∧
        ((s.disk 1).get16 stateOffset).testBit 0 = true ∧
        ((s.disk 1).get16 stateOffset).testBit 1 = false
    | .ok (e, t) => e.opts = o ∧ t.super = s.disk 1 := by
  unfold setup
  cases readSuperblock io s.disk with
  | error m => exact fun _ => nofun
  | ok g =>
    dsimp only
    split_ifs with hg
    · obtain ⟨he, hv, -⟩ := hg
      have hb1 := congrArg (Nat.testBit · 1) he
      rw [minixValidFs, Nat.and_one_is_mod] at hv
      simp only [minixErrorFs, Nat.testBit_and, Nat.zero_testBit,
        show Nat.testBit 2 1 = true from rfl, Bool.and_true] at hb1
      exact fun _ h => ⟨by cases h; rfl, rfl, by rw [Nat.testBit_zero]; simp; omega, hb1⟩
    · cases ht : readTables io g s with
      | error m => exact fun _ => nofun
      | ok t =>
        dsimp only
        split_ifs
        · exact fun _ => nofun
        · exact ⟨rfl, (getDirsize_super _ t).trans (readTables_super ht)⟩

/-- A `write_tables` that does not die leaves in block 1 the superblock buffer with the new
`s_state`: the tables it writes next start at block 2. -/
theorem writeTables_block1 {e : Env} {t : St} (hn : (writeTables e t).2 = none) (p : Nat)
    (hp : p < blockSize) :
    (writeTables e t).1.disk 1 p =
      t.super.set16 stateOffset (stateAfter (t.super.get16 stateOffset) t.errors) p := by
  obtain ⟨hok, d₁, d₂, r1, r2, r3, -⟩ := writeTables_none hn
  rw [writeRegion_outside r3 (by omega), writeRegion_outside r2 (by omega),
    writeRegion_outside r1 (by omega), writeSuperBlock_fst]
  simp [hok, Block.overwrite, hp]

/-- The write-back of a repair run that does not die, `write_tables` after a change and
`write_super_block` otherwise, leaves in block 1 the superblock buffer with the new `s_state`,
and the error flag as the pass left it. -/
theorem writeBack_block1 {e : Env} {t u : St} (hr : e.opts.repair = true)
    (h : (if t.changed then writeTables e t else if e.opts.repair then writeSuperBlock e t
      else (t, none)) = (u, none)) :
    u.errors = t.errors ∧ ∀ p, p < blockSize →
      u.disk 1 p = t.super.set16 stateOffset (stateAfter (t.super.get16 stateOffset) t.errors) p := by
  rw [hr, if_pos rfl] at h
  split_ifs at h
  · have hn : (writeTables e t).2 = none := by rw [h]
    obtain ⟨d, hd⟩ := writeTables_fst e t
    have hb := writeTables_block1 hn
    rw [h] at hd hb
    dsimp only at hd hb
    subst hd
    exact ⟨by rw [writeSuperBlock_fst], hb⟩
  · unfold writeSuperBlock at h
    dsimp only at h
    split_ifs at h <;> cases h
    exact ⟨rfl, fun p hp => by simp [Block.overwrite, hp]⟩

theorem four_le_code (changed errors : Bool) :
    decide (4 ≤ (if changed then 3 else 0) + (if errors then 4 else 0)) = errors := by
  cases changed <;> cases errors <;> rfl

/-- A repair run's `finish` that returns `c` leaves in block 1 the superblock buffer it was
given, with `s_state` set for the uncorrected errors that the 4 of `c` reports. -/
theorem finish_block1 {e : Env} {fuel : Nat} {s : St} {c : Nat} (hr : e.opts.repair = true)
    (h : (finish e fuel s).2 = .code c) (p : Nat) (hp : p < blockSize) :
    (finish e fuel s).1.disk 1 p =
      s.super.set16 stateOffset (stateAfter (s.super.get16 stateOffset) (decide (4 ≤ c))) p := by
  have hs := check_super e fuel s
  unfold finish at h ⊢
  generalize check e fuel s = r at hs h ⊢
  obtain ⟨t, _ | _ | m⟩ := r
  · dsimp only at h hs ⊢
    generalize hw : (if t.changed then writeTables e t else if e.opts.repair then writeSuperBlock e t
      else (t, none)) = w at h ⊢
    obtain ⟨u, _ | m⟩ := w
    · cases h
      obtain ⟨he, hd⟩ := writeBack_block1 hr hw
      rw [four_le_code, he, hd p hp, hs]
    · cases h
  · cases h
  · cases h

/-- What a repair run of `main` that returns `c` leaves in block 1: the block it read, with the
`s_state` word `write_super_block` computes for the uncorrected errors the 4 of `c` reports.
A run stopped at the clean-state gate writes nothing, and that word is the one it read. -/
theorem main_block1 {o : Opts} {io : Io} {fuel : Nat} {s : St} {c : Nat} (hr : o.repair = true)
    (h : (main o io fuel s).2 = .code c) (p : Nat) (hp : p < blockSize) :
    (main o io fuel s).1.disk 1 p = (s.disk 1).set16 stateOffset
      (stateAfter ((s.disk 1).get16 stateOffset) (decide (4 ≤ c))) p := by
  have hs := setup_super o io s
  unfold main at h ⊢
  generalize setup o io s = r at hs h ⊢
  rcases r with ⟨t, x⟩ | ⟨e, t⟩
  · obtain ⟨rfl, rfl, h0, h1⟩ := hs c h
    rw [decide_eq_false (by decide), stateAfter_clean (Block.get16_lt _ _) h0 h1,
      set16_get16_self]
  · obtain ⟨rfl, ht⟩ := hs
    rw [finish_block1 hr h p hp, ht]

/-- A repair run of `main` that returns `c` leaves block 1 as it found it but for the `s_state`
word, in which `MINIX_VALID_FS` is set, `MINIX_ERROR_FS` is set exactly when `c` reports
uncorrected errors, and every other bit is as it was: whether the run stopped at the gate that
lets a clean file system through, or checked it and wrote the superblock back. -/
theorem main_superblock_state (o : Opts) (io : Io) (fuel : Nat) (s : St) (c : Nat)
    (hr : o.repair = true) (h : (main o io fuel s).2 = .code c) :
    (∀ p, p < blockSize → p ≠ stateOffset → p ≠ stateOffset + 1 →
      (main o io fuel s).1.disk 1 p = s.disk 1 p) ∧
    ∀ k, (((main o io fuel s).1.disk 1).get16 stateOffset).testBit k =
      if k = 0 then true else if k = 1 then decide (4 ≤ c)
      else ((s.disk 1).get16 stateOffset).testBit k := by
  have hb := main_block1 hr h
  obtain ⟨hp, hk⟩ := set16_stateAfter (s.disk 1) (decide (4 ≤ c))
  refine ⟨fun p hp1 h1 h2 => by rw [hb p hp1, hp p h1 h2], fun k => ?_⟩
  rw [get16_congr (hb _ (by decide)) (hb _ (by decide)), hk]

set_option maxRecDepth 20000 in
/-- An interactive repair of `danglingImage` whose operator declines to remove the entry exits
with 4, and block 1 keeps the record of the uncorrected error. -/
theorem main_superblock_state_declined :
    interactiveOpts.repair = true ∧
    (main interactiveOpts tinyIo 100 (St.start danglingImage ['n'])).2 = .code 4 ∧
    (∀ p, p < blockSize → p ≠ stateOffset → p ≠ stateOffset + 1 →
      (main interactiveOpts tinyIo 100 (St.start danglingImage ['n'])).1.disk 1 p =
        (St.start danglingImage ['n']).disk 1 p) ∧
    ∀ k, (((main interactiveOpts tinyIo 100 (St.start danglingImage ['n'])).1.disk 1).get16
        stateOffset).testBit k =
      if k = 0 then true else if k = 1 then decide (4 ≤ 4)
      else (((St.start danglingImage ['n']).disk 1).get16 stateOffset).testBit k :=
  have h : (main interactiveOpts tinyIo 100 (St.start danglingImage ['n'])).2 = .code 4 := by
    decide
  ⟨rfl, h, main_superblock_state _ _ _ _ _ rfl h⟩

/-- `read_superblock` reads no byte of `s_state`: two devices whose block 1 agrees on the
other bytes of the superblock give the same geometry, or the same error. -/
theorem readSuperblock_congr {io : Io} {d d' : Nat → Block}
    (h : ∀ p, p < 24 → p ≠ stateOffset → p ≠ stateOffset + 1 → d' 1 p = d 1 p) :
    readSuperblock io d' = readSuperblock io d := by
  have g16 : ∀ o, o + 2 ≤ 18 ∨ 20 ≤ o → o + 2 ≤ 24 → (d' 1).get16 o = (d 1).get16 o :=
    fun o h1 h2 => get16_congr (h o (by omega) (by unfold stateOffset; omega)
      (by unfold stateOffset; omega)) (h (o + 1) (by omega) (by unfold stateOffset; omega)
      (by unfold stateOffset; omega))
  have hd : Super.decode (d' 1) = { Super.decode (d 1) with state := (d' 1).get16 stateOffset } := by
    simp only [Super.decode, Block.get32, g16 0 (by omega) (by omega), g16 2 (by omega) (by omega),
      g16 4 (by omega) (by omega), g16 6 (by omega) (by omega), g16 8 (by omega) (by omega),
      g16 10 (by omega) (by omega), g16 12 (by omega) (by omega), g16 14 (by omega) (by omega),
      g16 16 (by omega) (by omega), g16 20 (by omega) (by omega), g16 22 (by omega) (by omega)]
    rfl
  unfold readSuperblock
  rw [hd]
  rfl

/-- A repair run leaves the superblock geometry as it found it: whatever it repaired and
whatever it returned, `read_superblock` reads from the device it leaves what it read from the
device it started on, so the next run checks the same file system. -/
theorem rerun_same_geometry (o : Opts) (io : Io) (fuel : Nat) (s : St) (c : Nat)
    (hr : o.repair = true) (h : (main o io fuel s).2 = .code c) :
    readSuperblock io (main o io fuel s).1.disk = readSuperblock io s.disk := by
  have hb := main_block1 hr h
  exact readSuperblock_congr fun p hp h1 h2 => by
    rw [hb p (by unfold blockSize; omega), Block.set16_apply_of_ne _ _ _ _ h1 h2]

set_option maxRecDepth 20000 in
/-- The automatic repair of `danglingImage` rewrites block 5 and block 1, and the device it
leaves reads back the geometry of the one it started on. -/
theorem rerun_same_geometry_dangling :
    automaticOpts.repair = true ∧
    (main automaticOpts tinyIo 100 (St.start danglingImage [])).2 = .code 0 ∧
    readSuperblock tinyIo (main automaticOpts tinyIo 100 (St.start danglingImage [])).1.disk =
      readSuperblock tinyIo (St.start danglingImage []).disk :=
  have h : (main automaticOpts tinyIo 100 (St.start danglingImage [])).2 = .code 0 := by decide
  ⟨rfl, h, rerun_same_geometry _ _ 100 _ 0 rfl h⟩

end Run

end MinixFsck
