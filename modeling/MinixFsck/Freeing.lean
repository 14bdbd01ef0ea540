import MinixFsck.Closure
import MinixFsck.Counts

/-! What a run of `check` frees, whatever the answers: never an inode or a zone that a file it
reached refers to. -/
namespace MinixFsck

/-- From `s` to `t` the bitmaps only gain bits. -/
structure Marks (s t : St) : Prop where
  imap : ∀ i, s.imap i = true → t.imap i = true
  zmap : ∀ b, s.zmap b = true → t.zmap b = true

namespace Marks

theorem of_eq {s t : St} (hi : t.imap = s.imap) (hz : t.zmap = s.zmap) : Marks s t :=
  ⟨fun _ h => hi ▸ h, fun _ h => hz ▸ h⟩

theorem trans {a b c : St} (h1 : Marks a b) (h2 : Marks b c) : Marks a c :=
  ⟨fun i h => h2.imap i (h1.imap i h), fun b h => h2.zmap b (h1.zmap b h)⟩

end Marks

/-- Setting a bit keeps every bit that was set. -/
theorem update_true_of_true {f : Nat → Bool} (x : Nat) {i : Nat} (h : f i = true) :
    Function.update f x true i = true := by
  by_cases hx : i = x
  · rw [hx, Function.update_same]
  · rwa [Function.update_noteq hx]

theorem writeBlock_imap (e : Env) (nr : Nat) (b : Block) (s : St) :
    (writeBlock e nr b s).imap = s.imap := by
  unfold writeBlock reportError
  split_ifs <;> rfl

theorem markZone_marks (g : Geo) (s : St) (x : Nat) : Marks s (markZone g s x) :=
  ⟨fun _ h => h, fun _ h => update_true_of_true _ h⟩

/-- Every primitive step but `unmark_inode` and `unmark_zone` keeps the bits set. -/
theorem marks_closed (e : Env) : Closed e Marks where
  refl _ := .of_eq rfl rfl
  trans := Marks.trans
  ask p d s := .of_eq (ask_imap e.opts p d s) (ask_zmap e.opts p d s)
  say _ _ := .of_eq rfl rfl
  errors _ := .of_eq rfl rfl
  ibuf _ _ := .of_eq rfl rfl
  markInode _ x := ⟨fun _ h => update_true_of_true x h, fun _ h => h⟩
  icount _ _ := .of_eq rfl rfl
  writeBlock nr b s := .of_eq (writeBlock_imap e nr b s) (writeBlock_zmap e nr b s)

section Traversal

variable (e : Env)

/-- `add_zone` marks the zone it keeps, and clears no bit. -/
theorem addZone_marks (znr : Nat) (s : St) : Marks s (addZone e znr s).2.2 := by
  have hc := marks_closed e
  have hz : ∀ (block : Nat) (t : St), Marks t (countZone e block t) := fun block t => by
    unfold countZone
    dsimp only
    split_ifs
    · exact .of_eq rfl rfl
    · exact ((hc.say _ _).trans (hc.offer (fun u => markZone_marks e.geo u block) _)).trans
        (.of_eq rfl rfl)
  unfold addZone
  dsimp only
  split_ifs
  · exact hc.checkZoneNr znr s
  · exact (hc.checkZoneNr znr s).trans ((hc.usedBefore _ _).trans (hz _ _))
  · exact (hc.checkZoneNr znr s).trans (hc.usedBefore _ _)

/-- `check` up to `check_counts`, however its fuel ends: the bitmaps only gain bits. -/
theorem traverse_marks (fuel : Nat) (s : St) : Marks s (traverse e fuel s).1 := by
  have hc := marks_closed e
  have hadd := addZone_marks e
  unfold traverse traverseStart
  exact ((Marks.of_eq (s := s) (t := { s with icount := fun _ => 0, zcount := fun _ => 0 }) rfl rfl).trans
    (hc.checkZones hadd rootIno _)).trans
    (hc.trav hadd (fun _ _ => .of_eq rfl rfl) (fun _ _ => .of_eq rfl rfl) fuel (.dir rootIno) _)

end Traversal

/-- Clearing a bit changes only that bit. -/
theorem eq_of_update_false {f : Nat → Bool} {x j : Nat} (h : f j = true)
    (h' : Function.update f x false j = false) : j = x := by
  by_contra hx
  rw [Function.update_noteq hx, h] at h'
  cases h'

/-- From `s` to `t` the counts stay, and a bit is cleared only for an inode with no count, or
for a zone with no count that `bad_zone` reads without error. -/
structure FreesUncounted (e : Env) (s t : St) : Prop where
  icount : t.icount = s.icount
  zcount : t.zcount = s.zcount
  imap : ∀ i, s.imap i = true → t.imap i = false → s.icount i = 0
  zones : ∀ z, e.geo.firstzone ≤ z → zoneInUse e.geo s z = true →
    zoneInUse e.geo t z = false → s.zcount z = 0 ∧ badZone e z = some false

namespace FreesUncounted

variable {e : Env}

/-- A step that keeps the counts and only sets bits. -/
theorem of_marks {s t : St} (hi : t.icount = s.icount) (hz : t.zcount = s.zcount)
    (hm : Marks s t) : FreesUncounted e s t where
  icount := hi
  zcount := hz
  imap i h h' := by
    rw [hm.imap i h] at h'
    cases h'
  zones z _ h h' := by
    rw [zoneInUse, hm.zmap _ h] at h'
    cases h'

theorem refl (s : St) : FreesUncounted e s s := of_marks rfl rfl (.of_eq rfl rfl)

theorem trans {a b c : St} (h1 : FreesUncounted e a b) (h2 : FreesUncounted e b c) :
    FreesUncounted e a c where
  icount := h2.icount.trans h1.icount
  zcount := h2.zcount.trans h1.zcount
  imap i ha hc := by
    cases hb : b.imap i
    · exact h1.imap i ha hb
    · rw [← h1.icount]
      exact h2.imap i hb hc
  zones z hz ha hc := by
    cases hb : zoneInUse e.geo b z
    · exact h1.zones z hz ha hb
    · rw [← h1.zcount]
      exact h2.zones z hz hb hc

theorem say (s : St) (m : Msg) : FreesUncounted e s (s.say m) := of_marks rfl rfl (.of_eq rfl rfl)

/-- `if (ask(prompt, def)) fix;` keeps the relation when the fix does on the counts it finds. -/
theorem offer {p : String} {d : Bool} {fix : St → St} {s : St}
    (hfix : ∀ t, t.icount = s.icount → t.zcount = s.zcount → FreesUncounted e t (fix t)) :
    FreesUncounted e s (MinixFsck.offer e.opts p d fix s) := by
  have ha : FreesUncounted e s (ask e.opts p d s).2 :=
    of_marks (ask_icount _ _ _ _) (ask_zcount _ _ _ _) (.of_eq (ask_imap _ _ _ _) (ask_zmap _ _ _ _))
  unfold MinixFsck.offer
  dsimp only
  split_ifs
  · exact ha.trans (hfix _ ha.icount ha.zcount)
  · exact ha

/-- `unmark_inode(i)` where `inode_count[i]` is 0. -/
theorem unmarkInode {s : St} {i : Nat} (h0 : s.icount i = 0) : FreesUncounted e s (s.unmarkInode i) where
  icount := rfl
  zcount := rfl
  imap j h h' := by
    rw [eq_of_update_false h h']
    exact h0
  zones z _ h h' := by
    rw [zoneInUse] at h h'
    rw [show (s.unmarkInode i).zmap = s.zmap from rfl, h] at h'
    cases h'

/-- `unmark_zone(z)` where `zone_count[z]` is 0 and `bad_zone(z)` reads the zone. -/
theorem unmarkZone {s : St} {z : Nat} (hz : e.geo.firstzone ≤ z) (h0 : s.zcount z = 0)
    (hb : badZone e z = some false) : FreesUncounted e s (MinixFsck.unmarkZone e.geo s z) where
  icount := rfl
  zcount := rfl
  imap i h h' := by
    rw [show (MinixFsck.unmarkZone e.geo s z).imap = s.imap from rfl, h] at h'
    cases h'
  zones y hy h h' := by
    have hyz := eq_of_update_false (show s.zmap (zoneBit e.geo y) = true from h)
      (show Function.update s.zmap (zoneBit e.geo z) false (zoneBit e.geo y) = false from h')
    unfold zoneBit at hyz
    obtain rfl : y = z := by omega
    exact ⟨h0, hb⟩

end FreesUncounted

section Counts

variable (e : Env)

theorem modeCheck_frees (s : St) (i : Nat) : FreesUncounted e s (modeCheck e s i) := by
  unfold modeCheck
  split_ifs
  · exact (FreesUncounted.say s _).trans (.offer fun _ _ _ => .of_marks rfl rfl (.of_eq rfl rfl))
  · exact .refl s

/-- The inode bit against the count, then the link count: `unmark_inode(i)` only where
`inode_count[i]` is 0. -/
theorem countCheck_frees (s : St) (i : Nat) : FreesUncounted e s (countCheck e s i) := by
  have hmark : ∀ t : St, FreesUncounted e t (offer e.opts "Set" true (·.markInode i)
      (t.say (.inodeUsedUnmarked i))) := fun t =>
    (FreesUncounted.say t _).trans (.offer fun u _ _ => .of_marks rfl rfl ((marks_closed e).markInode u i))
  have hn : ∀ t u : St, FreesUncounted e t u → FreesUncounted e t
      (offer e.opts "Set i_nlinks to count" true
        (fun t => { t with ibuf := e.geo.setNlinks t.ibuf i (t.icount i), changed := true })
        (u.say (.nlinksDiffer i (e.geo.modeOf u.ibuf i) (e.geo.nlinksOf u.ibuf i) (u.icount i)))) :=
    fun t u h => h.trans ((FreesUncounted.say u _).trans
      (.offer fun _ _ _ => .of_marks rfl rfl (.of_eq rfl rfl)))
  unfold countCheck
  dsimp only
  split_ifs with h0
  · exact .refl s
  · exact (FreesUncounted.say s _).trans (.offer fun _ hi _ => .unmarkInode (by rw [hi]; exact h0))
  · exact hn s s (.refl s)
  · exact .refl s
  · exact hn s _ (hmark s)
  · exact hmark s

theorem checkInodeCount_frees (s : St) (i : Nat) : FreesUncounted e s (checkInodeCount e s i) :=
  (modeCheck_frees e s i).trans (countCheck_frees e _ i)

/-- The zone bit against the count: `unmark_zone(i)` only where `zone_count[i]` is 0 and
`bad_zone(i)` reads the zone. -/
theorem checkZoneCount_frees {z : Nat} (hz : e.geo.firstzone ≤ z) (s : St) :
    FreesUncounted e s (checkZoneCount e s z).1 := by
  unfold checkZoneCount
  dsimp only
  by_cases hm : (if zoneInUse e.geo s z then 1 else 0) = s.zcount z
  · rw [if_pos hm]
    exact .refl s
  rw [if_neg hm]
  by_cases h0 : s.zcount z = 0
  · rw [if_pos h0]
    cases hb : badZone e z with
    | none => exact .refl s
    | some b =>
      cases b with
      | true => exact .refl s
      | false =>
        exact (FreesUncounted.say s _).trans
          (.offer fun _ _ hc => .unmarkZone hz (by rw [hc]; exact h0) hb)
  · rw [if_neg h0]
    exact .say s _

theorem zoneLoop_frees : ∀ (zs : List Nat) (s : St), (∀ z ∈ zs, e.geo.firstzone ≤ z) →
    FreesUncounted e s (zoneLoop e zs s).1
  | [], s, _ => .refl s
  | z :: zs, s, hz =>
    andThen_rel (R := FreesUncounted e) FreesUncounted.trans
      (checkZoneCount_frees e (hz z (List.mem_cons_self z zs)) s)
      fun t => zoneLoop_frees zs t fun y hy => hz y (List.mem_cons_of_mem z hy)

theorem inodeLoop_frees : ∀ (is : List Nat) (s : St),
    FreesUncounted e s (is.foldl (checkInodeCount e) s)
  | [], s => .refl s
  | i :: is, s => (checkInodeCount_frees e s i).trans (inodeLoop_frees is _)

theorem checkCounts_frees (s : St) : FreesUncounted e s (checkCounts e s).1 :=
  (inodeLoop_frees e _ s).trans
    (zoneLoop_frees e _ _ fun _ hz => (List.mem_range'_1.1 hz).1)

end Counts

/-- `check` after its traversal: `check_counts` when the traversal ends, nothing otherwise. -/
theorem check_frees (e : Env) (fuel : Nat) (s : St) :
    FreesUncounted e (traverse e fuel s).1 (check e fuel s).1 :=
  andThen_rel (R := FreesUncounted e) FreesUncounted.trans (.refl _) (checkCounts_frees e)

/-- A run of `check`, whatever the answers and however it ends, clears the bit of an inode in
`inode_map` only if the traversal found no directory entry naming it, and the bit of a data
zone in `zone_map` only if the traversal found no file using it and `bad_zone` read it without
error: it never frees an inode or a zone that a file it reached refers to. -/
theorem check_frees_only_uncounted (e : Env) (fuel : Nat) (s : St) :
    (∀ i, s.imap i = true → (check e fuel s).1.imap i = false → (check e fuel s).1.icount i = 0) ∧
    ∀ z, e.geo.firstzone ≤ z → zoneInUse e.geo s z = true →
      zoneInUse e.geo (check e fuel s).1 z = false →
      (check e fuel s).1.zcount z = 0 ∧ badZone e z = some false := by
  have hm := traverse_marks e fuel s
  have hf := check_frees e fuel s
  refine ⟨fun i h h' => ?_, fun z hz h h' => ?_⟩
  · rw [hf.icount]
    exact hf.imap i (hm.imap i h) h'
  · rw [hf.zcount]
    exact hf.zones z hz (hm.zmap _ h) h'

end MinixFsck
