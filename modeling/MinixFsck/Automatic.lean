import MinixFsck.Effects
import MinixFsck.InodeCounts

/-! `check_counts` after a run in which every question is answered yes: bitmaps and link counts
agree with the counts. -/
namespace MinixFsck

section Loops

variable {α : Type} {f : α → Nat → α} {P : α → Nat → Prop}

/-- A loop whose iterations all keep `P · j` keeps it. -/
theorem foldl_keeps_at {j : Nat} : ∀ {l : List Nat}, (∀ a i, i ∈ l → P a j → P (f a i) j) →
    ∀ a, P a j → P (l.foldl f a) j
  | [], _, _, h => h
  | i :: _, hk, a, h =>
    foldl_keeps_at (fun b k hk' => hk b k (.tail _ hk')) _ (hk a i (.head _) h)

/-- A loop over a list without repeats whose iteration at `i` establishes `P · i` and keeps
`P · j` at the other members establishes `P · i` at every member. -/
theorem foldl_sets : ∀ {l : List Nat}, l.Nodup → (∀ a i, i ∈ l → P (f a i) i) →
    (∀ a i j, i ∈ l → j ∈ l → j ≠ i → P a j → P (f a i) j) → ∀ a, ∀ i ∈ l, P (l.foldl f a) i
  | [], _, _, _, _, _, h => absurd h (List.not_mem_nil _)
  | x :: _, hn, hs, hk, a, i, hi => by
    rw [List.nodup_cons] at hn
    rw [List.foldl_cons]
    rcases List.mem_cons.mp hi with rfl | hi
    · exact foldl_keeps_at (fun b k hk' => hk b k i (.tail _ hk') (.head _)
        (fun h => hn.1 (h ▸ hk'))) _ (hs a i (.head _))
    · exact foldl_sets hn.2 (fun b k hk' => hs b k (.tail _ hk'))
        (fun b k j hk' hj => hk b k j (.tail _ hk') (.tail _ hj)) _ i hi

end Loops

/-- The `-m` check changes a mode, which no link count or bitmap shares bytes with. -/
theorem modeCheck_tables (e : Env) (s : St) (i : Nat) :
    (modeCheck e s i).imap = s.imap ∧ (modeCheck e s i).zmap = s.zmap ∧
      (modeCheck e s i).zcount = s.zcount ∧
      ∀ j, e.geo.nlinksOf (modeCheck e s i).ibuf j = e.geo.nlinksOf s.ibuf j := by
  unfold modeCheck offer
  dsimp only
  split_ifs <;> simp [St.say, Geo.nlinksOf_setMode]

/-- The traversal counts each inode of `[1, INODES]` at most 255 times. -/
theorem traverse_icount_lt (e : Env) (fuel : Nat) (s : St) {i : Nat} (h1 : 1 ≤ i)
    (h2 : i ≤ e.geo.ninodes) : (traverse e fuel s).1.icount i < 256 := by
  rw [traverse_icount_reads h1 h2]
  omega

/-- What `check_counts` should leave in the tables `t` when every question is answered yes,
with `s` the tables as read: a bit of `inode_map` set exactly for a counted inode, whose link
count is its count, and a zone marked exactly when counted, or when marked as read, counted by no
file, and `bad_zone` reports a failed read. -/
def CountsReconciled (e : Env) (s t : St) : Prop :=
  (∀ i, 1 ≤ i → i ≤ e.geo.ninodes →
    (t.imap i = true ↔ 0 < t.icount i) ∧ (0 < t.icount i → e.geo.nlinksOf t.ibuf i = t.icount i)) ∧
  ∀ z, e.geo.firstzone ≤ z → z < e.geo.zones →
    (zoneInUse e.geo t z = true ↔
      0 < t.zcount z ∨ (t.zcount z = 0 ∧ zoneInUse e.geo s z = true ∧ badZone e z = some true))

section Agreed

/-! Each step of `check_counts` on an agreed run, where every `if (ask(...)) fix;` applies its
fix. An automatic run is agreed throughout; so is any run that ends with no error recorded. -/

variable {e : Env}

theorem modeCheck_agreed_back {s : St} {i : Nat} (h : Agreed e (modeCheck e s i)) : Agreed e s :=
  h.of_errors fun he => by
    unfold modeCheck offer at he
    dsimp only at he
    split_ifs at he <;> simp_all [ask_errors, St.say]

theorem countCheck_agreed_back {s : St} {i : Nat} (h : Agreed e (countCheck e s i)) :
    Agreed e s := by
  have hc := agreed_closed e
  have hs : ∀ {t m p} {fix : St → St}, Agreed e (offer e.opts p true fix (t.say m)) →
      (∀ u, Agreed e (fix u) → Agreed e u) → Agreed e t :=
    fun h hf => hc.trans (hc.say _ _) (hc.offer hf _) h
  unfold countCheck at h
  dsimp only at h
  split_ifs at h
  · exact h
  · exact hs h fun _ => id
  · exact hs h fun _ => id
  · exact h
  · exact hs (hs h fun _ => id) fun _ => id
  · exact hs h fun _ => id

theorem checkZoneCount_agreed_back {s : St} {i : Nat} (h : Agreed e (checkZoneCount e s i).1) :
    Agreed e s :=
  h.of_errors fun he => by
    unfold checkZoneCount offer at he
    dsimp only at he
    split_ifs at he <;> (try split at he) <;> simp_all [ask_errors, St.say, unmarkZone]

/-- The inode bit against the count and then the link count, on an agreed run: bit `i` ends set
exactly when inode `i` was counted, a counted inode's link count ends equal to its count, and
the zone tables and the other inodes' link counts stay as they were. -/
theorem countCheck_agreed {s : St} {i : Nat} (h : Agreed e (countCheck e s i)) :
    (countCheck e s i).imap = Function.update s.imap i (decide (0 < s.icount i)) ∧
      (countCheck e s i).zmap = s.zmap ∧ (countCheck e s i).zcount = s.zcount ∧
      (∀ j, 1 ≤ i → 1 ≤ j → j ≠ i →
        e.geo.nlinksOf (countCheck e s i).ibuf j = e.geo.nlinksOf s.ibuf j) ∧
      (0 < s.icount i → s.icount i < 256 → e.geo.nlinksOf (countCheck e s i).ibuf i = s.icount i) := by
  unfold countCheck at h ⊢
  dsimp only at h ⊢
  by_cases h0 : s.icount i = 0
  · -- an uncounted inode: its bit is cleared if set
    rw [if_pos h0] at h ⊢
    cases hm : s.imap i
    · simp [h0, hm, Function.eq_update_iff]
    · simp only [hm, Bool.not_true, Bool.false_eq_true, if_false] at h ⊢
      rw [(offer_agreed h).2]
      simp [St.unmarkInode, St.say, h0]
  · -- a counted inode: its bit is set if clear, then its link count is set to the count
    rw [if_neg h0] at h ⊢
    have hp : 0 < s.icount i := Nat.pos_of_ne_zero h0
    set t := if s.imap i = true then s else
      offer e.opts "Set" true (·.markInode i) (s.say (.inodeUsedUnmarked i)) with ht
    have hc := agreed_closed e
    have hta : Agreed e t := by
      split_ifs at h
      · exact hc.trans (hc.say _ _) (hc.offer (fun u => hc.ibuf u _) _) h
      · exact h
    have htf : t.imap = Function.update s.imap i true ∧ t.zmap = s.zmap ∧ t.zcount = s.zcount ∧
        t.ibuf = s.ibuf ∧ t.icount = s.icount := by
      cases hm : s.imap i
      · simp only [ht, hm, Bool.false_eq_true, if_false] at hta ⊢
        rw [(offer_agreed hta).2]
        simp [St.markInode, St.say]
      · simp [ht, hm, Function.eq_update_iff]
    obtain ⟨hti, htz, htc, htb, htn⟩ := htf
    split_ifs at h ⊢ with hn
    · rw [(offer_agreed h).2]
      simp only [St.say, ask_imap, ask_zmap, ask_zcount, ask_ibuf, ask_icount, hti, htz, htc, htb,
        htn, hp, decide_True, true_and, true_implies]
      exact ⟨fun j hi hj hji => Geo.nlinksOf_setNlinks_of_ne _ _ _ hi hj hji,
        Geo.nlinksOf_setNlinks_self _ _ _⟩
    · simp_all

theorem checkInodeCount_agreed {s : St} {i : Nat} (h : Agreed e (checkInodeCount e s i)) :
    (checkInodeCount e s i).imap = Function.update s.imap i (decide (0 < s.icount i)) ∧
      (checkInodeCount e s i).zmap = s.zmap ∧ (checkInodeCount e s i).zcount = s.zcount ∧
      (∀ j, 1 ≤ i → 1 ≤ j → j ≠ i →
        e.geo.nlinksOf (checkInodeCount e s i).ibuf j = e.geo.nlinksOf s.ibuf j) ∧
      (0 < s.icount i → s.icount i < 256 →
        e.geo.nlinksOf (checkInodeCount e s i).ibuf i = s.icount i) := by
  obtain ⟨hm, hz, hc, hl⟩ := modeCheck_tables e s i
  simpa only [modeCheck_icount, hm, hz, hc, hl] using countCheck_agreed (s := modeCheck e s i) h

theorem checkInodeCount_agreed_back {s : St} {i : Nat} (h : Agreed e (checkInodeCount e s i)) :
    Agreed e s :=
  modeCheck_agreed_back (countCheck_agreed_back h)

/-- The inode loop of `check_counts` over inodes `1 .. INODES` on an agreed run, when no count
has passed 255. -/
theorem inodeLoop_agreed (s : St) (hc : ∀ i, 1 ≤ i → i ≤ e.geo.ninodes → s.icount i < 256)
    (h : Agreed e ((List.range' 1 e.geo.ninodes).foldl (checkInodeCount e) s)) :
    ((List.range' 1 e.geo.ninodes).foldl (checkInodeCount e) s).zmap = s.zmap ∧
      ((List.range' 1 e.geo.ninodes).foldl (checkInodeCount e) s).zcount = s.zcount ∧
      ∀ i, 1 ≤ i → i ≤ e.geo.ninodes →
        (((List.range' 1 e.geo.ninodes).foldl (checkInodeCount e) s).imap i = true ↔
          0 < s.icount i) ∧
        (0 < s.icount i → e.geo.nlinksOf
          ((List.range' 1 e.geo.ninodes).foldl (checkInodeCount e) s).ibuf i = s.icount i) := by
  have hmem : ∀ i, i ∈ List.range' 1 e.geo.ninodes ↔ 1 ≤ i ∧ i ≤ e.geo.ninodes := by
    intro i
    rw [List.mem_range'_1]
    omega
  refine ⟨foldl_keeps_at (P := fun a _ => Agreed e a → a.zmap = s.zmap) (j := 0)
      (fun a i _ k ha => (checkInodeCount_agreed ha).2.1.trans (k (checkInodeCount_agreed_back ha)))
      s (fun _ => rfl) h,
    foldl_keeps_at (P := fun a _ => Agreed e a → a.zcount = s.zcount) (j := 0)
      (fun a i _ k ha => (checkInodeCount_agreed ha).2.2.1.trans (k (checkInodeCount_agreed_back ha)))
      s (fun _ => rfl) h,
    fun i h1 h2 => ?_⟩
  refine foldl_sets (P := fun a i => Agreed e a → a.icount = s.icount →
      (a.imap i = true ↔ 0 < s.icount i) ∧ (0 < s.icount i → e.geo.nlinksOf a.ibuf i = s.icount i))
    (List.nodup_range' 1 _) (fun a i hi hA ha' => ?_) (fun a i j hi hj hji hp hA ha' => ?_) s i
    ((hmem i).2 ⟨h1, h2⟩) h (foldl_icount (checkInodeCount_icount e) _ s)
  · rw [checkInodeCount_icount] at ha'
    obtain ⟨him, -, -, -, hl⟩ := checkInodeCount_agreed hA
    rw [ha'] at him hl
    exact ⟨by simp [him], fun h0 => hl h0 (hc i ((hmem i).1 hi).1 ((hmem i).1 hi).2)⟩
  · rw [checkInodeCount_icount] at ha'
    obtain ⟨him, -, -, hl, -⟩ := checkInodeCount_agreed hA
    rw [him, Function.update_noteq hji, hl j ((hmem i).1 hi).1 ((hmem j).1 hj).1 hji]
    exact hp (checkInodeCount_agreed_back hA) ha'

/-- One iteration of the zone loop on an agreed run that goes on: only a zone marked, counted
by no file and readable by `bad_zone` is unmarked, and a marked zone counted by none was probed
without a failed seek. -/
theorem checkZoneCount_agreed (s : St) (z : Nat) (h : (checkZoneCount e s z).2 = .ok)
    (hA : Agreed e (checkZoneCount e s z).1) :
    (checkZoneCount e s z).1.zcount = s.zcount ∧ (checkZoneCount e s z).1.imap = s.imap ∧
      (checkZoneCount e s z).1.ibuf = s.ibuf ∧
      (∀ x, zoneInUse e.geo (checkZoneCount e s z).1 x = true ↔ zoneInUse e.geo s x = true ∧
        ¬(zoneBit e.geo x = zoneBit e.geo z ∧ s.zcount z = 0 ∧ badZone e z = some false)) ∧
      (zoneInUse e.geo s z = true → s.zcount z = 0 → badZone e z ≠ none) := by
  unfold checkZoneCount at h hA ⊢
  dsimp only at h hA ⊢
  have hsame : ∀ x, zoneBit e.geo x = zoneBit e.geo z → zoneInUse e.geo s x = zoneInUse e.geo s z :=
    fun x hb => congrArg s.zmap hb
  by_cases h1 : (if zoneInUse e.geo s z then 1 else 0) = s.zcount z
  case pos =>
    rw [if_pos h1]
    refine ⟨rfl, rfl, rfl, fun x => ⟨fun hx => ⟨hx, fun ⟨hb, hz, _⟩ => ?_⟩, And.left⟩,
      fun hu hz => by simp [hu, hz] at h1⟩
    simp [← hsame x hb, hx, hz] at h1
  rw [if_neg h1] at h hA ⊢
  by_cases h2 : s.zcount z = 0
  case neg =>
    rw [if_neg h2]
    exact ⟨rfl, rfl, rfl, fun x => by simp [zoneInUse, St.say, h2], fun _ hz => absurd hz h2⟩
  rw [if_pos h2] at h hA ⊢
  rcases hb : badZone e z with _ | ⟨_ | _⟩
  · simp [hb] at h
  · rw [hb] at hA
    obtain ⟨-, hq⟩ := offer_agreed hA
    simp only [hq]
    refine ⟨by simp [unmarkZone], by simp [unmarkZone, St.say], by simp [unmarkZone, St.say],
      fun x => ?_, fun _ _ => nofun⟩
    by_cases hx : zoneBit e.geo x = zoneBit e.geo z <;>
      simp [zoneInUse, unmarkZone, St.say, Function.update_apply, hx, h2]
  · exact ⟨rfl, rfl, rfl, fun x => by simp, fun _ _ => nofun⟩

theorem zoneLoop_agreed_back : ∀ (zs : List Nat) (s : St), Agreed e (zoneLoop e zs s).1 → Agreed e s
  | [], _, h => h
  | _ :: zs, _, h =>
    andThen_rel (R := fun s t => Agreed e t → Agreed e s) (fun h1 h2 => h1 ∘ h2)
      checkZoneCount_agreed_back (fun t => zoneLoop_agreed_back zs t) h

/-- The zone loop of `check_counts` over zones from `FIRSTZONE` on, on an agreed run that goes
to the end: it unmarks exactly the zones that were marked, counted by no file and readable. -/
theorem zoneLoop_agreed : ∀ (zs : List Nat) (s : St), zs.Nodup → (∀ z ∈ zs, e.geo.firstzone ≤ z) →
    (zoneLoop e zs s).2 = .ok → Agreed e (zoneLoop e zs s).1 →
    (zoneLoop e zs s).1.zcount = s.zcount ∧ (zoneLoop e zs s).1.imap = s.imap ∧
      (zoneLoop e zs s).1.ibuf = s.ibuf ∧
      ∀ x, e.geo.firstzone ≤ x →
        (zoneInUse e.geo (zoneLoop e zs s).1 x = true ↔
          zoneInUse e.geo s x = true ∧ ¬(x ∈ zs ∧ s.zcount x = 0 ∧ badZone e x = some false)) ∧
        (x ∈ zs → zoneInUse e.geo s x = true → s.zcount x = 0 → badZone e x ≠ none)
  | [], _, _, _, _, _ => ⟨rfl, rfl, rfl, fun _ _ => by simp [zoneLoop]⟩
  | z :: zs, s, hn, hf, h, hA => by
    rw [List.nodup_cons] at hn
    obtain ⟨h1, h2⟩ := andThen_eq_ok h
    have h' : (zoneLoop e zs (checkZoneCount e s z).1).2 = .ok := h2 ▸ h
    have hA' : Agreed e (zoneLoop e zs (checkZoneCount e s z).1).1 := h2 ▸ hA
    obtain ⟨c1, c2, c3, c4, c5⟩ := checkZoneCount_agreed s z h1 (zoneLoop_agreed_back zs _ hA')
    obtain ⟨r1, r2, r3, r4⟩ := zoneLoop_agreed zs _ hn.2 (fun x hx => hf x (.tail _ hx)) h' hA'
    simp only [zoneLoop, h2]
    refine ⟨r1.trans c1, r2.trans c2, r3.trans c3, fun x hx => ?_⟩
    have hbit : zoneBit e.geo x = zoneBit e.geo z ↔ x = z := by
      have := hf z (.head _)
      unfold zoneBit
      omega
    rw [(r4 x hx).1, c4, c1, hbit]
    by_cases hxz : x = z
    case pos =>
      subst hxz
      exact ⟨by simp [hn.1], fun _ => c5⟩
    have hv := r4 x hx
    rw [c4, c1, hbit] at hv
    refine ⟨by simp [hxz], fun hm hu hz => (hv.2 ?_ ⟨hu, fun h => hxz h.1⟩ hz)⟩
    exact (List.mem_cons.mp hm).resolve_left hxz

end Agreed

section Automatic

variable {e : Env} (ha : e.opts.automatic = true) (hr : e.opts.repair = true)
include ha hr

/-- The inode loop of `check_counts` with `-a`, over inodes `1 .. INODES`, when no count has
passed 255. -/
theorem inodeLoop_auto (s : St) (hc : ∀ i, 1 ≤ i → i ≤ e.geo.ninodes → s.icount i < 256) :
    ((List.range' 1 e.geo.ninodes).foldl (checkInodeCount e) s).zmap = s.zmap ∧
      ((List.range' 1 e.geo.ninodes).foldl (checkInodeCount e) s).zcount = s.zcount ∧
      ∀ i, 1 ≤ i → i ≤ e.geo.ninodes →
        (((List.range' 1 e.geo.ninodes).foldl (checkInodeCount e) s).imap i = true ↔
          0 < s.icount i) ∧
        (0 < s.icount i → e.geo.nlinksOf
          ((List.range' 1 e.geo.ninodes).foldl (checkInodeCount e) s).ibuf i = s.icount i) :=
  inodeLoop_agreed s hc (.inl ⟨ha, hr⟩)

/-- The zone loop of `check_counts` with `-a`, over zones from `FIRSTZONE` on, when it goes to
the end: it unmarks exactly the zones that were marked, counted by no file and readable. -/
theorem zoneLoop_auto (zs : List Nat) (s : St) (hn : zs.Nodup) (hf : ∀ z ∈ zs, e.geo.firstzone ≤ z)
    (h : (zoneLoop e zs s).2 = .ok) :
    (zoneLoop e zs s).1.zcount = s.zcount ∧ (zoneLoop e zs s).1.imap = s.imap ∧
      (zoneLoop e zs s).1.ibuf = s.ibuf ∧
      ∀ x, e.geo.firstzone ≤ x →
        (zoneInUse e.geo (zoneLoop e zs s).1 x = true ↔
          zoneInUse e.geo s x = true ∧ ¬(x ∈ zs ∧ s.zcount x = 0 ∧ badZone e x = some false)) ∧
        (x ∈ zs → zoneInUse e.geo s x = true → s.zcount x = 0 → badZone e x ≠ none) :=
  zoneLoop_agreed zs s hn hf h (.inl ⟨ha, hr⟩)

/-- With `-a`, the traversal leaves each zone counted at most once, every counted zone marked,
and the marks of the zones it did not count as they were read. -/
theorem traverse_autoZones (fuel : Nat) (s : St) : AutoZones e s (traverse e fuel s).1 :=
  ((checkZones_effects e rootIno _).trans (trav_effects e fuel _ _)).zones ha hr s
    fun _ _ _ => ⟨Nat.zero_le 1, fun h => absurd h Nat.zero_ne_one, id, fun h _ => h⟩

end Automatic

/-- With `-a`, a run of `check`/`check2` that reaches the end of `check_counts` leaves the
inode and zone tables reconciled with the counts. -/
theorem check_automatic_reconciles (e : Env) (fuel : Nat) (s : St)
    (ha : e.opts.automatic = true) (hr : e.opts.repair = true) (h : (check e fuel s).2 = .ok) :
    CountsReconciled e s (check e fuel s).1 := by
  have hz := traverse_autoZones ha hr fuel s
  have hi := fun i => @traverse_icount_lt e fuel s i
  obtain ⟨-, hc⟩ := andThen_eq_ok h
  rw [check, hc] at h ⊢
  generalize (traverse e fuel s).1 = u at hz hi h ⊢
  obtain ⟨v1, v2, v3⟩ := inodeLoop_auto ha hr u hi
  have hv := foldl_icount (checkInodeCount_icount e) (List.range' 1 e.geo.ninodes) u
  unfold checkCounts at h ⊢
  generalize (List.range' 1 e.geo.ninodes).foldl (checkInodeCount e) u = v at v1 v2 v3 hv h ⊢
  obtain ⟨r1, r2, r3, r4⟩ := zoneLoop_auto ha hr _ v (List.nodup_range' _ _)
    (fun z hz => (List.mem_range'_1.mp hz).1) h
  refine ⟨fun i h1 h2 => ?_, fun z h1 h2 => ?_⟩
  · rw [zoneLoop_icount, hv, r2, r3]
    exact v3 i h1 h2
  have hm : z ∈ List.range' e.geo.firstzone (e.geo.zones - e.geo.firstzone) :=
    List.mem_range'_1.mpr ⟨h1, by omega⟩
  have huv : zoneInUse e.geo v z = zoneInUse e.geo u z := by
    unfold zoneInUse
    rw [v1]
  obtain ⟨hr4, hb⟩ := r4 z h1
  obtain ⟨a1, a2, a3, a4⟩ := hz z h1 h2
  rw [hr4, r1, v2, huv]
  rw [huv, v2] at hb
  constructor
  · rintro ⟨hU, hn⟩
    rcases Nat.eq_zero_or_pos (u.zcount z) with hc0 | hc0
    case inr => exact .inl hc0
    refine .inr ⟨hc0, a4 hU hc0, ?_⟩
    rcases hB : badZone e z with _ | ⟨_ | _⟩
    · exact absurd hB (hb hm hU hc0)
    · exact absurd ⟨hm, hc0, hB⟩ hn
    · rfl
  · rintro (hc0 | ⟨hc0, hUs, hB⟩)
    · exact ⟨a2 (by omega), fun h => by omega⟩
    · exact ⟨a3 hUs, fun h => by simp [hB] at h⟩

set_option maxRecDepth 20000 in
/-- The automatic run on `twoLinkImage` reaches the end of `check_counts`. -/
theorem check_automatic_reconciles_twoLink :
    (tinyEnv automaticOpts).opts.automatic = true ∧ (tinyEnv automaticOpts).opts.repair = true ∧
      (check (tinyEnv automaticOpts) 20 (tinyTables twoLinkImage)).2 = .ok ∧
      CountsReconciled (tinyEnv automaticOpts) (tinyTables twoLinkImage)
        (check (tinyEnv automaticOpts) 20 (tinyTables twoLinkImage)).1 :=
  ⟨rfl, rfl, by decide, check_automatic_reconciles _ 20 _ rfl rfl (by decide)⟩

/-- A stretch of the traversal from `s` to `t` on an agreed run: the zone tables stay in
agreement with those read. -/
structure AgreedZones (e : Env) (s t : St) : Prop where
  back : Agreed e t → Agreed e s
  zones : Agreed e t → ∀ s₀, AutoZones e s₀ s → AutoZones e s₀ t

namespace AgreedZones

variable {e : Env}

theorem trans {a b c : St} (h1 : AgreedZones e a b) (h2 : AgreedZones e b c) : AgreedZones e a c :=
  ⟨h1.back ∘ h2.back, fun h s₀ k => h2.zones h s₀ (h1.zones (h2.back h) s₀ k)⟩

theorem of_eq {s t : St} (hb : Agreed e t → Agreed e s) (hz : t.zcount = s.zcount)
    (hm : t.zmap = s.zmap) : AgreedZones e s t :=
  ⟨hb, fun _ _ h z h1 h2 => by simpa only [zoneInUse, hz, hm] using h z h1 h2⟩

end AgreedZones

section Traverse

variable {e : Env}

theorem agreedZones_closed (e : Env) : Closed e (AgreedZones e) :=
  have c := agreed_closed e
  ⟨fun _ => .of_eq id rfl rfl, .trans, fun p d s => .of_eq (c.ask p d s) (by simp) (by simp),
    fun _ _ => .of_eq id rfl rfl, fun s => .of_eq (c.errors s) rfl rfl, fun _ _ => .of_eq id rfl rfl,
    fun _ _ => .of_eq id rfl rfl, fun _ _ => .of_eq id rfl rfl,
    fun nr b s => .of_eq (c.writeBlock nr b s) (by simp) (by simp)⟩

/-- Counting a data zone not counted yet, on an agreed run. -/
theorem countZone_agreedZones {block : Nat} {s : St} (h1 : e.geo.firstzone ≤ block)
    (h2 : block < e.geo.zones) (h0 : Agreed e s → s.zcount block = 0) :
    AgreedZones e s (countZone e block s) := by
  have hb : Agreed e (countZone e block s) → Agreed e s := fun h => h.of_errors fun he => by
    unfold countZone offer at he
    dsimp only at he
    split_ifs at he <;> simp_all [ask_errors, St.say, markZone]
  refine ⟨hb, fun h s₀ hz => ?_⟩
  obtain ⟨hc, hm⟩ := countZone_agreed h
  exact autoZones_countZone e h1 h2 (h0 (hb h)) hc hm hz

theorem addZone_agreedZones (znr : Nat) (s : St) : AgreedZones e s (addZone e znr s).2.2 := by
  have c := agreedZones_closed e
  unfold addZone
  dsimp only
  have h0 := c.checkZoneNr znr s
  have hv := checkZoneNr_range e znr s
  split_ifs with hb hk
  · exact h0
  · have hv := hv.resolve_left hb
    exact c.trans (c.trans h0 (c.usedBefore _ _))
      (countZone_agreedZones hv.1 hv.2 (usedBefore_fresh_agreed hk))
  · exact c.trans h0 (c.usedBefore _ _)

/-- On an agreed run the traversal leaves each zone counted at most once, every counted zone
marked, and the marks of the zones it did not count as they were read. -/
theorem traverse_agreedZones (fuel : Nat) (s : St) (h : Agreed e (traverse e fuel s).1) :
    AutoZones e s (traverse e fuel s).1 :=
  have c := agreedZones_closed e
  (c.trans (c.checkZones addZone_agreedZones rootIno _)
    (c.trav addZone_agreedZones (fun _ _ => .of_eq id rfl rfl) (fun _ _ => .of_eq id rfl rfl)
      fuel _ _)).zones h s
    fun _ _ _ => ⟨Nat.zero_le 1, fun h => absurd h Nat.zero_ne_one, id, fun h _ => h⟩

end Traverse

/-- `check_counts` on an agreed run that goes to the end, after a traversal that left the zone
tables in agreement with those read, `s`, and no inode count past 255, leaves the tables
reconciled with the counts. -/
theorem checkCounts_reconciles {e : Env} {s u : St} (hz : AutoZones e s u)
    (hi : ∀ i, 1 ≤ i → i ≤ e.geo.ninodes → u.icount i < 256) (h : (checkCounts e u).2 = .ok)
    (hA : Agreed e (checkCounts e u).1) : CountsReconciled e s (checkCounts e u).1 := by
  unfold checkCounts at h hA ⊢
  obtain ⟨v1, v2, v3⟩ := inodeLoop_agreed u hi (zoneLoop_agreed_back _ _ hA)
  have hv := foldl_icount (checkInodeCount_icount e) (List.range' 1 e.geo.ninodes) u
  generalize (List.range' 1 e.geo.ninodes).foldl (checkInodeCount e) u = v at v1 v2 v3 hv h hA ⊢
  obtain ⟨r1, r2, r3, r4⟩ := zoneLoop_agreed _ v (List.nodup_range' _ _)
    (fun z hz => (List.mem_range'_1.mp hz).1) h hA
  refine ⟨fun i h1 h2 => ?_, fun z h1 h2 => ?_⟩
  · rw [zoneLoop_icount, hv, r2, r3]
    exact v3 i h1 h2
  have hm : z ∈ List.range' e.geo.firstzone (e.geo.zones - e.geo.firstzone) :=
    List.mem_range'_1.mpr ⟨h1, by omega⟩
  have huv : zoneInUse e.geo v z = zoneInUse e.geo u z := by
    unfold zoneInUse
    rw [v1]
  obtain ⟨hr4, hb⟩ := r4 z h1
  obtain ⟨a1, a2, a3, a4⟩ := hz z h1 h2
  rw [hr4, r1, v2, huv]
  rw [huv, v2] at hb
  constructor
  · rintro ⟨hU, hn⟩
    rcases Nat.eq_zero_or_pos (u.zcount z) with hc0 | hc0
    case inr => exact .inl hc0
    refine .inr ⟨hc0, a4 hU hc0, ?_⟩
    rcases hB : badZone e z with _ | ⟨_ | _⟩
    · exact absurd hB (hb hm hU hc0)
    · exact absurd ⟨hm, hc0, hB⟩ hn
    · rfl
  · rintro (hc0 | ⟨hc0, hUs, hB⟩)
    · exact ⟨a2 (by omega), fun h => by omega⟩
    · exact ⟨a3 hUs, fun h => by simp [hB] at h⟩

/-- A pass of `check`/`check2` that ends normally with no error recorded ran `check_counts` to
the end on what the traversal left, and both stretches were agreed. -/
theorem check_ok_agreed {e : Env} {fuel : Nat} {s : St} (h : (check e fuel s).2 = .ok)
    (he : (check e fuel s).1.errors = false) :
    check e fuel s = checkCounts e (traverse e fuel s).1 ∧ Agreed e (traverse e fuel s).1 ∧
      Agreed e (checkCounts e (traverse e fuel s).1).1 := by
  obtain ⟨-, hc⟩ := andThen_eq_ok h
  have hA : Agreed e (checkCounts e (traverse e fuel s).1).1 := .inr (hc ▸ he)
  exact ⟨hc, (agreed_closed e).foldl _ (fun _ _ => checkInodeCount_agreed_back) _ _
    (zoneLoop_agreed_back _ _ hA), hA⟩

/-- Whatever the options and the operator's answers, a run of `check`/`check2` that reaches
the end of `check_counts` with no error left uncorrected leaves `inode_map`, the link counts and
`zone_map` reconciled with the counts: an exit code without the 4 bit vouches for the tables
`write_tables` writes back. -/
theorem check_reconciles_of_no_errors (e : Env) (fuel : Nat) (s : St)
    (h : (check e fuel s).2 = .ok) (he : (check e fuel s).1.errors = false) :
    CountsReconciled e s (check e fuel s).1 := by
  obtain ⟨hc, hT, hA⟩ := check_ok_agreed h he
  rw [hc] at h ⊢
  exact checkCounts_reconciles (traverse_agreedZones fuel s hT)
    (fun i => traverse_icount_lt e fuel s) h hA

set_option maxRecDepth 20000 in
/-- An interactive run on `danglingImage` answered yes throughout: the entry naming inode 40 is
removed, and the pass ends with no error recorded. -/
theorem check_reconciles_of_no_errors_dangling :
    (check (tinyEnv interactiveOpts) 20
        { tinyTables danglingImage with input := ['y', 'y', 'y', 'y'] }).2 = .ok ∧
      (check (tinyEnv interactiveOpts) 20
        { tinyTables danglingImage with input := ['y', 'y', 'y', 'y'] }).1.errors = false ∧
      CountsReconciled (tinyEnv interactiveOpts)
        { tinyTables danglingImage with input := ['y', 'y', 'y', 'y'] }
        (check (tinyEnv interactiveOpts) 20
          { tinyTables danglingImage with input := ['y', 'y', 'y', 'y'] }).1 :=
  ⟨by decide, by decide, check_reconciles_of_no_errors _ 20 _ (by decide) (by decide)⟩

end MinixFsck
