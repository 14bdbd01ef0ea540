import MinixFsck.Automatic
import MinixFsck.ZoneCounts

/-! What a read-only pass that records no error vouches for about the image it read. -/
namespace MinixFsck

/-- The tables as read, `s`, against what a pass found: `reads`, the inode numbers of the
entries it read, and `refs`, the zone references of the files whose zones it walked. -/
structure TablesMatchWalk (e : Env) (s : St) (reads refs : List Nat) : Prop where
  imap : ∀ i, 1 ≤ i → i ≤ e.geo.ninodes → (s.imap i = true ↔ 0 < reads.count i)
  nlinks : ∀ i, 1 ≤ i → i ≤ e.geo.ninodes → 0 < reads.count i →
    e.geo.nlinksOf s.ibuf i = min 255 (reads.count i)
  once : ∀ z, e.geo.firstzone ≤ z → z < e.geo.zones → refs.count z ≤ 1
  marked : ∀ z, e.geo.firstzone ≤ z → z < e.geo.zones → refs.count z = 1 →
    zoneInUse e.geo s z = true
  bad : ∀ z, e.geo.firstzone ≤ z → z < e.geo.zones → zoneInUse e.geo s z = true →
    refs.count z = 0 → badZone e z = some true

/-- A read-only run of `check`/`check2` that ends with `errors_uncorrected` clear certifies
the image as read against its walk: `inode_map` marks exactly the inodes some entry it read
holds, each with `i_nlinks` the number of such entries (up to 255); no zone is referenced
twice in the zone trees of the files it walked; every zone they reference is marked in
`zone_map`; and a marked zone they do not reference is one `bad_zone` fails to read. -/
theorem check_readOnly_sound (e : Env) (fuel : Nat) (s : St) (hr : e.opts.repair = false)
    (hy : anyYes s.out = false) (h : (check e fuel s).2 = .ok)
    (he : (check e fuel s).1.errors = false) :
    TablesMatchWalk e s (travReads e fuel (.dir rootIno) (traverseStart e s))
      ((checkWalks e fuel s).flatMap (e.geo.checkedFileZones e.io s.disk s.ibuf)) := by
  obtain ⟨hc, hT, hA⟩ := check_ok_agreed h he
  have hk := check_keeps e fuel s
  have fr : Frame s (check e fuel s).1 := hk.frame ((hk.readOnly hr).trans hy)
  have hz := traverse_agreedZones fuel s hT
  have hR := checkCounts_reconciles hz (fun i => traverse_icount_lt e fuel s) (hc ▸ h) (hc ▸ hA)
  rw [← hc] at hR
  have hf := check_frees e fuel s
  have hu : ∀ z, zoneInUse e.geo (check e fuel s).1 z = zoneInUse e.geo s z := fun z => by
    unfold zoneInUse
    rw [fr.zmap]
  have hI : ∀ i, 1 ≤ i → i ≤ e.geo.ninodes → (s.imap i = true ↔ 0 < (check e fuel s).1.icount i) ∧
      (0 < (check e fuel s).1.icount i → e.geo.nlinksOf s.ibuf i = (check e fuel s).1.icount i) :=
    fun i h1 h2 => by simpa only [fr.imap, fr.ibuf] using hR.1 i h1 h2
  have hZ : ∀ z, e.geo.firstzone ≤ z → z < e.geo.zones →
      (zoneInUse e.geo s z = true ↔ 0 < (check e fuel s).1.zcount z ∨
        ((check e fuel s).1.zcount z = 0 ∧ zoneInUse e.geo s z = true ∧ badZone e z = some true)) :=
    fun z h1 h2 => by simpa only [hu] using hR.2 z h1 h2
  rw [hf.icount] at hI
  rw [hf.zcount] at hZ
  refine ⟨fun i h1 h2 => ?_, fun i h1 h2 hp => ?_, fun z h1 h2 => ?_, fun z h1 h2 h3 => ?_,
    fun z h1 h2 hm h0 => ?_⟩
  · rw [(hI i h1 h2).1, traverse_icount_reads h1 h2]
    omega
  · rw [(hI i h1 h2).2 (by rw [traverse_icount_reads h1 h2]; omega), traverse_icount_reads h1 h2]
  · have := (hz z h1 h2).1
    rw [traverse_zcount_readOnly hr hy] at this
    omega
  · exact (hZ z h1 h2).2 (.inl (by rw [traverse_zcount_readOnly hr hy, h3]; decide))
  · have hc0 : (traverse e fuel s).1.zcount z = 0 := by rw [traverse_zcount_readOnly hr hy, h0]; rfl
    rcases (hZ z h1 h2).1 hm with hp | ⟨-, -, hb⟩
    · omega
    · exact hb

set_option maxRecDepth 20000 in
/-- The read-only run on `oddModeImage` ends with no error recorded. -/
theorem check_readOnly_sound_oddMode :
    (tinyEnv readOnlyOpts).opts.repair = false ∧ anyYes (tinyTables oddModeImage).out = false ∧
      (check (tinyEnv readOnlyOpts) 20 (tinyTables oddModeImage)).2 = .ok ∧
      (check (tinyEnv readOnlyOpts) 20 (tinyTables oddModeImage)).1.errors = false ∧
      TablesMatchWalk (tinyEnv readOnlyOpts) (tinyTables oddModeImage)
        (travReads (tinyEnv readOnlyOpts) 20 (.dir rootIno)
          (traverseStart (tinyEnv readOnlyOpts) (tinyTables oddModeImage)))
        ((checkWalks (tinyEnv readOnlyOpts) 20 (tinyTables oddModeImage)).flatMap
          ((tinyEnv readOnlyOpts).geo.checkedFileZones (tinyEnv readOnlyOpts).io
            (tinyTables oddModeImage).disk (tinyTables oddModeImage).ibuf)) :=
  have h : (check (tinyEnv readOnlyOpts) 20 (tinyTables oddModeImage)).2 = .ok := by decide
  have he : (check (tinyEnv readOnlyOpts) 20 (tinyTables oddModeImage)).1.errors = false := by
    decide
  ⟨rfl, rfl, h, he, check_readOnly_sound _ 20 _ rfl rfl h he⟩

end MinixFsck
