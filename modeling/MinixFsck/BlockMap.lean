import MinixFsck.Images

/-! `map_block` and `map_block2` against the block layout of a file; `map_block2` tests the
double-indirect range the wrong way round. -/
namespace MinixFsck

/-- A walk down indirect blocks from the zone `r.1`: `indirect` at each index in turn. -/
def indirectPath (e : Env) : List Nat → Nat × St → Nat × St
  | [], r => r
  | i :: is, r => indirectPath e is (indirect e r.1 i r.2)

/-- The slot of `i_zone` and the entries below it that the block layout puts at logical block
`n`; `none` past the last position. -/
def layoutPath (g : Geo) (n : Nat) : Option (Nat × List Nat) :=
  let F := g.fanout
  if n < 7 then some (n, []) else
  let m := n - 7
  if m < F then some (7, [m]) else
  let m := m - F
  if m < F * F then some (8, [m / F, m % F]) else
  let m := m - F * F
  if g.version2 ∧ m < F * F * F then some (9, [m / (F * F), m / F % F, m % F]) else none

/-- The zone the layout puts at logical block `n`, resolved the way the resolvers resolve one:
the slot and each entry through `check_zone_nr`, each block through `read_block`; 0 past the
last position. -/
def layoutZone (e : Env) (ino n : Nat) (s : St) : Nat × St :=
  match layoutPath e.geo n with
  | some (k, idx) => indirectPath e idx (slotNr e ino k s)
  | none => (0, s)

section Resolvers

variable {e : Env} {ino n : Nat} {s : St}

/-- `map_block` follows the layout at every position of it. -/
theorem mapBlock_refines (hv : e.geo.version2 = false) (hn : n < 7 + 512 + 512 * 512) :
    mapBlock e ino n s = layoutZone e ino n s := by
  unfold mapBlock layoutZone layoutPath
  simp only [e.geo.fanout_of_v1 hv, hv, Bool.false_eq_true, false_and, if_false]
  split_ifs with h1 h2 h3 <;> dsimp only [indirectPath]
  omega

/-- `map_block2` follows the layout at the direct and single-indirect positions. -/
theorem mapBlock2_refines_single (hv : e.geo.version2 = true) (hn : n < 7 + 256) :
    mapBlock2 e ino n s = layoutZone e ino n s := by
  unfold mapBlock2 layoutZone layoutPath
  simp only [e.geo.fanout_of_v2 hv]
  split_ifs <;> dsimp only [indirectPath] <;> omega

/-- In the double-indirect range `map_block2` takes its triple-indirect branch: it starts from
`i_zone[9]` where the layout starts from `i_zone[8]` and, the `unsigned int` subtraction having
wrapped, looks up entry 65535 of the 256-entry triple-indirect block before the two entries
the layout looks up. -/
theorem mapBlock2_double_range (hv : e.geo.version2 = true) (h1 : 7 + 256 ≤ n)
    (h2 : n < 7 + 256 + 256 * 256) :
    layoutPath e.geo n = some (8, [(n - 263) / 256, (n - 263) % 256]) ∧
      mapBlock2 e ino n s =
        indirectPath e [65535, (n - 263) / 256, (n - 263) % 256] (slotNr e ino 9 s) := by
  constructor
  · unfold layoutPath
    simp only [e.geo.fanout_of_v2 hv]
    rw [if_neg (by omega), if_neg (by omega), if_pos (by omega), show n - 7 - 256 = n - 263 by omega]
  · unfold mapBlock2
    dsimp only
    rw [if_neg (by omega), if_neg (by omega), if_neg (by omega)]
    dsimp only [indirectPath]
    rw [show (n - 7 - 256 + 2 ^ 32 - 256 * 256) % 2 ^ 32 / (256 * 256) = 65535 by omega,
      show (n - 7 - 256 + 2 ^ 32 - 256 * 256) % 2 ^ 32 / 256 % 256 = (n - 263) / 256 by omega,
      show (n - 7 - 256 + 2 ^ 32 - 256 * 256) % 2 ^ 32 % 256 = (n - 263) % 256 by omega]

/-- After the double-indirect range `map_block2` goes through `i_zone[8]`, at an entry past
the 256 of the double-indirect block. -/
theorem mapBlock2_past_double (h : 7 + 256 + 256 * 256 ≤ n) :
    mapBlock2 e ino n s = indirectPath e [(n - 263) / 256, (n - 263) % 256] (slotNr e ino 8 s) ∧
      256 ≤ (n - 263) / 256 := by
  refine ⟨?_, by omega⟩
  unfold mapBlock2
  dsimp only
  rw [if_neg (by omega), if_neg (by omega), if_pos (by omega), show n - 7 - 256 = n - 263 by omega]
  dsimp only [indirectPath]

/-- After its last position `map_block` goes on through `i_zone[8]`, at an entry past the 512
of the double-indirect block, where the layout has no position. -/
theorem mapBlock_past_end (hv : e.geo.version2 = false) (h : 7 + 512 + 512 * 512 ≤ n) :
    layoutPath e.geo n = none ∧
      mapBlock e ino n s = indirectPath e [(n - 519) / 512, (n - 519) % 512] (slotNr e ino 8 s) ∧
      512 ≤ (n - 519) / 512 := by
  refine ⟨?_, ?_, by omega⟩
  · unfold layoutPath
    simp only [e.geo.fanout_of_v1 hv, hv, Bool.false_eq_true, false_and, if_false]
    rw [if_neg (by omega), if_neg (by omega), if_neg (by omega)]
  · unfold mapBlock
    dsimp only
    rw [if_neg (by omega), if_neg (by omega), show n - 7 - 512 = n - 519 by omega]
    dsimp only [indirectPath]

end Resolvers

/-- Logical block 263 of a version 2 file, the first position of the double-indirect range. -/
theorem mapBlock2_double_range_first :
    ({ tinyGeo with version2 := true } : Geo).version2 = true ∧ 7 + 256 ≤ 263 ∧
      263 < 7 + 256 + 256 * 256 ∧
      layoutPath { tinyGeo with version2 := true } 263 = some (8, [0, 0]) ∧
      mapBlock2 ⟨automaticOpts, tinyIo, { tinyGeo with version2 := true }⟩ 1 263
          (tinyTables danglingImage) =
        indirectPath ⟨automaticOpts, tinyIo, { tinyGeo with version2 := true }⟩ [65535, 0, 0]
          (slotNr ⟨automaticOpts, tinyIo, { tinyGeo with version2 := true }⟩ 1 9
            (tinyTables danglingImage)) :=
  ⟨rfl, by decide, by decide,
    mapBlock2_double_range (e := ⟨automaticOpts, tinyIo, { tinyGeo with version2 := true }⟩) rfl
      (by decide) (by decide)⟩

end MinixFsck
