import Estuary.Basic
import Mathlib.Data.Nat.Defs
import Mathlib.Data.List.Nodup

/-!
# The batch windows of the advertisement loop

For each online autoretrieve, `Provider.Run` walks the content IDs in batches of
`batchSize`: the loop variable `firstContentID` starts at 0 and grows by the batch size
while it does not exceed the highest content ID, and each batch holds `batchSize`
content IDs, or fewer for the last one. Both the increment and the subtraction are
`uint` arithmetic.

`plan` is the loop as the code runs it, on wrapping arithmetic; `tiling` is what the
loop is for: windows at multiples of the batch size covering `[0, L]`.

## Main definitions

* `windowCount` — the count of the batch at `firstContentID`
* `windowLoop`, `plan` — the batches the loop visits, `none` when it never exits
* `tiling` — the windows `(i * W, min W (L - i * W))` for `i ≤ L / W`

## Main results

* `plan_eq_tiling` — when the last window's successor start fits in a `uint`, the loop
  exits after `L / W + 1` batches and visits exactly the tiling
* `plan_eq_tiling_iff` — and only then; otherwise the increment wraps below the batch size
  and the loop visits that start too, or never exits
* `plan_eq_tiling_of_lt_int64` — so it visits the tiling for every highest content ID a
  signed 64-bit key can hold, with every batch size
* `window_mem_tiling_of_lt`, `window_not_mem_tiling` — growing `L` keeps the full windows
  and changes the count of the last one
-/

namespace Estuary

/-- A batch: its first content ID and the number of content IDs it holds. -/
structure Window where
  first : Nat
  count : Nat
  deriving DecidableEq, Repr

/-- The count of the batch at `first`: `count := batchSize`,
`remaining := lastContent.ID - firstContentID`, `if remaining < count { count = remaining }`. -/
def windowCount (batchSize lastID first : Nat) : Nat :=
  let remaining := uintSub lastID first
  if remaining < batchSize then remaining else batchSize

/-- The loop `for firstContentID := uint(0); firstContentID <= lastContent.ID;
firstContentID += provider.batchSize`, allowed `fuel` tests of its condition. -/
def windowLoop (batchSize lastID : Nat) : Nat → Nat → Option (List Window)
  | 0, _ => none
  | fuel + 1, first =>
    if first ≤ lastID then
      (windowLoop batchSize lastID fuel (uintAdd first batchSize)).map
        (⟨first, windowCount batchSize lastID first⟩ :: ·)
    else some []

/-- The batches the loop visits, or `none` when it never exits: the loop variable takes
`2 ^ 64` values, so a loop that exits at all exits within `2 ^ 64 + 1` tests. -/
def plan (batchSize lastID : Nat) : Option (List Window) :=
  windowLoop batchSize lastID (2 ^ 64 + 1) 0

/-- What the loop is meant to visit: window `i` starts at `i * W` and holds
`min W (L - i * W)` content IDs, for `i ≤ L / W`. -/
def tiling (W L : Nat) : List Window :=
  (List.range (L / W + 1)).map fun i => ⟨i * W, min W (L - i * W)⟩

theorem windowCount_of_le {W L first : Nat} (hL : L < 2 ^ 64) (h : first ≤ L) :
    windowCount W L first = min W (L - first) := by
  simp only [windowCount, uintSub_of_le hL h]
  split <;> omega

/-- From window `i ≤ L / W` on, the loop visits the rest of the tiling, then goes on from
`uintAdd (L / W * W) W`, the start after the last window, with the fuel left. Only that
last increment can wrap. -/
theorem windowLoop_eq_map {W L : Nat} (hL : L < 2 ^ 64) :
    ∀ fuel i, i ≤ L / W → L / W - i < fuel →
      windowLoop W L fuel (i * W) =
        (windowLoop W L (fuel - (L / W + 1 - i)) (uintAdd (L / W * W) W)).map
          (((List.range' i (L / W + 1 - i)).map fun i => ⟨i * W, min W (L - i * W)⟩) ++ ·)
  | 0, _, _, hfuel => absurd hfuel (Nat.not_lt_zero _)
  | fuel + 1, i, hi, hfuel => by
    have hle : i * W ≤ L := (Nat.mul_le_mul_right W hi).trans (Nat.div_mul_le_self L W)
    rw [windowLoop, if_pos hle, windowCount_of_le hL hle]
    rcases Nat.lt_or_eq_of_le hi with hi | rfl
    · have hnext : (i + 1) * W ≤ L / W * W := Nat.mul_le_mul_right W hi
      have hdiv : L / W * W ≤ L := Nat.div_mul_le_self L W
      rw [Nat.succ_mul] at hnext
      rw [show L / W + 1 - i = (L / W + 1 - (i + 1)) + 1 by omega, List.range'_succ,
        uintAdd_of_lt (by omega), ← Nat.succ_mul,
        windowLoop_eq_map hL fuel (i + 1) hi (by omega), Option.map_map,
        show fuel + 1 - (L / W + 1 - (i + 1) + 1) = fuel - (L / W + 1 - (i + 1)) by omega]
      rfl
    · rw [show L / W + 1 - L / W = 1 by omega, Nat.add_sub_cancel]
      rfl

/-- The loop visits the tiling, then goes on from the start after its last window. -/
theorem plan_eq_map {W L : Nat} (hL : L < 2 ^ 64) :
    plan W L =
      (windowLoop W L (2 ^ 64 - L / W) (uintAdd (L / W * W) W)).map (tiling W L ++ ·) := by
  have hk : L / W ≤ L := Nat.div_le_self L W
  have h := @windowLoop_eq_map W L hL (2 ^ 64 + 1) 0 (Nat.zero_le _) (by omega)
  rwa [Nat.zero_mul, Nat.sub_zero, ← List.range_eq_range',
    show 2 ^ 64 + 1 - (L / W + 1) = 2 ^ 64 - L / W by omega] at h

/-- When the start after the last window fits in a `uint`, the loop exits after
`L / W + 1` batches, batch `i` starting at `i * W` with `min W (L - i * W)` content IDs:
neither the increment nor the subtraction wraps. -/
theorem plan_eq_tiling {W L : Nat} (hW : 0 < W) (hL : (L / W + 1) * W < 2 ^ 64) :
    plan W L = some (tiling W L) := by
  have hk : L / W ≤ L := Nat.div_le_self L W
  have hlt : L < L / W * W + W := Nat.lt_div_mul_add hW
  rw [Nat.succ_mul] at hL
  rw [plan_eq_map (by omega), uintAdd_of_lt hL,
    show 2 ^ 64 - L / W = (2 ^ 64 - L / W - 1) + 1 by omega, windowLoop, if_neg (by omega)]
  simp

/-- When the start after the last window does not fit in a `uint`, the increment wraps to
`(L / W + 1) * W - 2 ^ 64`, a start below the batch size, and the loop visits it after
the tiling. -/
theorem plan_of_wrap {W L : Nat} (hW64 : W < 2 ^ 64) (hL : L < 2 ^ 64)
    (hwrap : 2 ^ 64 ≤ (L / W + 1) * W) :
    (L / W + 1) * W - 2 ^ 64 < W ∧
      (plan W L = none ∨ ∃ ws, plan W L = some (tiling W L ++
        ⟨(L / W + 1) * W - 2 ^ 64, windowCount W L ((L / W + 1) * W - 2 ^ 64)⟩ :: ws)) := by
  have hk : L / W ≤ L := Nat.div_le_self L W
  have hdiv : L / W * W ≤ L := Nat.div_mul_le_self L W
  rw [Nat.succ_mul] at hwrap ⊢
  have hv : uintAdd (L / W * W) W = L / W * W + W - 2 ^ 64 := by unfold uintAdd; omega
  refine ⟨by omega, ?_⟩
  rw [plan_eq_map hL, hv, show 2 ^ 64 - L / W = (2 ^ 64 - L / W - 1) + 1 by omega, windowLoop,
    if_pos (by omega), Option.map_map]
  cases windowLoop W L (2 ^ 64 - L / W - 1) (uintAdd (L / W * W + W - 2 ^ 64) W) with
  | none => exact .inl rfl
  | some ws => exact .inr ⟨ws, rfl⟩

/-- For a batch size and a highest content ID that are `uint`s, the loop visits exactly
the tiling when, and only when, the start after the last window fits in a `uint`.
Otherwise `firstContentID += batchSize` wraps to a start below the batch size, hence not
above the highest content ID, and the loop visits it too, or never exits. -/
theorem plan_eq_tiling_iff {W L : Nat} (hW : 0 < W) (hW64 : W < 2 ^ 64) (hL : L < 2 ^ 64) :
    (plan W L = some (tiling W L) ↔ (L / W + 1) * W < 2 ^ 64) ∧
      (2 ^ 64 ≤ (L / W + 1) * W →
        (L / W + 1) * W - 2 ^ 64 < W ∧
          (plan W L = none ∨ ∃ ws, plan W L = some (tiling W L ++
            ⟨(L / W + 1) * W - 2 ^ 64, windowCount W L ((L / W + 1) * W - 2 ^ 64)⟩ :: ws))) := by
  refine ⟨⟨fun h => Nat.lt_of_not_le fun hwrap => ?_, plan_eq_tiling hW⟩, plan_of_wrap hW64 hL⟩
  rcases (plan_of_wrap hW64 hL hwrap).2 with hnone | ⟨ws, hws⟩
  · rw [h] at hnone; cases hnone
  · rw [h, Option.some.injEq] at hws
    simpa using congrArg List.length hws

theorem plan_eq_tiling_iff_configured :
    0 < 25000 ∧ 25000 < 2 ^ 64 ∧ 60000 < 2 ^ 64 ∧
      ((plan 25000 60000 = some (tiling 25000 60000) ↔ (60000 / 25000 + 1) * 25000 < 2 ^ 64) ∧
        (2 ^ 64 ≤ (60000 / 25000 + 1) * 25000 →
          (60000 / 25000 + 1) * 25000 - 2 ^ 64 < 25000 ∧
            (plan 25000 60000 = none ∨ ∃ ws, plan 25000 60000 = some (tiling 25000 60000 ++
              ⟨(60000 / 25000 + 1) * 25000 - 2 ^ 64,
                windowCount 25000 60000 ((60000 / 25000 + 1) * 25000 - 2 ^ 64)⟩ :: ws)))) :=
  ⟨by decide, by decide, by decide, plan_eq_tiling_iff (by decide) (by decide) (by decide)⟩

@[simp] theorem length_tiling (W L : Nat) : (tiling W L).length = L / W + 1 := by
  simp [tiling]

theorem mem_tiling {W L : Nat} {w : Window} :
    w ∈ tiling W L ↔ ∃ i ≤ L / W, w = ⟨i * W, min W (L - i * W)⟩ := by
  simp only [tiling, List.mem_map, List.mem_range, Nat.lt_succ_iff]
  exact ⟨fun ⟨i, hi, h⟩ => ⟨i, hi, h.symm⟩, fun ⟨i, hi, h⟩ => ⟨i, hi, h.symm⟩⟩

/-- No window of the tiling starts after the last one, at `L / W * W`. -/
theorem first_le_of_mem_tiling {W L : Nat} {v : Window} (hv : v ∈ tiling W L) :
    v.first ≤ L / W * W := by
  obtain ⟨i, hi, rfl⟩ := mem_tiling.mp hv
  exact Nat.mul_le_mul_right W hi

/-- Below `2 ^ 63` the start after the last window fits in a `uint`, for every `uint` batch
size. -/
theorem fits_of_lt_int64 {W L : Nat} (hW64 : W < 2 ^ 64) (hL : L < 2 ^ 63) :
    (L / W + 1) * W < 2 ^ 64 := by
  rw [Nat.succ_mul]
  rcases Nat.lt_or_ge L W with hlt | hle
  · rw [Nat.div_eq_of_lt hlt, Nat.zero_mul, Nat.zero_add]; exact hW64
  · have := Nat.div_mul_le_self L W; omega

/-- The highest content ID is a key of a signed 64-bit column, so it is below `2 ^ 63`.
For every such `L` and every `uint` batch size the loop exits after `L / W + 1` batches,
batch `i` starting at `i * W` with `min W (L - i * W)` content IDs; no start passes `L`,
so the subtraction does not wrap, and no increment wraps. -/
theorem plan_eq_tiling_of_lt_int64 {W L : Nat} (hW : 0 < W) (hW64 : W < 2 ^ 64)
    (hL : L < 2 ^ 63) :
    plan W L = some (tiling W L) ∧ (tiling W L).length = L / W + 1 ∧
      ∀ v ∈ tiling W L, v.first ≤ L ∧ v.first + W < 2 ^ 64 := by
  have hdiv : L / W * W ≤ L := Nat.div_mul_le_self L W
  have hfit := fits_of_lt_int64 hW64 hL
  refine ⟨plan_eq_tiling hW hfit, length_tiling W L, fun v hv => ?_⟩
  have hv := first_le_of_mem_tiling hv
  rw [Nat.succ_mul] at hfit
  omega

theorem plan_eq_tiling_of_lt_int64_configured :
    0 < 25000 ∧ 25000 < 2 ^ 64 ∧ 2 ^ 63 - 1 < 2 ^ 63 ∧
      (plan 25000 (2 ^ 63 - 1) = some (tiling 25000 (2 ^ 63 - 1)) ∧
        (tiling 25000 (2 ^ 63 - 1)).length = (2 ^ 63 - 1) / 25000 + 1 ∧
        ∀ v ∈ tiling 25000 (2 ^ 63 - 1), v.first ≤ 2 ^ 63 - 1 ∧ v.first + 25000 < 2 ^ 64) :=
  ⟨by decide, by decide, by decide, plan_eq_tiling_of_lt_int64 (by decide) (by decide) (by decide)⟩

/-- The tiling split at window `k ≤ L / W`: the windows before it, window `k`, and the
windows after it. -/
theorem tiling_split {W L k : Nat} (hk : k ≤ L / W) :
    tiling W L = (List.range k).map (fun i => ⟨i * W, min W (L - i * W)⟩) ++
      (⟨k * W, min W (L - k * W)⟩ : Window) ::
        (List.range' (k + 1) (L / W - k)).map fun i => ⟨i * W, min W (L - i * W)⟩ := by
  have h := List.range'_append 0 k (L / W - k + 1) 1
  rw [Nat.zero_add, Nat.one_mul, List.range'_succ, show L / W - k + 1 + k = L / W + 1 by omega] at h
  rw [tiling, List.range_eq_range', List.range_eq_range', ← h, List.map_append, List.map_cons]

/-! ### Growth of the highest content ID

When `L` grows to `L'`, the full windows of the tiling of `L` stay as they are, the window
at `L / W * W` gets another count, and the windows after it are new. -/

theorem window_mem_tiling_of_lt {W L L' i : Nat} (hLL : L ≤ L') (hi : i < L / W) :
    (⟨i * W, min W (L' - i * W)⟩ : Window) ∈ tiling W L := by
  have hle : (i + 1) * W ≤ L / W * W := Nat.mul_le_mul_right W hi
  have hdiv : L / W * W ≤ L := Nat.div_mul_le_self L W
  rw [Nat.succ_mul] at hle
  exact mem_tiling.mpr ⟨i, hi.le, by congr 1; omega⟩

theorem window_not_mem_tiling {W L L' : Nat} (hW : 0 < W) (hLL : L < L') :
    (⟨L / W * W, min W (L' - L / W * W)⟩ : Window) ∉ tiling W L := by
  intro h
  obtain ⟨i, hi, hw⟩ := mem_tiling.mp h
  obtain ⟨hfirst, hcount⟩ := Window.mk.inj hw
  obtain rfl := Nat.eq_of_mul_eq_mul_right hW hfirst
  have hlt : L < L / W * W + W := Nat.lt_div_mul_add hW
  have hdiv : L / W * W ≤ L := Nat.div_mul_le_self L W
  omega

/-- No window of the tiling of `L` starts beyond `L / W * W`. -/
theorem window_not_mem_tiling_of_lt {W L i : Nat} (hW : 0 < W) (hi : L / W < i) (c : Nat) :
    (⟨i * W, c⟩ : Window) ∉ tiling W L := by
  intro h
  obtain ⟨j, hj, hw⟩ := mem_tiling.mp h
  have := Nat.eq_of_mul_eq_mul_right hW (Window.mk.inj hw).1
  omega

theorem first_mem_tiling_of_le {W L L' : Nat} (hLL : L ≤ L') {v : Window}
    (hv : v ∈ tiling W L) : v.first ∈ (tiling W L').map (·.first) := by
  obtain ⟨i, hi, rfl⟩ := mem_tiling.mp hv
  exact List.mem_map.mpr ⟨_, mem_tiling.mpr ⟨i, hi.trans (Nat.div_le_div_right hLL), rfl⟩, rfl⟩

theorem nodup_firsts_tiling {W : Nat} (hW : 0 < W) (L : Nat) :
    ((tiling W L).map (·.first)).Nodup := by
  rw [tiling, List.map_map]
  exact List.Nodup.map (fun i j h => Nat.eq_of_mul_eq_mul_right hW h) (List.nodup_range _)

end Estuary
