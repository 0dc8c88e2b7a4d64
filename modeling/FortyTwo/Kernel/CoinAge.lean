import FortyTwo.CInt
import FortyTwo.Kernel.Record

/-!
# `kernelrecord.cpp` · CoinAge: `getCoinDay`, `getProbToMintStake` and `getPoSReward`

Three readings of one record's coin-age, in `int64_t` arithmetic where an overflow is undefined
behaviour (`checkedInt64`, `none`).

* **The coin-day the spec asks for** (`coinDay`): `value · min(max(age − nStakeMinAge, 0),
  nStakeMaxAge) / (COIN · nOneDay)`. It is monotone in the age (`coinDay_mono`), `0` up to
  `nStakeMinAge` and constant from `nStakeMinAge + nStakeMaxAge` on.
* **`getCoinDay`** returns `0` for a negative weight before it multiplies, then clamps at
  `nStakeMaxAge`. When the two time differences are `int64_t`s and the clamped product is below
  `2^63`, it is `coinDay` of the record's age (`getCoinDay_eq`). So it is non-increasing in
  `nTime`, non-decreasing in `now`, and has the two plateaus (`getCoinDay_monotone`). At the edge
  of `int64_t` a time difference overflows (`getCoinDay_time_overflow`).
* **`getProbToMintStake`'s coin-age** (`probToMintStakeCoinAge`) clamps in the other order:
  `min` before subtracting `nStakeMinAge`, and `max(·, 0)` after a truncating division of a
  product that is negative below `nStakeMinAge`. When that product is an `int64_t` it is
  `coinDay` too, and so equals `getCoinDay` at `now + timeOffset`
  (`probToMintStakeCoinAge_eq_getCoinDay`). A very negative offset makes the product overflow
  where `getCoinDay` returns `0` early (`probToMintStakeCoinAge_offset_overflow`).
* **`getPoSReward`** computes `minutes * 60` in `int`, which overflows from `35791395` minutes
  on (`getPoSReward_minutes_overflow`). Its weight is not clamped at `nStakeMaxAge`, so
  `nValue * nWeight` can overflow too (`getPoSReward_weight_overflow`). While neither happens,
  the reward is non-decreasing in the lookahead (`getPoSReward_mono`).

`COIN`, `nOneDay`, `nStakeMinAge`, `nStakeMaxAge` and `GetProofOfStakeReward` are not in the
sources. The first two are the spec's constants, the stake ages are the network's parameters
(`StakeParams`), and `GetProofOfStakeReward` is the call's input. `getProbToMintStake` divides its
coin-age by `2^32 · difficulty` in `double`, and `getProbToMintWithinNMinutes` compounds that in
`double`; neither is modelled.
-/

namespace FortyTwo.Kernel

/-! ## Constants -/

/-- Modelled from the spec: `COIN`, the base unit, `10^8` sub-units.
Source: `util.h` (not in the sources); spec, glossary
Kind: D -/
def COIN : Int := 100000000

/-- Modelled from the spec: `nOneDay`, `86400` seconds.
Source: `main.h` (not in the sources); spec, glossary
Kind: D -/
def nOneDay : Int := 86400

/-- Modelled from the spec: the network's stake ages, `nStakeMinAge` and `nStakeMaxAge`, whose
values the spec leaves to the network's parameters. They are non-negative and their sum is an
`int`, so `(int64_t)(nStakeMinAge+nStakeMaxAge)` is their sum.
Source: `main.h` (not in the sources), read in `src/stun.cpp` l. 1248–1274
Kind: D -/
structure StakeParams where
  nStakeMinAge : Nat
  nStakeMaxAge : Nat
  sum_lt : nStakeMinAge + nStakeMaxAge < 2 ^ 31

/-- The time differences `getCoinDay` computes are `int64_t`s: `now − nTime` and
`now − nTime − nStakeMinAge`.
Source: `src/stun.cpp` l. 1248
Kind: D -/
def TimeFits (sp : StakeParams) (now nTime : Int) : Prop :=
  InInt64 (now - nTime) ∧ InInt64 (now - nTime - sp.nStakeMinAge)

instance (sp : StakeParams) (now nTime : Int) : Decidable (TimeFits sp now nTime) :=
  inferInstanceAs (Decidable (InInt64 (now - nTime) ∧ InInt64 (now - nTime - sp.nStakeMinAge)))

/-! ## The coin-day of the spec -/

/-- Modelled from the spec (§4.3, §4.4): the coin-day of `value` at age `age`,
`value · min(max(age − nStakeMinAge, 0), nStakeMaxAge) / (COIN · nOneDay)`, rounded down.
Source: spec §4.3 step 1, §4.4
Kind: D -/
def coinDay (sp : StakeParams) (value age : Int) : Nat :=
  (value * min (max (age - sp.nStakeMinAge) 0) sp.nStakeMaxAge / (COIN * nOneDay)).toNat

/-- The coin-day grows with the age.
Source: spec §8 item 2
Kind: L -/
theorem coinDay_mono (sp : StakeParams) {value age₁ age₂ : Int} (hv : 0 ≤ value)
    (h : age₁ ≤ age₂) : coinDay sp value age₁ ≤ coinDay sp value age₂ := by
  unfold coinDay
  apply Int.toNat_le_toNat
  apply Int.ediv_le_ediv (by decide)
  apply Int.mul_le_mul_of_nonneg_left _ hv
  exact min_le_min_right _ (max_le_max_right _ (by omega))

/-- Up to `nStakeMinAge` the coin-day is `0`.
Source: spec §4.4
Kind: L -/
theorem coinDay_of_le_minAge (sp : StakeParams) {value age : Int} (h : age ≤ sp.nStakeMinAge) :
    coinDay sp value age = 0 := by
  rw [coinDay, max_eq_right (by omega), min_eq_left (by omega), Int.mul_zero, Int.zero_ediv]
  rfl

/-- From `nStakeMinAge + nStakeMaxAge` on the coin-day is the clamped value.
Source: spec §4.4
Kind: L -/
theorem coinDay_of_le_age (sp : StakeParams) {value age : Int}
    (h : (sp.nStakeMinAge : Int) + sp.nStakeMaxAge ≤ age) :
    coinDay sp value age = (value * sp.nStakeMaxAge / (COIN * nOneDay)).toNat := by
  rw [coinDay, max_eq_left (by omega), min_eq_right (by omega)]

/-! ## `getCoinDay` -/

/-- `KernelRecord::getCoinDay()` at `GetAdjustedTime() = now`: `0` for a negative weight, else
`nValue * min(nWeight, nStakeMaxAge) / (COIN * nOneDay)` as a `uint64_t`.
Source: `src/stun.cpp` l. 1246–1254
Kind: D
Fidelity: exact (`none` for an `int64_t` overflow) -/
def getCoinDay (sp : StakeParams) (now : Int) (r : KernelRecord) : Option Nat := do
  let d ← checkedInt64 (now - r.nTime)
  let nWeight ← checkedInt64 (d - sp.nStakeMinAge)
  if nWeight < 0 then return 0
  let nWeight := min nWeight sp.nStakeMaxAge
  let prod ← checkedInt64 (r.nValue * nWeight)
  return toUInt64 (prod.tdiv (COIN * nOneDay))

/-- A product of a non-negative value and a non-negative weight, divided by `COIN · nOneDay` and
converted to `uint64_t`, is the rounded-down quotient.
Source: `src/stun.cpp` l. 1252, 1262, 1275
Kind: L -/
theorem toUInt64_tdiv {p : Int} (h0 : 0 ≤ p) (h1 : p < 2 ^ 63) :
    toUInt64 (p.tdiv (COIN * nOneDay)) = (p / (COIN * nOneDay)).toNat := by
  rw [Int.tdiv_eq_ediv h0 (by decide)]
  exact toUInt64_of_nonneg (Int.ediv_nonneg h0 (by decide))
    (lt_of_le_of_lt (Int.ediv_le_self _ h0) (by omega))

/-- **`getCoinDay` is the spec's coin-day of the record's age** when its time differences are
`int64_t`s and the clamped product is below `2^63`.
Source: `src/stun.cpp` l. 1246–1254
Kind: L -/
theorem getCoinDay_eq (sp : StakeParams) {now : Int} {r : KernelRecord} (hv : 0 ≤ r.nValue)
    (ht : TimeFits sp now r.nTime)
    (hp : r.nValue * min (max (now - r.nTime - sp.nStakeMinAge) 0) sp.nStakeMaxAge < 2 ^ 63) :
    getCoinDay sp now r = some (coinDay sp r.nValue (now - r.nTime)) := by
  simp only [getCoinDay, checkedInt64_of_mem ht.1, checkedInt64_of_mem ht.2, Option.pure_def,
    Option.bind_eq_bind, Option.some_bind]
  split_ifs with hw
  · rw [coinDay_of_le_minAge sp (by omega)]
  · rw [max_eq_left (by omega)] at hp
    have hp0 : 0 ≤ r.nValue * min (now - r.nTime - sp.nStakeMinAge) sp.nStakeMaxAge :=
      Int.mul_nonneg hv (le_min (by omega) (by omega))
    rw [checkedInt64_of_mem ⟨by omega, hp⟩, Option.some_bind, toUInt64_tdiv hp0 hp, coinDay,
      max_eq_left (by omega)]

/-- **`getCoinDay` is monotone and has two plateaus.** For `nValue ≥ 0` with
`nValue · nStakeMaxAge < 2^63`, and times whose differences are `int64_t`s: as a function of
`nTime` it is non-increasing; it is `0` when `now − nTime ≤ nStakeMinAge`; it is
`nValue · nStakeMaxAge / (COIN · nOneDay)` when `now − nTime ≥ nStakeMinAge + nStakeMaxAge`; and as
a function of `now` it is non-decreasing.
Source: `src/stun.cpp` l. 1246–1254
Kind: T -/
theorem getCoinDay_monotone (sp : StakeParams) (r : KernelRecord) (hv : 0 ≤ r.nValue)
    (hvm : r.nValue * sp.nStakeMaxAge < 2 ^ 63) :
    (∀ now nTime₁ nTime₂, nTime₁ ≤ nTime₂ → TimeFits sp now nTime₁ → TimeFits sp now nTime₂ →
      ∃ v₁ v₂, getCoinDay sp now { r with nTime := nTime₁ } = some v₁ ∧
        getCoinDay sp now { r with nTime := nTime₂ } = some v₂ ∧ v₂ ≤ v₁) ∧
    (∀ now, TimeFits sp now r.nTime → now - r.nTime ≤ sp.nStakeMinAge →
      getCoinDay sp now r = some 0) ∧
    (∀ now, TimeFits sp now r.nTime → (sp.nStakeMinAge : Int) + sp.nStakeMaxAge ≤ now - r.nTime →
      getCoinDay sp now r = some (r.nValue * sp.nStakeMaxAge / (COIN * nOneDay)).toNat) ∧
    (∀ now₁ now₂, now₁ ≤ now₂ → TimeFits sp now₁ r.nTime → TimeFits sp now₂ r.nTime →
      ∃ v₁ v₂, getCoinDay sp now₁ r = some v₁ ∧ getCoinDay sp now₂ r = some v₂ ∧ v₁ ≤ v₂) := by
  -- the clamped product never exceeds `nValue · nStakeMaxAge`
  have hp : ∀ w : Int, r.nValue * min (max w 0) sp.nStakeMaxAge < 2 ^ 63 := fun w =>
    lt_of_le_of_lt (Int.mul_le_mul_of_nonneg_left (min_le_right _ _) hv) hvm
  have heq : ∀ now (r' : KernelRecord), r'.nValue = r.nValue → TimeFits sp now r'.nTime →
      getCoinDay sp now r' = some (coinDay sp r.nValue (now - r'.nTime)) := by
    intro now r' hr' ht
    rw [getCoinDay_eq sp (hr' ▸ hv) ht (hr' ▸ hp _), hr']
  refine ⟨fun now t₁ t₂ h h₁ h₂ => ⟨_, _, heq now _ rfl h₁, heq now _ rfl h₂,
      coinDay_mono sp hv (show now - t₂ ≤ now - t₁ by omega)⟩,
    fun now ht h => by rw [heq now r rfl ht, coinDay_of_le_minAge sp h],
    fun now ht h => by rw [heq now r rfl ht, coinDay_of_le_age sp h],
    fun n₁ n₂ h h₁ h₂ => ⟨_, _, heq n₁ r rfl h₁, heq n₂ r rfl h₂, coinDay_mono sp hv (by omega)⟩⟩

/-- The network of the example: stake ages of 30 and 90 days.
Source: none: example
Kind: D -/
def thirtyNinety : StakeParams := ⟨2592000, 7776000, by decide⟩

/-- A 100-coin record at time `0`.
Source: none: example
Kind: D -/
def hundredCoins : KernelRecord := ⟨1, 0, "", 100 * 100000000, 0, false⟩

/-- The laws hold for 100 coins on a 30/90-day network.
Source: `src/stun.cpp` l. 1246–1254
Kind: W -/
theorem getCoinDay_monotone_hundred :
    0 ≤ hundredCoins.nValue ∧ hundredCoins.nValue * thirtyNinety.nStakeMaxAge < 2 ^ 63 ∧
      getCoinDay thirtyNinety (10368000 + 864000) hundredCoins =
        some (hundredCoins.nValue * thirtyNinety.nStakeMaxAge / (COIN * nOneDay)).toNat :=
  ⟨by decide, by decide, (getCoinDay_monotone thirtyNinety hundredCoins (by decide) (by decide)).2.2.1
    _ (by decide) (by decide)⟩

/-- **At the edge of `int64_t` the age overflows.** At `GetAdjustedTime() = 0`, a one-coin record
with `nTime = −2^63` has `now − nTime = 2^63`: `getCoinDay` has no defined result, although the age
is past `nStakeMinAge + nStakeMaxAge` and `nValue · nStakeMaxAge < 2^63`.
Source: `src/stun.cpp` l. 1248
Kind: C -/
theorem getCoinDay_time_overflow (sp : StakeParams) :
    (100000000 : Int) * sp.nStakeMaxAge < 2 ^ 63 ∧
      (sp.nStakeMinAge : Int) + sp.nStakeMaxAge ≤ 0 - (-2 ^ 63) ∧
      getCoinDay sp 0 ⟨1, -2 ^ 63, "", 100000000, 0, false⟩ = none := by
  have := sp.sum_lt
  refine ⟨by omega, by omega, ?_⟩
  simp only [getCoinDay]
  rw [checkedInt64_of_not_mem (by unfold InInt64; omega)]
  rfl

/-- The failing input on a 30/90-day network: one coin with `nTime = −2^63`, at `now = 0`.
Source: `src/stun.cpp` l. 1248
Kind: W -/
theorem getCoinDay_time_overflow_thirty :
    (100000000 : Int) * thirtyNinety.nStakeMaxAge < 2 ^ 63 ∧
      (thirtyNinety.nStakeMinAge : Int) + thirtyNinety.nStakeMaxAge ≤ 0 - (-2 ^ 63) ∧
      getCoinDay thirtyNinety 0 ⟨1, -2 ^ 63, "", 100000000, 0, false⟩ = none :=
  getCoinDay_time_overflow thirtyNinety

/-! ## `getProbToMintStake` -/

/-- The `uint64_t coinAge` of `KernelRecord::getProbToMintStake(difficulty, timeOffset)` at
`GetAdjustedTime() = now`: `Weight = min(now − nTime + timeOffset, nStakeMinAge + nStakeMaxAge) −
nStakeMinAge`, then `max(nValue * Weight / (COIN * nOneDay), 0)`. The function returns it divided
by `2^32 · difficulty` in `double`.
Source: `src/stun.cpp` l. 1267–1277
Kind: D
Fidelity: exact for the coin-age (`none` for an `int64_t` overflow); the `double` division is not
modelled -/
def probToMintStakeCoinAge (sp : StakeParams) (now : Int) (r : KernelRecord) (timeOffset : CInt) :
    Option Nat := do
  let d ← checkedInt64 (now - r.nTime)
  let a ← checkedInt64 (d + timeOffset.val)
  let Weight ← checkedInt64 (min a ((sp.nStakeMinAge + sp.nStakeMaxAge : Nat) : Int) - sp.nStakeMinAge)
  let prod ← checkedInt64 (r.nValue * Weight)
  return toUInt64 (max (prod.tdiv (COIN * nOneDay)) 0)

/-- A truncating quotient of a non-positive product is cut to `0` by the `max`.
Source: `src/stun.cpp` l. 1275
Kind: L -/
theorem max_tdiv_of_nonpos {p : Int} (h : p ≤ 0) : max (p.tdiv (COIN * nOneDay)) 0 = 0 := by
  have : 0 ≤ (-p).tdiv (COIN * nOneDay) := Int.tdiv_nonneg (by omega) (by decide)
  rw [Int.neg_tdiv] at this
  exact max_eq_right (by omega)

/-- Cut at `0`, `getProbToMintStake`'s weight is the spec's clamped weight: subtracting
`nStakeMinAge` after the `min` clamps at `nStakeMaxAge`.
Source: `src/stun.cpp` l. 1273–1274
Kind: L -/
theorem weight_clamp (sp : StakeParams) (A : Int) :
    max (min A ((sp.nStakeMinAge + sp.nStakeMaxAge : Nat) : Int) - sp.nStakeMinAge) 0 =
      min (max (A - sp.nStakeMinAge) 0) sp.nStakeMaxAge := by
  push_cast
  omega

/-- For `nValue ≥ 0`, `max(nValue * W / (COIN * nOneDay), 0)` with a truncating division is the
division of `nValue * max(W, 0)`.
Source: `src/stun.cpp` l. 1275
Kind: L -/
theorem max_tdiv_mul {v : Int} (hv : 0 ≤ v) (W : Int) :
    max ((v * W).tdiv (COIN * nOneDay)) 0 = (v * max W 0).tdiv (COIN * nOneDay) := by
  by_cases hW : W ≤ 0
  · rw [max_tdiv_of_nonpos (Int.mul_nonpos_of_nonneg_of_nonpos hv hW), max_eq_right hW,
      Int.mul_zero, Int.zero_tdiv]
  · rw [max_eq_left (Int.tdiv_nonneg (Int.mul_nonneg hv (by omega)) (by decide)),
      max_eq_left (by omega)]

/-- A product `nValue * Weight` inside `int64_t` bounds the clamped product, for `nValue ≥ 0`.
Source: `src/stun.cpp` l. 1273–1275
Kind: L -/
theorem clamped_mul_lt (sp : StakeParams) {v A : Int} (hv : 0 ≤ v)
    (hp : InInt64 (v * (min A ((sp.nStakeMinAge + sp.nStakeMaxAge : Nat) : Int) - sp.nStakeMinAge))) :
    v * min (max (A - sp.nStakeMinAge) 0) sp.nStakeMaxAge < 2 ^ 63 := by
  rw [← weight_clamp, mul_max_of_nonneg _ _ hv, Int.mul_zero]
  exact max_lt hp.2 (by decide)

/-- **`getProbToMintStake`'s coin-age is the spec's coin-day at `now + timeOffset`** when its
time sums and its product are `int64_t`s.
Source: `src/stun.cpp` l. 1267–1277
Kind: L -/
theorem probToMintStakeCoinAge_eq (sp : StakeParams) {now : Int} {r : KernelRecord} {t : CInt}
    (hv : 0 ≤ r.nValue) (hnow : InInt64 (now - r.nTime)) (ht : TimeFits sp (now + t.val) r.nTime)
    (hp : InInt64 (r.nValue *
      (min (now + t.val - r.nTime) ((sp.nStakeMinAge + sp.nStakeMaxAge : Nat) : Int) - sp.nStakeMinAge))) :
    probToMintStakeCoinAge sp now r t = some (coinDay sp r.nValue (now + t.val - r.nTime)) := by
  have hA : now - r.nTime + t.val = now + t.val - r.nTime := by omega
  have hW : InInt64 (min (now + t.val - r.nTime) ((sp.nStakeMinAge + sp.nStakeMaxAge : Nat) : Int) -
      sp.nStakeMinAge) := by
    unfold TimeFits InInt64 at *
    have := sp.sum_lt
    omega
  simp only [probToMintStakeCoinAge, checkedInt64_of_mem hnow, Option.some_bind, hA,
    checkedInt64_of_mem ht.1, checkedInt64_of_mem hW, checkedInt64_of_mem hp, Option.bind_eq_bind,
    Option.pure_def, max_tdiv_mul hv, weight_clamp]
  rw [toUInt64_tdiv (Int.mul_nonneg hv (le_min (le_max_right _ _) (Int.natCast_nonneg _)))
    (clamped_mul_lt sp hv hp)]
  rfl

/-- **The probability and the coin-day come from one coin-age.** For `nValue ≥ 0`, with the time
sums and `getProbToMintStake`'s product `nValue * Weight` inside `int64_t`, its coin-age equals
`getCoinDay()` at `GetAdjustedTime() = now + timeOffset`, which is `0` below `nStakeMinAge` and
otherwise `nValue · min(now + timeOffset − nTime − nStakeMinAge, nStakeMaxAge) / (COIN · nOneDay)`.
Source: `src/stun.cpp` l. 1246–1254, 1267–1277
Kind: T -/
theorem probToMintStakeCoinAge_eq_getCoinDay (sp : StakeParams) (r : KernelRecord) (now : Int)
    (t : CInt) (hv : 0 ≤ r.nValue) (hnow : InInt64 (now - r.nTime))
    (ht : TimeFits sp (now + t.val) r.nTime)
    (hp : InInt64 (r.nValue *
      (min (now + t.val - r.nTime) ((sp.nStakeMinAge + sp.nStakeMaxAge : Nat) : Int) - sp.nStakeMinAge))) :
    probToMintStakeCoinAge sp now r t = getCoinDay sp (now + t.val) r ∧
      getCoinDay sp (now + t.val) r = some (if now + t.val - r.nTime < sp.nStakeMinAge then 0
        else (r.nValue * min (now + t.val - r.nTime - sp.nStakeMinAge) sp.nStakeMaxAge /
          (COIN * nOneDay)).toNat) := by
  rw [probToMintStakeCoinAge_eq sp hv hnow ht hp, getCoinDay_eq sp hv ht (clamped_mul_lt sp hv hp)]
  refine ⟨rfl, ?_⟩
  split_ifs with hw
  · rw [coinDay_of_le_minAge sp hw.le]
  · rw [coinDay, max_eq_left (by omega)]

/-- One coin at time `0`, seen at `now = 10^7` with offset `10^6` on a 30/90-day network.
Source: `src/stun.cpp` l. 1246–1277
Kind: W -/
theorem probToMintStakeCoinAge_eq_getCoinDay_one :
    0 ≤ (⟨1, 0, "", 100000000, 0, false⟩ : KernelRecord).nValue ∧
      InInt64 (10000000 - (⟨1, 0, "", 100000000, 0, false⟩ : KernelRecord).nTime) ∧
      TimeFits thirtyNinety (10000000 + 1000000) 0 ∧
      InInt64 (100000000 * (min (10000000 + 1000000 - 0)
        ((thirtyNinety.nStakeMinAge + thirtyNinety.nStakeMaxAge : Nat) : Int) - thirtyNinety.nStakeMinAge)) ∧
      probToMintStakeCoinAge thirtyNinety 10000000 ⟨1, 0, "", 100000000, 0, false⟩
        ⟨1000000, by decide, by decide⟩ =
        getCoinDay thirtyNinety (10000000 + 1000000) ⟨1, 0, "", 100000000, 0, false⟩ :=
  ⟨by decide, by decide, by decide, by decide,
    (probToMintStakeCoinAge_eq_getCoinDay thirtyNinety ⟨1, 0, "", 100000000, 0, false⟩ 10000000
      ⟨1000000, by decide, by decide⟩ (by decide) (by decide) (by decide) (by decide)).1⟩

/-- **A very negative offset overflows the product.** For `nValue = 2^32`, `nTime = 1`,
`GetAdjustedTime() = 0` and `timeOffset = INT_MIN`, every time sum is an `int64_t` and
`nValue · nStakeMaxAge < 2^63`, yet `nValue * Weight` is below `−2^63`: `getProbToMintStake` has no
defined result, while `getCoinDay()` at `now + timeOffset` returns `0` before it multiplies.
Source: `src/stun.cpp` l. 1246–1254, 1273–1274
Kind: C -/
theorem probToMintStakeCoinAge_offset_overflow (sp : StakeParams) :
    (2 ^ 32 : Int) * sp.nStakeMaxAge < 2 ^ 63 ∧ InInt64 (0 - 1) ∧ TimeFits sp (0 + -2 ^ 31) 1 ∧
      probToMintStakeCoinAge sp 0 ⟨1, 1, "", 2 ^ 32, 0, false⟩ ⟨-2 ^ 31, by decide, by decide⟩ = none ∧
      getCoinDay sp (0 + -2 ^ 31) ⟨1, 1, "", 2 ^ 32, 0, false⟩ = some 0 := by
  have := sp.sum_lt
  have hfit : TimeFits sp (0 + -2 ^ 31) 1 := by unfold TimeFits InInt64; omega
  refine ⟨by omega, by decide, hfit, ?_, ?_⟩
  · have hW : InInt64 (min (0 - 1 + -2 ^ 31) ((sp.nStakeMinAge + sp.nStakeMaxAge : Nat) : Int) -
        sp.nStakeMinAge) := by
      unfold InInt64; omega
    simp only [probToMintStakeCoinAge, Option.bind_eq_bind,
      checkedInt64_of_mem (show InInt64 (0 - 1) by decide),
      checkedInt64_of_mem (show InInt64 (0 - 1 + -2 ^ 31) by decide), Option.some_bind,
      checkedInt64_of_mem hW]
    rw [checkedInt64_of_not_mem (by unfold InInt64; omega)]
    rfl
  · rw [getCoinDay_eq sp (by decide) hfit (by rw [max_eq_right (by dsimp only; omega)]; simp),
      coinDay_of_le_minAge sp (by dsimp only; omega)]

/-- The failing input on a 30/90-day network: `nValue = 2^32`, `nTime = 1`, `now = 0`,
`timeOffset = INT_MIN`.
Source: `src/stun.cpp` l. 1246–1254, 1273–1274
Kind: W -/
theorem probToMintStakeCoinAge_offset_overflow_thirty :
    (2 ^ 32 : Int) * thirtyNinety.nStakeMaxAge < 2 ^ 63 ∧ InInt64 (0 - 1) ∧
      TimeFits thirtyNinety (0 + -2 ^ 31) 1 ∧
      probToMintStakeCoinAge thirtyNinety 0 ⟨1, 1, "", 2 ^ 32, 0, false⟩
        ⟨-2 ^ 31, by decide, by decide⟩ = none ∧
      getCoinDay thirtyNinety (0 + -2 ^ 31) ⟨1, 1, "", 2 ^ 32, 0, false⟩ = some 0 :=
  probToMintStakeCoinAge_offset_overflow thirtyNinety

/-! ## `getPoSReward` -/

/-- `KernelRecord::getPoSReward(minutes)` at `GetAdjustedTime() = now`: `nWeight = now − nTime +
minutes * 60` (the product in `int`), `0` below `nStakeMinAge`, else
`GetProofOfStakeReward(nValue * nWeight / (COIN * nOneDay))`.
Source: `src/stun.cpp` l. 1256–1265
Kind: D
Fidelity: exact (`none` for an `int` or `int64_t` overflow) -/
def getPoSReward (sp : StakeParams) (GetProofOfStakeReward : Nat → Int) (now : Int)
    (r : KernelRecord) (minutes : CInt) : Option Int := do
  let m ← checkedInt (minutes.val * 60)
  let d ← checkedInt64 (now - r.nTime)
  let nWeight ← checkedInt64 (d + m)
  if nWeight < sp.nStakeMinAge then return 0
  let prod ← checkedInt64 (r.nValue * nWeight)
  return GetProofOfStakeReward (toUInt64 (prod.tdiv (COIN * nOneDay)))

/-- **`minutes * 60` overflows.** From `35791395` minutes on, `minutes * 60` is past `INT_MAX`:
`getPoSReward` has no defined result, whatever the record and the time.
Source: `src/stun.cpp` l. 1259
Kind: C -/
theorem getPoSReward_minutes_overflow (sp : StakeParams) (GetProofOfStakeReward : Nat → Int)
    (now : Int) (r : KernelRecord) (minutes : CInt) (hm : 35791395 ≤ minutes.val) :
    getPoSReward sp GetProofOfStakeReward now r minutes = none := by
  simp only [getPoSReward]
  rw [checkedInt_of_le (by omega)]
  rfl

/-- The failing input: a lookahead of `35791395` minutes, one coin, 30/90-day stake ages.
Source: `src/stun.cpp` l. 1259
Kind: W -/
theorem getPoSReward_minutes_overflow_max :
    (35791395 : Int) ≤ 35791395 ∧
      getPoSReward thirtyNinety (fun c => c) 10000000 hundredCoins ⟨35791395, by decide, by decide⟩ =
        none :=
  ⟨le_refl _, getPoSReward_minutes_overflow _ _ _ _ _ (le_refl _)⟩

/-- **The weight is not clamped.** When `nValue * nWeight` is at least `2^63` (an old or large
output, or a long lookahead), `getPoSReward` has no defined result, while `getCoinDay` clamps the
same record at `nStakeMaxAge`.
Source: `src/stun.cpp` l. 1258–1262
Kind: C -/
theorem getPoSReward_weight_overflow (sp : StakeParams) (GetProofOfStakeReward : Nat → Int)
    (now : Int) (r : KernelRecord) (minutes : CInt) (hm : InInt64 (now - r.nTime))
    (h60 : minutes.val * 60 < 2 ^ 31) (h0 : 0 ≤ minutes.val)
    (hw : InInt64 (now - r.nTime + minutes.val * 60))
    (hmin : (sp.nStakeMinAge : Int) ≤ now - r.nTime + minutes.val * 60)
    (hp : 2 ^ 63 ≤ r.nValue * (now - r.nTime + minutes.val * 60)) :
    getPoSReward sp GetProofOfStakeReward now r minutes = none := by
  simp only [getPoSReward, checkedInt_of_lt (by omega) h60, checkedInt64_of_mem hm,
    checkedInt64_of_mem hw, Option.some_bind, Option.bind_eq_bind, Option.pure_def]
  rw [if_neg (by omega), checkedInt64_of_not_mem (fun h => absurd h.2 (by omega))]
  rfl

/-- The reward of a lookahead with no overflow: `0` below `nStakeMinAge`, else the reward of the
rounded-down coin-age.
Source: `src/stun.cpp` l. 1256–1265
Kind: L -/
theorem getPoSReward_eq (sp : StakeParams) (GetProofOfStakeReward : Nat → Int) {now : Int}
    {r : KernelRecord} {minutes : CInt} (hv : 0 ≤ r.nValue) (hm : InInt64 (now - r.nTime))
    (h60 : minutes.val * 60 < 2 ^ 31) (h0 : 0 ≤ minutes.val)
    (hw : InInt64 (now - r.nTime + minutes.val * 60))
    (hp : r.nValue * (now - r.nTime + minutes.val * 60) < 2 ^ 63) :
    getPoSReward sp GetProofOfStakeReward now r minutes =
      some (if now - r.nTime + minutes.val * 60 < sp.nStakeMinAge then 0
        else GetProofOfStakeReward ((r.nValue * (now - r.nTime + minutes.val * 60)) /
          (COIN * nOneDay)).toNat) := by
  simp only [getPoSReward, checkedInt_of_lt (by omega) h60, checkedInt64_of_mem hm,
    checkedInt64_of_mem hw, Option.some_bind, Option.bind_eq_bind, Option.pure_def]
  split_ifs with hlt
  · rfl
  · have hp0 : 0 ≤ r.nValue * (now - r.nTime + minutes.val * 60) := Int.mul_nonneg hv (by omega)
    rw [checkedInt64_of_mem ⟨by omega, hp⟩, Option.some_bind, toUInt64_tdiv hp0 hp]

/-- **The reward grows with the lookahead while nothing overflows.** If `GetProofOfStakeReward` is
non-negative and non-decreasing, `nValue ≥ 0`, `now ≥ nTime`, `0 ≤ m₁ ≤ m₂`, `m₂ * 60` is an `int`
and `nValue * nWeight` at `m₂` is below `2^63`, then `getPoSReward(m₁) ≤ getPoSReward(m₂)`.
Source: `src/stun.cpp` l. 1256–1265
Kind: T -/
theorem getPoSReward_mono (sp : StakeParams) (GetProofOfStakeReward : Nat → Int)
    (hf0 : ∀ c, 0 ≤ GetProofOfStakeReward c) (hfm : Monotone GetProofOfStakeReward) (now : Int)
    (r : KernelRecord) (m₁ m₂ : CInt) (hv : 0 ≤ r.nValue) (hnow : r.nTime ≤ now)
    (h0 : 0 ≤ m₁.val) (h12 : m₁.val ≤ m₂.val) (h60 : m₂.val * 60 < 2 ^ 31)
    (hw : InInt64 (now - r.nTime + m₂.val * 60))
    (hp : r.nValue * (now - r.nTime + m₂.val * 60) < 2 ^ 63) :
    ∃ v₁ v₂, getPoSReward sp GetProofOfStakeReward now r m₁ = some v₁ ∧
      getPoSReward sp GetProofOfStakeReward now r m₂ = some v₂ ∧ v₁ ≤ v₂ := by
  have hw' : now - r.nTime + m₁.val * 60 ≤ now - r.nTime + m₂.val * 60 := by omega
  have hm : InInt64 (now - r.nTime) := by unfold InInt64 at hw ⊢; omega
  have hp' : r.nValue * (now - r.nTime + m₁.val * 60) ≤ r.nValue * (now - r.nTime + m₂.val * 60) :=
    Int.mul_le_mul_of_nonneg_left hw' hv
  refine ⟨_, _, getPoSReward_eq sp _ hv hm (by omega) h0 (by unfold InInt64 at hw ⊢; omega)
    (lt_of_le_of_lt hp' hp), getPoSReward_eq sp _ hv hm h60 (by omega) hw hp, ?_⟩
  split_ifs with h₁ h₂ h₂
  · exact le_refl _
  · exact hf0 _
  · omega
  · exact hfm (Int.toNat_le_toNat (Int.ediv_le_ediv (by decide) hp'))

/-- One coin, a day old on a 30/90-day network, with a reward of one unit per coin-day.
Source: `src/stun.cpp` l. 1256–1265
Kind: W -/
theorem getPoSReward_mono_day :
    (∀ c, (0 : Int) ≤ (fun c : Nat => (c : Int)) c) ∧ Monotone (fun c : Nat => (c : Int)) ∧
      ∃ v₁ v₂, getPoSReward thirtyNinety (fun c => c) 86400 ⟨1, 0, "", 100000000, 0, false⟩
          ⟨0, by decide, by decide⟩ = some v₁ ∧
        getPoSReward thirtyNinety (fun c => c) 86400 ⟨1, 0, "", 100000000, 0, false⟩
          ⟨60 * 24 * 60, by decide, by decide⟩ = some v₂ ∧ v₁ ≤ v₂ :=
  ⟨fun c => Int.natCast_nonneg c, fun _ _ h => Int.ofNat_le.mpr h,
    getPoSReward_mono thirtyNinety _ (fun c => Int.natCast_nonneg c) (fun _ _ h => Int.ofNat_le.mpr h)
      86400 _ _ _ (by decide) (by decide) (by decide) (by decide) (by decide) (by decide) (by decide)⟩

end FortyTwo.Kernel
