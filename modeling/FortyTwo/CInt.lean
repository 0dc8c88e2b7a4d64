import Mathlib

/-!
# C integers

The two places where the sources' `int` arithmetic is not the arithmetic of `Int`.

* **Conversion to `int`** (`toInt32`): a `size_t` converted to a 32-bit `int`, two's complement,
  into `[-2^31, 2^31)`; a value below `2^31` converts to itself (`toInt32_of_lt`).
* **Signed arithmetic** (`checkedInt`): the value of an `int` expression, or `none` when it leaves
  the range of `int`. Signed overflow is undefined behaviour in C++, so the model gives such a
  call no result at all.
* **`int` values** (`CInt`): an `Int` with the proof that it lies in the range of `int`, for the
  parameters an RPC call reads with `get_int`.
* **`int64_t` arithmetic** (`InInt64`, `checkedInt64`): the same for 64-bit signed expressions,
  and the conversion of an `int64_t` to `uint64_t` modulo `2^64` (`toUInt64`).
-/

namespace FortyTwo

/-- A `size_t` converted to `int`, two's complement.
Source: `int ret = len;` in `src/stun.cpp` l. 1004; `(int)ret.size()`, `nFrom = ret.size()` and
`nCount = ret.size() - nFrom` in `src/rpcwallet.cpp` l. 1211–1217
Kind: D
Fidelity: exact -/
def toInt32 (n : Int) : Int := n.bmod (2 ^ 32)

/-- A value in the `int` range converts to itself.
Source: none: infrastructure
Kind: L -/
theorem toInt32_of_range {v : Int} (h0 : -2 ^ 31 ≤ v) (h1 : v < 2 ^ 31) : toInt32 v = v := by
  unfold toInt32 Int.bmod
  dsimp only
  split_ifs <;> omega

/-- A size below `2^31` converts to itself.
Source: none: infrastructure
Kind: L -/
theorem toInt32_of_lt {n : Nat} (h : n < 2 ^ 31) : toInt32 n = n :=
  toInt32_of_range (by omega) (by omega)

/-- The value of a signed `int` expression whose exact value is `v`; `none` when `v` is out of the
`int` range (undefined behaviour).
Source: `nCount+nFrom`, `nFrom + nCount` in `src/rpcwallet.cpp` l. 1211–1221
Kind: D
Fidelity: exact -/
def checkedInt (v : Int) : Option Int := if -2 ^ 31 ≤ v ∧ v < 2 ^ 31 then some v else none

/-- In range, the expression has its exact value.
Source: none: infrastructure
Kind: L -/
theorem checkedInt_of_lt {v : Int} (h0 : -2 ^ 31 ≤ v) (h1 : v < 2 ^ 31) : checkedInt v = some v :=
  if_pos ⟨h0, h1⟩

/-- Past `2^31 − 1`, the expression overflows.
Source: none: infrastructure
Kind: L -/
theorem checkedInt_of_le {v : Int} (h : 2 ^ 31 ≤ v) : checkedInt v = none :=
  if_neg fun h' => absurd h'.2 (Int.not_lt.mpr h)

/-- `std::numeric_limits<int>::max()`.
Source: `src/rpcwallet.cpp` l. 928, 981, 1000, 1014
Kind: D -/
def INT_MAX : Int := 2 ^ 31 - 1

/-- A value of type `int`.
Source: `int nCount`, `int nFrom` in `src/rpcwallet.cpp` l. 1178–1183
Kind: D -/
structure CInt where
  val : Int
  min_le : -2 ^ 31 ≤ val
  lt_max : val < 2 ^ 31
  deriving DecidableEq

/-- The range of `int64_t`.
Source: `int64_t` in `src/stun.cpp` l. 1246–1277
Kind: D -/
def InInt64 (v : Int) : Prop := -2 ^ 63 ≤ v ∧ v < 2 ^ 63

instance : DecidablePred InInt64 := fun v => inferInstanceAs (Decidable (-2 ^ 63 ≤ v ∧ v < 2 ^ 63))

/-- The value of a signed `int64_t` expression whose exact value is `v`; `none` when `v` is out of
the range of `int64_t` (undefined behaviour).
Source: the `int64_t` expressions of `src/stun.cpp` l. 1246–1277
Kind: D
Fidelity: exact -/
def checkedInt64 (v : Int) : Option Int := if InInt64 v then some v else none

/-- In range, the expression has its exact value.
Source: none: infrastructure
Kind: L -/
theorem checkedInt64_of_mem {v : Int} (h : InInt64 v) : checkedInt64 v = some v := if_pos h

/-- Out of range, the expression overflows.
Source: none: infrastructure
Kind: L -/
theorem checkedInt64_of_not_mem {v : Int} (h : ¬InInt64 v) : checkedInt64 v = none := if_neg h

/-- An `int64_t` value converted to `uint64_t`: its residue modulo `2^64`.
Source: `uint64_t coinAge = …` in `src/stun.cpp` l. 1252, 1262, 1275
Kind: D
Fidelity: exact -/
def toUInt64 (v : Int) : Nat := (v % 2 ^ 64).toNat

/-- A non-negative value below `2^64` converts to itself.
Source: none: infrastructure
Kind: L -/
theorem toUInt64_of_nonneg {v : Int} (h0 : 0 ≤ v) (h1 : v < 2 ^ 64) : toUInt64 v = v.toNat := by
  rw [toUInt64, Int.emod_eq_of_lt h0 h1]

end FortyTwo
