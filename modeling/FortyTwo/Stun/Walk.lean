import FortyTwo.Stun.Request

/-!
# `stun.cpp` · Walk: `GetExternalIPbySTUN` and the server walk

* **The step loop** (`selectStep`): `rnd = (rnd >> 8) | 0xff00000000000000; step = rnd % N` until
  `step ≠ 0`, with `step` a `uint16_t`. After eight rounds `rnd` is `2^64 − 1`, a fixed point
  (`stepRound_allOnes`), so nine rounds decide whether the loop ever ends; `selectStep n 9 rnd =
  none` is the loop that does not.
* **The attempt loop** (`probeLoop`): `pos = (pos + step) % N` and one `StunRequest` per attempt,
  from `attempt = 1` while `attempt < 2N`, stopping at the first non-negative result. Both counters
  are `uint16_t`: `attempt` wraps at `2^16` and `pos` is stored modulo `2^16`. The network is data:
  `net attempt pos` is what the calls of the attempt whose counter reads `attempt` against server
  `pos` return. `tried` records the servers probed, in order. The loop is run on fuel; its control
  state is two `uint16_t`, so `2^32` iterations decide it (`probeLoop_of_fuel`), as nine rounds
  decide the step loop (`selectStep_of_fuel`): `getExternalIPbySTUN`'s `none` is a call that never
  returns (`getExternalIPbySTUN_of_fuel`).
* **The counters** (`probeLoop_eq_walk`): while `2N < 2^16` neither counter wraps, and the loop is
  the walk (`walk`) of `2N − 1` attempts with unbounded counters. From `2N ≥ 2^16` on, `attempt`
  wraps before the loop test can fail, so a scan whose requests all fail never returns
  (`getExternalIPbySTUN_wraps`).
* **What the walk visits** (`walk_tried_mod`): every probed position is congruent to the start
  modulo any common divisor of `step` and `N`. So when `gcd(step, N) > 1` the walk cannot reach
  the other residue classes, whatever the network answers.
* **Which servers the walk reaches** (`getExternalIPbySTUN_reaches`, for `2N < 2^16`): conversely,
  `step` generates the multiples of `g = gcd(step, N)` modulo `N` (`exists_walk_index`) and the
  walk has period `N / g` (`walk_period`), so a server of the start's class that answers every
  request is found within `N / g` attempts (`walk_answers_by`). The servers the scan can reach are
  exactly that class; with `g = 1`, all of them, within `N` attempts.
* **When the step loop ends** (`stepRound_iterate_eight`, `selectStep_ends`): eight rounds reach
  `2^64 − 1` from any `rnd`, a fixed point, so the loop ends for every `rnd` exactly when
  `2^64 − 1` gives a non-zero step (`selectStep_ends_iff`); a step it returns lies in `[1, N)`
  (`selectStep_bounds`) and every server the walk probes is `< N` (`walk_tried_lt`).
* **Lists it hangs on** (`getExternalIPbySTUN_hangs`): the orbit of `rnd = 0` is made of multiples
  of `255`, so for a list of `N ∣ 255` servers (three among them) the loop never ends.
* **The shipped list** (`StunSrvListQty = 893 = 19 · 47`): the loop ends for every `rnd`
  (`getExternalIPbySTUN_shipped_ends`). For `rnd = 0x25300` the first round
  gives `step = 19` and `pos = 21248`, and the scan never probes server 0 and reports failure
  after 1785 failed attempts (`getExternalIPbySTUN_skips_server`).

The table's contents (names and ports) only flow into `StunRequest`'s host lookup, which is data
here; the table is modelled by its length. The side effect `randfiller = rnd` feeds `stun_req_id`,
whose output does not reach the walk.
-/

namespace FortyTwo.Stun

/-- `StunSrvListQty = sizeof(StunSrvList) / sizeof(StunSrv)`: the shipped list has 893 servers.
Source: `src/stun.cpp` l. 59–953, 955
Kind: D -/
def StunSrvListQty : Nat := 893

/-- One round of the step loop: `rnd = (rnd >> 8) | 0xff00000000000000`.
Source: `src/stun.cpp` l. 1160
Kind: D
Fidelity: exact -/
def stepRound (rnd : UInt64) : UInt64 := (rnd >>> 8) ||| 0xff00000000000000

/-- `2^64 − 1` is a fixed point of the round.
Source: none: infrastructure
Kind: L -/
theorem stepRound_allOnes : stepRound 0xffffffffffffffff = 0xffffffffffffffff := by decide

/-- The round in `Nat`: a shift right by one byte, then the top byte set (the two do not overlap).
Source: `src/stun.cpp` l. 1160
Kind: L -/
theorem stepRound_toNat (rnd : UInt64) : (stepRound rnd).toNat = rnd.toNat / 256 + 255 * 2 ^ 56 := by
  have h : rnd.toNat / 256 < 2 ^ 56 := by have : rnd.toNat < 2 ^ 64 := rnd.toBitVec.isLt; omega
  show (rnd.toBitVec >>> (UInt64.mod 8 64).toBitVec ||| (0xff00000000000000 : UInt64).toBitVec).toNat = _
  rw [BitVec.toNat_or, BitVec.ushiftRight_eq', BitVec.toNat_ushiftRight, Nat.lor_comm,
    show (0xff00000000000000 : UInt64).toBitVec.toNat = 2 ^ 56 * 255 from rfl,
    show (UInt64.mod 8 64).toBitVec.toNat = 8 from rfl, Nat.shiftRight_eq_div_pow,
    show rnd.toBitVec.toNat = rnd.toNat from rfl, ← Nat.mul_add_lt_is_or h 255]
  omega

/-- Eight rounds reach `2^64 − 1` from any state: each round sets one more top byte.
Source: `src/stun.cpp` l. 1160
Kind: L -/
theorem stepRound_iterate_eight (rnd : UInt64) : stepRound^[8] rnd = 0xffffffffffffffff := by
  apply UInt64.eq_of_toBitVec_eq
  apply BitVec.eq_of_toNat_eq
  show (stepRound^[8] rnd).toNat = 2 ^ 64 - 1
  simp only [Function.iterate_succ_apply', Function.iterate_zero_apply, stepRound_toNat]
  have : rnd.toNat < 2 ^ 64 := rnd.toBitVec.isLt
  omega

/-- The loop `do { rnd = …; step = rnd % StunSrvListQty; } while (step == 0)` for at most `fuel`
rounds, over a list of `n` servers; `step` is a `uint16_t`. `none` when every round gave `0`.
Source: `src/stun.cpp` l. 1158–1162
Kind: D
Fidelity: exact for the rounds it runs -/
def selectStep (n : Nat) : Nat → UInt64 → Option Nat
  | 0, _ => none
  | fuel + 1, rnd =>
    if (stepRound rnd).toNat % n % 2 ^ 16 = 0 then selectStep n fuel (stepRound rnd)
    else some ((stepRound rnd).toNat % n % 2 ^ 16)

/-- What the scan leaves: its result, `*mapped`, `*srv` (the index of the last server tried, if
any) and the servers it probed, in order.
Source: `GetExternalIPbySTUN(rnd, mapped, srv)`, `src/stun.cpp` l. 1154
Kind: D -/
structure Probe where
  /-- The `int` result. -/
  rc : Int
  /-- `*mapped`. -/
  mapped : SockaddrIn
  /-- `*srv`, as an index of `StunSrvList`. -/
  srv : Option Nat
  /-- The servers probed, in order. -/
  tried : List Nat

/-- The attempt loop `for (attempt = 1; attempt < StunSrvListQty * 2; attempt++)`, run for at most
`fuel` iterations. `attempt` and `pos` are `uint16_t`: `attempt++` wraps at `2^16`, and the new
`pos = (pos + step) % StunSrvListQty` is stored modulo `2^16`. Each attempt calls `StunRequest`;
the first non-negative result returns `attempt`, and a failed loop test returns `-1`. `none` when
the fuel runs out. The network is data: `net attempt pos` is what the calls of the attempt whose
counter reads `attempt` against server `pos` return.
Source: `src/stun.cpp` l. 1163–1172
Kind: D
Fidelity: exact for the iterations it runs -/
def probeLoop (n step : Nat) (net : Nat → Nat → StunEnv) : Nat → Nat → Nat → Probe → Option Probe
  | 0, _, _, _ => none
  | fuel + 1, attempt, pos, p =>
    if attempt < n * 2 then
      let pos' := (pos + step) % n % 2 ^ 16
      let q := stunRequest (net attempt pos') p.mapped
      let p' : Probe := ⟨p.rc, q.2, some pos', p.tried ++ [pos']⟩
      if 0 ≤ q.1 then some { p' with rc := attempt }
      else probeLoop n step net fuel ((attempt + 1) % 2 ^ 16) pos' p'
    else some { p with rc := -1 }

/-- `GetExternalIPbySTUN(rnd, mapped, srv)` over a list of `n` servers: `pos` starts at
`(uint16_t)rnd`, `step` comes from the step loop, and the attempt loop starts at `attempt = 1`.
Nine rounds decide the step loop and `2^32` iterations the attempt loop, whose control state is a
pair of `uint16_t`, so `none` is a call that never returns (`getExternalIPbySTUN_of_fuel`).
Source: `src/stun.cpp` l. 1154–1173
Kind: D
Fidelity: exact -/
def getExternalIPbySTUN (n : Nat) (net : Nat → Nat → StunEnv) (mapped : SockaddrIn)
    (rnd : UInt64) : Option Probe :=
  (selectStep n 9 rnd).bind fun step =>
    probeLoop n step net (2 ^ 32) 1 (rnd.toNat % 2 ^ 16) ⟨-1, mapped, none, []⟩

/-- The attempt loop with counters that do not wrap, as it runs while `2 n < 2^16`
(`probeLoop_eq_walk`): `k` attempts are left, `attempt` is the current one and `pos` the last
position. Each attempt moves `pos` by `step` modulo `n` and calls `StunRequest`; the first
non-negative result returns the attempt number, and running out returns `-1`.
Source: `src/stun.cpp` l. 1164–1172
Kind: D
Fidelity: abstract: `probeLoop` without the `uint16_t` wrap -/
def walk (n step : Nat) (net : Nat → Nat → StunEnv) : Nat → Nat → Nat → Probe → Probe
  | 0, _, _, p => { p with rc := -1 }
  | k + 1, attempt, pos, p =>
    let q := stunRequest (net attempt ((pos + step) % n)) p.mapped
    let p' : Probe := ⟨p.rc, q.2, some ((pos + step) % n), p.tried ++ [(pos + step) % n]⟩
    if 0 ≤ q.1 then { p' with rc := attempt }
    else walk n step net k (attempt + 1) ((pos + step) % n) p'

/-! ## The counters -/

/-- While `2 n < 2^16` neither counter wraps: with more fuel than attempts left, the attempt loop
is the walk.
Source: `src/stun.cpp` l. 1163–1172
Kind: L -/
theorem probeLoop_eq_walk {n step : Nat} (net : Nat → Nat → StunEnv) (hn : n * 2 < 2 ^ 16) :
    ∀ (k attempt pos : Nat) (p : Probe) (fuel : Nat), attempt + k = n * 2 → k < fuel →
      probeLoop n step net fuel attempt pos p = some (walk n step net k attempt pos p)
  | _, _, _, _, 0, _, hf => absurd hf (Nat.not_lt_zero _)
  | 0, attempt, _, _, _ + 1, hk, _ => by
    simp only [probeLoop, walk, if_neg (show ¬attempt < n * 2 by omega)]
  | k + 1, attempt, pos, p, fuel + 1, hk, hf => by
    have hpos : (pos + step) % n % 2 ^ 16 = (pos + step) % n :=
      Nat.mod_eq_of_lt ((Nat.mod_lt _ (by omega)).trans (by omega))
    simp only [probeLoop, walk, if_pos (show attempt < n * 2 by omega), hpos,
      Nat.mod_eq_of_lt (show attempt + 1 < 2 ^ 16 by omega)]
    split_ifs
    · rfl
    · exact probeLoop_eq_walk net hn k _ _ _ fuel (by omega) (by omega)

/-- While `2 n < 2^16`, `GetExternalIPbySTUN` makes the `2 n − 1` attempts of the walk once the
step loop has ended.
Source: `src/stun.cpp` l. 1154–1173
Kind: L -/
theorem getExternalIPbySTUN_eq_walk {n : Nat} (hn : 0 < n) (hn2 : n * 2 < 2 ^ 16)
    (net : Nat → Nat → StunEnv) (mapped : SockaddrIn) (rnd : UInt64) :
    getExternalIPbySTUN n net mapped rnd = (selectStep n 9 rnd).map fun step =>
      walk n step net (n * 2 - 1) 1 (rnd.toNat % 2 ^ 16) ⟨-1, mapped, none, []⟩ := by
  rw [getExternalIPbySTUN]
  cases selectStep n 9 rnd with
  | none => rfl
  | some step => exact probeLoop_eq_walk net hn2 _ _ _ _ _ (by omega) (by omega)

/-- With `2 n ≥ 2^16` the loop test `attempt < StunSrvListQty * 2` always holds, the counter
wrapping from `65535` to `0` first: when every request fails, no number of iterations ends the
loop.
Source: `src/stun.cpp` l. 1163–1172
Kind: L -/
theorem probeLoop_wraps {n step : Nat} {net : Nat → Nat → StunEnv} (hn : 2 ^ 16 ≤ n * 2)
    (hfail : ∀ a q m, (stunRequest (net a q) m).1 < 0) :
    ∀ (fuel attempt pos : Nat) (p : Probe), attempt < 2 ^ 16 →
      probeLoop n step net fuel attempt pos p = none
  | 0, _, _, _, _ => rfl
  | fuel + 1, attempt, pos, p, ha => by
    simp only [probeLoop, if_pos (show attempt < n * 2 by omega),
      if_neg (Int.not_le.mpr (hfail _ _ _))]
    exact probeLoop_wraps hn hfail fuel _ _ _ (Nat.mod_lt _ (by norm_num))

/-- **Lists of 32768 servers or more: a scan with no answer never returns.** The `uint16_t`
`attempt` wraps before it reaches `StunSrvListQty * 2`, so the loop's only exit is a request that
succeeds: when every request fails, `GetExternalIPbySTUN` loops for ever, from every `rnd` and
whatever `step` the step loop picks.
Source: `src/stun.cpp` l. 1154–1173
Kind: C -/
theorem getExternalIPbySTUN_wraps {n : Nat} (hn : 2 ^ 16 ≤ n * 2) {net : Nat → Nat → StunEnv}
    (hfail : ∀ a q m, (stunRequest (net a q) m).1 < 0) (mapped : SockaddrIn) (rnd : UInt64) :
    (∀ step fuel, probeLoop n step net fuel 1 (rnd.toNat % 2 ^ 16) ⟨-1, mapped, none, []⟩ = none) ∧
      getExternalIPbySTUN n net mapped rnd = none := by
  have h : ∀ step fuel, probeLoop n step net fuel 1 (rnd.toNat % 2 ^ 16) ⟨-1, mapped, none, []⟩ =
      none := fun _ fuel => probeLoop_wraps hn hfail fuel _ _ _ (by norm_num)
  refine ⟨h, ?_⟩
  rw [getExternalIPbySTUN]
  cases selectStep n 9 rnd with
  | none => rfl
  | some step => exact h step _

/-- The failing input: 32768 servers, none of them reachable, and `rnd = 0`.
Source: `src/stun.cpp` l. 1154–1173
Kind: W -/
theorem getExternalIPbySTUN_wraps_half :
    2 ^ 16 ≤ 32768 * 2 ∧
      (∀ a q m, (stunRequest ((fun _ _ => ⟨false, false, false,
        ⟨0, 0, ⟨List.replicate 1024 0, 0, List.length_replicate _ _, by decide⟩⟩⟩ : Nat → Nat →
          StunEnv) a q) m).1 < 0) ∧
      (∀ step fuel, probeLoop 32768 step (fun _ _ => ⟨false, false, false,
        ⟨0, 0, ⟨List.replicate 1024 0, 0, List.length_replicate _ _, by decide⟩⟩⟩) fuel 1
          ((0 : UInt64).toNat % 2 ^ 16) ⟨-1, SockaddrIn.zero, none, []⟩ = none) ∧
      getExternalIPbySTUN 32768 (fun _ _ => ⟨false, false, false,
        ⟨0, 0, ⟨List.replicate 1024 0, 0, List.length_replicate _ _, by decide⟩⟩⟩)
        SockaddrIn.zero 0 = none :=
  have hfail : ∀ a q m, (stunRequest ((fun _ _ => ⟨false, false, false,
      ⟨0, 0, ⟨List.replicate 1024 0, 0, List.length_replicate _ _, by decide⟩⟩⟩ : Nat → Nat →
        StunEnv) a q) m).1 < 0 := fun _ _ _ => by simp [stunRequest]
  ⟨by norm_num, hfail, getExternalIPbySTUN_wraps (by norm_num) hfail _ _⟩

/-! ## What the walk visits -/

/-- Every server the walk probes is congruent to its start modulo a common divisor `g` of `step`
and `n`: the walk stays in one residue class.
Source: `src/stun.cpp` l. 1165
Kind: L -/
theorem walk_tried_mod {n step g : Nat} (hn : g ∣ n) (hs : g ∣ step)
    (net : Nat → Nat → StunEnv) (k attempt pos : Nat) (p : Probe) :
    ∀ q ∈ (walk n step net k attempt pos p).tried, q ∈ p.tried ∨ q % g = pos % g := by
  induction k generalizing attempt pos p with
  | zero => exact fun q hq => .inl hq
  | succ k ih =>
    have hmod : (pos + step) % n % g = pos % g := by
      rw [Nat.mod_mod_of_dvd _ hn, Nat.add_mod, Nat.mod_eq_zero_of_dvd hs, Nat.add_zero,
        Nat.mod_mod]
    intro q hq
    -- whether the walk stops here or goes on, `q` is probed by now or in the new position's class
    have hq' : q ∈ p.tried ++ [(pos + step) % n] ∨ q % g = (pos + step) % n % g := by
      simp only [walk] at hq
      split_ifs at hq
      · exact .inl hq
      · exact ih _ _ _ q hq
    rw [hmod, List.mem_append, List.mem_singleton] at hq'
    rcases hq' with (hq' | rfl) | hq'
    · exact .inl hq'
    · exact .inr hmod
    · exact .inr hq'

/-- When every request fails the walk reports `-1`.
Source: `src/stun.cpp` l. 1168–1172
Kind: L -/
theorem walk_rc_of_fail {n step : Nat} {net : Nat → Nat → StunEnv}
    (hfail : ∀ a q m, (stunRequest (net a q) m).1 < 0) (k attempt pos : Nat) (p : Probe) :
    (walk n step net k attempt pos p).rc = -1 := by
  induction k generalizing attempt pos p with
  | zero => rfl
  | succ k ih =>
    have := hfail attempt ((pos + step) % n) p.mapped
    simp only [walk, if_neg (Int.not_le.mpr this), ih]

/-- Every server the walk probes is an index of the list.
Source: `src/stun.cpp` l. 1165–1166
Kind: L -/
theorem walk_tried_lt {n step : Nat} (hn : 0 < n) (net : Nat → Nat → StunEnv)
    (k attempt pos : Nat) (p : Probe) :
    ∀ q ∈ (walk n step net k attempt pos p).tried, q ∈ p.tried ∨ q < n := by
  induction k generalizing attempt pos p with
  | zero => exact fun q hq => .inl hq
  | succ k ih =>
    intro q hq
    have hq' : q ∈ p.tried ++ [(pos + step) % n] ∨ q < n := by
      simp only [walk] at hq
      split_ifs at hq
      · exact .inl hq
      · exact ih _ _ _ q hq
    rw [List.mem_append, List.mem_singleton] at hq'
    rcases hq' with (hq' | rfl) | hq'
    · exact .inl hq'
    · exact .inr (Nat.mod_lt _ hn)
    · exact .inr hq'

/-! ## When the step loop ends -/

/-- A step the loop returns is a non-zero index of the list.
Source: `src/stun.cpp` l. 1158–1162
Kind: L -/
theorem selectStep_bounds {n fuel : Nat} {rnd : UInt64} {step : Nat} (hn : 0 < n)
    (h : selectStep n fuel rnd = some step) : 0 < step ∧ step < n := by
  induction fuel generalizing rnd with
  | zero => cases h
  | succ fuel ih =>
    simp only [selectStep] at h
    split_ifs at h with h0
    · exact ih h
    · cases h
      exact ⟨Nat.pos_of_ne_zero h0, lt_of_le_of_lt (Nat.mod_le _ _) (Nat.mod_lt _ hn)⟩

/-- The loop has ended by round `k + 1` if that round gives a non-zero step.
Source: `src/stun.cpp` l. 1158–1162
Kind: L -/
theorem selectStep_isSome {n : Nat} : ∀ (k : Nat) (rnd : UInt64),
    (stepRound^[k + 1] rnd).toNat % n % 2 ^ 16 ≠ 0 → (selectStep n (k + 1) rnd).isSome
  | 0, rnd, h => by simpa [selectStep] using h
  | k + 1, rnd, h => by
    rw [selectStep]
    split_ifs
    · exact selectStep_isSome k _ (by rwa [← Function.iterate_succ_apply])
    · rfl

/-- **The loop ends when `2^64 − 1` gives a step.** If `(2^64 − 1) mod n` is not `0` as a
`uint16_t`, then from every `rnd` the loop ends within nine rounds (round eight reaches
`2^64 − 1`) with `1 ≤ step < n`.
Source: `src/stun.cpp` l. 1158–1162
Kind: L -/
theorem selectStep_ends {n : Nat} (hn : 0 < n) (h : (2 ^ 64 - 1) % n % 2 ^ 16 ≠ 0)
    (rnd : UInt64) : ∃ step, selectStep n 9 rnd = some step ∧ 0 < step ∧ step < n := by
  have h9 : stepRound^[8 + 1] rnd = 0xffffffffffffffff := by
    rw [Function.iterate_succ_apply', stepRound_iterate_eight, stepRound_allOnes]
  obtain ⟨step, hs⟩ := Option.isSome_iff_exists.mp (selectStep_isSome 8 rnd (by rw [h9]; exact h))
  exact ⟨step, hs, selectStep_bounds hn hs⟩

/-- From `2^64 − 1` the round stays put, so if it gives `step = 0` the loop never ends.
Source: `src/stun.cpp` l. 1158–1162
Kind: L -/
theorem selectStep_allOnes {n : Nat} (h : (2 ^ 64 - 1) % n % 2 ^ 16 = 0) :
    ∀ fuel, selectStep n fuel 0xffffffffffffffff = none
  | 0 => rfl
  | fuel + 1 => by
    rw [selectStep, stepRound_allOnes,
      if_pos (show (0xffffffffffffffff : UInt64).toNat % n % 2 ^ 16 = 0 from h)]
    exact selectStep_allOnes h fuel

/-- Running `a + b` rounds is running `a` rounds, then `b` more from where they left off.
Source: `src/stun.cpp` l. 1158–1162
Kind: L -/
theorem selectStep_add {n : Nat} (b : Nat) :
    ∀ (a : Nat) (rnd : UInt64),
      selectStep n (a + b) rnd = (selectStep n a rnd <|> selectStep n b (stepRound^[a] rnd))
  | 0, rnd => by rw [Nat.zero_add]; rfl
  | a + 1, rnd => by
    rw [Nat.add_right_comm, selectStep, selectStep, Function.iterate_succ_apply]
    split_ifs
    · exact selectStep_add b a _
    · rfl

/-- **Nine rounds decide the step loop.** Whatever number of rounds ends the loop, nine rounds end
it with the same step: past round eight the state is the fixed point `2^64 − 1`.
Source: `src/stun.cpp` l. 1158–1162
Kind: L -/
theorem selectStep_of_fuel {n fuel : Nat} {rnd : UInt64} {step : Nat}
    (h : selectStep n fuel rnd = some step) : selectStep n 9 rnd = some step := by
  rcases Nat.le_total fuel 9 with hle | hle
  · rw [← Nat.add_sub_cancel' hle, selectStep_add, h]
    rfl
  · rw [← Nat.add_sub_cancel' hle, selectStep_add] at h
    cases h9 : selectStep n 9 rnd with
    | some s => rw [h9] at h; exact h
    | none =>
      -- nine rounds all gave `0`, so round nine at `2^64 − 1` did, and the loop stays there
      have h0 : (2 ^ 64 - 1) % n % 2 ^ 16 = 0 := by
        by_contra hne
        have h8 : stepRound^[8 + 1] rnd = 0xffffffffffffffff := by
          rw [Function.iterate_succ_apply', stepRound_iterate_eight, stepRound_allOnes]
        have := selectStep_isSome 8 rnd (by rw [h8]; exact hne)
        rw [h9] at this
        cases this
      rw [h9, Function.iterate_succ_apply', stepRound_iterate_eight, stepRound_allOnes,
        selectStep_allOnes h0] at h
      cases h

/-- **When the step loop ends.** For a list of `n > 0` servers, the loop ends from every `rnd` if
and only if `(2^64 − 1) mod n` is not `0` as a `uint16_t`; and whenever it ends, it has ended
within nine rounds, with the same step.
Source: `src/stun.cpp` l. 1158–1162
Kind: T -/
theorem selectStep_ends_iff {n : Nat} (hn : 0 < n) :
    ((∀ rnd : UInt64, ∃ fuel step, selectStep n fuel rnd = some step) ↔
      (2 ^ 64 - 1) % n % 2 ^ 16 ≠ 0) ∧
    ∀ (rnd : UInt64) (fuel step : Nat), selectStep n fuel rnd = some step →
      selectStep n 9 rnd = some step := by
  refine ⟨⟨fun hall h => ?_, fun h rnd => ?_⟩, fun _ _ _ => selectStep_of_fuel⟩
  · obtain ⟨fuel, step, hs⟩ := hall 0xffffffffffffffff
    rw [selectStep_allOnes h fuel] at hs
    cases hs
  · obtain ⟨step, hs, -⟩ := selectStep_ends hn h rnd
    exact ⟨9, step, hs⟩

/-- The spec's three-server list: the loop does not end from every seed, and where it ends it has
ended by round nine.
Source: `src/stun.cpp` l. 1158–1162
Kind: W -/
theorem selectStep_ends_iff_three :
    0 < 3 ∧ (((∀ rnd : UInt64, ∃ fuel step, selectStep 3 fuel rnd = some step) ↔
      (2 ^ 64 - 1) % 3 % 2 ^ 16 ≠ 0) ∧
    ∀ (rnd : UInt64) (fuel step : Nat), selectStep 3 fuel rnd = some step →
      selectStep 3 9 rnd = some step) :=
  ⟨by decide, selectStep_ends_iff (by decide)⟩

/-! ## The model's bounds are exact -/

/-- The attempt loop's control state after a failed attempt: both `uint16_t` counters move.
Source: `src/stun.cpp` l. 1164–1165
Kind: D -/
def ctlStep (n step : Nat) (c : Nat × Nat) : Nat × Nat :=
  ((c.1 + 1) % 2 ^ 16, (c.2 + step) % n % 2 ^ 16)

/-- The attempt at control state `c` ends the loop: its test fails or its request succeeds.
Source: `src/stun.cpp` l. 1164–1168
Kind: D -/
def CtlStops (n step : Nat) (net : Nat → Nat → StunEnv) (c : Nat × Nat) : Prop :=
  ¬c.1 < n * 2 ∨ 0 ≤ (stunRequest (net c.1 ((c.2 + step) % n % 2 ^ 16)) SockaddrIn.zero).1

/-- The attempt loop runs out of fuel exactly when none of its first `fuel` control states ends
it; the probe it carries plays no part.
Source: `src/stun.cpp` l. 1163–1172
Kind: L -/
theorem probeLoop_eq_none_iff {n step : Nat} {net : Nat → Nat → StunEnv} :
    ∀ (fuel attempt pos : Nat) (p : Probe), probeLoop n step net fuel attempt pos p = none ↔
      ∀ i < fuel, ¬CtlStops n step net ((ctlStep n step)^[i] (attempt, pos))
  | 0, _, _, _ => by simp only [probeLoop, Nat.not_lt_zero, false_imp_iff, imp_true_iff]
  | fuel + 1, attempt, pos, p => by
    have hstop : CtlStops n step net (attempt, pos) ↔ ¬attempt < n * 2 ∨
        0 ≤ (stunRequest (net attempt ((pos + step) % n % 2 ^ 16)) p.mapped).1 := by
      rw [CtlStops, stunRequest_fst _ SockaddrIn.zero p.mapped]
    rw [Nat.forall_lt_succ_left, Function.iterate_zero_apply, hstop]
    simp only [Function.iterate_succ_apply, ctlStep, probeLoop]
    split_ifs with ha hq
    · exact iff_of_false (by simp) fun h => h.1 (.inr hq)
    · rw [probeLoop_eq_none_iff fuel]
      exact ⟨fun h => ⟨fun h' => h'.elim (· ha) hq, h⟩, And.right⟩
    · exact iff_of_false (by simp) fun h => h.1 (.inl ha)

/-- An orbit that stays in a finite set `s` comes back within `s.card` steps: every point of it is
one of its first `s.card` points.
Source: none: infrastructure
Kind: L -/
theorem iterate_mem_prefix {α : Type} {T : α → α} {s : Finset α} (hT : ∀ x ∈ s, T x ∈ s) {c : α}
    (hc : c ∈ s) : ∀ i, ∃ j < s.card, T^[i] c = T^[j] c := by
  have hmem : ∀ i, T^[i] c ∈ s := fun i => by
    induction i with
    | zero => exact hc
    | succ i ih => rw [Function.iterate_succ_apply']; exact hT _ ih
  -- two of the first `s.card + 1` points coincide
  obtain ⟨a, ha, b, hb, hab, heq⟩ := Finset.exists_ne_map_eq_of_card_lt_of_maps_to
    (show s.card < (Finset.range (s.card + 1)).card by simp)
    (fun i (_ : i ∈ Finset.range (s.card + 1)) => hmem i)
  rw [Finset.mem_range] at ha hb
  -- say `a < b`: from `b` on, the orbit repeats the points from `a`
  obtain ⟨a, b, hlt, hb, heq⟩ : ∃ a b, a < b ∧ b < s.card + 1 ∧ T^[a] c = T^[b] c := by
    rcases Nat.lt_or_gt_of_ne hab with h | h
    · exact ⟨a, b, h, hb, heq⟩
    · exact ⟨b, a, h, ha, heq.symm⟩
  intro i
  induction i using Nat.strong_induction_on with
  | _ i ih =>
    by_cases hi : i < b
    · exact ⟨i, by omega, rfl⟩
    · obtain ⟨d, rfl⟩ : ∃ d, i = d + b := ⟨i - b, by omega⟩
      obtain ⟨j, hj, hji⟩ := ih (d + a) (by omega)
      exact ⟨j, hj, by rw [Function.iterate_add_apply, ← heq, ← Function.iterate_add_apply, hji]⟩

/-- An orbit of pairs below `B` comes back within `B * B` steps.
Source: none: infrastructure
Kind: L -/
theorem iterate_mem_prefix_pair {B : Nat} {T : Nat × Nat → Nat × Nat}
    (hT : ∀ c : Nat × Nat, c.1 < B → c.2 < B → (T c).1 < B ∧ (T c).2 < B) {x y : Nat} (hx : x < B)
    (hy : y < B) : ∀ i, ∃ j < B * B, T^[i] (x, y) = T^[j] (x, y) := by
  have hs : ∀ c ∈ Finset.range B ×ˢ Finset.range B, T c ∈ Finset.range B ×ˢ Finset.range B :=
    fun c hc => by
      simp only [Finset.mem_product, Finset.mem_range] at hc ⊢
      exact hT c hc.1 hc.2
  have hc : (x, y) ∈ Finset.range B ×ˢ Finset.range B :=
    Finset.mem_product.mpr ⟨Finset.mem_range.mpr hx, Finset.mem_range.mpr hy⟩
  simpa only [Finset.card_product, Finset.card_range] using iterate_mem_prefix hs hc

/-- **`2^32` iterations decide the attempt loop.** From a control state of two `uint16_t`, if the
loop has not ended after `2^32` iterations, no fuel ends it.
Source: `src/stun.cpp` l. 1163–1172
Kind: L -/
theorem probeLoop_none_of_two_pow_32 {n step : Nat} {net : Nat → Nat → StunEnv} {attempt pos : Nat}
    (ha : attempt < 2 ^ 16) (hp : pos < 2 ^ 16) {p : Probe}
    (h : probeLoop n step net (2 ^ 32) attempt pos p = none) (fuel : Nat) (p' : Probe) :
    probeLoop n step net fuel attempt pos p' = none := by
  rw [probeLoop_eq_none_iff] at h ⊢
  intro i _
  obtain ⟨j, hj, hji⟩ := @iterate_mem_prefix_pair _ (ctlStep n step)
    (fun _ _ _ => ⟨Nat.mod_lt _ (by norm_num), Nat.mod_lt _ (by norm_num)⟩) _ _ ha hp i
  rw [hji]
  exact h j (by rwa [← pow_add] at hj)

/-- More fuel never changes a result.
Source: `src/stun.cpp` l. 1163–1172
Kind: L -/
theorem probeLoop_fuel_le {n step : Nat} {net : Nat → Nat → StunEnv} :
    ∀ {fuel fuel' : Nat} {attempt pos : Nat} {p r : Probe}, fuel ≤ fuel' →
      probeLoop n step net fuel attempt pos p = some r → probeLoop n step net fuel' attempt pos p = some r
  | 0, _, _, _, _, _, _, h => by cases h
  | _ + 1, 0, _, _, _, _, hle, _ => absurd hle (by omega)
  | fuel + 1, fuel' + 1, attempt, pos, p, r, hle, h => by
    simp only [probeLoop] at h ⊢
    split_ifs at h ⊢
    · exact h
    · exact probeLoop_fuel_le (by omega) h
    · exact h

/-- Whatever fuel gives a result, `2^32` gives it.
Source: `src/stun.cpp` l. 1163–1172
Kind: L -/
theorem probeLoop_of_fuel {n step : Nat} {net : Nat → Nat → StunEnv} {attempt pos fuel : Nat}
    (ha : attempt < 2 ^ 16) (hp : pos < 2 ^ 16) {p r : Probe}
    (h : probeLoop n step net fuel attempt pos p = some r) :
    probeLoop n step net (2 ^ 32) attempt pos p = some r := by
  cases h32 : probeLoop n step net (2 ^ 32) attempt pos p with
  | none => rw [probeLoop_none_of_two_pow_32 ha hp h32 fuel p] at h; cases h
  | some r' =>
    have h₁ := probeLoop_fuel_le (Nat.le_max_left fuel (2 ^ 32)) h
    rwa [probeLoop_fuel_le (Nat.le_max_right fuel (2 ^ 32)) h32] at h₁

/-- **The model's bounds are exact.** Whatever numbers of rounds and of attempts a run of
`GetExternalIPbySTUN` takes to return, the model returns the same; so its `none` is a call that
never returns.
Source: `src/stun.cpp` l. 1154–1173
Kind: L -/
theorem getExternalIPbySTUN_of_fuel {n : Nat} {net : Nat → Nat → StunEnv} {mapped : SockaddrIn}
    {rnd : UInt64} {fuel fuel' step : Nat} {r : Probe} (hs : selectStep n fuel rnd = some step)
    (hr : probeLoop n step net fuel' 1 (rnd.toNat % 2 ^ 16) ⟨-1, mapped, none, []⟩ = some r) :
    getExternalIPbySTUN n net mapped rnd = some r := by
  rw [getExternalIPbySTUN, selectStep_of_fuel hs, Option.some_bind]
  exact probeLoop_of_fuel (by norm_num) (Nat.mod_lt _ (by norm_num)) hr

/-! ## Lists it hangs on -/

/-- The states the loop passes through from `rnd = 0`: `0`, then `2^64 − 2^(64 − 8k)` for
`k = 1 .. 8`, the last one the fixed point.
Source: `src/stun.cpp` l. 1160
Kind: D -/
def zeroOrbit : List UInt64 :=
  [0, 0xff00000000000000, 0xffff000000000000, 0xffffff0000000000, 0xffffffff00000000,
    0xffffffffff000000, 0xffffffffffff0000, 0xffffffffffffff00, 0xffffffffffffffff]

/-- The orbit of `0` is closed under the round, and every state after the first is a multiple of
`255 = 2^8 − 1`.
Source: `src/stun.cpp` l. 1160
Kind: L -/
theorem zeroOrbit_step : ∀ x ∈ zeroOrbit, stepRound x ∈ zeroOrbit ∧ (stepRound x).toNat % 255 = 0 := by
  decide

/-- From the orbit of `0`, a list whose length divides `255` never gets a non-zero step.
Source: `src/stun.cpp` l. 1158–1162
Kind: L -/
theorem selectStep_zeroOrbit {n : Nat} (hn : n ∣ 255) (fuel : Nat) :
    ∀ x ∈ zeroOrbit, selectStep n fuel x = none := by
  induction fuel with
  | zero => exact fun _ _ => rfl
  | succ fuel ih =>
    intro x hx
    obtain ⟨hmem, h255⟩ := zeroOrbit_step x hx
    have h0 : (stepRound x).toNat % n = 0 :=
      Nat.mod_eq_zero_of_dvd (hn.trans (Nat.dvd_of_mod_eq_zero h255))
    simp only [selectStep, h0, Nat.zero_mod, if_true]
    exact ih _ hmem

/-- **The step loop does not end for a list whose length divides `255`.** For such an `n` (`3`,
as in the spec's three-server scenario, `5`, `15`, `17`, `51`, `85`, `255`) and `rnd = 0`, every
round gives `step = 0`: no number of rounds ends the loop, and `GetExternalIPbySTUN` never returns,
whatever the network does.
Source: `src/stun.cpp` l. 1154–1162
Kind: C -/
theorem getExternalIPbySTUN_hangs {n : Nat} (hn : n ∣ 255) (net : Nat → Nat → StunEnv)
    (mapped : SockaddrIn) :
    (∀ fuel, selectStep n fuel 0 = none) ∧ getExternalIPbySTUN n net mapped 0 = none :=
  ⟨fun fuel => selectStep_zeroOrbit hn fuel 0 (List.mem_cons_self _ _), by
    rw [getExternalIPbySTUN, selectStep_zeroOrbit hn 9 0 (List.mem_cons_self _ _), Option.none_bind]⟩

/-- The failing input: three servers, none of them reachable, and `rnd = 0`.
Source: `src/stun.cpp` l. 1154–1162
Kind: W -/
theorem getExternalIPbySTUN_hangs_three :
    3 ∣ 255 ∧ (∀ fuel, selectStep 3 fuel 0 = none) ∧
      getExternalIPbySTUN 3 (fun _ _ => ⟨false, false, false,
        ⟨0, 0, ⟨List.replicate 1024 0, 0, List.length_replicate _ _, by decide⟩⟩⟩)
        SockaddrIn.zero 0 = none :=
  ⟨by decide, getExternalIPbySTUN_hangs (by decide) _ _⟩

/-! ## The shipped list -/

/-- **The walk over the shipped list skips servers.** For `rnd = 0x25300` the step loop stops at
once with `step = 19`, which divides `StunSrvListQty = 893`; the walk from `pos = 21248` stays in
the residue class `6 (mod 19)`, so it never probes server 0, and when every request fails the scan
reports `-1` after 1785 attempts over only 47 of the 893 servers.
Source: `src/stun.cpp` l. 1149–1173
Kind: C -/
theorem getExternalIPbySTUN_skips_server (net : Nat → Nat → StunEnv) (mapped : SockaddrIn) :
    ∃ p, getExternalIPbySTUN StunSrvListQty net mapped 0x25300 = some p ∧ 0 ∉ p.tried ∧
      ((∀ a q m, (stunRequest (net a q) m).1 < 0) → p.rc = -1) := by
  have hstep : selectStep StunSrvListQty 9 0x25300 = some 19 := by decide
  rw [getExternalIPbySTUN_eq_walk (by decide) (by decide), hstep]
  refine ⟨_, rfl, fun h0 => ?_, fun hfail => walk_rc_of_fail hfail _ _ _ _⟩
  rcases walk_tried_mod (show 19 ∣ StunSrvListQty by decide) (Nat.dvd_refl 19) net _ _ _ _ 0 h0
    with h | h
  · exact List.not_mem_nil _ h
  · exact absurd h (by decide)

/-- **The shipped list: the loop ends and the walk stays in the list.** With
`StunSrvListQty = 893`, from every `rnd` the step loop ends with `1 ≤ step < 893`, and every server
the walk probes is an index of the list.
Source: `src/stun.cpp` l. 955, 1154–1173
Kind: T -/
theorem getExternalIPbySTUN_shipped_ends (net : Nat → Nat → StunEnv) (mapped : SockaddrIn)
    (rnd : UInt64) : ∃ step p, selectStep StunSrvListQty 9 rnd = some step ∧ 0 < step ∧
      step < StunSrvListQty ∧ getExternalIPbySTUN StunSrvListQty net mapped rnd = some p ∧
      ∀ q ∈ p.tried, q < StunSrvListQty := by
  obtain ⟨step, hs, hpos, hlt⟩ := selectStep_ends (show 0 < StunSrvListQty by decide) (by decide) rnd
  refine ⟨step, _, hs, hpos, hlt,
    by rw [getExternalIPbySTUN_eq_walk (by decide) (by decide), hs]; rfl, fun q hq => ?_⟩
  exact (walk_tried_lt (by decide) net _ _ _ _ q hq).resolve_left (List.not_mem_nil _)

/-! ## Which servers the walk reaches -/

/-- One more step from the next position is one more step from the old one.
Source: `src/stun.cpp` l. 1165
Kind: L -/
theorem walk_shift (n step pos j : Nat) :
    ((pos + step) % n + j * step) % n = (pos + (j + 1) * step) % n := by
  rw [Nat.mod_add_mod, Nat.succ_mul]; congr 1; omega

/-- If the position `j` steps ahead is a server that answers every request, and at least `j`
attempts are left, the walk succeeds at one of its next `j` attempts.
Source: `src/stun.cpp` l. 1164–1172
Kind: L -/
theorem walk_answers_by {n step : Nat} {net : Nat → Nat → StunEnv} {s : Nat}
    (hs : ∀ a m, 0 ≤ (stunRequest (net a s) m).1) :
    ∀ (j k attempt pos : Nat) (p : Probe), 0 < j → j ≤ k → (pos + j * step) % n = s →
      (attempt : Int) ≤ (walk n step net k attempt pos p).rc ∧
        (walk n step net k attempt pos p).rc < attempt + j
  | 0, _, _, _, _, hj, _, _ => absurd hj (Nat.lt_irrefl 0)
  | j + 1, k + 1, attempt, pos, p, _, hjk, hpos => by
    simp only [walk]
    split_ifs with hq
    · exact ⟨le_rfl, by push_cast; omega⟩
    · rcases Nat.eq_zero_or_pos j with rfl | hj
      · exact absurd (hs attempt p.mapped) (by simpa [← hpos] using hq)
      · obtain ⟨h₁, h₂⟩ := walk_answers_by hs j k (attempt + 1) ((pos + step) % n)
          ⟨p.rc, (stunRequest (net attempt ((pos + step) % n)) p.mapped).2, some ((pos + step) % n),
            p.tried ++ [(pos + step) % n]⟩ hj (by omega) (by rw [walk_shift, hpos])
        push_cast at h₁ h₂ ⊢
        exact ⟨by omega, by omega⟩

/-- The walk has period `n / g` for a common divisor `g` of `n` and `step`: `n / g` steps move by a
multiple of `n`.
Source: `src/stun.cpp` l. 1165
Kind: L -/
theorem walk_period {g n step : Nat} (hgn : g ∣ n) (hgs : g ∣ step) (pos i t : Nat) :
    (pos + (i * (n / g) + t) * step) % n = (pos + t * step) % n := by
  obtain ⟨b, rfl⟩ := hgn
  obtain ⟨a, rfl⟩ := hgs
  rcases Nat.eq_zero_or_pos g with rfl | hg
  · simp
  rw [Nat.mul_div_cancel_left _ hg,
    show pos + (i * b + t) * (g * a) = pos + t * (g * a) + i * a * (g * b) by ring,
    Nat.add_mul_mod_self_right]

/-- Every index congruent to the start modulo `gcd(step, n)` is reached within `n / gcd(step, n)`
steps: `step` generates the multiples of the gcd modulo `n`.
Source: `src/stun.cpp` l. 1165
Kind: L -/
theorem exists_walk_index {n step pos s : Nat} (hn : 0 < n) (hs : s < n)
    (hg : s % Nat.gcd step n = pos % Nat.gcd step n) :
    ∃ j, 0 < j ∧ j ≤ n / Nat.gcd step n ∧ (pos + j * step) % n = s := by
  have hgn : Nat.gcd step n ∣ n := Nat.gcd_dvd_right step n
  have hgs : Nat.gcd step n ∣ step := Nat.gcd_dvd_left step n
  -- some number of steps reaches `s`
  obtain ⟨j₀, hj₀⟩ : ∃ j₀, (pos + j₀ * step) % n = s := by
    rcases (Nat.le_of_dvd hn hgn).lt_or_eq with hlt | heq
    · obtain ⟨u, hu⟩ := Nat.exists_mul_emod_eq_gcd hlt
      have hr := Nat.mod_lt pos hn
      have hdiv : Nat.gcd step n ∣ s + n - pos % n := by
        refine Nat.dvd_of_mod_eq_zero (Nat.sub_mod_eq_zero_of_mod_eq ?_)
        rw [Nat.add_mod, Nat.mod_eq_zero_of_dvd hgn, Nat.add_zero, Nat.mod_mod, hg,
          Nat.mod_mod_of_dvd pos hgn]
      obtain ⟨d, hd⟩ := hdiv
      have hstep : step * u ≡ Nat.gcd step n [MOD n] := hu.trans (Nat.mod_eq_of_lt hlt).symm
      have := ((Nat.mod_modEq pos n).symm.add (hstep.mul_right d))
      refine ⟨u * d, ?_⟩
      rw [show pos + u * d * step = pos + step * u * d by ring, this,
        show pos % n + Nat.gcd step n * d = s + n by omega, Nat.add_mod_right, Nat.mod_eq_of_lt hs]
    · refine ⟨0, ?_⟩
      rw [heq, Nat.mod_eq_of_lt hs] at hg
      rw [Nat.zero_mul, Nat.add_zero, hg]
  -- and a number in `[1, m]` reaches it too, the walk having period `m = n / g`
  obtain ⟨m, hm_eq⟩ : ∃ m, m = n / Nat.gcd step n := ⟨_, rfl⟩
  have hm : 0 < m := hm_eq ▸ Nat.div_pos (Nat.le_of_dvd hn hgn) (Nat.gcd_pos_of_pos_right _ hn)
  have hper : ∀ i t, (pos + (i * m + t) * step) % n = (pos + t * step) % n :=
    hm_eq ▸ walk_period hgn hgs pos
  have hsplit := Nat.div_add_mod (j₀ + m - 1) m
  refine ⟨(j₀ + m - 1) % m + 1, by omega, hm_eq ▸ Nat.mod_lt _ hm, ?_⟩
  rw [← hper ((j₀ + m - 1) / m), show (j₀ + m - 1) / m * m + ((j₀ + m - 1) % m + 1) = 1 * m + j₀ by
    rw [Nat.mul_comm] at hsplit; omega, hper, hj₀]

/-- **Which servers the scan reaches.** Let the step loop pick `step` from `rnd`, over a list of
`n` servers with `2 n < 2^16`, and let `g = gcd(step, n)`. Whatever the network answers, the scan
returns, and every server it probes is congruent to `(uint16_t)rnd` modulo `g`; and every server of
that class that answers every request makes the scan succeed, at an attempt between `1` and
`n / g`. With `g = 1` every server is reached within `n` attempts.
Source: `src/stun.cpp` l. 1154–1173
Kind: T -/
theorem getExternalIPbySTUN_reaches {n : Nat} (hn : 0 < n) (hn2 : n * 2 < 2 ^ 16) {rnd : UInt64}
    {step : Nat} (hstep : selectStep n 9 rnd = some step) (net : Nat → Nat → StunEnv)
    (mapped : SockaddrIn) :
    ∃ p, getExternalIPbySTUN n net mapped rnd = some p ∧
      (∀ q ∈ p.tried, q % Nat.gcd step n = rnd.toNat % 2 ^ 16 % Nat.gcd step n) ∧
      ∀ s < n, s % Nat.gcd step n = rnd.toNat % 2 ^ 16 % Nat.gcd step n →
        (∀ a m, 0 ≤ (stunRequest (net a s) m).1) → 1 ≤ p.rc ∧ p.rc ≤ n / Nat.gcd step n := by
  refine ⟨walk n step net (n * 2 - 1) 1 (rnd.toNat % 2 ^ 16) ⟨-1, mapped, none, []⟩,
    by rw [getExternalIPbySTUN_eq_walk hn hn2, hstep]; rfl, fun q hq => ?_,
    fun s hs hclass hans => ?_⟩
  · exact (walk_tried_mod (Nat.gcd_dvd_right step n) (Nat.gcd_dvd_left step n) net _ _ _ _ q
      hq).resolve_left (List.not_mem_nil _)
  · obtain ⟨j, hj, hjn, hpos⟩ := exists_walk_index hn hs hclass
    have hle : n / Nat.gcd step n ≤ n := Nat.div_le_self _ _
    obtain ⟨h₁, h₂⟩ := walk_answers_by hans j (n * 2 - 1) 1 _ ⟨-1, mapped, none, []⟩ hj
      (by omega) hpos
    exact ⟨by exact_mod_cast h₁, by have := Int.ofNat_le.mpr hjn; omega⟩

/-- The shipped list from `rnd = 0x25300`: `step = 19`, so the scan probes only the 47 servers
congruent to `21248` modulo 19, and would succeed within 47 attempts if one of them always
answered; here no host is ever found.
Source: `src/stun.cpp` l. 955, 1154–1173
Kind: W -/
theorem getExternalIPbySTUN_reaches_shipped :
    0 < StunSrvListQty ∧ StunSrvListQty * 2 < 2 ^ 16 ∧ selectStep StunSrvListQty 9 0x25300 = some 19 ∧
      ∃ p, getExternalIPbySTUN StunSrvListQty (fun _ _ => ⟨false, false, false,
          ⟨0, 0, ⟨List.replicate 1024 0, 0, List.length_replicate _ _, by decide⟩⟩⟩) SockaddrIn.zero
          0x25300 = some p ∧
        (∀ q ∈ p.tried, q % Nat.gcd 19 StunSrvListQty =
          (0x25300 : UInt64).toNat % 2 ^ 16 % Nat.gcd 19 StunSrvListQty) ∧
        ∀ s < StunSrvListQty, s % Nat.gcd 19 StunSrvListQty =
            (0x25300 : UInt64).toNat % 2 ^ 16 % Nat.gcd 19 StunSrvListQty →
          (∀ a m, 0 ≤ (stunRequest ((fun _ _ => ⟨false, false, false,
            ⟨0, 0, ⟨List.replicate 1024 0, 0, List.length_replicate _ _, by decide⟩⟩⟩ : Nat → Nat →
              StunEnv) a s) m).1) →
          1 ≤ p.rc ∧ p.rc ≤ StunSrvListQty / Nat.gcd 19 StunSrvListQty :=
  ⟨by decide, by decide, by decide, getExternalIPbySTUN_reaches (by decide) (by decide) (by decide) _ _⟩

end FortyTwo.Stun
