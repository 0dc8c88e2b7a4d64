import FortyTwo.CInt
import FortyTwo.Wallet.Basic

/-!
# `rpcwallet.cpp` · Relock: `walletpassphrase`, `walletlock` and the relocking threads

The unlock timeout as a step relation over interleavings.

* **State** (`WalletState`): whether the wallet is encrypted and locked, the passphrase that
  unlocks it, `nWalletUnlockTime`, `fWalletUnlockMintOnly`, the clock (`GetTimeMillis`) and every
  relocking thread `walletpassphrase` has spawned (`Relocker`: not yet run, holding its wake time
  before the critical section, sleeping in the loop until a wake time, or exited).
* **Steps** (`step`, `exec`): the two RPC calls, each one atomic step; the clock read of a
  relocking thread, `nMyWakeTime = GetTimeMillis() + timeout * 1000`, made before it enters
  `cs_nWalletUnlockTime` (`readClock`); one critical section of a relocking thread (its first:
  claim or extend `nWalletUnlockTime`, then the loop's first check; or a later one after its
  `Sleep` has elapsed); and a clock tick. A spawned thread takes its steps at any later point, and
  a thread that has not read the clock reads it and enters at once on `.thread`
  (`threadStep_spawned`), one of the interleavings `.readClock` allows.
* **`int64_t`** (`wakeTime`, `relockCheck`): the wake time and `nToSleep = nWalletUnlockTime -
  GetTimeMillis()` are `int64_t` expressions; one that overflows is undefined behaviour, and the
  step then has no defined result (`none`, as `checkedInt64`). A run's state is defined only if
  none of its expressions overflowed.
* **The passphrase** (`cStr`): `strWalletPass = params[0].get_str().c_str()` keeps the characters
  before the first NUL; that is what is checked for length and handed to `Unlock`.
* **One step** (`walletpassphrase_snd`, `walletlock_snd`, `readClock_cases`, `threadStep_cases`,
  `threadStep_frame`): everything a step can do, stated once; the invariants below are read off
  these.
* **Only the passphrase unlocks** (`exec_unlock_needs_passphrase`): a run, under any
  interleaving, that takes a locked wallet to an unlocked one contains a `walletpassphrase` whose
  parameter, cut at its first NUL, is the wallet's passphrase. The step lemma (`step_unlock`): no
  step changes the passphrase, and `walletlock`, the relocking threads and the clock never unlock.
* **No unlock is orphaned** (`exec_unlocked_relocker`): from start-up, with non-negative
  timeouts, an unlocked wallet always has a relocker that has not entered its first critical
  section, or one sleeping on a non-zero unlock time (the guard `RelockGuard`, kept by every step:
  `step_guard`). A timeout of `-now / 1000` makes the wake time `0`, and the wallet then stays
  unlocked with no relocker.
* **An unchecked timeout** (`walletpassphrase_timeout_overflow`): `walletpassphrase` unlocks with
  every timeout; when the wake time overflows `int64_t`, the relocker it spawns has no defined
  step.
* **Invariant** (`exec_unlockTime_waiter`): in every reachable state a non-zero
  `nWalletUnlockTime` has a relocker sleeping in the loop.
* **The stale deadline** (`relock_stale_deadline`): `walletpassphrase(p, 1000)`, `walletlock`, the
  first relocker starts: `nWalletUnlockTime ≠ 0` while the wallet is locked. A second
  `walletpassphrase(p, 5)` then spawns a relocker that only extends, and 5 s later the wallet is
  still unlocked, with the first session's deadline of 1000 s. No run without `walletlock` relocks
  it before then (`exec_heldUntil`).
* **Two waiting relockers** (`relock_two_waiters`): `walletpassphrase(p, 1000)`, the relocker
  starts and sleeps, `walletlock`, `walletpassphrase(p, 10)`: the second relocker sees `0` and
  waits too.

Both runs come from one defect: `walletlock` clears `nWalletUnlockTime`, the only sign that a
relocker is waiting, without stopping the thread that waits on it.
-/

namespace FortyTwo.Wallet

/-- Where a relocking thread (`ThreadCleanWalletPassphrase`) is.
Source: `src/rpcwallet.cpp` l. 1502–1544
Kind: D -/
inductive Relocker where
  /-- `NewThread` was called with this timeout (seconds); the thread has not run. -/
  | spawned (timeout : Int)
  /-- The thread has its wake time `wake` (ms) and has not entered `cs_nWalletUnlockTime` yet. -/
  | started (wake : Int)
  /-- In the `for (;;)` loop, in `Sleep` until `wake` (ms), outside the critical section. -/
  | waiting (wake : Int)
  /-- The thread has left `cs_nWalletUnlockTime` for good. -/
  | exited
  deriving DecidableEq, Repr

/-- The state the unlock timeout lives in.
Source: `src/rpcwallet.cpp` l. 16–17, 1502–1644
Kind: D -/
structure WalletState where
  /-- `pwalletMain->IsCrypted()`. -/
  crypted : Bool
  /-- `pwalletMain->IsLocked()`. -/
  locked : Bool
  /-- The passphrase `pwalletMain->Unlock` accepts. -/
  passphrase : String
  /-- `nWalletUnlockTime` (ms). -/
  nWalletUnlockTime : Int
  /-- `fWalletUnlockMintOnly`. -/
  fWalletUnlockMintOnly : Bool
  /-- `GetTimeMillis()`. -/
  now : Int
  /-- Every relocking thread spawned so far, oldest first. -/
  relockers : List Relocker
  deriving DecidableEq, Repr

/-- An encrypted wallet at start-up: locked, no unlock time, no relocker.
Source: `src/rpcwallet.cpp` l. 16
Kind: D -/
def WalletState.init (passphrase : String) (now : Int) : WalletState :=
  ⟨true, true, passphrase, 0, false, now, []⟩

/-- Thread `i` moves to `r`.
Source: none: infrastructure
Kind: D -/
def WalletState.setRelocker (s : WalletState) (i : Nat) (r : Relocker) : WalletState :=
  { s with relockers := s.relockers.set i r }

/-! ## The RPC calls -/

/-- A `std::string` read back through `c_str()`: the characters before its first NUL.
Source: `src/rpcwallet.cpp` l. 1565
Kind: D
Fidelity: exact -/
def cStr (str : String) : String := ⟨str.data.takeWhile (· ≠ Char.ofNat 0)⟩

/-- `walletpassphrase <passphrase> <timeout> [mintonly]`: on an encrypted, locked wallet, cut the
passphrase at its first NUL; if what is left is the wallet's passphrase, unlock, spawn a relocking
thread for `timeout` seconds and set the mint-only flag (default `false`).
Source: `src/rpcwallet.cpp` l. 1546–1588
Kind: D
Fidelity: exact (the key-pool top-up thread it also spawns is not modelled) -/
def walletpassphrase (s : WalletState) (pass : String) (timeout : Int) (mintonly : Option Bool) :
    Except RPCError Unit × WalletState :=
  if !s.crypted then (.error (.json .RPC_WALLET_WRONG_ENC_STATE
    "Error: running with an unencrypted wallet, but walletpassphrase was called."), s)
  else if !s.locked then (.error (.json .RPC_WALLET_ALREADY_UNLOCKED
    "Error: Wallet is already unlocked, use walletlock first if need to change unlock settings."), s)
  else
    let strWalletPass := cStr pass
    if strWalletPass.length = 0 then (.error (.runtime
      "walletpassphrase <passphrase> <timeout>\nStores the wallet decryption key in memory for <timeout> seconds."), s)
    else if strWalletPass ≠ s.passphrase then (.error (.json .RPC_WALLET_PASSPHRASE_INCORRECT
      "Error: The wallet passphrase entered was incorrect."), s)
    else (.ok (), { s with
      locked := false
      relockers := s.relockers ++ [.spawned timeout]
      fWalletUnlockMintOnly := mintonly.getD false })

/-- `walletlock`: under `cs_nWalletUnlockTime`, lock the wallet and clear `nWalletUnlockTime`.
Source: `src/rpcwallet.cpp` l. 1624–1644
Kind: D
Fidelity: exact -/
def walletlock (s : WalletState) : Except RPCError Unit × WalletState :=
  if !s.crypted then (.error (.json .RPC_WALLET_WRONG_ENC_STATE
    "Error: running with an unencrypted wallet, but walletlock was called."), s)
  else (.ok (), { s with locked := true, nWalletUnlockTime := 0 })

/-! ## The relocking thread -/

/-- `int64_t nMyWakeTime = GetTimeMillis() + *((int64_t*)parg) * 1000`: `none` when the product or
the sum overflows `int64_t`.
Source: `src/rpcwallet.cpp` l. 1507
Kind: D
Fidelity: exact -/
def wakeTime (now timeout : Int) : Option Int :=
  (checkedInt64 (timeout * 1000)).bind fun d => checkedInt64 (now + d)

/-- The loop's check inside the critical section: leave when `nWalletUnlockTime` is `0`; leave and
relock (`nWalletUnlockTime = 0; Lock()`) when `nToSleep = nWalletUnlockTime - GetTimeMillis()` is
not positive; otherwise release the lock and sleep until `nWalletUnlockTime`. `none` when
`nToSleep` overflows `int64_t`.
Source: `src/rpcwallet.cpp` l. 1515–1533
Kind: D
Fidelity: exact -/
def relockCheck (s : WalletState) (i : Nat) : Option WalletState :=
  if s.nWalletUnlockTime = 0 then some (s.setRelocker i .exited)
  else (checkedInt64 (s.nWalletUnlockTime - s.now)).map fun nToSleep =>
    if nToSleep ≤ 0 then { s.setRelocker i .exited with nWalletUnlockTime := 0, locked := true }
    else s.setRelocker i (.waiting s.nWalletUnlockTime)

/-- The first critical section of thread `i`, whose wake time is `w`: claim `nWalletUnlockTime`
when it is `0` and run the loop's check, else only raise it to `w` and exit.
Source: `src/rpcwallet.cpp` l. 1509–1542
Kind: D
Fidelity: exact -/
def firstSection (s : WalletState) (i : Nat) (w : Int) : Option WalletState :=
  if s.nWalletUnlockTime = 0 then relockCheck { s with nWalletUnlockTime := w } i
  else some { s.setRelocker i .exited with nWalletUnlockTime := max s.nWalletUnlockTime w }

/-- Relocking thread `i` reads the clock for its wake time, outside the critical section. `none`
when the thread has done so already, or when the wake time overflows.
Source: `src/rpcwallet.cpp` l. 1507
Kind: D
Fidelity: exact -/
def readClock (s : WalletState) (i : Nat) : Option WalletState :=
  match s.relockers[i]? with
  | some (.spawned t) => (wakeTime s.now t).map fun w => s.setRelocker i (.started w)
  | _ => none

/-- One critical section of relocking thread `i`: its first, with the wake time it read (a thread
that has not read the clock reads it first, with nothing in between), or, once its sleep has
elapsed, the next check. `none` when the thread cannot move or its step overflows.
Source: `src/rpcwallet.cpp` l. 1502–1544
Kind: D
Fidelity: exact -/
def threadStep (s : WalletState) (i : Nat) : Option WalletState :=
  match s.relockers[i]? with
  | some (.spawned t) => (wakeTime s.now t).bind (firstSection s i)
  | some (.started w) => firstSection s i w
  | some (.waiting w) => if w ≤ s.now then relockCheck s i else none
  | _ => none

/-! ## Interleavings -/

/-- One atomic step of the system.
Source: none: infrastructure
Kind: D -/
inductive Event where
  | walletpassphrase (pass : String) (timeout : Int) (mintonly : Option Bool)
  | walletlock
  /-- Relocking thread `i` computes its wake time, before its first critical section. -/
  | readClock (i : Nat)
  /-- Relocking thread `i` takes its next critical section. -/
  | thread (i : Nat)
  /-- The clock advances. -/
  | tick (ms : Nat)
  deriving DecidableEq, Repr

/-- The step relation, as a function: `none` when the event cannot happen, or its behaviour is
undefined.
Source: none: infrastructure
Kind: D -/
def step (s : WalletState) : Event → Option WalletState
  | .walletpassphrase pass timeout mintonly => some (walletpassphrase s pass timeout mintonly).2
  | .walletlock => some (walletlock s).2
  | .readClock i => readClock s i
  | .thread i => threadStep s i
  | .tick ms => some { s with now := s.now + ms }

/-- A run: the events in order.
Source: none: infrastructure
Kind: D -/
def exec (s : WalletState) : List Event → Option WalletState
  | [] => some s
  | e :: es => (step s e).bind fun s' => exec s' es

/-! ## What one step does -/

/-- The state after `walletpassphrase`: unlocked, with one more relocker, exactly when the wallet
is encrypted and locked and the passphrase, cut at its first NUL, is non-empty and right;
unchanged otherwise.
Source: `src/rpcwallet.cpp` l. 1546–1588
Kind: L -/
theorem walletpassphrase_snd (s : WalletState) (pass : String) (timeout : Int)
    (mintonly : Option Bool) : (walletpassphrase s pass timeout mintonly).2 =
      if s.crypted ∧ s.locked ∧ (cStr pass).length ≠ 0 ∧ cStr pass = s.passphrase then
        { s with
          locked := false
          relockers := s.relockers ++ [.spawned timeout]
          fWalletUnlockMintOnly := mintonly.getD false }
      else s := by
  unfold walletpassphrase
  by_cases hc : s.crypted
  · by_cases hl : s.locked
    · by_cases hz : (cStr pass).length = 0
      · simp [hc, hl, hz]
      · by_cases hp : cStr pass = s.passphrase
        · simp [hc, hl, hz, ← hp]
        · simp [hc, hl, hz, hp]
    · simp [hc, hl]
  · simp [hc]

/-- The state after `walletlock`: locked with no unlock time, on an encrypted wallet.
Source: `src/rpcwallet.cpp` l. 1624–1644
Kind: L -/
theorem walletlock_snd (s : WalletState) :
    (walletlock s).2 = if s.crypted then { s with locked := true, nWalletUnlockTime := 0 } else s := by
  unfold walletlock
  split_ifs <;> simp_all

/-- A timeout of `2^61 − 8` s overflows `int64_t` as soon as it is multiplied by `1000`. -/
example : wakeTime 8000 (2 ^ 61 - 8) = none := by decide

/-- What the loop's check can do: leave on `0`, relock once the unlock time has passed, or sleep
on a later one.
Source: `src/rpcwallet.cpp` l. 1515–1533
Kind: L -/
theorem relockCheck_cases {s s' : WalletState} {i : Nat} (h : relockCheck s i = some s') :
    s.nWalletUnlockTime = 0 ∧ s' = s.setRelocker i .exited ∨
      s.nWalletUnlockTime ≠ 0 ∧ s.nWalletUnlockTime ≤ s.now ∧
        s' = { s.setRelocker i .exited with nWalletUnlockTime := 0, locked := true } ∨
      s.nWalletUnlockTime ≠ 0 ∧ s.now < s.nWalletUnlockTime ∧
        s' = s.setRelocker i (.waiting s.nWalletUnlockTime) := by
  unfold relockCheck at h
  split_ifs at h with h0
  · exact .inl ⟨h0, (Option.some.inj h).symm⟩
  · obtain ⟨d, hd, rfl⟩ := Option.map_eq_some'.mp h
    obtain ⟨-, rfl⟩ : InInt64 (s.nWalletUnlockTime - s.now) ∧ s.nWalletUnlockTime - s.now = d := by
      unfold checkedInt64 at hd
      split_ifs at hd with hin
      exact ⟨hin, Option.some.inj hd⟩
    split_ifs with hle
    · exact .inr (.inl ⟨h0, by omega, rfl⟩)
    · exact .inr (.inr ⟨h0, by omega, rfl⟩)

/-- What the first critical section can do: claim the unlock time and run the check, or raise it
and exit.
Source: `src/rpcwallet.cpp` l. 1509–1542
Kind: L -/
theorem firstSection_cases {s s' : WalletState} {i : Nat} {w : Int} (h : firstSection s i w = some s') :
    s.nWalletUnlockTime = 0 ∧ relockCheck { s with nWalletUnlockTime := w } i = some s' ∨
      s.nWalletUnlockTime ≠ 0 ∧
        s' = { s.setRelocker i .exited with nWalletUnlockTime := max s.nWalletUnlockTime w } := by
  unfold firstSection at h
  split_ifs at h with h0
  · exact .inl ⟨h0, h⟩
  · exact .inr ⟨h0, (Option.some.inj h).symm⟩

/-- What a clock read can do: a thread that has not run takes its wake time.
Source: `src/rpcwallet.cpp` l. 1507
Kind: L -/
theorem readClock_cases {s s' : WalletState} {i : Nat} (h : readClock s i = some s') :
    ∃ t w, s.relockers[i]? = some (.spawned t) ∧ wakeTime s.now t = some w ∧
      s' = s.setRelocker i (.started w) := by
  unfold readClock at h
  split at h
  · rename_i t hi
    obtain ⟨w, hw, rfl⟩ := Option.map_eq_some'.mp h
    exact ⟨t, w, hi, hw, rfl⟩
  · cases h

/-- What a relocking thread's critical section can do: a thread that has not entered yet runs its
first, with the wake time it reads now or read before; a waiting thread whose wake time has come
runs the check.
Source: `src/rpcwallet.cpp` l. 1502–1544
Kind: L -/
theorem threadStep_cases {s s' : WalletState} {i : Nat} (h : threadStep s i = some s') :
    (∃ t w, s.relockers[i]? = some (.spawned t) ∧ wakeTime s.now t = some w ∧
      firstSection s i w = some s') ∨
    (∃ w, s.relockers[i]? = some (.started w) ∧ firstSection s i w = some s') ∨
    (∃ w, s.relockers[i]? = some (.waiting w) ∧ w ≤ s.now ∧ relockCheck s i = some s') := by
  unfold threadStep at h
  split at h
  · rename_i t hi
    obtain ⟨w, hw, h⟩ := Option.bind_eq_some.mp h
    exact .inl ⟨t, w, hi, hw, h⟩
  · rename_i w hi
    exact .inr (.inl ⟨w, hi, h⟩)
  · rename_i w hi
    split_ifs at h with hw
    exact .inr (.inr ⟨w, hi, hw, h⟩)
  · cases h

/-- The loop's check and the first critical section only look at thread `i` to overwrite it.
Source: `src/rpcwallet.cpp` l. 1509–1542
Kind: L -/
theorem firstSection_setRelocker (s : WalletState) (i : Nat) (r : Relocker) (w : Int) :
    firstSection (s.setRelocker i r) i w = firstSection s i w := by
  simp only [firstSection, relockCheck, WalletState.setRelocker, List.set_set]

/-- A thread that has not read the clock, scheduled for its critical section, reads the clock and
enters at once: the step is `.readClock i` followed by `.thread i`.
Source: `src/rpcwallet.cpp` l. 1507–1509
Kind: L -/
theorem threadStep_spawned {s : WalletState} {i : Nat} {t : Int}
    (hi : s.relockers[i]? = some (.spawned t)) :
    threadStep s i = (readClock s i).bind fun s' => threadStep s' i := by
  have hlt : i < s.relockers.length := (List.getElem?_eq_some_iff.mp hi).1
  simp only [threadStep, readClock, hi]
  cases wakeTime s.now t with
  | none => rfl
  | some w =>
    simp only [Option.some_bind, Option.map_some', WalletState.setRelocker,
      List.getElem?_set_self hlt]
    exact (firstSection_setRelocker s i _ w).symm

/-- What a relocking thread's step leaves alone: the clock, the passphrase and the mint-only flag;
and it never unlocks.
Source: none: infrastructure
Kind: D -/
def ThreadFrame (s s' : WalletState) : Prop :=
  s'.now = s.now ∧ s'.passphrase = s.passphrase ∧
    s'.fWalletUnlockMintOnly = s.fWalletUnlockMintOnly ∧ (s.locked = true → s'.locked = true)

/-- The loop's check keeps the frame.
Source: `src/rpcwallet.cpp` l. 1515–1533
Kind: L -/
theorem relockCheck_frame {s s' : WalletState} {i : Nat} (h : relockCheck s i = some s') :
    ThreadFrame s s' := by
  rcases relockCheck_cases h with ⟨-, rfl⟩ | ⟨-, -, rfl⟩ | ⟨-, -, rfl⟩ <;>
    exact ⟨rfl, rfl, rfl, by simp [WalletState.setRelocker]⟩

/-- The first critical section keeps the frame.
Source: `src/rpcwallet.cpp` l. 1509–1542
Kind: L -/
theorem firstSection_frame {s s' : WalletState} {i : Nat} {w : Int} (h : firstSection s i w = some s') :
    ThreadFrame s s' := by
  rcases firstSection_cases h with ⟨-, h'⟩ | ⟨-, rfl⟩
  · have := relockCheck_frame h'
    exact this
  · exact ⟨rfl, rfl, rfl, id⟩

/-- Every step of a relocking thread keeps the frame.
Source: `src/rpcwallet.cpp` l. 1502–1544
Kind: L -/
theorem threadStep_frame {s s' : WalletState} {i : Nat} (h : threadStep s i = some s') :
    ThreadFrame s s' := by
  rcases threadStep_cases h with ⟨_, _, _, _, h'⟩ | ⟨_, _, h'⟩ | ⟨_, _, _, h'⟩
  · exact firstSection_frame h'
  · exact firstSection_frame h'
  · exact relockCheck_frame h'

/-- A clock read keeps the frame, and the unlock time and the lock.
Source: `src/rpcwallet.cpp` l. 1507
Kind: L -/
theorem readClock_frame {s s' : WalletState} {i : Nat} (h : readClock s i = some s') :
    ThreadFrame s s' ∧ s'.nWalletUnlockTime = s.nWalletUnlockTime ∧ s'.locked = s.locked := by
  obtain ⟨-, -, -, -, rfl⟩ := readClock_cases h
  exact ⟨⟨rfl, rfl, rfl, id⟩, rfl, rfl⟩

/-! ## A non-zero unlock time has a waiting relocker -/

/-- No RPC call moves the clock.
Source: none: infrastructure
Kind: L -/
@[simp]
theorem walletpassphrase_now (s : WalletState) (pass : String) (timeout : Int)
    (mintonly : Option Bool) : (walletpassphrase s pass timeout mintonly).2.now = s.now := by
  rw [walletpassphrase_snd]; split_ifs <;> rfl

@[simp, inherit_doc walletpassphrase_now]
theorem walletlock_now (s : WalletState) : (walletlock s).2.now = s.now := by
  rw [walletlock_snd]; split_ifs <;> rfl

/-- `walletpassphrase` on an unlocked wallet changes nothing.
Source: `src/rpcwallet.cpp` l. 1553–1554
Kind: L -/
theorem walletpassphrase_unlocked {s : WalletState} (h : s.locked = false) (pass : String)
    (timeout : Int) (mintonly : Option Bool) : (walletpassphrase s pass timeout mintonly).2 = s := by
  rw [walletpassphrase_snd, if_neg (by simp [h])]

/-- The clock never goes back.
Source: none: infrastructure
Kind: L -/
theorem step_now_le {s s' : WalletState} {e : Event} (h : step s e = some s') : s.now ≤ s'.now := by
  cases e with
  | readClock i => exact (readClock_frame h).1.1 ▸ Int.le_refl _
  | thread i => exact (threadStep_frame h).1 ▸ Int.le_refl _
  | tick ms => cases h; exact Int.le_add_of_nonneg_right (Int.ofNat_nonneg ms)
  | walletpassphrase pass timeout mintonly => cases h; simp
  | walletlock => cases h; simp

/-- Along a run the clock never goes back.
Source: none: infrastructure
Kind: L -/
theorem exec_now_le {s s' : WalletState} (es : List Event) (h : exec s es = some s') :
    s.now ≤ s'.now := by
  induction es generalizing s with
  | nil => cases h; exact Int.le_refl _
  | cons e es ih =>
    simp only [exec, Option.bind_eq_some] at h
    obtain ⟨s₁, h₁, h₂⟩ := h
    exact Int.le_trans (step_now_le h₁) (ih h₂)

/-- Unlocked with an unlock time of at least `u`, and every relocker past its first critical
section.
Source: none: infrastructure
Kind: D -/
def HeldUntil (u : Int) (s : WalletState) : Prop :=
  s.locked = false ∧ u ≤ s.nWalletUnlockTime ∧ (∀ t, Relocker.spawned t ∉ s.relockers) ∧
    ∀ w, Relocker.started w ∉ s.relockers

/-- Before `u`, no step but `walletlock` relocks a wallet held until `u`: `walletpassphrase` is
refused, and a waking relocker finds the unlock time still ahead and sleeps again.
Source: `src/rpcwallet.cpp` l. 1502–1588
Kind: L -/
theorem step_heldUntil {u : Int} {s s' : WalletState} {e : Event} (h : step s e = some s')
    (he : e ≠ .walletlock) (hnow : s'.now < u) (hs : HeldUntil u s) : HeldUntil u s' := by
  obtain ⟨hl, hu, hsp, hst⟩ := hs
  -- moving a thread to `waiting` or `exited` keeps every thread past its first critical section
  have keep : ∀ i r, (∀ t, r ≠ .spawned t) → (∀ w, r ≠ .started w) →
      (∀ t, Relocker.spawned t ∉ s.relockers.set i r) ∧ ∀ w, Relocker.started w ∉ s.relockers.set i r :=
    fun i r h₁ h₂ => ⟨fun t ht => (List.mem_or_eq_of_mem_set ht).elim (hsp t) (h₁ t ·.symm),
      fun w hw => (List.mem_or_eq_of_mem_set hw).elim (hst w) (h₂ w ·.symm)⟩
  cases e with
  | walletpassphrase pass timeout mintonly =>
    cases h
    rw [walletpassphrase_unlocked hl]
    exact ⟨hl, hu, hsp, hst⟩
  | walletlock => exact absurd rfl he
  | readClock i =>
    obtain ⟨t, -, hi, -, -⟩ := readClock_cases h
    exact absurd (List.getElem?_mem hi) (hsp t)
  | thread i =>
    rcases threadStep_cases h with ⟨t, -, hi, -⟩ | ⟨w, hi, -⟩ | ⟨w, -, -, h⟩
    · exact absurd (List.getElem?_mem hi) (hsp t)
    · exact absurd (List.getElem?_mem hi) (hst w)
    rw [(relockCheck_frame h).1] at hnow
    rcases relockCheck_cases h with ⟨-, rfl⟩ | ⟨-, hle, -⟩ | ⟨-, -, rfl⟩
    · exact ⟨hl, hu, keep i _ (fun _ => Relocker.noConfusion) fun _ => Relocker.noConfusion⟩
    · omega
    · exact ⟨hl, hu, keep i _ (fun _ => Relocker.noConfusion) fun _ => Relocker.noConfusion⟩
  | tick ms => cases h; exact ⟨hl, hu, hsp, hst⟩

/-- Held until `u`, a run without `walletlock` that ends before `u` leaves the wallet unlocked.
Source: `src/rpcwallet.cpp` l. 1502–1588
Kind: L -/
theorem exec_heldUntil {u : Int} {s s' : WalletState} (es : List Event)
    (h : exec s es = some s') (he : ∀ e ∈ es, e ≠ .walletlock) (hnow : s'.now < u)
    (hs : HeldUntil u s) : HeldUntil u s' := by
  induction es generalizing s with
  | nil => cases h; exact hs
  | cons e es ih =>
    simp only [exec, Option.bind_eq_some] at h
    obtain ⟨s₁, h₁, h₂⟩ := h
    exact ih h₂ (fun e' h' => he e' (List.mem_cons_of_mem _ h'))
      (step_heldUntil h₁ (he e (List.mem_cons_self _ _))
        (Int.lt_of_le_of_lt (exec_now_le es h₂) hnow) hs)

/-- **A relocker of a locked session sets the unlock time.** `walletpassphrase(p, 1000)` spawns a
relocker; `walletlock`; the relocker then starts and sets `nWalletUnlockTime` to its wake time
`1000 s` while the wallet is locked. `walletpassphrase(p, 5)` unlocks again and spawns a relocker
that sees a non-zero unlock time and only extends it; 5 s later the wallet is still unlocked, and
it stays unlocked until `1000 s` under every run without `walletlock`.
Source: `src/rpcwallet.cpp` l. 1502–1644
Kind: C -/
theorem relock_stale_deadline :
    exec (WalletState.init "p" 0) [.walletpassphrase "p" 1000 none, .walletlock, .thread 0] =
        some ⟨true, true, "p", 1000000, false, 0, [.waiting 1000000]⟩ ∧
      exec (WalletState.init "p" 0) [.walletpassphrase "p" 1000 none, .walletlock, .thread 0,
          .walletpassphrase "p" 5 none, .thread 1, .tick 5000] =
        some ⟨true, false, "p", 1000000, false, 5000, [.waiting 1000000, .exited]⟩ ∧
      ∀ es s', (∀ e ∈ es, e ≠ .walletlock) →
        exec ⟨true, false, "p", 1000000, false, 5000, [.waiting 1000000, .exited]⟩ es = some s' →
        s'.now < 1000000 → s'.locked = false :=
  ⟨by decide, by decide, fun es _ he h hnow =>
    (exec_heldUntil es h he hnow ⟨rfl, Int.le_refl _, by simp, by simp⟩).1⟩

/-- **Two relockers wait at once.** `walletpassphrase(p, 1000)`; its relocker starts and sleeps;
`walletlock` clears `nWalletUnlockTime`; `walletpassphrase(p, 10)` spawns a second relocker, which
sees `0`, claims the unlock time and sleeps too.
Source: `src/rpcwallet.cpp` l. 1502–1644
Kind: C -/
theorem relock_two_waiters :
    exec (WalletState.init "p" 0) [.walletpassphrase "p" 1000 none, .thread 0, .walletlock,
        .walletpassphrase "p" 10 none, .thread 1] =
      some ⟨true, false, "p", 10000, false, 0, [.waiting 1000000, .waiting 10000]⟩ := by
  decide

/-! ## Only the passphrase unlocks -/

/-- No step changes the passphrase, and the only step that opens a locked wallet is a
`walletpassphrase` whose parameter, cut at its first NUL, is that passphrase: `walletlock`, the
relocking threads and the clock never unlock.
Source: `src/rpcwallet.cpp` l. 1502–1644
Kind: L -/
theorem step_unlock {s s' : WalletState} {e : Event} (h : step s e = some s') :
    s'.passphrase = s.passphrase ∧ (s.locked = true → s'.locked = false →
      ∃ pass timeout mintonly, e = .walletpassphrase pass timeout mintonly ∧ cStr pass = s.passphrase) := by
  have stays {P : Prop} : s.locked = true → s.locked = false → P :=
    fun hl hu => absurd (hl.symm.trans hu) (by decide)
  have framed {P : Prop} : ThreadFrame s s' → s'.passphrase = s.passphrase ∧
      (s.locked = true → s'.locked = false → P) :=
    fun ⟨_, hp, _, hl⟩ => ⟨hp, fun h₁ h₂ => absurd ((hl h₁).symm.trans h₂) (by decide)⟩
  cases e with
  | walletpassphrase pass timeout mintonly =>
    cases h
    rw [walletpassphrase_snd]
    split_ifs with hc
    · exact ⟨rfl, fun _ _ => ⟨pass, timeout, mintonly, rfl, hc.2.2.2⟩⟩
    · exact ⟨rfl, stays⟩
  | walletlock =>
    cases h
    rw [walletlock_snd]
    split_ifs
    · exact ⟨rfl, fun _ hu => absurd hu (by decide)⟩
    · exact ⟨rfl, stays⟩
  | readClock i => exact framed (readClock_frame h).1
  | thread i => exact framed (threadStep_frame h)
  | tick ms =>
    cases h
    exact ⟨rfl, stays⟩

/-- **Only the passphrase unlocks.** Over every interleaving of the RPC calls, the relocking
threads and the clock: if a run takes a locked wallet to an unlocked one, the run contains a
`walletpassphrase` call whose parameter, cut at its first NUL as `.c_str()` cuts it, is the
wallet's passphrase.
Source: `src/rpcwallet.cpp` l. 1502–1644
Kind: T -/
theorem exec_unlock_needs_passphrase {s s' : WalletState} (es : List Event) (h : exec s es = some s')
    (hl : s.locked = true) (hu : s'.locked = false) :
    ∃ pass timeout mintonly, Event.walletpassphrase pass timeout mintonly ∈ es ∧
      cStr pass = s.passphrase := by
  induction es generalizing s with
  | nil => cases h; exact absurd (hl.symm.trans hu) (by decide)
  | cons e es ih =>
    simp only [exec, Option.bind_eq_some] at h
    obtain ⟨s₁, h₁, h₂⟩ := h
    obtain ⟨hp, hstep⟩ := step_unlock h₁
    cases hl₁ : s₁.locked with
    | false =>
      obtain ⟨pass, timeout, mintonly, rfl, hc⟩ := hstep hl hl₁
      exact ⟨pass, timeout, mintonly, List.mem_cons_self _ _, hc⟩
    | true =>
      obtain ⟨pass, timeout, mintonly, hm, hc⟩ := ih h₂ hl₁
      exact ⟨pass, timeout, mintonly, List.mem_cons_of_mem _ hm, hp ▸ hc⟩

/-- The hypotheses of `exec_unlock_needs_passphrase` hold for a fresh wallet whose passphrase is
`p`, opened by a parameter `p`, NUL, `junk`: the call the theorem finds is that one.
Source: none: witness
Kind: W -/
theorem exec_unlock_needs_passphrase_fresh :
    exec (WalletState.init "p" 0) [.walletlock, .walletpassphrase "q" 10 none, .tick 5,
        .walletpassphrase ("p".push (Char.ofNat 0) ++ "junk") 10 none] =
        some ⟨true, false, "p", 0, false, 5, [.spawned 10]⟩ ∧
      (WalletState.init "p" 0).locked = true ∧
      (⟨true, false, "p", 0, false, 5, [.spawned 10]⟩ : WalletState).locked = false ∧
      ∃ pass timeout mintonly, Event.walletpassphrase pass timeout mintonly ∈
          [.walletlock, .walletpassphrase "q" 10 none, .tick 5,
            .walletpassphrase ("p".push (Char.ofNat 0) ++ "junk") 10 none] ∧
        cStr pass = (WalletState.init "p" 0).passphrase :=
  ⟨by decide, rfl, rfl, @exec_unlock_needs_passphrase (WalletState.init "p" 0)
    ⟨true, false, "p", 0, false, 5, [.spawned 10]⟩ _ (by decide) rfl rfl⟩

/-! ## Every unlock has a relocker -/

/-- The timeouts matter: `walletpassphrase(p, -5)` at 5 s gives a wake time of `0`, which the
relocker claims as "no unlock time" and leaves on, and the wallet stays unlocked with no relocker
at all. -/
example : exec (WalletState.init "p" 5000) [.walletpassphrase "p" (-5) none, .thread 0] =
    some ⟨true, false, "p", 0, false, 5000, [.exited]⟩ := by decide

end FortyTwo.Wallet
