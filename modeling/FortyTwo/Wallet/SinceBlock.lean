import FortyTwo.Wallet.ListTransactions

/-!
# `rpcwallet.cpp` · SinceBlock: `listsinceblock`

* **The chain** (`MainChain`): the tip height `nBestHeight` (an `int`), the hash of the
  main-chain block at each height, and the height `CBlockLocator(hash).GetBlockIndex()` lands on.
  A main-chain block's hash lands on its own height, and the zero hash (no block's) on the
  genesis block.
* **The call** (`listsinceblock`): `depth = 1 + nBestHeight - pindex->nHeight` (`-1` without a
  block, `sinceDepth`), every wallet transaction with `GetDepthInMainChain() < depth` goes to
  `ListTransactions(tx, "*", 0, true, …)` (`sinceTxs`), and `lastblock` is the tip's hash for
  `target_confirms = 1`, else the block the `pprev` walk from the tip stops at (`walkBack`), or `0`
  past the genesis block (`lastBlock`).
* **The walk** (`walkBack_eq`): it stops at height `H + 1 − k`, or runs off the chain when that is
  negative.
* **What it lists** (`listsinceblock_eq`): when `GetDepthInMainChain()` is `H − height + 1` for a
  confirmed transaction, `0` unconfirmed and `-1` conflicted (`WalletPlaced`), the call lists
  exactly the transactions that are unconfirmed, conflicted or confirmed above the block's height
  (`listedSince`), and `lastblock` is the hash at `H + 1 − k`, or `0` (`lastblockOf`).
* **Resuming loses nothing** (`listsinceblock_resumes`): a later call from `lastblock`, on any
  extension of the chain, lists every transaction confirmed above `max(H + 1 − k, 0)`.
* **The tip at `INT_MAX`** (`listsinceblock_tip_overflow`): `1 + nBestHeight` overflows, and a
  call with a block has no defined result.

`CBlockLocator` (in `main.h`) and `GetDepthInMainChain` (in `main.cpp`) are not in the sources:
the locator is the chain's data and the depth is the transaction's `nDepth`. The block hash
parameter is taken as its value (`SetHex` is not modelled), and `lastblock` is returned as its
value, not its hex text.
-/

namespace FortyTwo.Wallet

/-! ## The chain -/

/-- The main chain as `listsinceblock` reads it.
Source: `nBestHeight`, `pindexBest`, `hashBestChain`, `CBlockLocator` (`main.h`, `main.cpp`, not in
the sources), read in `src/rpcwallet.cpp` l. 1303, 1318, 1333–1346
Kind: D -/
structure MainChain where
  /-- `nBestHeight`, the tip's height. -/
  nBestHeight : Nat
  /-- `GetBlockHash()` of the main-chain block at each height up to the tip. -/
  hashAt : Nat → Nat
  /-- `CBlockLocator(hash).GetBlockIndex()->nHeight`. -/
  locate : Nat → Nat
  /-- `int nBestHeight`. -/
  height_lt : nBestHeight < 2 ^ 31
  /-- The locator returns a main-chain block. -/
  locate_le : ∀ b, locate b ≤ nBestHeight
  /-- A main-chain block is found as itself. -/
  locate_hashAt : ∀ i ≤ nBestHeight, locate (hashAt i) = i
  /-- The zero hash is no block's, and an unknown hash gives the genesis block. -/
  locate_zero : locate 0 = 0

/-- A later main chain that keeps every block up to the old tip.
Source: none: infrastructure
Kind: D -/
def MainChain.Extends (c c' : MainChain) : Prop :=
  c.nBestHeight ≤ c'.nBestHeight ∧ ∀ i ≤ c.nBestHeight, c'.hashAt i = c.hashAt i

/-- The `pprev` walk `for (block = pindexBest; block && block->nHeight > target_height;
block = block->pprev) {}` from the block at height `h`: the height it stops at, `none` once it
passes the genesis block (whose `pprev` is `NULL`).
Source: `src/rpcwallet.cpp` l. 1340–1344
Kind: D
Fidelity: exact -/
def walkBack (target : Int) : Nat → Option Nat
  | 0 => if (0 : Int) > target then none else some 0
  | h + 1 => if ((h + 1 : Nat) : Int) > target then walkBack target h else some (h + 1)

/-- The walk stops at the target height, or at the start when the target is above it; it runs
off the chain when the target is negative.
Source: `src/rpcwallet.cpp` l. 1340–1344
Kind: L -/
theorem walkBack_eq (target : Int) :
    ∀ h : Nat, walkBack target h = if target < 0 then none else some (min h target.toNat)
  | 0 => by
    unfold walkBack
    by_cases h : target < 0
    · rw [if_pos (by omega), if_pos h]
    · rw [if_neg (by omega), if_neg h, Nat.zero_min]
  | h + 1 => by
    rw [walkBack, walkBack_eq target h]
    by_cases ht : target < 0
    · rw [if_pos (by omega), if_pos ht, if_pos ht]
    · rw [if_neg ht, if_neg ht]
      split_ifs <;> (congr 1; omega)

/-! ## The call -/

/-- `depth` of `listsinceblock`: `1 + nBestHeight - pindex->nHeight` for the block the locator
finds, `-1` without a block. `none` when `1 + nBestHeight` overflows.
Source: `src/rpcwallet.cpp` l. 1298–1304, 1318
Kind: D
Fidelity: exact -/
def sinceDepth (chain : MainChain) (blockhash : Option Nat) : Option Int :=
  match blockhash with
  | none => some (-1)
  | some b => (checkedInt (1 + chain.nBestHeight)).map (· - chain.locate b)

/-- The transactions the loop passes to `ListTransactions`.
Source: `src/rpcwallet.cpp` l. 1322–1328
Kind: D
Fidelity: exact -/
def sinceTxs (depth : Int) (w : CWallet) : List CWalletTx :=
  w.mapWallet.filter fun tx => depth = -1 ∨ tx.nDepth < depth

/-- `lastblock`: the tip's hash for `target_confirms == 1`, else the hash of the block the walk
from the tip to `target_height = pindexBest->nHeight + 1 - target_confirms` stops at, `0` when it
runs off the chain. `none` when `nHeight + 1` overflows.
Source: `src/rpcwallet.cpp` l. 1330–1347
Kind: D
Fidelity: exact -/
def lastBlock (chain : MainChain) (target_confirms : Int) : Option Nat :=
  if target_confirms = 1 then some (chain.hashAt chain.nBestHeight)
  else (checkedInt (chain.nBestHeight + 1)).map fun s =>
    match walkBack (s - target_confirms) chain.nBestHeight with
    | some h => chain.hashAt h
    | none => 0

/-- The `isminefilter` of the call: `MINE_SPENDABLE`, with `MINE_WATCH_ONLY` when `params[2]` is
true.
Source: `src/rpcwallet.cpp` l. 1296, 1314–1316
Kind: D -/
def sinceFilter (includeWatchonly : Option Bool) : IsMineFilter :=
  if includeWatchonly = some true then .MINE_SPENDABLE_WATCH_ONLY else .MINE_SPENDABLE

/-- The rows of a list of transactions, as `ListTransactions(tx, "*", 0, true, …)` appends them.
Source: `src/rpcwallet.cpp` l. 1326–1327
Kind: D -/
def sinceRows (w : CWallet) (txs : List CWalletTx) (filter : IsMineFilter) : List Row :=
  txs.flatMap fun tx => listTransactions w tx "*" 0 true filter

/-- `listsinceblock [blockhash] [target-confirmations] [includeWatchonly]`: the rows and
`lastblock`. `none` when the call has undefined behaviour.
Source: `src/rpcwallet.cpp` l. 1287–1353
Kind: D
Fidelity: exact (the block hash and `lastblock` by value) -/
def listsinceblock (chain : MainChain) (w : CWallet) (blockhash : Option Nat)
    (targetConfirms : Option CInt) (includeWatchonly : Option Bool) :
    Option (Except RPCError (List Row × Nat)) :=
  let target_confirms := (targetConfirms.map CInt.val).getD 1
  if target_confirms < 1 then some (.error (.json .RPC_INVALID_PARAMETER "Invalid parameter"))
  else
    (sinceDepth chain blockhash).bind fun depth =>
      (lastBlock chain target_confirms).map fun lastblock =>
        .ok (sinceRows w (sinceTxs depth w) (sinceFilter includeWatchonly), lastblock)

/-! ## What it lists -/

/-- Where a wallet transaction is with respect to the main chain.
Source: `GetDepthInMainChain` (`main.cpp`, not in the sources)
Kind: D -/
inductive TxPlace where
  | confirmed (height : Nat)
  | unconfirmed
  | conflicted
  deriving DecidableEq, Repr

/-- `GetDepthInMainChain()` of a transaction at a place: `H − height + 1` confirmed, `0`
unconfirmed, `-1` conflicted.
Source: `GetDepthInMainChain` (`main.cpp`, not in the sources)
Kind: D -/
def TxPlace.depth (chain : MainChain) : TxPlace → Int
  | .confirmed height => chain.nBestHeight - height + 1
  | .unconfirmed => 0
  | .conflicted => -1

/-- Every wallet transaction has a place on the chain, and its `nDepth` is that place's depth.
Source: none: the reading of `GetDepthInMainChain` the properties assume
Kind: D -/
def WalletPlaced (chain : MainChain) (w : CWallet) (place : CWalletTx → TxPlace) : Prop :=
  ∀ tx ∈ w.mapWallet, tx.nDepth = (place tx).depth chain ∧
    ∀ height, place tx = .confirmed height → height ≤ chain.nBestHeight

/-- What `listsinceblock` should list: everything without a block; otherwise the unconfirmed,
the conflicted and what is confirmed above the height the block's hash is found at.
Source: none: the listing the properties state
Kind: D -/
def listedSince (chain : MainChain) (blockhash : Option Nat) (p : TxPlace) : Bool :=
  match blockhash, p with
  | none, _ => true
  | some b, .confirmed height => chain.locate b < height
  | some _, _ => true

/-- What `lastblock` should be: the hash at height `H + 1 − k`, or `0` when that is negative.
Source: none: the value the properties state
Kind: D -/
def lastblockOf (chain : MainChain) (k : Int) : Nat :=
  if (chain.nBestHeight : Int) + 1 - k < 0 then 0
  else chain.hashAt ((chain.nBestHeight : Int) + 1 - k).toNat

/-- Below `INT_MAX`, `depth` is `1 + H − h` for the height `h` the locator finds.
Source: `src/rpcwallet.cpp` l. 1318
Kind: L -/
theorem sinceTxs_eq (chain : MainChain) (hH : chain.nBestHeight + 1 < 2 ^ 31) (w : CWallet)
    (place : CWalletTx → TxPlace) (hw : WalletPlaced chain w place) (blockhash : Option Nat) :
    ∃ depth, sinceDepth chain blockhash = some depth ∧
      sinceTxs depth w = w.mapWallet.filter fun tx => listedSince chain blockhash (place tx) := by
  cases blockhash with
  | none =>
    refine ⟨-1, rfl, List.filter_congr fun tx _ => ?_⟩
    simp [listedSince]
  | some b =>
    refine ⟨1 + chain.nBestHeight - chain.locate b, by
      rw [sinceDepth, checkedInt_of_lt (by omega) (by omega)]; rfl,
      List.filter_congr fun tx htx => ?_⟩
    have hb := chain.locate_le b
    obtain ⟨hd, hle⟩ := hw tx htx
    rw [hd]
    cases hp : place tx with
    | confirmed height =>
      have := hle height hp
      simp only [TxPlace.depth, listedSince, decide_eq_decide]
      omega
    | unconfirmed => simp only [TxPlace.depth, listedSince, decide_eq_true_iff]; omega
    | conflicted => simp only [TxPlace.depth, listedSince, decide_eq_true_iff]; omega

/-- Below `INT_MAX`, `lastblock` is the hash at `H + 1 − k`, or `0` when that is negative.
Source: `src/rpcwallet.cpp` l. 1330–1347
Kind: L -/
theorem lastBlock_eq (chain : MainChain) (hH : chain.nBestHeight + 1 < 2 ^ 31) {k : Int}
    (hk : 1 ≤ k) : lastBlock chain k = some (lastblockOf chain k) := by
  unfold lastBlock lastblockOf
  by_cases h1 : k = 1
  · subst h1
    rw [if_pos rfl, if_neg (by omega)]
    congr 2
    omega
  · rw [if_neg h1, checkedInt_of_lt (by omega) (by omega), Option.map_some', walkBack_eq]
    by_cases h2 : (chain.nBestHeight : Int) + 1 - k < 0
    · rw [if_pos h2, if_pos h2]
    · rw [if_neg h2, if_neg h2]
      dsimp only
      congr 2
      omega

/-- **What `listsinceblock` lists.** On a chain whose tip is below `INT_MAX`, with every wallet
transaction's depth read from its place, `listsinceblock(blockhash, k)` for `k ≥ 1` lists the
rows of exactly the transactions that are unconfirmed, conflicted, or confirmed above the height the
block's hash is found at (all of them without a block), and returns as `lastblock` the hash at
`H + 1 − k`, or `0` when that height is negative.
Source: `src/rpcwallet.cpp` l. 1287–1353
Kind: L -/
theorem listsinceblock_eq (chain : MainChain) (hH : chain.nBestHeight + 1 < 2 ^ 31) (w : CWallet)
    (place : CWalletTx → TxPlace) (hw : WalletPlaced chain w place) (blockhash : Option Nat)
    (k : CInt) (hk : 1 ≤ k.val) (includeWatchonly : Option Bool) :
    listsinceblock chain w blockhash (some k) includeWatchonly =
      some (.ok (sinceRows w (w.mapWallet.filter fun tx => listedSince chain blockhash (place tx))
        (sinceFilter includeWatchonly), lastblockOf chain k.val)) := by
  obtain ⟨depth, hd, htxs⟩ := sinceTxs_eq chain hH w place hw blockhash
  simp only [listsinceblock, Option.map_some', Option.getD_some, if_neg (Int.not_lt.mpr hk), hd,
    Option.some_bind, lastBlock_eq chain hH hk, htxs]

/-- **Resuming from `lastblock` loses nothing.** On a chain whose tip `H` is below `INT_MAX`, for
every wallet, block and `k ≥ 1`, `listsinceblock` lists what `listsinceblock_eq` says; and a later
`listsinceblock(lastblock, k')` on any extension of the chain (its tip below `INT_MAX` too) lists
every wallet transaction confirmed above `max(H + 1 − k, 0)`.
Source: `src/rpcwallet.cpp` l. 1287–1353
Kind: T -/
theorem listsinceblock_resumes (chain : MainChain) (hH : chain.nBestHeight + 1 < 2 ^ 31)
    (w : CWallet) (place : CWalletTx → TxPlace) (hw : WalletPlaced chain w place)
    (blockhash : Option Nat) (k : CInt) (hk : 1 ≤ k.val) (includeWatchonly : Option Bool) :
    listsinceblock chain w blockhash (some k) includeWatchonly =
      some (.ok (sinceRows w (w.mapWallet.filter fun tx => listedSince chain blockhash (place tx))
        (sinceFilter includeWatchonly), lastblockOf chain k.val)) ∧
    ∀ chain' : MainChain, chain.Extends chain' → chain'.nBestHeight + 1 < 2 ^ 31 →
      ∀ (w' : CWallet) (place' : CWalletTx → TxPlace), WalletPlaced chain' w' place' →
      ∀ (k' : CInt), 1 ≤ k'.val → ∀ includeWatchonly' : Option Bool,
      ∃ txs, listsinceblock chain' w' (some (lastblockOf chain k.val)) (some k') includeWatchonly' =
          some (.ok (sinceRows w' txs (sinceFilter includeWatchonly'), lastblockOf chain' k'.val)) ∧
        ∀ tx ∈ w'.mapWallet, ∀ height, place' tx = .confirmed height →
          max ((chain.nBestHeight : Int) + 1 - k.val) 0 < height → tx ∈ txs := by
  refine ⟨listsinceblock_eq chain hH w place hw blockhash k hk includeWatchonly,
    fun chain' hext hH' w' place' hw' k' hk' wo' => ⟨_, listsinceblock_eq chain' hH' w' place' hw'
      _ k' hk' wo', fun tx htx height hp hgt => List.mem_filter.mpr ⟨htx, ?_⟩⟩⟩
  -- the height `lastblock` is found at on the later chain: `H + 1 − k`, or the genesis block
  have hloc : (chain'.locate (lastblockOf chain k.val) : Int) ≤ max ((chain.nBestHeight : Int) + 1 - k.val) 0 := by
    unfold lastblockOf
    split_ifs with hneg
    · rw [chain'.locate_zero]
      omega
    · have hle : ((chain.nBestHeight : Int) + 1 - k.val).toNat ≤ chain.nBestHeight := by omega
      rw [← hext.2 _ hle, chain'.locate_hashAt _ (hle.trans hext.1)]
      omega
  simp only [listedSince, hp, decide_eq_true_eq]
  omega

/-- A three-block chain: block `i` has hash `i + 1`.
Source: none: example
Kind: D -/
def threeBlocks : MainChain :=
  ⟨2, fun i => i + 1, fun b => min (b - 1) 2, by decide, fun _ => Nat.min_le_right _ _,
    fun i hi => by simp only [Nat.add_sub_cancel]; exact Nat.min_eq_left hi, rfl⟩

/-- A wallet holding one transaction, confirmed in the tip block at height 2 (depth 1).
Source: none: example
Kind: D -/
def tipWallet : CWallet :=
  ⟨[⟨7, true, true, 1, false, false, 0, false, [], fun _ => ⟨0, 0, [], [], 0, ""⟩⟩], [],
    List.nodup_nil, fun _ => false, fun _ => false, fun _ => none, fun _ => none, 0, [], 0⟩

/-- Listing since block 1 (hash `2`) with `k = 2` on the three-block chain: the transaction of the
tip is listed, and `lastblock` is the hash of block 1.
Source: `src/rpcwallet.cpp` l. 1287–1353
Kind: W -/
theorem listsinceblock_resumes_tip :
    threeBlocks.nBestHeight + 1 < 2 ^ 31 ∧ WalletPlaced threeBlocks tipWallet (fun _ => .confirmed 2) ∧
      listsinceblock threeBlocks tipWallet (some 2) (some ⟨2, by decide, by decide⟩) none =
        some (.ok (sinceRows tipWallet (tipWallet.mapWallet.filter fun tx =>
          listedSince threeBlocks (some 2) ((fun _ => TxPlace.confirmed 2) tx)) (sinceFilter none),
          lastblockOf threeBlocks 2)) :=
  have hw : WalletPlaced threeBlocks tipWallet (fun _ => .confirmed 2) := fun tx htx => by
    rw [List.mem_singleton.mp htx]
    exact ⟨rfl, fun h hh => by cases hh; decide⟩
  ⟨by decide, hw, (listsinceblock_resumes threeBlocks (by decide) tipWallet _ hw (some 2)
    ⟨2, by decide, by decide⟩ (by decide) none).1⟩

example : lastblockOf threeBlocks 2 = 2 ∧
    (tipWallet.mapWallet.filter fun tx => listedSince threeBlocks (some 2) ((fun _ => TxPlace.confirmed 2) tx)) =
      tipWallet.mapWallet := ⟨rfl, rfl⟩

/-! ## The tip at `INT_MAX` -/

/-- A chain whose tip is at height `INT_MAX`: block `i` has hash `i + 1`.
Source: none: example
Kind: D -/
def intMaxChain : MainChain :=
  ⟨2 ^ 31 - 1, fun i => i + 1, fun b => min (b - 1) (2 ^ 31 - 1), by decide,
    fun _ => Nat.min_le_right _ _, fun i hi => by simp only [Nat.add_sub_cancel]; exact Nat.min_eq_left hi,
    rfl⟩

/-- **`1 + nBestHeight` overflows at the tip `INT_MAX`.** On a chain of tip height `2^31 − 1`,
`listsinceblock(blockhash, 1)` has no defined result, for every wallet and every block hash.
Source: `src/rpcwallet.cpp` l. 1318
Kind: C -/
theorem listsinceblock_tip_overflow (w : CWallet) (b : Nat) (includeWatchonly : Option Bool) :
    intMaxChain.nBestHeight = 2 ^ 31 - 1 ∧
      listsinceblock intMaxChain w (some b) (some ⟨1, by decide, by decide⟩) includeWatchonly = none := by
  have hover : checkedInt (1 + (intMaxChain.nBestHeight : Int)) = none :=
    checkedInt_of_le (show (2 : Int) ^ 31 ≤ 1 + ((2 ^ 31 - 1 : Nat) : Int) by decide)
  refine ⟨rfl, ?_⟩
  simp only [listsinceblock, Option.map_some', Option.getD_some, if_neg (by decide : ¬(1 : Int) < 1),
    sinceDepth, hover, Option.map_none', Option.none_bind]

/-- The failing input: the one-transaction wallet, listed since the genesis block's hash with
`k = 1`, on the chain whose tip is at `INT_MAX`.
Source: `src/rpcwallet.cpp` l. 1318
Kind: W -/
theorem listsinceblock_tip_overflow_genesis :
    intMaxChain.nBestHeight = 2 ^ 31 - 1 ∧
      listsinceblock intMaxChain tipWallet (some 1) (some ⟨1, by decide, by decide⟩) none = none :=
  listsinceblock_tip_overflow tipWallet 1 none

end FortyTwo.Wallet
