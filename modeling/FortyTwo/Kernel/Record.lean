import FortyTwo.Wallet.Basic

/-!
# `kernelrecord.cpp` · Record: `KernelRecord`, `decomposeOutput` and `getTxID`

The staking view of the wallet: one `KernelRecord` per owned output of every shown transaction.

* **Which transactions are shown** (`showTransaction`): not an immature coinbase (depth `< 2`), and
  trusted.
* **The records of a transaction** (`decomposeOutput`): for each output index `nOut`, in
  increasing order, that the wallet owns, the record built by the five-argument constructor
  (`mkKernelRecord`) from the transaction's hash and time, the output's address (or `mapValue["to"]`
  when the script has no address), value and spent flag. That constructor sets `idx(0)`, and
  nothing sets `idx` afterwards (`decomposeOutput_idx`).
* **The record's id** (`getTxID`): `hash.ToString() + strprintf("-%03d", idx)`. Every record of one
  transaction has the id `"<hash>-000"` (`getTxID_decomposeOutput`), so a shown transaction with two
  owned outputs yields two records with the same id (`decomposeOutput_txid_collision`).

`uint256::ToString` is in `uint256.h`, not in the sources; it prints the 64 hexadecimal digits of
the value, most significant first (`uint256ToString`). `wallet->IsMine(txOut)` is the call's input.
The `prev*` cache fields of the class are only read by `getProbToMintWithinNMinutes`, which works
in `double` and is not modelled.
-/

namespace FortyTwo.Kernel

open FortyTwo.Wallet

/-! ## Records -/

/-- A kernel record: an owned output of a wallet transaction as the staking view shows it.
Source: `class KernelRecord`, `src/kernelrecord.h` l. 9–49
Kind: D -/
structure KernelRecord where
  /-- The transaction's hash (`uint256`). -/
  hash : Nat
  /-- `int64_t nTime`. -/
  nTime : Int
  address : String
  /-- `int64_t nValue`. -/
  nValue : Int
  /-- `int idx`. -/
  idx : Int
  spent : Bool
  deriving DecidableEq, Repr

/-- The constructor `KernelRecord(hash, nTime, address, nValue, spent)`: `idx` is `0`.
Source: `src/kernelrecord.h` l. 22–26
Kind: D
Fidelity: exact (the `prev*` cache fields are left out) -/
def mkKernelRecord (hash : Nat) (nTime : Int) (address : String) (nValue : Int) (spent : Bool) :
    KernelRecord :=
  ⟨hash, nTime, address, nValue, 0, spent⟩

/-- A wallet transaction as `decomposeOutput` reads it: the accounting view (`txid` is
`GetHash()`, and the coinbase flag, depth, trust and outputs) with the transaction's time, its
`mapValue` and which outputs are spent.
Source: `CWalletTx` (`wallet.h`, not in the sources), read in `src/stun.cpp` l. 1181–1234
Kind: D -/
structure KernelTx where
  wtx : CWalletTx
  /-- `GetTxTime()`. -/
  nTxTime : Int
  /-- `mapValue`. -/
  mapValue : StdMap String String
  /-- `IsSpent(nOut)`. -/
  isSpent : Nat → Bool

/-- `KernelRecord::showTransaction(wtx)`: a coinbase less than 2 deep is hidden, then an untrusted
transaction.
Source: `src/stun.cpp` l. 1181–1197
Kind: D
Fidelity: exact -/
def showTransaction (wtx : CWalletTx) : Bool :=
  if wtx.fCoinBase ∧ wtx.nDepth < 2 then false
  else wtx.fTrusted

/-- The address text of an output: `CBitcoinAddress(address).ToString()` when `ExtractDestination`
finds one, `mapValue["to"]` otherwise (`operator[]` reads `""` for a missing key, on a copy).
Source: `src/stun.cpp` l. 1216–1227
Kind: D
Fidelity: exact -/
def addrStrOf (w : CWallet) (ktx : KernelTx) (txOut : CTxOut) : String :=
  match w.extractDestination txOut.scriptPubKey with
  | some address => address
  | none => (ktx.mapValue.find? "to").getD ""

/-- `KernelRecord::decomposeOutput(wallet, wtx)`: when the transaction is shown, one record per
output index `nOut` (in increasing order) with `wallet->IsMine(vout[nOut])`.
Source: `src/stun.cpp` l. 1202–1234
Kind: D
Fidelity: exact -/
def decomposeOutput (w : CWallet) (isMine : CTxOut → Bool) (ktx : KernelTx) : List KernelRecord :=
  if showTransaction ktx.wtx then
    (ktx.wtx.vout.enum.filter fun p => isMine p.2).map fun p =>
      mkKernelRecord ktx.wtx.txid ktx.nTxTime (addrStrOf w ktx p.2) p.2.nValue (ktx.isSpent p.1)
  else []

/-! ## Ids -/

/-- The lowest `width` hexadecimal digits of `v`, most significant first, in lower case.
Source: none: infrastructure
Kind: D -/
def hexDigits : Nat → Nat → String
  | 0, _ => ""
  | width + 1, v => hexDigits width (v / 16) ++ (Nat.digitChar (v % 16)).toString

/-- `uint256::ToString()`: the 64 hexadecimal digits of the value, most significant first.
Source: `uint256.h` (not in the sources), called in `src/stun.cpp` l. 1238
Kind: D
Fidelity: the format of `base_uint::GetHex` -/
def uint256ToString (hash : Nat) : String := hexDigits 64 hash

/-- `strprintf("-%03d", idx)`: a dash, then `idx` in decimal padded with zeros to three
characters, the sign included.
Source: `src/stun.cpp` l. 1238
Kind: D
Fidelity: exact -/
def idxSuffix (idx : Int) : String :=
  let sign := if idx < 0 then "-" else ""
  let digits := toString idx.natAbs
  "-" ++ sign ++ "".pushn '0' (3 - sign.length - digits.length) ++ digits

/-- `KernelRecord::getTxID()`.
Source: `src/stun.cpp` l. 1236–1239
Kind: D
Fidelity: exact -/
def KernelRecord.getTxID (r : KernelRecord) : String := uint256ToString r.hash ++ idxSuffix r.idx

/-- The suffix of `idx = 0`.
Source: `src/stun.cpp` l. 1238
Kind: L -/
theorem idxSuffix_zero : idxSuffix 0 = "-000" := by decide

/-! ## Every record of a transaction has one id -/

/-- Every record of a transaction comes from the five-argument constructor, with the
transaction's hash and time.
Source: `src/stun.cpp` l. 1202–1234
Kind: L -/
theorem mem_decomposeOutput {w : CWallet} {isMine : CTxOut → Bool} {ktx : KernelTx} {r : KernelRecord}
    (hr : r ∈ decomposeOutput w isMine ktx) :
    ∃ address nValue spent, r = mkKernelRecord ktx.wtx.txid ktx.nTxTime address nValue spent := by
  unfold decomposeOutput at hr
  split at hr
  · obtain ⟨p, -, rfl⟩ := List.mem_map.mp hr
    exact ⟨_, _, _, rfl⟩
  · exact absurd hr (List.not_mem_nil _)

/-- The records `decomposeOutput` returns keep the constructor's `idx = 0`.
Source: `src/stun.cpp` l. 1229; `src/kernelrecord.h` l. 22–26
Kind: L -/
theorem decomposeOutput_idx (w : CWallet) (isMine : CTxOut → Bool) (ktx : KernelTx) :
    ∀ r ∈ decomposeOutput w isMine ktx, r.idx = 0 := by
  intro r hr
  obtain ⟨_, _, _, rfl⟩ := mem_decomposeOutput hr
  rfl

/-- Every record of a transaction has the id `"<hash>-000"`.
Source: `src/stun.cpp` l. 1202–1239
Kind: L -/
theorem getTxID_decomposeOutput (w : CWallet) (isMine : CTxOut → Bool) (ktx : KernelTx) :
    ∀ r ∈ decomposeOutput w isMine ktx, r.getTxID = uint256ToString ktx.wtx.txid ++ "-000" := by
  intro r hr
  obtain ⟨_, _, _, rfl⟩ := mem_decomposeOutput hr
  exact congrArg (uint256ToString ktx.wtx.txid ++ ·) idxSuffix_zero

/-- A list with two different members has at least two elements.
Source: none: infrastructure
Kind: L -/
theorem two_le_length_of_mem {α : Type} {l : List α} {x y : α} (hxy : x ≠ y) (hx : x ∈ l)
    (hy : y ∈ l) : 2 ≤ l.length :=
  match l, hx, hy with
  | [_], hx, hy => absurd ((List.mem_singleton.mp hx).trans (List.mem_singleton.mp hy).symm) hxy
  | _ :: _ :: _, _, _ => Nat.le_add_left _ _

/-- A shown transaction with two owned outputs has at least two records.
Source: `src/stun.cpp` l. 1202–1234
Kind: L -/
theorem two_le_length_decomposeOutput (w : CWallet) (isMine : CTxOut → Bool) (ktx : KernelTx)
    (hshow : showTransaction ktx.wtx = true) {n₁ n₂ : Nat} {o₁ o₂ : CTxOut} (hne : n₁ ≠ n₂)
    (h₁ : ktx.wtx.vout[n₁]? = some o₁) (h₂ : ktx.wtx.vout[n₂]? = some o₂)
    (hm₁ : isMine o₁ = true) (hm₂ : isMine o₂ = true) :
    2 ≤ (decomposeOutput w isMine ktx).length := by
  rw [decomposeOutput, if_pos hshow, List.length_map]
  exact two_le_length_of_mem (show (n₁, o₁) ≠ (n₂, o₂) from fun h => hne (Prod.mk.inj h).1)
    (List.mem_filter.mpr ⟨List.mem_enum_iff_getElem?.mpr h₁, hm₁⟩)
    (List.mem_filter.mpr ⟨List.mem_enum_iff_getElem?.mpr h₂, hm₂⟩)

/-- **Two owned outputs, one id.** For a transaction `showTransaction` accepts with two different
owned outputs, the ids of its kernel records repeat: both records are `"<hash>-000"`, since `idx`
is never set from `nOut`.
Source: `src/stun.cpp` l. 1202–1239; `src/kernelrecord.h` l. 22–26
Kind: C -/
theorem decomposeOutput_txid_collision (w : CWallet) (isMine : CTxOut → Bool) (ktx : KernelTx)
    (hshow : showTransaction ktx.wtx = true) {n₁ n₂ : Nat} {o₁ o₂ : CTxOut} (hne : n₁ ≠ n₂)
    (h₁ : ktx.wtx.vout[n₁]? = some o₁) (h₂ : ktx.wtx.vout[n₂]? = some o₂)
    (hm₁ : isMine o₁ = true) (hm₂ : isMine o₂ = true) :
    ¬((decomposeOutput w isMine ktx).map KernelRecord.getTxID).Nodup := by
  have hrep : (decomposeOutput w isMine ktx).map KernelRecord.getTxID =
      List.replicate (decomposeOutput w isMine ktx).length
        (uint256ToString ktx.wtx.txid ++ "-000") := by
    refine List.eq_replicate_iff.mpr ⟨List.length_map _ _, fun s hs => ?_⟩
    obtain ⟨r, hr, rfl⟩ := List.mem_map.mp hs
    exact getTxID_decomposeOutput w isMine ktx r hr
  rw [hrep, List.nodup_replicate]
  have := two_le_length_decomposeOutput w isMine ktx hshow hne h₁ h₂ hm₁ hm₂
  omega

/-- A split coinstake: a trusted transaction paying two owned outputs of 5 and 7.
Source: `src/stun.cpp` l. 1202–1234
Kind: D -/
def splitStake : KernelTx :=
  ⟨⟨1, true, true, 10, false, true, 0, false, [⟨5, [1]⟩, ⟨7, [2]⟩], fun _ => ⟨0, 0, [], [], 0, ""⟩⟩,
    100, [], fun _ => false⟩

/-- The failing input: the split coinstake in a wallet that owns every output.
Source: `src/stun.cpp` l. 1202–1239
Kind: W -/
theorem decomposeOutput_txid_collision_split :
    showTransaction splitStake.wtx = true ∧ (0 : Nat) ≠ 1 ∧
      splitStake.wtx.vout[0]? = some ⟨5, [1]⟩ ∧ splitStake.wtx.vout[1]? = some ⟨7, [2]⟩ ∧
      ¬((decomposeOutput ⟨[], [], List.nodup_nil, fun _ => true, fun _ => false, fun _ => none,
        fun _ => none, 0, [], 0⟩ (fun _ => true) splitStake).map KernelRecord.getTxID).Nodup :=
  ⟨rfl, by decide, rfl, rfl, decomposeOutput_txid_collision _ _ _ rfl (show (0 : Nat) ≠ 1 by decide) rfl rfl rfl rfl⟩

end FortyTwo.Kernel
