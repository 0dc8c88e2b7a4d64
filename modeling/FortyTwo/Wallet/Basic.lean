import Mathlib

/-!
# `rpcwallet.cpp` · Basic: RPC failures and `std::map`

* **RPC failures** (`RPCError`): a `JSONRPCError(code, message)` with the code's name from
  `bitcoinrpc.h` (not in the sources, so the codes are kept by name), or a
  `std::runtime_error(message)` (help texts).
* **`std::map` with `m[k] op= v`** (`StdMap`): an association list whose `modify d f k` is
  `m[k] = f(m[k])`, `m[k]` inserting `d` when `k` is absent; `find?` and the sum of the values
  have one lemma each (`StdMap.find?_modify`, `StdMap.total_modify_add`). The iteration order of a
  `std::map` (by key) is not kept: no statement here reads it.
* **The wallet as the accounting calls read it** (`CWallet`): the wallet transactions with what
  `GetAmounts` reports for them, the address book (a map: its keys are distinct, a field of the
  structure), ownership, the two script decoders, and the accounting entries of the wallet
  database. `CWalletTx::GetAmounts`, `IsFinal`, `GetDepthInMainChain`, `IsMine` and the decoders
  live in files that are not in the sources; their results are data here.
* **Per-account amounts** (`getAccountAmounts`, `getAccountCreditDebit`): the projection of a
  transaction's amounts onto one account, and the sum of an account's accounting entries.

Amounts are `int64_t` satoshi values, kept as `Int`; the sums stay far from `2^63` for any amount
below `MAX_MONEY`. The conversions to JSON numbers (`ValueFromAmount`, `/ COIN`) are not modelled.
-/

namespace FortyTwo.Wallet

/-! ## RPC failures -/

/-- The `RPC_…` error codes the modelled calls raise.
Source: `bitcoinrpc.h` (not in the sources), used in `src/rpcwallet.cpp`
Kind: D -/
inductive RPCErrorCode where
  | RPC_INVALID_ADDRESS_OR_KEY
  | RPC_INVALID_PARAMETER
  | RPC_DATABASE_ERROR
  | RPC_WALLET_INVALID_ACCOUNT_NAME
  | RPC_WALLET_WRONG_ENC_STATE
  | RPC_WALLET_ALREADY_UNLOCKED
  | RPC_WALLET_PASSPHRASE_INCORRECT
  | RPC_WALLET_KEYPOOL_RAN_OUT
  | RPC_WALLET_UNLOCK_NEEDED
  | RPC_WALLET_INSUFFICIENT_FUNDS
  | RPC_WALLET_ERROR
  /-- A literal code, as `JSONRPCError(-101, …)` in `movecmd`. -/
  | code (n : Int)
  deriving DecidableEq, Repr

/-- How an RPC call fails: `JSONRPCError(code, message)` or `std::runtime_error(message)`.
Source: `src/rpcwallet.cpp`
Kind: D -/
inductive RPCError where
  | json (code : RPCErrorCode) (message : String)
  | runtime (message : String)
  deriving DecidableEq, Repr

/-! ## `std::map` -/

/-- A `std::map<κ, ν>` as an association list.
Source: none: infrastructure
Kind: D -/
abbrev StdMap (κ ν : Type) := List (κ × ν)

variable {κ ν : Type} [DecidableEq κ]

/-- `m.find(k)`: the value at `k`, if any.
Source: none: infrastructure
Kind: D -/
def StdMap.find? : StdMap κ ν → κ → Option ν
  | [], _ => none
  | (k', v) :: m, k => if k = k' then some v else StdMap.find? m k

/-- `m[k] = f(m[k])`, where `m[k]` inserts `d` when `k` is absent.
Source: none: infrastructure
Kind: D -/
def StdMap.modify (d : ν) (f : ν → ν) : StdMap κ ν → κ → StdMap κ ν
  | [], k => [(k, f d)]
  | (k', v) :: m, k => if k = k' then (k', f v) :: m else (k', v) :: StdMap.modify d f m k

/-- The value at `a` after `m[k] = f(m[k])`.
Source: none: infrastructure
Kind: L -/
theorem StdMap.find?_modify (d : ν) (f : ν → ν) (m : StdMap κ ν) (k a : κ) :
    (m.modify d f k).find? a = if a = k then some (f ((m.find? k).getD d)) else m.find? a := by
  induction m with
  | nil => simp [modify, find?]
  | cons p m ih =>
    obtain ⟨k', v⟩ := p
    by_cases hk : k = k'
    · subst hk
      by_cases ha : a = k <;> simp [modify, find?, ha]
    · simp only [modify, find?, if_neg hk]
      by_cases ha : a = k'
      · subst ha
        simp [Ne.symm hk]
      · simp [ha, ih]

/-- The sum of the values of an `Int`-valued map.
Source: none: infrastructure
Kind: D -/
def StdMap.total (m : StdMap κ Int) : Int := (m.map Prod.snd).sum

/-- `m[k] += x` adds `x` to the sum of the values.
Source: none: infrastructure
Kind: L -/
theorem StdMap.total_modify_add (m : StdMap κ Int) (k : κ) (x : Int) :
    (m.modify 0 (· + x) k).total = m.total + x := by
  induction m with
  | nil => simp [modify, total]
  | cons p m ih =>
    obtain ⟨k', v⟩ := p
    by_cases hk : k = k'
    · simp [modify, total, hk]; omega
    · simp only [modify, if_neg hk, total, List.map_cons, List.sum_cons] at ih ⊢
      omega

/-- Writing `m[k] = 0` into a map of zeros leaves a map of zeros.
Source: none: infrastructure
Kind: L -/
theorem StdMap.modify_zero_values (m : StdMap κ Int) (k : κ)
    (h : ∀ p ∈ m, p.2 = 0) : ∀ p ∈ m.modify 0 (fun _ => 0) k, p.2 = 0 := by
  induction m with
  | nil => simp [StdMap.modify]
  | cons q m ih =>
    obtain ⟨k', v⟩ := q
    have hm : ∀ p ∈ m, p.2 = 0 := fun p hp => h p (List.mem_cons_of_mem _ hp)
    unfold StdMap.modify
    split_ifs
    · rintro p (_ | ⟨_, hp⟩)
      · rfl
      · exact hm p hp
    · rintro p (_ | ⟨_, hp⟩)
      · exact h _ (List.mem_cons_self _ _)
      · exact ih hm p hp

/-- The value at `k`, `0` when absent: what `m[k]` reads in an `Int`-valued map.
Source: none: infrastructure
Kind: D -/
def StdMap.get0 (m : StdMap κ Int) (k : κ) : Int := (m.find? k).getD 0

/-- The value at `a` after `m[k] += x`.
Source: none: infrastructure
Kind: L -/
@[simp]
theorem StdMap.get0_modify_add (m : StdMap κ Int) (k a : κ) (x : Int) :
    (m.modify 0 (· + x) k).get0 a = m.get0 a + if a = k then x else 0 := by
  unfold get0
  rw [find?_modify]
  split_ifs with h
  · subst h; simp
  · simp

/-- The keys after `m[k] = …` are the keys of `m` and `k`.
Source: none: infrastructure
Kind: L -/
theorem StdMap.mem_keys_modify (d : ν) (f : ν → ν) (m : StdMap κ ν) (k a : κ) :
    a ∈ (m.modify d f k).map Prod.fst ↔ a ∈ m.map Prod.fst ∨ a = k := by
  induction m with
  | nil => simp [modify]
  | cons p m ih =>
    obtain ⟨k', v⟩ := p
    by_cases hk : k = k'
    · subst hk
      simp only [modify, ↓reduceIte, List.map_cons, List.mem_cons]
      exact (or_iff_left_of_imp Or.inl).symm
    · simp only [modify, if_neg hk, List.map_cons, List.mem_cons, ih]
      exact or_assoc.symm

/-- `m[k] = …` keeps the keys distinct.
Source: none: infrastructure
Kind: L -/
theorem StdMap.nodup_keys_modify (d : ν) (f : ν → ν) (m : StdMap κ ν) (k : κ)
    (h : (m.map Prod.fst).Nodup) : ((m.modify d f k).map Prod.fst).Nodup := by
  induction m with
  | nil => simp [modify]
  | cons p m ih =>
    obtain ⟨k', v⟩ := p
    rw [List.map_cons, List.nodup_cons] at h
    by_cases hk : k = k'
    · subst hk
      simpa only [modify, ↓reduceIte, List.map_cons, List.nodup_cons] using h
    · simp only [modify, if_neg hk, List.map_cons, List.nodup_cons, mem_keys_modify]
      exact ⟨fun h' => h'.elim h.1 fun e => hk e.symm, ih h.2⟩

/-- A value `find?` returns is an entry of the map.
Source: none: infrastructure
Kind: L -/
theorem StdMap.mem_of_find? {m : StdMap κ ν} {k : κ} {v : ν} (h : m.find? k = some v) :
    (k, v) ∈ m := by
  induction m with
  | nil => cases h
  | cons p m ih =>
    obtain ⟨k', v'⟩ := p
    unfold find? at h
    split_ifs at h with hk
    · cases h; subst hk; exact List.mem_cons_self _ _
    · exact List.mem_cons_of_mem _ (ih h)

/-! ## The wallet -/

/-- An address, by its base58 text.
Source: `CBitcoinAddress` (`base58.h`, not in the sources)
Kind: D -/
abbrev CBitcoinAddress := String

/-- An output script, by its bytes.
Source: `CScript` (`script.h`, not in the sources)
Kind: D -/
abbrev CScript := List UInt8

/-- The `isminefilter` values the modelled calls build.
Source: `src/rpcwallet.cpp` l. 596–599, 1184–1187, 1241–1244
Kind: D -/
inductive IsMineFilter where
  | MINE_SPENDABLE
  /-- `MINE_SPENDABLE | MINE_WATCH_ONLY`. -/
  | MINE_SPENDABLE_WATCH_ONLY
  deriving DecidableEq, Repr

/-- What `CWalletTx::GetAmounts(…, filter)` reports: immature and mature generated amounts, the
received and sent outputs by address, the fee and the account the sends are charged to.
Source: `src/rpcwallet.cpp` l. 1060–1065 (the callee is in `wallet.cpp`, not in the sources)
Kind: D -/
structure TxAmounts where
  nGeneratedImmature : Int
  nGeneratedMature : Int
  listReceived : List (CBitcoinAddress × Int)
  listSent : List (CBitcoinAddress × Int)
  nFee : Int
  strSentAccount : String

/-- A transaction output: its value and script.
Source: `CTxOut` (`main.h`, not in the sources), read in `src/rpcwallet.cpp` l. 535–541, 948–957
Kind: D -/
structure CTxOut where
  nValue : Int
  scriptPubKey : CScript

/-- A wallet transaction as the accounting calls see it.
Source: `CWalletTx` (`wallet.h`, not in the sources)
Kind: D -/
structure CWalletTx where
  /-- The hash, standing for the fields `WalletTxToJSON` adds. -/
  txid : Nat
  /-- `IsFinal()`. -/
  fFinal : Bool
  /-- `IsTrusted()`. -/
  fTrusted : Bool
  /-- `GetDepthInMainChain()`. -/
  nDepth : Int
  /-- `IsCoinBase()`. -/
  fCoinBase : Bool
  /-- `IsCoinStake()`. -/
  fCoinStake : Bool
  /-- `GetBlocksToMaturity()`. -/
  nBlocksToMaturity : Int
  /-- `IsFromMe(MINE_WATCH_ONLY)`. -/
  fFromMeWatchOnly : Bool
  vout : List CTxOut
  /-- `GetAmounts(…, filter)`. -/
  amounts : IsMineFilter → TxAmounts

/-- An accounting entry of the wallet database.
Source: `CAccountingEntry` (`wallet.h`, not in the sources), written in `src/rpcwallet.cpp`
l. 667–687
Kind: D -/
structure CAccountingEntry where
  strAccount : String
  nCreditDebit : Int
  nTime : Int
  strOtherAccount : String
  strComment : String
  nOrderPos : Int
  deriving DecidableEq, Repr

/-- The wallet (`pwalletMain`) and its database as the accounting calls read them.
Source: `CWallet`, `CWalletDB` (`wallet.h`, `walletdb.h`, not in the sources)
Kind: D -/
structure CWallet where
  /-- `mapWallet`, in its iteration order. -/
  mapWallet : List CWalletTx
  /-- `mapAddressBook`: address to account name. -/
  mapAddressBook : StdMap CBitcoinAddress String
  /-- A `std::map` has one entry per key. -/
  book_nodup : (mapAddressBook.map Prod.fst).Nodup
  /-- `IsMine(*pwalletMain, address)` is not `MINE_NO`. -/
  isMine : CBitcoinAddress → Bool
  /-- `IsMine(*pwalletMain, address) & MINE_WATCH_ONLY`. -/
  isMineWatchOnly : CBitcoinAddress → Bool
  /-- `ExtractAddress(*pwalletMain, script, address)`. -/
  extractAddress : CScript → Option CBitcoinAddress
  /-- `ExtractDestination(script, address)`. -/
  extractDestination : CScript → Option CBitcoinAddress
  /-- `GetBalance()`: the sum of the unspent outputs. -/
  nBalance : Int
  /-- The accounting entries of the database, in the order they were written. -/
  acentries : List CAccountingEntry
  /-- `nOrderPosNext`. -/
  nOrderPosNext : Int

/-- `AccountFromValue`: an account name, refusing `"*"`.
Source: `src/rpcwallet.cpp` l. 56–62
Kind: D
Fidelity: exact (the JSON type check of `get_str` is not modelled) -/
def accountFromValue (value : String) : Except RPCError String :=
  if value = "*" then .error (.json .RPC_WALLET_INVALID_ACCOUNT_NAME "Invalid account name")
  else .ok value

/-- `AccountFromValue` accepts every name but `"*"`, unchanged.
Source: `src/rpcwallet.cpp` l. 56–62
Kind: L -/
theorem accountFromValue_eq_ok {value strAccount : String} :
    accountFromValue value = .ok strAccount ↔ value ≠ "*" ∧ strAccount = value := by
  unfold accountFromValue
  split_ifs with h <;> simp [h, eq_comm]

/-- The account an address is credited to: its address-book label, `""` for an unlabelled one.
Source: `src/rpcwallet.cpp` l. 1121–1123, 1268–1271
Kind: D
Fidelity: exact -/
def CWallet.accountOf (w : CWallet) (a : CBitcoinAddress) : String := (w.mapAddressBook.find? a).getD ""

/-! ## Per-account amounts -/

/-- What `CWalletTx::GetAccountAmounts` returns.
Source: `src/rpcwallet.cpp` l. 558–559
Kind: D -/
structure AccountAmounts where
  nGenerated : Int
  nReceived : Int
  nSent : Int
  nFee : Int

/-- Modelled from the spec: `CWalletTx::GetAccountAmounts(strAccount, …, filter)` (`wallet.cpp`,
not in the sources) as the projection of `GetAmounts` onto one account: the mature generated
amount for `""`, the received outputs credited to the account (`accountOf`), and the sends and the
fee when the sends are charged to it.
Source: `src/rpcwallet.cpp` l. 558–559
Kind: D -/
def getAccountAmounts (w : CWallet) (wtx : CWalletTx) (strAccount : String) (filter : IsMineFilter) :
    AccountAmounts :=
  let a := wtx.amounts filter
  ⟨if strAccount = "" then a.nGeneratedMature else 0,
    ((a.listReceived.filter fun r => w.accountOf r.1 = strAccount).map Prod.snd).sum,
    if strAccount = a.strSentAccount then (a.listSent.map Prod.snd).sum else 0,
    if strAccount = a.strSentAccount then a.nFee else 0⟩

/-- Modelled from the spec: `CWalletDB::GetAccountCreditDebit(strAccount)` (`walletdb.cpp`, not in
the sources), the sum of the account's accounting entries.
Source: `src/rpcwallet.cpp` l. 569
Kind: D -/
def getAccountCreditDebit (w : CWallet) (strAccount : String) : Int :=
  ((w.acentries.filter (·.strAccount = strAccount)).map (·.nCreditDebit)).sum

end FortyTwo.Wallet
