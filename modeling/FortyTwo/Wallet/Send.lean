import FortyTwo.Wallet.Relock
import FortyTwo.Wallet.Balance

/-!
# `rpcwallet.cpp` · Send: `sendtoaddress`, `sendfrom`, `sendmany` and `mergecoins`

The calls that spend, up to the point where they hand a transaction to the wallet.

* **Unlocking** (`ensureWalletIsUnlocked`): `EnsureWalletIsUnlocked` refuses a locked wallet, then a
  wallet unlocked for block minting only (`ensureWalletIsUnlocked_eq_ok`). `sendfrom` and `sendmany`
  call it; `sendtoaddress` and `mergecoins` test `IsLocked()` alone.
* **What each call sends** (`SendOrder`): the account charged, the comments and the recipients with
  their amounts. `sendtoaddress_eq_ok`, `sendfrom_eq_ok` and `sendmany_eq_ok` say exactly when each
  call hands an order to the wallet, and which order.
* **`sendmany`'s loop** (`sendManyEntry`, `sendManyLoop`): one entry is the address check, the
  duplicate check (skipped for a pair address), the amount check and the running total. The loop
  over a concatenation is the loop over the first part, then over the second
  (`sendManyLoop_append`); it succeeds exactly when every entry is valid and large enough and the
  addresses that are not pairs are distinct, and it then sends the entries in order
  (`sendManyLoop_eq_ok`).
* **Duplicates** (`sendmany_duplicated`): once an address that is not a pair has been accepted, a
  later entry with the same address fails with `RPC_INVALID_PARAMETER`
  `"Invalid parameter, duplicated address: " + address`, whatever its amount, whatever follows and
  whatever the wallet's state.
* **Sends stay within the account** (`send_le_getbalance`): what `sendfrom` and `sendmany` send is
  charged to their account and totals at most what `getbalance` reports for it with the same
  `minconf`.
* **Minting only** (`sendtoaddress_mintOnly`, `exec_refuses_spending`): on a wallet unlocked for
  minting only, `sendfrom` refuses a request that `sendtoaddress` hands on to `SendMoney`, and
  `mergecoins` to `MergeCoins`. No `walletlock`, relocker step, clock tick or mint-only
  `walletpassphrase` clears `fWalletUnlockMintOnly` (`exec_mintOnly`), so `sendfrom` and `sendmany`
  are refused in every state such a run reaches.

`SendMoney`, `CreateTransaction`, `CommitTransaction` and `MergeCoins` live in `wallet.cpp`, not in
the sources: what they return is data (`strSendError`, `CreateOutcome`), and a call's result is what
it hands to them. `AmountFromValue` is in `bitcoinrpc.cpp`: amounts are its results, in satoshi.
-/

namespace FortyTwo.Wallet

/-! ## Unlocking -/

/-- The error for a locked wallet, as `EnsureWalletIsUnlocked`, `sendtoaddress` and `mergecoins`
raise it.
Source: `src/rpcwallet.cpp` l. 31–32, 282–283, 348–349
Kind: D -/
def unlockNeeded : RPCError :=
  .json .RPC_WALLET_UNLOCK_NEEDED "Error: Please enter the wallet passphrase with walletpassphrase first."

/-- The error for a wallet unlocked for block minting only.
Source: `src/rpcwallet.cpp` l. 33–34
Kind: D -/
def mintOnlyError : RPCError :=
  .json .RPC_WALLET_UNLOCK_NEEDED "Error: Wallet unlocked for block minting only."

/-- `EnsureWalletIsUnlocked()`: refuse a locked wallet, then one unlocked for block minting only.
Source: `src/rpcwallet.cpp` l. 29–35
Kind: D
Fidelity: exact -/
def ensureWalletIsUnlocked (s : WalletState) : Except RPCError Unit :=
  if s.locked then .error unlockNeeded
  else if s.fWalletUnlockMintOnly then .error mintOnlyError
  else .ok ()

/-- `EnsureWalletIsUnlocked` passes exactly on a wallet unlocked for spending.
Source: `src/rpcwallet.cpp` l. 29–35
Kind: L -/
theorem ensureWalletIsUnlocked_eq_ok (s : WalletState) :
    ensureWalletIsUnlocked s = .ok () ↔ s.locked = false ∧ s.fWalletUnlockMintOnly = false := by
  unfold ensureWalletIsUnlocked
  split_ifs <;> simp_all

/-! ## The calls -/

/-- `JSONRPCError(-101, "Send amount too small")`.
Source: `src/rpcwallet.cpp` l. 296–297, 338–339, 716–717, 787–788
Kind: D -/
def sendAmountTooSmall : RPCError := .json (.code (-101)) "Send amount too small"

/-- A comment of the new transaction: `wtx.mapValue[key]` is set when the parameter is given, not
null and not empty.
Source: `src/rpcwallet.cpp` l. 342–345, 724–727, 759–760
Kind: D
Fidelity: exact (an absent or null parameter is `none`) -/
def commentField (key : String) : Option String → StdMap String String
  | some v => if v = "" then [] else [(key, v)]
  | none => []

/-- What a call hands to the wallet: the account charged (`wtx.strFromAccount`), the comments
(`wtx.mapValue`) and the recipients with their amounts.
Source: `src/rpcwallet.cpp` l. 341–351, 721–739, 756–804
Kind: D -/
structure SendOrder where
  strFromAccount : String
  mapValue : StdMap String String
  vecSend : List (CBitcoinAddress × Int)
  deriving DecidableEq, Repr

/-- What the wallet does with `sendmany`'s transaction: whether `CreateTransaction` builds it and
the fee it asks for, `GetWatchOnlyBalance()`, and whether `CommitTransaction` succeeds.
Source: `src/rpcwallet.cpp` l. 800–814 (the callees are in `wallet.cpp`, not in the sources)
Kind: D -/
structure CreateOutcome where
  fCreated : Bool
  nFeeRequired : Int
  nWatchOnlyBalance : Int
  fCommitted : Bool
  deriving DecidableEq, Repr

/-- `sendmany`'s loop state: `setAddress`, `totalAmount` and `vecSend`.
Source: `src/rpcwallet.cpp` l. 762–765
Kind: D -/
structure SendManyAcc where
  setAddress : List CBitcoinAddress
  totalAmount : Int
  vecSend : List (CBitcoinAddress × Int)
  deriving DecidableEq, Repr

section Calls

variable (nMinimumInputValue : Int) (isValid isPair : CBitcoinAddress → Bool)

/-- `sendtoaddress <42address> <amount> [comment] [comment-to]`, with `strSendError` what `SendMoney`
returns.
Source: `src/rpcwallet.cpp` l. 317–356
Kind: D
Fidelity: exact (the result is the order handed to `SendMoney`, not its hash) -/
def sendtoaddress (s : WalletState) (strAddress : String) (nAmount : Int)
    (comment commentTo : Option String) (strSendError : String) : Except RPCError SendOrder :=
  if !isValid strAddress then .error (.json .RPC_INVALID_ADDRESS_OR_KEY "Invalid 42 address")
  else if nAmount < nMinimumInputValue then .error sendAmountTooSmall
  else if s.locked then .error unlockNeeded
  else if strSendError ≠ "" then .error (.json .RPC_WALLET_ERROR strSendError)
  else .ok ⟨"", commentField "comment" comment ++ commentField "to" commentTo,
    [(strAddress, nAmount)]⟩

/-- `sendtoaddress` hands an order to `SendMoney` exactly for a valid address, an amount of at least
`nMinimumInputValue` and an unlocked wallet, whether unlocked for spending or for minting only; the
order charges no account and pays the amount to the address.
Source: `src/rpcwallet.cpp` l. 317–356
Kind: L -/
theorem sendtoaddress_eq_ok {s : WalletState} {strAddress : String} {nAmount : Int}
    {comment commentTo : Option String} {strSendError : String} {o : SendOrder} :
    sendtoaddress nMinimumInputValue isValid s strAddress nAmount comment commentTo strSendError =
        .ok o ↔
      isValid strAddress = true ∧ nMinimumInputValue ≤ nAmount ∧ s.locked = false ∧
        strSendError = "" ∧
        o = ⟨"", commentField "comment" comment ++ commentField "to" commentTo,
          [(strAddress, nAmount)]⟩ := by
  unfold sendtoaddress
  split_ifs <;> simp_all [@eq_comm _ o]

/-- `sendfrom <fromaccount> <to42address> <amount> [minconf=1] [comment] [comment-to]`, with
`strSendError` what `SendMoney` returns.
Source: `src/rpcwallet.cpp` l. 694–744
Kind: D
Fidelity: exact (the result is the order handed to `SendMoney`, not its hash) -/
def sendfrom (s : WalletState) (w : CWallet) (fromaccount strAddress : String) (nAmount : Int)
    (minconf : Option Int) (comment commentTo : Option String) (strSendError : String) :
    Except RPCError SendOrder :=
  match accountFromValue fromaccount with
  | .error e => .error e
  | .ok strAccount =>
    if !isValid strAddress then .error (.json .RPC_INVALID_ADDRESS_OR_KEY "Invalid 42 address")
    else if nAmount < nMinimumInputValue then .error sendAmountTooSmall
    else match ensureWalletIsUnlocked s with
      | .error e => .error e
      | .ok () =>
        if nAmount > getAccountBalance w strAccount (minconf.getD 1) .MINE_SPENDABLE then
          .error (.json .RPC_WALLET_INSUFFICIENT_FUNDS "Account has insufficient funds")
        else if strSendError ≠ "" then .error (.json .RPC_WALLET_ERROR strSendError)
        else .ok ⟨strAccount, commentField "comment" comment ++ commentField "to" commentTo,
          [(strAddress, nAmount)]⟩

/-- `sendfrom` hands an order to `SendMoney` exactly for an account other than `"*"`, a valid
address, an amount of at least `nMinimumInputValue` and at most the account's balance, and a wallet
unlocked for spending; the order charges the account and pays the amount to the address.
Source: `src/rpcwallet.cpp` l. 694–744
Kind: L -/
theorem sendfrom_eq_ok {s : WalletState} {w : CWallet} {fromaccount strAddress : String}
    {nAmount : Int} {minconf : Option Int} {comment commentTo : Option String}
    {strSendError : String} {o : SendOrder} :
    sendfrom nMinimumInputValue isValid s w fromaccount strAddress nAmount minconf comment commentTo
        strSendError = .ok o ↔
      fromaccount ≠ "*" ∧ isValid strAddress = true ∧ nMinimumInputValue ≤ nAmount ∧
        s.locked = false ∧ s.fWalletUnlockMintOnly = false ∧
        nAmount ≤ getAccountBalance w fromaccount (minconf.getD 1) .MINE_SPENDABLE ∧
        strSendError = "" ∧
        o = ⟨fromaccount, commentField "comment" comment ++ commentField "to" commentTo,
          [(strAddress, nAmount)]⟩ := by
  unfold sendfrom
  by_cases ha : fromaccount = "*"
  · simp [accountFromValue, ha]
  simp only [accountFromValue, ha, if_false, ne_eq, not_false_eq_true, true_and]
  cases hu : ensureWalletIsUnlocked s with
  | error e =>
    have := (ensureWalletIsUnlocked_eq_ok s).not.1 (by simp [hu])
    exact iff_of_false (by split_ifs <;> nofun) fun h => this ⟨h.2.2.1, h.2.2.2.1⟩
  | ok u =>
    obtain ⟨hl, hm⟩ := (ensureWalletIsUnlocked_eq_ok s).1 hu
    split_ifs <;> simp_all [@eq_comm _ o]

/-! ## `sendmany` -/

/-- One pass of `sendmany`'s loop, on the entry `name: nAmount`.
Source: `src/rpcwallet.cpp` l. 766–793
Kind: D
Fidelity: exact (`setAddress` as a list; an address is its text) -/
def sendManyEntry (acc : SendManyAcc) (name : String) (nAmount : Int) :
    Except RPCError SendManyAcc :=
  if !isValid name then .error (.json .RPC_INVALID_ADDRESS_OR_KEY ("Invalid 42 address: " ++ name))
  else if !isPair name ∧ name ∈ acc.setAddress then
    .error (.json .RPC_INVALID_PARAMETER ("Invalid parameter, duplicated address: " ++ name))
  else if nAmount < nMinimumInputValue then .error sendAmountTooSmall
  else .ok ⟨if isPair name then acc.setAddress else name :: acc.setAddress,
    acc.totalAmount + nAmount, acc.vecSend ++ [(name, nAmount)]⟩

/-- `for (const Pair& s : sendTo)`: the entries in order, up to the first that throws.
Source: `src/rpcwallet.cpp` l. 766–794
Kind: D
Fidelity: exact -/
def sendManyLoop : List (String × Int) → SendManyAcc → Except RPCError SendManyAcc
  | [], acc => .ok acc
  | (name, nAmount) :: sendTo, acc =>
    match sendManyEntry nMinimumInputValue isValid isPair acc name nAmount with
    | .error e => .error e
    | .ok acc => sendManyLoop sendTo acc

/-- `sendmany <fromaccount> {address:amount,...} [minconf=1] [comment]`, with `create` what the
wallet does with the transaction.
Source: `src/rpcwallet.cpp` l. 747–817
Kind: D
Fidelity: exact (the object's entries in their order; the result is the order committed, not its
hash) -/
def sendmany (s : WalletState) (w : CWallet) (fromaccount : String) (sendTo : List (String × Int))
    (minconf : Option Int) (comment : Option String) (create : CreateOutcome) :
    Except RPCError SendOrder :=
  match accountFromValue fromaccount with
  | .error e => .error e
  | .ok strAccount =>
    match sendManyLoop nMinimumInputValue isValid isPair sendTo ⟨[], 0, []⟩ with
    | .error e => .error e
    | .ok acc =>
      match ensureWalletIsUnlocked s with
      | .error e => .error e
      | .ok () =>
        if acc.totalAmount > getAccountBalance w strAccount (minconf.getD 1) .MINE_SPENDABLE then
          .error (.json .RPC_WALLET_INSUFFICIENT_FUNDS "Account has insufficient funds")
        else if !create.fCreated then
          if acc.totalAmount + create.nFeeRequired > w.nBalance - create.nWatchOnlyBalance then
            .error (.json .RPC_WALLET_INSUFFICIENT_FUNDS "Insufficient funds")
          else .error (.json .RPC_WALLET_ERROR "Transaction creation failed")
        else if !create.fCommitted then .error (.json .RPC_WALLET_ERROR "Transaction commit failed")
        else .ok ⟨strAccount, commentField "comment" comment, acc.vecSend⟩

/-- The addresses of the entries that are not pairs, in order: those whose repetition `sendmany`
refuses.
Source: `src/rpcwallet.cpp` l. 772–777
Kind: D -/
def unpaired (sendTo : List (String × Int)) : List CBitcoinAddress :=
  (sendTo.map Prod.fst).filter fun a => !isPair a

/-- No entries, no unpaired addresses.
Source: none: infrastructure
Kind: L -/
@[simp]
theorem unpaired_nil : unpaired isPair [] = [] := rfl

/-- `unpaired` on an entry: its address joins unless it is a pair.
Source: none: infrastructure
Kind: L -/
@[simp]
theorem unpaired_cons (a : String) (x : Int) (sendTo : List (String × Int)) :
    unpaired isPair ((a, x) :: sendTo) =
      if isPair a then unpaired isPair sendTo else a :: unpaired isPair sendTo := by
  cases h : isPair a <;> simp [unpaired, h]

/-- An address is among the unpaired ones when it is not a pair and some entry has it.
Source: none: infrastructure
Kind: L -/
theorem mem_unpaired {name : String} {sendTo : List (String × Int)} :
    name ∈ unpaired isPair sendTo ↔ isPair name = false ∧ ∃ x, (name, x) ∈ sendTo := by
  simp [unpaired, and_comm]

/-- One entry passes exactly when its address is valid and, unless it is a pair, not yet seen, and
its amount is at least `nMinimumInputValue`; it then joins the total and `vecSend`.
Source: `src/rpcwallet.cpp` l. 766–793
Kind: L -/
theorem sendManyEntry_eq_ok {acc acc' : SendManyAcc} {name : String} {nAmount : Int} :
    sendManyEntry nMinimumInputValue isValid isPair acc name nAmount = .ok acc' ↔
      isValid name = true ∧ (isPair name = false → name ∉ acc.setAddress) ∧
        nMinimumInputValue ≤ nAmount ∧
        acc' = ⟨if isPair name then acc.setAddress else name :: acc.setAddress,
          acc.totalAmount + nAmount, acc.vecSend ++ [(name, nAmount)]⟩ := by
  unfold sendManyEntry
  split_ifs <;> simp_all [@eq_comm _ acc']

/-- The loop over `l₁ ++ l₂` is the loop over `l₁`, then, if it did not throw, over `l₂`.
Source: `src/rpcwallet.cpp` l. 766–794
Kind: L -/
theorem sendManyLoop_append (l₁ l₂ : List (String × Int)) (acc : SendManyAcc) :
    sendManyLoop nMinimumInputValue isValid isPair (l₁ ++ l₂) acc =
      (sendManyLoop nMinimumInputValue isValid isPair l₁ acc).bind
        (sendManyLoop nMinimumInputValue isValid isPair l₂) := by
  induction l₁ generalizing acc with
  | nil => rfl
  | cons p l₁ ih =>
    simp only [List.cons_append, sendManyLoop]
    cases sendManyEntry nMinimumInputValue isValid isPair acc p.1 p.2 with
    | error e => rfl
    | ok acc₁ => exact ih acc₁

/-- **The loop.** It passes exactly when every entry has a valid address and an amount of at least
`nMinimumInputValue`, and the addresses that are not pairs are distinct and new; it then adds them
to `setAddress`, the amounts to the total and the entries, in order, to `vecSend`.
Source: `src/rpcwallet.cpp` l. 766–794
Kind: L -/
theorem sendManyLoop_eq_ok (sendTo : List (String × Int)) (acc acc' : SendManyAcc) :
    sendManyLoop nMinimumInputValue isValid isPair sendTo acc = .ok acc' ↔
      (∀ p ∈ sendTo, isValid p.1 = true ∧ nMinimumInputValue ≤ p.2) ∧
        (unpaired isPair sendTo).Nodup ∧ (unpaired isPair sendTo).Disjoint acc.setAddress ∧
        acc' = ⟨(unpaired isPair sendTo).reverse ++ acc.setAddress,
          acc.totalAmount + (sendTo.map Prod.snd).sum, acc.vecSend ++ sendTo⟩ := by
  induction sendTo generalizing acc with
  | nil => simp [sendManyLoop, @eq_comm _ acc']
  | cons p sendTo ih =>
    obtain ⟨name, nAmount⟩ := p
    simp only [sendManyLoop]
    cases he : sendManyEntry nMinimumInputValue isValid isPair acc name nAmount with
    | error e =>
      -- the conditions would make the first entry pass
      simp only [reduceCtorEq, false_iff, not_and]
      intro hall _ hdis _
      have h₀ := hall _ (List.mem_cons_self _ _)
      rw [(sendManyEntry_eq_ok nMinimumInputValue isValid isPair).2 ⟨h₀.1, fun hp hmem =>
        hdis (show name ∈ unpaired isPair ((name, nAmount) :: sendTo) by simp [hp]) hmem,
        h₀.2, rfl⟩] at he
      cases he
    | ok acc₁ =>
      obtain ⟨hv, hd, hx, rfl⟩ := (sendManyEntry_eq_ok nMinimumInputValue isValid isPair).1 he
      rw [ih]
      cases hp : isPair name
      · -- the address joins `setAddress`
        simp only [List.forall_mem_cons, hv, hx, and_self, true_and, unpaired_cons, hp,
          Bool.false_eq_true, if_false, List.nodup_cons, List.disjoint_cons_left,
          List.disjoint_cons_right, hd hp, not_false_eq_true, List.reverse_cons, List.append_assoc,
          List.singleton_append, List.map_cons, List.sum_cons, add_assoc]
        tauto
      · simp only [List.forall_mem_cons, hv, hx, and_self, true_and, unpaired_cons, hp, if_true,
          List.map_cons, List.sum_cons, add_assoc, List.append_assoc, List.singleton_append]

/-- **What `sendmany` sends.** It commits an order exactly for an account other than `"*"`, entries
with valid addresses and amounts of at least `nMinimumInputValue`, distinct addresses among those
that are not pairs, a wallet unlocked for spending, a total of at most the account's balance, and a
transaction the wallet builds and commits; the order charges the account and pays every entry, in
order.
Source: `src/rpcwallet.cpp` l. 747–817
Kind: T -/
theorem sendmany_eq_ok {s : WalletState} {w : CWallet} {fromaccount : String}
    {sendTo : List (String × Int)} {minconf : Option Int} {comment : Option String}
    {create : CreateOutcome} {o : SendOrder} :
    sendmany nMinimumInputValue isValid isPair s w fromaccount sendTo minconf comment create =
        .ok o ↔
      fromaccount ≠ "*" ∧ (∀ p ∈ sendTo, isValid p.1 = true ∧ nMinimumInputValue ≤ p.2) ∧
        (unpaired isPair sendTo).Nodup ∧ s.locked = false ∧ s.fWalletUnlockMintOnly = false ∧
        (sendTo.map Prod.snd).sum ≤ getAccountBalance w fromaccount (minconf.getD 1) .MINE_SPENDABLE ∧
        create.fCreated = true ∧ create.fCommitted = true ∧
        o = ⟨fromaccount, commentField "comment" comment, sendTo⟩ := by
  unfold sendmany
  by_cases ha : fromaccount = "*"
  · simp [accountFromValue, ha]
  simp only [accountFromValue, ha, if_false, ne_eq, not_false_eq_true, true_and]
  cases hl : sendManyLoop nMinimumInputValue isValid isPair sendTo ⟨[], 0, []⟩ with
  | error e =>
    simp only [reduceCtorEq, false_iff, not_and]
    intro hall hnd
    rw [(sendManyLoop_eq_ok nMinimumInputValue isValid isPair _ _ _).2
      ⟨hall, hnd, List.disjoint_nil_right _, rfl⟩] at hl
    cases hl
  | ok acc =>
    obtain ⟨hall, hnd, -, rfl⟩ := (sendManyLoop_eq_ok nMinimumInputValue isValid isPair _ _ _).1 hl
    cases hu : ensureWalletIsUnlocked s with
    | error e =>
      have := (ensureWalletIsUnlocked_eq_ok s).not.1 (by simp [hu])
      exact iff_of_false nofun fun h => this ⟨h.2.2.1, h.2.2.2.1⟩
    | ok u =>
      obtain ⟨hl, hm⟩ := (ensureWalletIsUnlocked_eq_ok s).1 hu
      simp only [eq_true hall, eq_true hnd, hl, hm, true_and]
      split_ifs <;> simp_all [@eq_comm _ o]

/-- **A repeated address.** When the entries before it pass and one of them has an address `name`
that is not a pair, an entry with `name` again makes `sendmany` throw `RPC_INVALID_PARAMETER`
`"Invalid parameter, duplicated address: " + name`, whatever its amount, whatever follows and
whatever the wallet and its state.
Source: `src/rpcwallet.cpp` l. 766–794
Kind: T -/
theorem sendmany_duplicated (s : WalletState) (w : CWallet) {fromaccount : String}
    (ha : fromaccount ≠ "*") {pre : List (String × Int)}
    (hpre : ∀ p ∈ pre, isValid p.1 = true ∧ nMinimumInputValue ≤ p.2)
    (hnd : (unpaired isPair pre).Nodup) {name : String} (hname : name ∈ unpaired isPair pre)
    (nAmount : Int) (post : List (String × Int)) (minconf : Option Int) (comment : Option String)
    (create : CreateOutcome) :
    sendmany nMinimumInputValue isValid isPair s w fromaccount (pre ++ (name, nAmount) :: post)
        minconf comment create =
      .error (.json .RPC_INVALID_PARAMETER ("Invalid parameter, duplicated address: " ++ name)) := by
  obtain ⟨hp, x, hx⟩ := (mem_unpaired isPair).1 hname
  have hpass := (sendManyLoop_eq_ok nMinimumInputValue isValid isPair pre ⟨[], 0, []⟩ _).2
    ⟨hpre, hnd, List.disjoint_nil_right _, rfl⟩
  simp only [sendmany, accountFromValue, ha, if_false, sendManyLoop_append, hpass, Except.bind,
    sendManyLoop, sendManyEntry, (hpre _ hx).1, hp, List.append_nil, List.mem_reverse, hname]
  rfl

/-- The failing input of the spec's scenario with the default account: `addr1` twice, one coin
each, `nMinimumInputValue` one cent.
Source: `src/rpcwallet.cpp` l. 766–794
Kind: W -/
theorem sendmany_duplicated_twice :
    ("" ≠ "*" ∧ (∀ p ∈ [("addr1", (100000000 : Int))], (fun _ => true) p.1 = true ∧ 1000000 ≤ p.2) ∧
      (unpaired (fun _ => false) [("addr1", (100000000 : Int))]).Nodup ∧
      "addr1" ∈ unpaired (fun _ => false) [("addr1", (100000000 : Int))]) ∧
    sendmany 1000000 (fun _ => true) (fun _ => false) (WalletState.init "p" 0) confirmedPayment ""
        ([("addr1", 100000000)] ++ ("addr1", 100000000) :: []) none none ⟨true, 0, 0, true⟩ =
      .error (.json .RPC_INVALID_PARAMETER ("Invalid parameter, duplicated address: " ++ "addr1")) :=
  ⟨by decide, sendmany_duplicated 1000000 (fun _ => true) (fun _ => false) _ _ (by decide) (by decide)
    (by decide) (by decide) _ _ _ _ _⟩

/-- With the account `"*"` the same entries fail earlier, at `AccountFromValue`. -/
example : sendmany 1000000 (fun _ => true) (fun _ => false) (WalletState.init "p" 0)
    confirmedPayment "*" [("addr1", 100000000), ("addr1", 100000000)] none none
    ⟨true, 0, 0, true⟩ = .error (.json .RPC_WALLET_INVALID_ACCOUNT_NAME "Invalid account name") :=
  rfl

/-- `mergecoins <amount> <minvalue> <outputvalue>`: the request handed to `MergeCoins`.
Source: `src/rpcwallet.cpp` l. 271–315
Kind: D
Fidelity: exact up to the call of `MergeCoins` (the merged hashes are not modelled) -/
def mergecoins (s : WalletState) (nAmount nMinValue nOutputValue : Int) :
    Except RPCError (Int × Int × Int) :=
  if s.locked then .error unlockNeeded
  else if nAmount < nMinimumInputValue then .error sendAmountTooSmall
  else if nMinValue < nMinimumInputValue then .error (.json (.code (-101)) "Max value too small")
  else if nOutputValue < nMinimumInputValue then
    .error (.json (.code (-101)) "Output value too small")
  else if nOutputValue < nMinValue then
    .error (.json (.code (-101)) "Output value is lower than min value")
  else .ok (nAmount, nMinValue, nOutputValue)

/-- `mergecoins` hands its request to `MergeCoins` exactly on an unlocked wallet, whether unlocked
for spending or for minting only, with the amount and the minimum input value at least
`nMinimumInputValue` and the output value at least the minimum; the check of the output value
against `nMinimumInputValue` only chooses the message.
Source: `src/rpcwallet.cpp` l. 271–305
Kind: L -/
theorem mergecoins_eq_ok {s : WalletState} {nAmount nMinValue nOutputValue : Int}
    {r : Int × Int × Int} :
    mergecoins nMinimumInputValue s nAmount nMinValue nOutputValue = .ok r ↔
      s.locked = false ∧ nMinimumInputValue ≤ nAmount ∧ nMinimumInputValue ≤ nMinValue ∧
        nMinValue ≤ nOutputValue ∧ r = (nAmount, nMinValue, nOutputValue) := by
  unfold mergecoins
  split_ifs <;> simp_all [@eq_comm _ r]
  omega

/-! ## Sends stay within the account -/

/-- `getbalance <account> [minconf]` for an account other than `"*"` is its `GetAccountBalance` over
the spendable outputs.
Source: `src/rpcwallet.cpp` l. 581–637
Kind: L -/
theorem getbalance_account {w : CWallet} {account : String} (ha : account ≠ "*")
    (minconf : Option Int) :
    getbalance w (some account) minconf none =
      .ok (getAccountBalance w account (minconf.getD 1) .MINE_SPENDABLE) := by
  simp [getbalance, ha, accountFromValue, Except.map]

/-- **Sends stay within the account.** Every order `sendfrom` or `sendmany` hands to the wallet is
charged to its account, and its amounts total at most what `getbalance` reports for that account
with the same `minconf`.
Source: `src/rpcwallet.cpp` l. 581–637, 694–817
Kind: T -/
theorem send_le_getbalance (s : WalletState) (w : CWallet) (fromaccount : String)
    (minconf : Option Int) :
    (∀ strAddress nAmount comment commentTo strSendError o,
      sendfrom nMinimumInputValue isValid s w fromaccount strAddress nAmount minconf comment
          commentTo strSendError = .ok o →
        o.strFromAccount = fromaccount ∧ ∃ b, getbalance w (some fromaccount) minconf none = .ok b ∧
          (o.vecSend.map Prod.snd).sum ≤ b) ∧
    (∀ sendTo comment create o,
      sendmany nMinimumInputValue isValid isPair s w fromaccount sendTo minconf comment create =
          .ok o →
        o.strFromAccount = fromaccount ∧ ∃ b, getbalance w (some fromaccount) minconf none = .ok b ∧
          (o.vecSend.map Prod.snd).sum ≤ b) := by
  refine ⟨fun strAddress nAmount comment commentTo strSendError o h => ?_,
    fun sendTo comment create o h => ?_⟩
  · obtain ⟨ha, -, -, -, -, hb, -, rfl⟩ := (sendfrom_eq_ok nMinimumInputValue isValid).1 h
    exact ⟨rfl, _, getbalance_account ha minconf, by simpa using hb⟩
  · obtain ⟨ha, -, -, -, -, hb, -, -, rfl⟩ := (sendmany_eq_ok nMinimumInputValue isValid isPair).1 h
    exact ⟨rfl, _, getbalance_account ha minconf, hb⟩

/-! ## Minting only -/

/-- On a wallet unlocked for minting only, `EnsureWalletIsUnlocked` throws.
Source: `src/rpcwallet.cpp` l. 29–35
Kind: L -/
theorem ensureWalletIsUnlocked_mintOnly {s : WalletState} (hl : s.locked = false)
    (hm : s.fWalletUnlockMintOnly = true) : ensureWalletIsUnlocked s = .error mintOnlyError := by
  simp [ensureWalletIsUnlocked, hl, hm]

/-- **Two checks for one state.** On a wallet unlocked for minting only, `sendfrom` throws
`"Error: Wallet unlocked for block minting only."` for a request that `sendtoaddress` hands on to
`SendMoney`, with the same address, amount and comments; `mergecoins` hands its requests on to
`MergeCoins` too. Whether `SendMoney` and `MergeCoins` refuse them is up to `wallet.cpp`.
Source: `src/rpcwallet.cpp` l. 29–35, 271–356, 694–744
Kind: T -/
theorem sendtoaddress_mintOnly {s : WalletState} (hl : s.locked = false)
    (hm : s.fWalletUnlockMintOnly = true) (w : CWallet) {fromaccount : String}
    (ha : fromaccount ≠ "*") {strAddress : String} (hv : isValid strAddress = true) {nAmount : Int}
    (hx : nMinimumInputValue ≤ nAmount) (minconf : Option Int) (comment commentTo : Option String)
    (strSendError : String) :
    sendfrom nMinimumInputValue isValid s w fromaccount strAddress nAmount minconf comment commentTo
        strSendError = .error mintOnlyError ∧
      sendtoaddress nMinimumInputValue isValid s strAddress nAmount comment commentTo strSendError =
        (if strSendError = "" then
          .ok ⟨"", commentField "comment" comment ++ commentField "to" commentTo,
            [(strAddress, nAmount)]⟩
        else .error (.json .RPC_WALLET_ERROR strSendError)) ∧
      ∀ nMinValue nOutputValue, nMinimumInputValue ≤ nMinValue → nMinValue ≤ nOutputValue →
        mergecoins nMinimumInputValue s nAmount nMinValue nOutputValue =
          .ok (nAmount, nMinValue, nOutputValue) := by
  refine ⟨?_, ?_, fun nMinValue nOutputValue h₁ h₂ =>
    (mergecoins_eq_ok nMinimumInputValue).2 ⟨hl, hx, h₁, h₂, rfl⟩⟩
  · simp [sendfrom, accountFromValue, ha, hv, ensureWalletIsUnlocked_mintOnly hl hm, not_lt.2 hx]
  · simp [sendtoaddress, hv, hl, not_lt.2 hx]

/-- A step keeps the mint-only flag set unless it is a `walletpassphrase` that does not ask for
minting only: `walletlock`, the relocking threads and the clock never clear it.
Source: `src/rpcwallet.cpp` l. 1502–1644
Kind: L -/
theorem step_mintOnly {s s' : WalletState} {e : Event} (h : step s e = some s')
    (he : ∀ pass timeout mintonly, e = .walletpassphrase pass timeout mintonly → mintonly = some true)
    (hs : s.fWalletUnlockMintOnly = true) : s'.fWalletUnlockMintOnly = true := by
  cases e with
  | walletpassphrase pass timeout mintonly =>
    cases h
    rw [walletpassphrase_snd, he _ _ _ rfl]
    split_ifs
    · rfl
    · exact hs
  | walletlock =>
    cases h
    rw [walletlock_snd]
    split_ifs <;> exact hs
  | readClock i => exact (readClock_frame h).1.2.2.1 ▸ hs
  | thread i => exact (threadStep_frame h).2.2.1 ▸ hs
  | tick ms =>
    cases h
    exact hs

/-- Along a run whose `walletpassphrase` calls all ask for minting only, a set mint-only flag stays
set.
Source: `src/rpcwallet.cpp` l. 1502–1644
Kind: L -/
theorem exec_mintOnly {s s' : WalletState} (es : List Event) (h : exec s es = some s')
    (hes : ∀ pass timeout mintonly, .walletpassphrase pass timeout mintonly ∈ es →
      mintonly = some true)
    (hs : s.fWalletUnlockMintOnly = true) : s'.fWalletUnlockMintOnly = true := by
  induction es generalizing s with
  | nil => cases h; exact hs
  | cons e es ih =>
    simp only [exec, Option.bind_eq_some] at h
    obtain ⟨s₁, h₁, h₂⟩ := h
    exact ih h₂ (fun p t m hm => hes p t m (List.mem_cons_of_mem _ hm))
      (step_mintOnly h₁ (fun p t m he => hes p t m (he ▸ List.mem_cons_self _ _)) hs)

/-- **No spending after a mint-only unlock.** From a state with the mint-only flag set, along every
interleaving of `walletlock`, relocking threads, clock ticks and `walletpassphrase` calls that ask
for minting only, `EnsureWalletIsUnlocked` throws in every state reached, so no `sendfrom` and no
`sendmany` hands an order to the wallet there.
Source: `src/rpcwallet.cpp` l. 29–35, 694–817, 1502–1644
Kind: T -/
theorem exec_refuses_spending {s s' : WalletState} (es : List Event) (h : exec s es = some s')
    (hes : ∀ pass timeout mintonly, .walletpassphrase pass timeout mintonly ∈ es →
      mintonly = some true)
    (hs : s.fWalletUnlockMintOnly = true) :
    ensureWalletIsUnlocked s' ≠ .ok () ∧
      (∀ w fromaccount strAddress nAmount minconf comment commentTo strSendError o,
        sendfrom nMinimumInputValue isValid s' w fromaccount strAddress nAmount minconf comment
          commentTo strSendError ≠ .ok o) ∧
      (∀ w fromaccount sendTo minconf comment create o,
        sendmany nMinimumInputValue isValid isPair s' w fromaccount sendTo minconf comment create ≠
          .ok o) := by
  have hm := exec_mintOnly es h hes hs
  refine ⟨fun hu => ?_, fun _ _ _ _ _ _ _ _ _ hsend => ?_, fun _ _ _ _ _ _ _ hsend => ?_⟩
  · simp [(ensureWalletIsUnlocked_eq_ok s').1 hu] at hm
  · simp [((sendfrom_eq_ok nMinimumInputValue isValid).1 hsend).2.2.2.2.1] at hm
  · simp [((sendmany_eq_ok nMinimumInputValue isValid isPair).1 hsend).2.2.2.2.1] at hm

/-- `walletpassphrase p 60 true`, then the relocking thread starts and sleeps, and a second passes:
the wallet is unlocked, for minting only.
Source: `src/rpcwallet.cpp` l. 29–35, 1502–1588
Kind: W -/
theorem exec_refuses_spending_unlocked :
    (exec (walletpassphrase (WalletState.init "p" 0) "p" 60 (some true)).2 [.thread 0, .tick 1000] =
        some ⟨true, false, "p", 60000, true, 1000, [.waiting 60000]⟩ ∧
      (∀ pass timeout mintonly, Event.walletpassphrase pass timeout mintonly ∈
        [Event.thread 0, .tick 1000] → mintonly = some true) ∧
      (walletpassphrase (WalletState.init "p" 0) "p" 60 (some true)).2.fWalletUnlockMintOnly = true) ∧
    ensureWalletIsUnlocked ⟨true, false, "p", 60000, true, 1000, [.waiting 60000]⟩ ≠ .ok () ∧
      (∀ w fromaccount strAddress nAmount minconf comment commentTo strSendError o,
        sendfrom 1000000 (fun _ => true) ⟨true, false, "p", 60000, true, 1000, [.waiting 60000]⟩ w
          fromaccount strAddress nAmount minconf comment commentTo strSendError ≠ .ok o) ∧
      (∀ w fromaccount sendTo minconf comment create o,
        sendmany 1000000 (fun _ => true) (fun _ => false)
          ⟨true, false, "p", 60000, true, 1000, [.waiting 60000]⟩ w fromaccount sendTo minconf comment
          create ≠ .ok o) :=
  have h : exec (walletpassphrase (WalletState.init "p" 0) "p" 60 (some true)).2
      [.thread 0, .tick 1000] = some ⟨true, false, "p", 60000, true, 1000, [.waiting 60000]⟩ := by
    decide
  have hes : ∀ pass timeout mintonly, Event.walletpassphrase pass timeout mintonly ∈
      [Event.thread 0, .tick 1000] → mintonly = some true := by simp
  ⟨⟨h, hes, by decide⟩, exec_refuses_spending 1000000 (fun _ => true) (fun _ => false) _ h hes
    (by decide)⟩

end Calls

end FortyTwo.Wallet
