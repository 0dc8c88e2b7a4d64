import FortyTwo.Wallet.Basic

/-!
# `rpcwallet.cpp` · Balance: `getbalance`, `listaccounts` and `move`

* **`GetAccountBalance`** (`getAccountBalance`): the final transactions' per-account amounts (the
  received part only at `nMinDepth`), plus the account's accounting entries; `getbalance` with an
  account is this with `MINE_SPENDABLE` unless watch-only is asked for.
* **`listaccounts`** (`listaccounts`): a zero for every labelled address that is mine, then the
  updates `mapAccountBalances[k] += v` of every wallet transaction (`listaccountsTx`) and of every
  accounting entry. An account's value is the sum of the updates to it (`listaccounts_get0`).
* **The two disagree** (`listaccounts_balance`): the value `listaccounts` reports for an account
  is its `GetAccountBalance`, plus the tally of the non-final transactions (which
  `GetAccountBalance` skips), minus, for `""`, the mature generated amount of the final
  transactions not yet `nMinDepth` deep (which `GetAccountBalance` counts at any depth). A
  non-final transaction paying a labelled address already makes them differ
  (`listaccounts_nonfinal`).
* **`getbalance "*"`** sums the trusted transactions' amounts a different way. When every
  transaction is trusted and `minconf` deep, it is the total of `listaccounts` less the sum of the
  accounting entries (`getbalance_all_eq_listaccounts`); untrusted transactions and mature
  generated coins below `minconf` are where the two part.
* **`move`** (`movecmd`, `moveRun`): a committed move appends a debit and a credit of the amount;
  a refused one or one whose `TxnBegin` or `TxnCommit` fails appends nothing. Whether a move
  commits depends only on its own arguments and the database (`MoveCall.commits`). Over any
  sequence of moves the sum of the accounting entries and the total of `listaccounts` stay
  unchanged and every account's `GetAccountBalance` moves by the committed amounts
  (`move_conserves_balances`); a move and its reverse restore every balance
  (`move_round_trip`).

The writes between `TxnBegin` and `TxnCommit` are one atomic database transaction: a failed
commit writes no entry, and leaves `nOrderPosNext` advanced in memory, as `IncOrderPosNext` does.
The parameter `listaccounts` reads at `params[1]` is behind `params.size() > 1`, which has
already thrown, so its filter is always `MINE_SPENDABLE`.
-/

namespace FortyTwo.Wallet

/-! ## `GetAccountBalance` and `getbalance` -/

/-- What one wallet transaction adds to an account's balance in `GetAccountBalance`.
Source: `src/rpcwallet.cpp` l. 554–565
Kind: D
Fidelity: exact -/
def accountBalanceTx (w : CWallet) (strAccount : String) (nMinDepth : Int) (filter : IsMineFilter)
    (wtx : CWalletTx) : Int :=
  if !wtx.fFinal then 0
  else
    let a := getAccountAmounts w wtx strAccount filter
    (if a.nReceived ≠ 0 ∧ nMinDepth ≤ wtx.nDepth then a.nReceived else 0) + a.nGenerated - a.nSent -
      a.nFee

/-- `GetAccountBalance(strAccount, nMinDepth, filter)`: the wallet transactions' part, then the
accounting entries.
Source: `src/rpcwallet.cpp` l. 549–572
Kind: D
Fidelity: exact -/
def getAccountBalance (w : CWallet) (strAccount : String) (nMinDepth : Int) (filter : IsMineFilter) :
    Int :=
  (w.mapWallet.map (accountBalanceTx w strAccount nMinDepth filter)).sum +
    getAccountCreditDebit w strAccount

/-- `getbalance [account] [minconf=1] [watchonly=0]`: `GetBalance()` without an account; the
trusted transactions' amounts for `"*"`; `GetAccountBalance` for an account.
Source: `src/rpcwallet.cpp` l. 575–637
Kind: D
Fidelity: exact (amounts in satoshi) -/
def getbalance (w : CWallet) (account : Option String) (minconf : Option Int)
    (watchonly : Option Bool) : Except RPCError Int :=
  match account with
  | none => .ok w.nBalance
  | some account =>
    let nMinDepth := minconf.getD 1
    let filter := if watchonly.getD false then IsMineFilter.MINE_SPENDABLE_WATCH_ONLY
      else .MINE_SPENDABLE
    if account = "*" then
      .ok ((w.mapWallet.filter (·.fTrusted)).map fun wtx =>
        let a := wtx.amounts filter
        (if nMinDepth ≤ wtx.nDepth then (a.listReceived.map Prod.snd).sum else 0) -
          (a.listSent.map Prod.snd).sum - a.nFee + a.nGeneratedMature).sum
    else (accountFromValue account).map fun strAccount =>
      getAccountBalance w strAccount nMinDepth filter

/-! ## `listaccounts` -/

/-- The updates `mapAccountBalances[k] += v` that one wallet transaction makes (a `-=` is the
update by the negated value).
Source: `src/rpcwallet.cpp` l. 1253–1273
Kind: D
Fidelity: exact -/
def listaccountsTx (w : CWallet) (nMinDepth : Int) (filter : IsMineFilter) (wtx : CWalletTx) :
    List (String × Int) :=
  let a := wtx.amounts filter
  (a.strSentAccount, -a.nFee) :: a.listSent.map (fun s => (a.strSentAccount, -s.2)) ++
    if nMinDepth ≤ wtx.nDepth then
      ("", a.nGeneratedMature) :: a.listReceived.map fun r => (w.accountOf r.1, r.2)
    else []

/-- `listaccounts [minconf=1]`: the map from account names to balances.
Source: `src/rpcwallet.cpp` l. 1230–1285
Kind: D
Fidelity: exact (the map's entries in first-update order, not sorted by name) -/
def listaccounts (w : CWallet) (minconf : Option Int) : StdMap String Int :=
  let nMinDepth := minconf.getD 1
  let mapAccountBalances : StdMap String Int := w.mapAddressBook.foldl
    (fun m entry => if w.isMine entry.1 then m.modify 0 (fun _ => 0) entry.2 else m) []
  let updates := (w.mapWallet.map (listaccountsTx w nMinDepth .MINE_SPENDABLE)).flatten ++
    w.acentries.map fun entry => (entry.strAccount, entry.nCreditDebit)
  updates.foldl (fun m u => m.modify 0 (· + u.2) u.1) mapAccountBalances

/-- The sum of the updates to one account.
Source: none: infrastructure
Kind: D -/
def deltaSum (k : String) (updates : List (String × Int)) : Int :=
  ((updates.filter (·.1 = k)).map Prod.snd).sum

@[simp]
theorem deltaSum_nil (k : String) : deltaSum k [] = 0 := rfl

@[simp]
theorem deltaSum_cons (k : String) (u : String × Int) (updates : List (String × Int)) :
    deltaSum k (u :: updates) = (if u.1 = k then u.2 else 0) + deltaSum k updates := by
  unfold deltaSum
  by_cases h : u.1 = k <;> simp [List.filter_cons, h]

@[simp]
theorem deltaSum_append (k : String) (l₁ l₂ : List (String × Int)) :
    deltaSum k (l₁ ++ l₂) = deltaSum k l₁ + deltaSum k l₂ := by
  simp [deltaSum, List.filter_append]

theorem deltaSum_flatten (k : String) (ls : List (List (String × Int))) :
    deltaSum k ls.flatten = (ls.map (deltaSum k)).sum := by
  induction ls with
  | nil => rfl
  | cons l ls ih => simp [ih]

/-- The updates made from a list, one per element, sum to the values of the elements that name
the account.
Source: none: infrastructure
Kind: L -/
theorem deltaSum_map {α : Type} (k : String) (l : List α) (f : α → String) (v : α → Int) :
    deltaSum k (l.map fun a => (f a, v a)) = ((l.filter fun a => f a = k).map v).sum := by
  simp only [deltaSum, List.filter_map, List.map_map]; rfl

/-- Received outputs credited to the accounts of their addresses.
Source: none: infrastructure
Kind: L -/
theorem deltaSum_map_credit {α : Type} (k : String) (g : α → String) (l : List (α × Int)) :
    deltaSum k (l.map fun r => (g r.1, r.2)) = ((l.filter fun r => g r.1 = k).map Prod.snd).sum :=
  deltaSum_map k l (fun r => g r.1) Prod.snd

/-- Sends debited to one account.
Source: none: infrastructure
Kind: L -/
theorem deltaSum_map_debit {α : Type} (k a : String) (l : List (α × Int)) :
    deltaSum k (l.map fun s => (a, -s.2)) = if k = a then -(l.map Prod.snd).sum else 0 := by
  rw [deltaSum_map k l (fun _ => a) fun s => -s.2]
  by_cases h : k = a
  · simp [h, List.sum_neg, Function.comp_def]
  · simp [h, Ne.symm h]

/-- The updates of the accounting entries to an account sum to its `GetAccountCreditDebit`.
Source: none: infrastructure
Kind: L -/
theorem deltaSum_acentries (w : CWallet) (k : String) :
    deltaSum k (w.acentries.map fun entry => (entry.strAccount, entry.nCreditDebit)) =
      getAccountCreditDebit w k :=
  deltaSum_map k w.acentries _ _

/-- After a sequence of `m[k] += v`, an account holds what it held plus the updates to it.
Source: none: infrastructure
Kind: L -/
theorem get0_foldl_add (updates : List (String × Int)) (m : StdMap String Int) (k : String) :
    (updates.foldl (fun m u => m.modify 0 (· + u.2) u.1) m).get0 k = m.get0 k + deltaSum k updates := by
  induction updates generalizing m with
  | nil => simp
  | cons u us ih =>
    rw [List.foldl_cons, ih, StdMap.get0_modify_add, deltaSum_cons]
    by_cases h : u.1 = k
    · simp [h]; omega
    · simp [h, Ne.symm h]

/-- After a sequence of `m[k] += v`, the total is the old total plus every update.
Source: none: infrastructure
Kind: L -/
theorem total_foldl_add (updates : List (String × Int)) (m : StdMap String Int) :
    (updates.foldl (fun m u => m.modify 0 (· + u.2) u.1) m).total =
      m.total + (updates.map Prod.snd).sum := by
  induction updates generalizing m with
  | nil => simp
  | cons u us ih => simp only [List.foldl_cons, ih, StdMap.total_modify_add, List.map_cons,
      List.sum_cons]; omega

/-- The zeros written for the labelled addresses that are mine.
Source: none: infrastructure
Kind: L -/
theorem get0_foldl_zero (book : StdMap CBitcoinAddress String) (mine : CBitcoinAddress → Bool)
    (m : StdMap String Int) (hm : ∀ k, m.get0 k = 0) (k : String) :
    (book.foldl (fun m entry => if mine entry.1 then m.modify 0 (fun _ => 0) entry.2 else m) m).get0 k
      = 0 := by
  induction book generalizing m with
  | nil => exact hm k
  | cons e es ih =>
    refine ih _ fun k' => ?_
    dsimp only
    split_ifs
    · unfold StdMap.get0
      rw [StdMap.find?_modify]
      split_ifs
      · rfl
      · exact hm k'
    · exact hm k'

/-- The map of zeros `listaccounts` starts from sums to `0`.
Source: `src/rpcwallet.cpp` l. 1247–1250
Kind: L -/
theorem total_foldl_zero (book : StdMap CBitcoinAddress String) (mine : CBitcoinAddress → Bool) :
    StdMap.total (book.foldl (fun (m : StdMap String Int) entry =>
      if mine entry.1 then m.modify 0 (fun _ => 0) entry.2 else m) []) = 0 := by
  suffices ∀ m : StdMap String Int, (∀ p ∈ m, p.2 = 0) → ∀ p ∈ book.foldl
      (fun (m : StdMap String Int) entry => if mine entry.1 then m.modify 0 (fun _ => 0) entry.2 else m) m,
      p.2 = 0 from
    List.sum_eq_zero fun x hx => by
      obtain ⟨p, hp, rfl⟩ := List.mem_map.mp hx
      exact this [] (by simp) p hp
  induction book with
  | nil => exact fun m hm => hm
  | cons e book ih =>
    intro m hm
    refine ih _ ?_
    dsimp only
    split_ifs
    · exact StdMap.modify_zero_values m e.2 hm
    · exact hm

/-- **What `listaccounts` reports for an account**: the sum of the updates to it.
Source: `src/rpcwallet.cpp` l. 1230–1285
Kind: L -/
theorem listaccounts_get0 (w : CWallet) (minconf : Option Int) (k : String) :
    (listaccounts w minconf).get0 k =
      (w.mapWallet.map fun wtx => deltaSum k (listaccountsTx w (minconf.getD 1) .MINE_SPENDABLE wtx)).sum +
        getAccountCreditDebit w k := by
  simp only [listaccounts, get0_foldl_add, get0_foldl_zero _ _ [] (fun _ => rfl), deltaSum_append,
    deltaSum_flatten, deltaSum_acentries, List.map_map, zero_add]
  rfl

/-- On a final transaction, the `listaccounts` tally of an account is its `GetAccountBalance`
part, except that the mature generated amount of `""` waits for `nMinDepth`.
Source: `src/rpcwallet.cpp` l. 554–565, 1253–1273
Kind: L -/
theorem deltaSum_listaccountsTx (w : CWallet) (k : String) (nMinDepth : Int) (filter : IsMineFilter)
    (wtx : CWalletTx) (hf : wtx.fFinal = true) :
    deltaSum k (listaccountsTx w nMinDepth filter wtx) = accountBalanceTx w k nMinDepth filter wtx -
      if k = "" ∧ wtx.nDepth < nMinDepth then (wtx.amounts filter).nGeneratedMature else 0 := by
  simp only [listaccountsTx, accountBalanceTx, getAccountAmounts, hf, Bool.not_true,
    Bool.false_eq_true, ↓reduceIte, List.cons_append, deltaSum_cons, deltaSum_append,
    apply_ite (deltaSum k), deltaSum_nil, deltaSum_map_credit, deltaSum_map_debit,
    @eq_comm _ (wtx.amounts filter).strSentAccount k, @eq_comm _ "" k]
  by_cases hd : nMinDepth ≤ wtx.nDepth
  · simp only [if_pos hd, show ¬ wtx.nDepth < nMinDepth by omega, and_false, if_false]
    split_ifs <;> omega
  · simp only [if_neg hd, show wtx.nDepth < nMinDepth by omega, and_true]
    split_ifs <;> omega

/-- Sums of sums and differences split.
Source: none: infrastructure
Kind: L -/
theorem sum_map_add_sub {α : Type} (l : List α) (f g h : α → Int) :
    (l.map fun x => f x + g x - h x).sum = (l.map f).sum + (l.map g).sum - (l.map h).sum := by
  induction l with
  | nil => rfl
  | cons x l ih => simp only [List.map_cons, List.sum_cons, ih]; omega

/-- **`listaccounts` is not `getbalance`.** The value `listaccounts` reports for an account is its
`GetAccountBalance(…, MINE_SPENDABLE)`, plus the tally of the non-final transactions, minus, for
`""`, the mature generated amount of the final transactions below `nMinDepth`.
Source: `src/rpcwallet.cpp` l. 549–572, 1230–1285
Kind: T -/
theorem listaccounts_balance (w : CWallet) (minconf : Option Int) {k : String} {b : Int}
    (h : (listaccounts w minconf).find? k = some b) :
    b = getAccountBalance w k (minconf.getD 1) .MINE_SPENDABLE +
      (w.mapWallet.map fun wtx => if wtx.fFinal then 0
        else deltaSum k (listaccountsTx w (minconf.getD 1) .MINE_SPENDABLE wtx)).sum -
      (w.mapWallet.map fun wtx => if k = "" ∧ wtx.fFinal ∧ wtx.nDepth < minconf.getD 1 then
        (wtx.amounts .MINE_SPENDABLE).nGeneratedMature else 0).sum := by
  have hb : b = (listaccounts w minconf).get0 k := by simp [StdMap.get0, h]
  have htx : ∀ wtx : CWalletTx, deltaSum k (listaccountsTx w (minconf.getD 1) .MINE_SPENDABLE wtx) =
      accountBalanceTx w k (minconf.getD 1) .MINE_SPENDABLE wtx +
        (if wtx.fFinal then 0 else deltaSum k (listaccountsTx w (minconf.getD 1) .MINE_SPENDABLE wtx)) -
        (if k = "" ∧ wtx.fFinal ∧ wtx.nDepth < minconf.getD 1 then
          (wtx.amounts .MINE_SPENDABLE).nGeneratedMature else 0) := by
    intro wtx
    cases hf : wtx.fFinal
    · simp [accountBalanceTx, hf]
    · rw [deltaSum_listaccountsTx w k _ _ wtx hf]; simp
  rw [hb, listaccounts_get0, List.map_congr_left fun wtx _ => htx wtx, sum_map_add_sub,
    getAccountBalance]
  omega

/-- A wallet with one non-final transaction, one block deep, paying 5 to the address `"x"`, which
is mine and labelled `"A"`.
Source: none: a sample wallet
Kind: D -/
def nonfinalPayment : CWallet :=
  ⟨[⟨0, false, false, 1, false, false, 0, false, [], fun _ => ⟨0, 0, [("x", 5)], [], 0, ""⟩⟩],
    [("x", "A")], by decide, fun _ => true, fun _ => false, fun _ => none, fun _ => none, 0, [], 0⟩

/-- On `nonfinalPayment`, `listaccounts` reports the non-final payment to `"A"` as its tally.
Source: `src/rpcwallet.cpp` l. 549–572, 1230–1285
Kind: W -/
theorem listaccounts_balance_nonfinal :
    (5 : Int) = getAccountBalance nonfinalPayment "A" 1 .MINE_SPENDABLE +
      (nonfinalPayment.mapWallet.map fun wtx => if wtx.fFinal then 0
        else deltaSum "A" (listaccountsTx nonfinalPayment 1 .MINE_SPENDABLE wtx)).sum -
      (nonfinalPayment.mapWallet.map fun wtx => if "A" = "" ∧ wtx.fFinal ∧ wtx.nDepth < 1 then
        (wtx.amounts .MINE_SPENDABLE).nGeneratedMature else 0).sum :=
  listaccounts_balance nonfinalPayment none (by decide)

/-- On `nonfinalPayment`, `listaccounts` reports 5 for `"A"` and `getbalance("A")` is 0.
Source: `src/rpcwallet.cpp` l. 549–572, 1230–1285
Kind: W -/
theorem listaccounts_nonfinal :
    (listaccounts nonfinalPayment none).find? "A" = some 5 ∧
      getAccountBalance nonfinalPayment "A" 1 .MINE_SPENDABLE = 0 := by
  decide

/-! ## `getbalance "*"` and the total of `listaccounts` -/

/-- The sum of every accounting entry.
Source: none: infrastructure
Kind: D -/
def creditDebitTotal (w : CWallet) : Int := (w.acentries.map (·.nCreditDebit)).sum

/-- The updates of one wallet transaction sum to its received and mature generated amounts at
`nMinDepth`, less its sends and its fee.
Source: `src/rpcwallet.cpp` l. 1261–1272
Kind: L -/
theorem sum_listaccountsTx (w : CWallet) (nMinDepth : Int) (filter : IsMineFilter) (wtx : CWalletTx) :
    ((listaccountsTx w nMinDepth filter wtx).map Prod.snd).sum =
      (if nMinDepth ≤ wtx.nDepth then (wtx.amounts filter).nGeneratedMature +
        ((wtx.amounts filter).listReceived.map Prod.snd).sum else 0) -
      ((wtx.amounts filter).listSent.map Prod.snd).sum - (wtx.amounts filter).nFee := by
  have hr : ∀ (l : List (CBitcoinAddress × Int)) (g : CBitcoinAddress → String),
      ((l.map fun r => (g r.1, r.2)).map Prod.snd).sum = (l.map Prod.snd).sum := fun l g => by
    rw [List.map_map]; rfl
  have hs : ∀ (l : List (CBitcoinAddress × Int)) (a : String),
      ((l.map fun s => (a, -s.2)).map Prod.snd).sum = -(l.map Prod.snd).sum := fun l a => by
    rw [List.map_map, List.sum_neg, List.map_map]; rfl
  simp only [listaccountsTx, List.cons_append, List.map_cons, List.sum_cons, List.map_append,
    List.sum_append, hr, hs, apply_ite (List.map Prod.snd), apply_ite List.sum, List.map_nil,
    List.sum_nil]
  split_ifs <;> omega

/-- The total of `listaccounts`: the updates of every wallet transaction and every accounting entry.
Source: `src/rpcwallet.cpp` l. 1230–1285
Kind: L -/
theorem listaccounts_total (w : CWallet) (minconf : Option Int) :
    (listaccounts w minconf).total =
      (w.mapWallet.map fun wtx => ((listaccountsTx w (minconf.getD 1) .MINE_SPENDABLE wtx).map
        Prod.snd).sum).sum + creditDebitTotal w := by
  simp only [listaccounts, total_foldl_add, total_foldl_zero, List.map_append, List.sum_append,
    List.map_flatten, List.sum_flatten, List.map_map, Function.comp_def, creditDebitTotal, Int.zero_add]

/-- **`getbalance "*"` is the total of `listaccounts` less the accounting entries.** When every
wallet transaction is trusted and `minconf` deep, `getbalance("*", minconf)` is the sum of the
balances `listaccounts(minconf)` reports, less the sum of the accounting entries (which every
`move` keeps).
Source: `src/rpcwallet.cpp` l. 581–637, 1230–1285
Kind: T -/
theorem getbalance_all_eq_listaccounts (w : CWallet) (minconf : Option Int)
    (htrusted : ∀ wtx ∈ w.mapWallet, wtx.fTrusted = true)
    (hdeep : ∀ wtx ∈ w.mapWallet, minconf.getD 1 ≤ wtx.nDepth) :
    getbalance w (some "*") minconf none = .ok ((listaccounts w minconf).total - creditDebitTotal w) := by
  rw [listaccounts_total, Int.add_sub_cancel]
  simp only [getbalance, Option.getD_none, Bool.false_eq_true, ↓reduceIte, List.filter_eq_self.mpr htrusted]
  refine congrArg (fun l : List Int => Except.ok l.sum) (List.map_congr_left fun wtx hw => ?_)
  rw [sum_listaccountsTx, if_pos (hdeep wtx hw), if_pos (hdeep wtx hw)]
  omega

/-- A wallet with one final, trusted transaction, six blocks deep, paying 5 to the address `"x"`
(mine, labelled `"A"`) and sending 2 with a fee of 1 from `""`; and a move of 3 from `"A"` to
`"B"`.
Source: none: a sample wallet
Kind: D -/
def confirmedPayment : CWallet :=
  ⟨[⟨0, true, true, 6, false, false, 0, false, [], fun _ => ⟨0, 0, [("x", 5)], [("y", 2)], 1, ""⟩⟩],
    [("x", "A")], by decide, fun a => a = "x", fun _ => false, fun _ => none, fun _ => none, 0,
    [⟨"A", -3, 0, "B", "", 0⟩, ⟨"B", 3, 0, "A", "", 1⟩], 2⟩

/-- On `confirmedPayment`, `getbalance("*")` is the total of `listaccounts`.
Source: `src/rpcwallet.cpp` l. 581–637, 1230–1285
Kind: W -/
theorem getbalance_all_eq_listaccounts_confirmed :
    getbalance confirmedPayment (some "*") none none =
      .ok ((listaccounts confirmedPayment none).total - creditDebitTotal confirmedPayment) :=
  getbalance_all_eq_listaccounts confirmedPayment none (by decide) (by decide)

/-! ## `move` -/

/-- What the wallet database does with one `move`: whether `TxnBegin` and `TxnCommit` succeed.
Source: `src/rpcwallet.cpp` l. 662–663, 689–690
Kind: D -/
structure DbOutcome where
  txnBegin : Bool
  txnCommit : Bool
  deriving DecidableEq, Repr

/-- `move <fromaccount> <toaccount> <amount> [minconf=1] [comment]` at time `nNow`: a debit of the
amount from `fromaccount` and a credit to `toaccount`, each taking the next order position, written
in one database transaction.
Source: `src/rpcwallet.cpp` l. 640–691
Kind: D
Fidelity: exact (the amount as `AmountFromValue` returns it; `minconf` is only type-checked by
the source and is left out) -/
def movecmd (nMinimumInputValue : Int) (w : CWallet) (fromAccount toAccount : String) (nAmount : Int)
    (comment : Option String) (nNow : Int) (db : DbOutcome) : Except RPCError Bool × CWallet :=
  match accountFromValue fromAccount, accountFromValue toAccount with
  | .error e, _ => (.error e, w)
  | .ok _, .error e => (.error e, w)
  | .ok strFrom, .ok strTo =>
    if nAmount < nMinimumInputValue then (.error (.json (.code (-101)) "Send amount too small"), w)
    else if !db.txnBegin then (.error (.json .RPC_DATABASE_ERROR "database error"), w)
    else
      let strComment := comment.getD ""
      let debit : CAccountingEntry :=
        ⟨strFrom, -nAmount, nNow, strTo, strComment, w.nOrderPosNext⟩
      let credit : CAccountingEntry :=
        ⟨strTo, nAmount, nNow, strFrom, strComment, w.nOrderPosNext + 1⟩
      if !db.txnCommit then
        (.error (.json .RPC_DATABASE_ERROR "database error"),
          { w with nOrderPosNext := w.nOrderPosNext + 2 })
      else
        (.ok true, { w with
          nOrderPosNext := w.nOrderPosNext + 2
          acentries := w.acentries ++ [debit, credit] })

/-- One `move` call: its arguments, its time and what the database does.
Source: `src/rpcwallet.cpp` l. 640–691
Kind: D -/
structure MoveCall where
  fromAccount : String
  toAccount : String
  nAmount : Int
  comment : Option String
  nNow : Int
  db : DbOutcome

/-- The call on a wallet.
Source: `src/rpcwallet.cpp` l. 640–691
Kind: D -/
def MoveCall.run (nMinimumInputValue : Int) (c : MoveCall) (w : CWallet) :
    Except RPCError Bool × CWallet :=
  movecmd nMinimumInputValue w c.fromAccount c.toAccount c.nAmount c.comment c.nNow c.db

/-- Whether the call commits: both accounts valid, the amount large enough, and both database
steps succeed. It does not depend on the wallet.
Source: `src/rpcwallet.cpp` l. 647–690
Kind: D -/
def MoveCall.commits (nMinimumInputValue : Int) (c : MoveCall) : Bool :=
  c.fromAccount != "*" && c.toAccount != "*" && decide (nMinimumInputValue ≤ c.nAmount) &&
    c.db.txnBegin && c.db.txnCommit

/-- The two entries a committed call writes on a wallet.
Source: `src/rpcwallet.cpp` l. 667–687
Kind: D -/
def MoveCall.entries (c : MoveCall) (w : CWallet) : List CAccountingEntry :=
  [⟨c.fromAccount, -c.nAmount, c.nNow, c.toAccount, c.comment.getD "", w.nOrderPosNext⟩,
    ⟨c.toAccount, c.nAmount, c.nNow, c.fromAccount, c.comment.getD "", w.nOrderPosNext + 1⟩]

/-- A sequence of `move` calls.
Source: none: infrastructure
Kind: D -/
def moveRun (nMinimumInputValue : Int) (w : CWallet) : List MoveCall → CWallet
  | [] => w
  | c :: cs => moveRun nMinimumInputValue (c.run nMinimumInputValue w).2 cs

/-- How a call moves an account's balance: `+X` for the destination, `−X` for the source, when it
commits.
Source: none: infrastructure
Kind: D -/
def MoveCall.delta (nMinimumInputValue : Int) (k : String) (c : MoveCall) : Int :=
  if c.commits nMinimumInputValue then
    (if k = c.toAccount then c.nAmount else 0) - (if k = c.fromAccount then c.nAmount else 0)
  else 0

section Move

variable (nMinimumInputValue : Int) (c : MoveCall) (w : CWallet)

/-- **What a call writes**: the wallet after it is the wallet with its two entries when it
commits, with only `nOrderPosNext` advanced when the commit fails, and unchanged otherwise.
Source: `src/rpcwallet.cpp` l. 640–691
Kind: L -/
theorem MoveCall.run_eq : (c.run nMinimumInputValue w).2 =
    if c.commits nMinimumInputValue then
      { w with nOrderPosNext := w.nOrderPosNext + 2, acentries := w.acentries ++ c.entries w }
    else if c.fromAccount ≠ "*" ∧ c.toAccount ≠ "*" ∧ nMinimumInputValue ≤ c.nAmount ∧
        c.db.txnBegin then { w with nOrderPosNext := w.nOrderPosNext + 2 }
    else w := by
  unfold MoveCall.run movecmd MoveCall.commits accountFromValue
  by_cases hf : c.fromAccount = "*"
  · simp [hf]
  by_cases ht : c.toAccount = "*"
  · simp [hf, ht]
  by_cases ha : c.nAmount < nMinimumInputValue
  · simp [hf, ht, ha, Int.not_le.mpr ha]
  · cases hb : c.db.txnBegin <;> cases hc : c.db.txnCommit <;>
      simp [ha, hb, hc, hf, ht, Int.not_lt.mp ha, MoveCall.entries]

/-- A call changes neither the transactions nor the address book nor ownership.
Source: `src/rpcwallet.cpp` l. 640–691
Kind: L -/
theorem MoveCall.run_frame : (c.run nMinimumInputValue w).2.mapWallet = w.mapWallet ∧
    (c.run nMinimumInputValue w).2.mapAddressBook = w.mapAddressBook ∧
    (c.run nMinimumInputValue w).2.isMine = w.isMine := by
  rw [MoveCall.run_eq]; split_ifs <;> exact ⟨rfl, rfl, rfl⟩

/-- A call appends its two entries when it commits, and none otherwise.
Source: `src/rpcwallet.cpp` l. 640–691
Kind: L -/
theorem MoveCall.run_acentries : (c.run nMinimumInputValue w).2.acentries =
    w.acentries ++ if c.commits nMinimumInputValue then c.entries w else [] := by
  rw [MoveCall.run_eq]; split_ifs <;> simp

end Move

/-- The per-transaction part of a balance reads the wallet only through its address book.
Source: none: infrastructure
Kind: L -/
theorem accountBalanceTx_congr {w w' : CWallet} (h : w'.mapAddressBook = w.mapAddressBook) :
    accountBalanceTx w' = accountBalanceTx w := by
  funext k m f wtx
  simp only [accountBalanceTx, getAccountAmounts, CWallet.accountOf, h]

@[inherit_doc accountBalanceTx_congr]
theorem listaccountsTx_congr {w w' : CWallet} (h : w'.mapAddressBook = w.mapAddressBook) :
    listaccountsTx w' = listaccountsTx w := by
  funext m f wtx
  simp only [listaccountsTx, CWallet.accountOf, h]

/-- The sum of the two entries of a call for one account.
Source: none: infrastructure
Kind: L -/
theorem creditDebit_entries (c : MoveCall) (w : CWallet) (k : String) :
    ((c.entries w |>.filter (·.strAccount = k)).map (·.nCreditDebit)).sum =
      (if k = c.toAccount then c.nAmount else 0) - (if k = c.fromAccount then c.nAmount else 0) := by
  unfold MoveCall.entries
  by_cases hf : c.fromAccount = k <;> by_cases ht : c.toAccount = k <;>
    simp [List.filter_cons, hf, ht, Ne.symm, eq_comm]

/-- A call moves every account's `GetAccountBalance` by its delta.
Source: `src/rpcwallet.cpp` l. 549–572, 640–691
Kind: L -/
theorem getAccountBalance_run (nMinimumInputValue : Int) (c : MoveCall) (w : CWallet) (k : String)
    (nMinDepth : Int) (filter : IsMineFilter) :
    getAccountBalance (c.run nMinimumInputValue w).2 k nMinDepth filter =
      getAccountBalance w k nMinDepth filter + c.delta nMinimumInputValue k := by
  obtain ⟨hw, hb, -⟩ := c.run_frame nMinimumInputValue w
  simp only [getAccountBalance, accountBalanceTx_congr hb, hw, getAccountCreditDebit,
    c.run_acentries, List.filter_append, List.map_append, List.sum_append, MoveCall.delta]
  by_cases hc : c.commits nMinimumInputValue
  · simp only [hc, ↓reduceIte, creditDebit_entries]; omega
  · simp [hc]

/-- A call keeps the sum of the accounting entries.
Source: `src/rpcwallet.cpp` l. 640–691
Kind: L -/
theorem creditDebitTotal_run (nMinimumInputValue : Int) (c : MoveCall) (w : CWallet) :
    creditDebitTotal (c.run nMinimumInputValue w).2 = creditDebitTotal w := by
  simp only [creditDebitTotal, c.run_acentries, List.map_append, List.sum_append]
  split_ifs <;> simp [MoveCall.entries]

/-- A call keeps the total of `listaccounts`.
Source: `src/rpcwallet.cpp` l. 640–691, 1230–1285
Kind: L -/
theorem listaccounts_total_run (nMinimumInputValue : Int) (c : MoveCall) (w : CWallet)
    (minconf : Option Int) :
    (listaccounts (c.run nMinimumInputValue w).2 minconf).total = (listaccounts w minconf).total := by
  obtain ⟨hw, hb, hm⟩ := c.run_frame nMinimumInputValue w
  simp only [listaccounts, total_foldl_add, listaccountsTx_congr hb, hw, hb, hm, c.run_acentries,
    List.map_append, List.sum_append, List.map_map]
  split_ifs <;> simp [MoveCall.entries, Function.comp_def]

/-- **`move` conserves.** A call appends exactly its debit and credit when it commits and nothing
otherwise; over any sequence of calls the sum of the accounting entries and the total of
`listaccounts` are unchanged, and each account's `GetAccountBalance` moves by the committed
amounts: `+X` into the destination, `−X` out of the source.
Source: `src/rpcwallet.cpp` l. 549–572, 640–691, 1230–1285
Kind: T -/
theorem move_conserves_balances (nMinimumInputValue : Int) (w : CWallet) (calls : List MoveCall) :
    (∀ c : MoveCall, (c.run nMinimumInputValue w).2.acentries =
      w.acentries ++ if c.commits nMinimumInputValue then c.entries w else []) ∧
    creditDebitTotal (moveRun nMinimumInputValue w calls) = creditDebitTotal w ∧
    (∀ minconf, (listaccounts (moveRun nMinimumInputValue w calls) minconf).total =
      (listaccounts w minconf).total) ∧
    ∀ k nMinDepth filter, getAccountBalance (moveRun nMinimumInputValue w calls) k nMinDepth filter =
      getAccountBalance w k nMinDepth filter + (calls.map (MoveCall.delta nMinimumInputValue k)).sum := by
  refine ⟨fun c => c.run_acentries nMinimumInputValue w, ?_⟩
  induction calls generalizing w with
  | nil => exact ⟨rfl, fun _ => rfl, fun _ _ _ => by simp [moveRun]⟩
  | cons c cs ih =>
    obtain ⟨h1, h2, h3⟩ := ih (c.run nMinimumInputValue w).2
    refine ⟨h1.trans (creditDebitTotal_run _ c w), fun m => (h2 m).trans (listaccounts_total_run _ c w m),
      fun k m f => ?_⟩
    simp only [moveRun, h3, getAccountBalance_run, List.map_cons, List.sum_cons]
    omega

/-- **A move and its reverse restore every balance.** `move(a → b, X)` then `move(b → a, X)`, both
committed, leave every account's `GetAccountBalance` as it was.
Source: `src/rpcwallet.cpp` l. 549–572, 640–691
Kind: L -/
theorem move_round_trip (nMinimumInputValue : Int) (w : CWallet) (c c' : MoveCall)
    (hc : c.commits nMinimumInputValue) (hc' : c'.commits nMinimumInputValue)
    (hfrom : c'.fromAccount = c.toAccount) (hto : c'.toAccount = c.fromAccount)
    (hamt : c'.nAmount = c.nAmount) (k : String) (nMinDepth : Int) (filter : IsMineFilter) :
    getAccountBalance (moveRun nMinimumInputValue w [c, c']) k nMinDepth filter =
      getAccountBalance w k nMinDepth filter := by
  simp only [moveRun, getAccountBalance_run, MoveCall.delta, hc, hc', ↓reduceIte, hfrom, hto, hamt]
  omega

end FortyTwo.Wallet
