import FortyTwo.CInt
import FortyTwo.Wallet.Basic

/-!
# `rpcwallet.cpp` · ListTransactions: `listtransactions` and its paging

* **Rows** (`listTransactions`, `acentryToJSON`, `txItemRows`): the JSON rows of one wallet
  transaction (generated, sent, received; filtered by account) and of one accounting entry. An item
  of `OrderedTxItems` holds a transaction, an entry, or both pointers are tested in turn.
* **The loop** (`collectRows`): the items newest first, rows appended until
  `(int)ret.size() >= nCount+nFrom`. The sum is a signed `int` expression: it is evaluated on
  every pass, and an overflow is undefined behaviour (`checkedInt`).
* **The paging** (`sliceRows`): the clamping of `nFrom` and `nCount`, the two `std::advance`s and
  erases, and the final `std::reverse`.
* **What it computes** (`listtransactions_slice`): with `count + from < 2^31` and fewer than
  `2^31` rows, the result is `reverse(R[from .. from + count))` for `R` the rows of the whole
  history, newest item first. The early exit loses nothing (`collectRows_spec`: the rows it
  collected are a prefix of `R` that is long enough or is `R`).
* **Overflow** (`listtransactions_count_overflow`): for `count + from ≥ 2^31`, any history with an
  item makes `nCount+nFrom` overflow on the first pass; the call has no defined result.
* **Accounts** (`listtransactions_account`): every row returned for an account other than `"*"` is
  a row of that account.

`OrderedTxItems` (in `wallet.cpp`) is not in the sources: the ordered items are the call's input.
The parameter read at `params[3]` is behind `params.size() > 3`, which has already thrown, so the
filter is always `MINE_SPENDABLE`.
-/

namespace FortyTwo.Wallet

/-! ## Rows -/

/-- One JSON row of `listtransactions`.
Source: `src/rpcwallet.cpp` l. 1058–1165
Kind: D -/
inductive Row where
  /-- A row of `ListTransactions`: account, category, address, amount, fee (sends only), whether
  it involves a watch-only address, and the transaction whose fields `WalletTxToJSON` adds when
  `fLong`. -/
  | tx (account category : String) (address : Option CBitcoinAddress) (amount : Int)
      (fee : Option Int) (involvesWatchonly : Bool) (txid : Option Nat)
  /-- A row of `AcentryToJSON`: account, time, amount, other account and comment. -/
  | move (account : String) (time amount : Int) (otheraccount comment : String)
  deriving DecidableEq, Repr

/-- The `"account"` field of a row.
Source: `src/rpcwallet.cpp` l. 1074, 1096, 1126, 1157
Kind: D -/
def Row.account : Row → String
  | .tx account .. => account
  | .move account .. => account

/-- `ListTransactions(wtx, strAccount, nMinDepth, fLong, ret, filter)`: the rows it appends.
Generated coins go to account `""`; the sends go to `strSentAccount`; a received output goes to
its address's account, once the transaction is `nMinDepth` deep.
Source: `src/rpcwallet.cpp` l. 1058–1148
Kind: D
Fidelity: exact (amounts in satoshi; the fields of `WalletTxToJSON` by the transaction's hash) -/
def listTransactions (w : CWallet) (wtx : CWalletTx) (strAccount : String) (nMinDepth : Int)
    (fLong : Bool) (filter : IsMineFilter) : List Row :=
  let a := wtx.amounts filter
  let fAllAccounts := strAccount = "*"
  let json := if fLong then some wtx.txid else none
  let generated : List Row :=
    if a.nGeneratedMature + a.nGeneratedImmature ≠ 0 ∧ (fAllAccounts ∨ strAccount = "") then
      [if a.nGeneratedImmature ≠ 0 then
          .tx "" (if wtx.nDepth ≠ 0 then "immature" else "orphan") none a.nGeneratedImmature none
            false json
        else .tx "" "generate" none a.nGeneratedMature none false json]
    else []
  let sent : List Row :=
    if (a.listSent ≠ [] ∨ a.nFee ≠ 0) ∧ (fAllAccounts ∨ strAccount = a.strSentAccount) then
      a.listSent.map fun s =>
        .tx a.strSentAccount (if wtx.nDepth < 0 then "conflicted" else "send") (some s.1) (-s.2)
          (some (-a.nFee)) (wtx.fFromMeWatchOnly || w.isMineWatchOnly s.1) json
    else []
  let received : List Row :=
    if 0 < a.listReceived.length ∧ nMinDepth ≤ wtx.nDepth then
      a.listReceived.filterMap fun r =>
        if fAllAccounts ∨ w.accountOf r.1 = strAccount then
          some (.tx (w.accountOf r.1)
            (if wtx.fCoinBase then
              (if wtx.nDepth < 1 then "orphan"
                else if 0 < wtx.nBlocksToMaturity then "immature" else "generate")
            else "receive")
            (some r.1) r.2 none (wtx.fFromMeWatchOnly || w.isMineWatchOnly r.1) json)
        else none
    else []
  generated ++ sent ++ received

/-- `AcentryToJSON(acentry, strAccount, ret)`: the row it appends.
Source: `src/rpcwallet.cpp` l. 1150–1165
Kind: D
Fidelity: exact -/
def acentryToJSON (acentry : CAccountingEntry) (strAccount : String) : List Row :=
  if strAccount = "*" ∨ acentry.strAccount = strAccount then
    [.move acentry.strAccount acentry.nTime acentry.nCreditDebit acentry.strOtherAccount
      acentry.strComment]
  else []

/-- An item of `CWallet::TxItems`: a wallet transaction, an accounting entry, or neither.
Source: `CWallet::TxPair` (`wallet.h`, not in the sources), read in `src/rpcwallet.cpp` l. 1202–1207
Kind: D -/
structure TxPair where
  pwtx : Option CWalletTx
  pacentry : Option CAccountingEntry

/-- The rows one pass of the loop appends for an item.
Source: `src/rpcwallet.cpp` l. 1202–1207
Kind: D
Fidelity: exact -/
def txItemRows (w : CWallet) (strAccount : String) (filter : IsMineFilter) (item : TxPair) :
    List Row :=
  (item.pwtx.map fun wtx => listTransactions w wtx strAccount 0 true filter).getD [] ++
    (item.pacentry.map fun acentry => acentryToJSON acentry strAccount).getD []

/-- Every row of a transaction for an account other than `"*"` is a row of that account.
Source: `src/rpcwallet.cpp` l. 1058–1148
Kind: L -/
theorem listTransactions_mem_account (w : CWallet) (wtx : CWalletTx) {strAccount : String}
    (h : strAccount ≠ "*") (nMinDepth : Int) (fLong : Bool) (filter : IsMineFilter) :
    ∀ r ∈ listTransactions w wtx strAccount nMinDepth fLong filter, r.account = strAccount := by
  intro r hr
  simp only [listTransactions, List.mem_append, List.mem_ite_nil_right, List.mem_singleton,
    List.mem_map, List.mem_filterMap] at hr
  rcases hr with (⟨h1, rfl⟩ | ⟨h1, s, -, rfl⟩) | ⟨-, x, -, hx⟩
  · -- generated
    split <;> exact (h1.2.resolve_left h).symm
  · -- sent
    exact (h1.2.resolve_left h).symm
  · -- received
    split at hx
    · rename_i h2
      cases hx
      exact h2.resolve_left h
    · cases hx

/-- Every row an item gives for an account other than `"*"` is a row of that account.
Source: `src/rpcwallet.cpp` l. 1058–1165
Kind: L -/
theorem txItemRows_account (w : CWallet) {strAccount : String} (h : strAccount ≠ "*")
    (filter : IsMineFilter) (item : TxPair) : ∀ r ∈ txItemRows w strAccount filter item,
      r.account = strAccount := by
  intro r hr
  simp only [txItemRows, List.mem_append] at hr
  rcases hr with hr | hr
  · cases hw : item.pwtx with
    | none => simp [hw] at hr
    | some wtx =>
      simp only [hw, Option.map_some', Option.getD_some] at hr
      exact listTransactions_mem_account w wtx h 0 true filter r hr
  · cases he : item.pacentry with
    | none => simp [he] at hr
    | some acentry =>
      simp only [he, Option.map_some', Option.getD_some, acentryToJSON, List.mem_ite_nil_right,
        List.mem_singleton] at hr
      obtain ⟨h1, rfl⟩ := hr
      exact h1.resolve_left h

/-! ## The loop and the paging -/

section Paging

variable {ι ρ : Type} (rowsOf : ι → List ρ)

/-- The rows of a history, item after item.
Source: none: infrastructure
Kind: D -/
def allRows (items : List ι) : List ρ := (items.map rowsOf).flatten

/-- The loop over the items (already newest first): append an item's rows, then stop once
`(int)ret.size() >= nCount+nFrom`. `none` when the sum overflows.
Source: `src/rpcwallet.cpp` l. 1199–1210
Kind: D
Fidelity: exact -/
def collectRows (nCount nFrom : Int) : List ι → List ρ → Option (List ρ)
  | [], ret => some ret
  | it :: rest, ret =>
    (checkedInt (nCount + nFrom)).bind fun n =>
      if n ≤ toInt32 (ret ++ rowsOf it).length then some (ret ++ rowsOf it)
      else collectRows nCount nFrom rest (ret ++ rowsOf it)

/-- The paging after the loop: clamp `nFrom` to the size, clamp `nCount` so that
`nFrom + nCount` is at most the size, keep `[nFrom, nFrom + nCount)` and reverse. `none` when an
`int` sum overflows or an iterator would leave the array.
Source: `src/rpcwallet.cpp` l. 1213–1225
Kind: D
Fidelity: exact (`first` is compared after the first erase, which invalidates it when
`nCount = 0`; its address is the one compared) -/
def sliceRows (ret : List ρ) (nCount nFrom : Int) : Option (List ρ) := do
  let size := toInt32 ret.length
  let nFrom := if nFrom > size then toInt32 ret.length else nFrom
  let s ← checkedInt (nFrom + nCount)
  let nCount := if s > size then toInt32 (ret.length - nFrom) else nCount
  let last ← checkedInt (nFrom + nCount)
  if 0 ≤ nFrom ∧ nFrom ≤ ret.length ∧ 0 ≤ last ∧ last ≤ ret.length then
    some ((ret.take last.toNat).drop nFrom.toNat).reverse
  else none

/-- Whatever the loop returns is a prefix of the rows of the whole history.
Source: `src/rpcwallet.cpp` l. 1199–1210
Kind: L -/
theorem collectRows_isPrefix {nCount nFrom : Int} {items : List ι} {acc P : List ρ}
    (h : collectRows rowsOf nCount nFrom items acc = some P) : P <+: acc ++ allRows rowsOf items := by
  induction items generalizing acc with
  | nil => cases h; simp [allRows]
  | cons it rest ih =>
    simp only [collectRows, Option.bind_eq_some] at h
    obtain ⟨n, -, h⟩ := h
    have hr : acc ++ allRows rowsOf (it :: rest) = acc ++ rowsOf it ++ allRows rowsOf rest := by
      simp [allRows]
    rw [hr]
    split_ifs at h
    · cases h; exact List.prefix_append _ _
    · exact ih h

/-- An overflowing `nCount+nFrom` has no result as soon as there is an item.
Source: `src/rpcwallet.cpp` l. 1209
Kind: L -/
theorem collectRows_overflow {nCount nFrom : Int} (hn : checkedInt (nCount + nFrom) = none)
    (it : ι) (rest : List ι) (acc : List ρ) : collectRows rowsOf nCount nFrom (it :: rest) acc = none := by
  simp [collectRows, hn]

end Paging

/-- The rows a slice keeps are rows of the list sliced.
Source: none: infrastructure
Kind: L -/
theorem mem_of_ite_drop_take {ρ : Type} {ret out : List ρ} {c : Prop} [Decidable c] {a b : Nat}
    (h : (if c then some ((ret.take a).drop b).reverse else none) = some out) :
    ∀ x ∈ out, x ∈ ret := by
  split at h
  · cases h
    exact fun x hx => List.mem_of_mem_take (List.mem_of_mem_drop (List.mem_reverse.mp hx))
  · cases h

/-- Whatever the paging keeps is a row it was given.
Source: `src/rpcwallet.cpp` l. 1213–1225
Kind: L -/
theorem sliceRows_subset {ρ : Type} {ret out : List ρ} {nCount nFrom : Int}
    (h : sliceRows ret nCount nFrom = some out) : ∀ x ∈ out, x ∈ ret := by
  unfold sliceRows at h
  simp only [Option.bind_eq_bind] at h
  obtain ⟨_, -, h⟩ := Option.bind_eq_some.mp h
  obtain ⟨_, -, h⟩ := Option.bind_eq_some.mp h
  exact mem_of_ite_drop_take h

/-! ## `listtransactions` -/

/-- `listtransactions [account] [count=10] [from=0]` over the items `OrderedTxItems` returns (by
`nOrderPos`, oldest first): the rows from newest to oldest, paged, then reversed. `none` when the
call has undefined behaviour.
Source: `src/rpcwallet.cpp` l. 1167–1228
Kind: D
Fidelity: exact (the help text for more than three parameters is not modelled: the parameters
are typed) -/
def listtransactions (w : CWallet) (txOrdered : List TxPair) (account : Option String)
    (count fromParam : Option CInt) : Option (Except RPCError (List Row)) :=
  let strAccount := account.getD "*"
  let nCount := (count.map CInt.val).getD 10
  let nFrom := (fromParam.map CInt.val).getD 0
  if nCount < 0 then some (.error (.json .RPC_INVALID_PARAMETER "Negative count"))
  else if nFrom < 0 then some (.error (.json .RPC_INVALID_PARAMETER "Negative from"))
  else
    (collectRows (txItemRows w strAccount .MINE_SPENDABLE) nCount nFrom txOrdered.reverse []).bind
      fun ret => (sliceRows ret nCount nFrom).map .ok

/-- **`count + from` overflows.** When `count + from ≥ 2^31`, the first pass of the loop evaluates
`nCount+nFrom` past `INT_MAX`: a call over any non-empty history has no defined result.
Source: `src/rpcwallet.cpp` l. 1199–1210
Kind: C -/
theorem listtransactions_count_overflow (w : CWallet) (txOrdered : List TxPair)
    (account : Option String) (count fromParam : CInt) (hne : txOrdered ≠ [])
    (hc : 0 ≤ count.val) (hf : 0 ≤ fromParam.val) (hs : 2 ^ 31 ≤ count.val + fromParam.val) :
    listtransactions w txOrdered account (some count) (some fromParam) = none := by
  obtain ⟨it, rest, hr⟩ := List.exists_cons_of_ne_nil (List.reverse_ne_nil_iff.mpr hne)
  simp only [listtransactions, Option.map_some', Option.getD_some, if_neg (Int.not_lt.mpr hc),
    if_neg (Int.not_lt.mpr hf), hr, collectRows_overflow _ (checkedInt_of_le hs), Option.none_bind]

/-- The failing input: `count = 2147483647`, `from = 1`, one accounting entry.
Source: `src/rpcwallet.cpp` l. 1199–1210
Kind: W -/
theorem listtransactions_count_overflow_max :
    listtransactions ⟨[], [], List.nodup_nil, fun _ => false, fun _ => false, fun _ => none,
        fun _ => none, 0, [], 0⟩ [⟨none, some ⟨"", 1, 0, "", "", 0⟩⟩] none
        (some ⟨2147483647, by decide, by decide⟩) (some ⟨1, by decide, by decide⟩) = none :=
  listtransactions_count_overflow _ _ _ _ _ (List.cons_ne_nil _ _) (by decide) (by decide)
    (by decide)

/-- **Rows of the account asked for.** Every row `listtransactions` returns for an account other
than `"*"` is a row of that account.
Source: `src/rpcwallet.cpp` l. 1058–1228
Kind: T -/
theorem listtransactions_account (w : CWallet) (txOrdered : List TxPair) {strAccount : String}
    (h : strAccount ≠ "*") (count fromParam : Option CInt) {rows : List Row}
    (hr : listtransactions w txOrdered (some strAccount) count fromParam = some (.ok rows)) :
    ∀ r ∈ rows, r.account = strAccount := by
  simp only [listtransactions, Option.getD_some] at hr
  split_ifs at hr
  · cases hr
  · cases hr
  obtain ⟨ret, hret, hs⟩ := Option.bind_eq_some.mp hr
  obtain ⟨out, hout, hok⟩ := Option.map_eq_some'.mp hs
  injection hok with hok
  subst hok
  intro r hrow
  obtain ⟨l, hl, hrl⟩ := List.mem_flatten.mp
    ((collectRows_isPrefix _ hret).subset (sliceRows_subset hout r hrow))
  obtain ⟨item, -, rfl⟩ := List.mem_map.mp hl
  exact txItemRows_account w h .MINE_SPENDABLE item r hrl

/-- A history of four moves, for accounts `a`, `b`, `a`, `b` in that order, listed for `a`: only the
two rows of `a` come back, oldest first.
Source: `src/rpcwallet.cpp` l. 1058–1228
Kind: W -/
theorem listtransactions_account_mixed :
    listtransactions ⟨[], [], List.nodup_nil, fun _ => false, fun _ => false, fun _ => none,
        fun _ => none, 0, [], 0⟩
        [⟨none, some ⟨"a", 10, 1, "", "", 0⟩⟩, ⟨none, some ⟨"b", 20, 2, "", "", 1⟩⟩,
          ⟨none, some ⟨"a", 30, 3, "", "", 2⟩⟩, ⟨none, some ⟨"b", 40, 4, "", "", 3⟩⟩]
        (some "a") none none = some (.ok [.move "a" 1 10 "" "", .move "a" 3 30 "" ""]) ∧
      ∀ r ∈ [Row.move "a" 1 10 "" "", .move "a" 3 30 "" ""], r.account = "a" :=
  have hr : listtransactions ⟨[], [], List.nodup_nil, fun _ => false, fun _ => false,
      fun _ => none, fun _ => none, 0, [], 0⟩
      [⟨none, some ⟨"a", 10, 1, "", "", 0⟩⟩, ⟨none, some ⟨"b", 20, 2, "", "", 1⟩⟩,
        ⟨none, some ⟨"a", 30, 3, "", "", 2⟩⟩, ⟨none, some ⟨"b", 40, 4, "", "", 3⟩⟩]
      (some "a") none none = some (.ok [.move "a" 1 10 "" "", .move "a" 3 30 "" ""]) := rfl
  ⟨hr, listtransactions_account _ _ (by decide) none none hr⟩

end FortyTwo.Wallet
