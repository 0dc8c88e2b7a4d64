import FortyTwo.Wallet.Basic

/-!
# `rpcwallet.cpp` · AddressBook: the receiving addresses of accounts

* **The state** (`BookState`): the wallet, the `CAccount` records of the wallet database (an
  account's current receiving key, by its address) and the key pool.
* **The calls**: `getnewaddress` labels the next pool key with an account; `GetAccountAddress`
  (`getAccountAddress`) returns an account's current key, and takes the next pool key instead when
  the account has none, when its key has received a payment, or when forced
  (`renewAccountKey`); `setaccount` relabels an address, after giving its old account a new key
  when the address was that account's unused current key (`retireAccountKey`); `getaccount` and
  `getaddressesbyaccount` read the labels. A call that throws keeps what it changed before the
  throw, as the C++ exception does.
* **The invariant** (`BookInv`): every account's current key is labelled with that account, the
  pool holds no key twice, and no pool key is an account's current key. Every call and every
  incoming payment keeps it (`BookCall.run_inv`), and so does every run (`runCalls_inv`).
  `setaccount` keeps it because of its retiring step: the address it relabels is no account's
  current key afterwards (`retireAccountKey_not_current`).
* **What `getaccountaddress` returns** (`getaccountaddress_labelled`): after any run of calls and
  payments from a state with the invariant, a successful `getaccountaddress(account)` returns the
  account's current key, and the address book labels it with the account: `getaddressesbyaccount`
  lists it and `getaccount` reports the account for it.

`GetKeyFromPool` and `SetAddressBookName` are in `wallet.cpp`, not in the sources. The pool is the
sequence of keys the wallet hands out, `TopUpKeyPool` refilling it out of view; running out is the
pool being empty. A key stands for its address, `CBitcoinAddress(key.GetID())`, and the script its
payments go to (`CScript::SetDestination`) is the parameter `scriptFor`.
-/

namespace FortyTwo.Wallet

/-! ## The state -/

/-- Modelled from the spec: `SetAddressBookName(address, strName)` (`wallet.cpp`, not in the
sources) writes the label, `mapAddressBook[address] = strName` ("added to address book", §6).
Source: `src/rpcwallet.cpp` l. 138, 171, 224
Kind: D -/
def CWallet.setAddressBookName (w : CWallet) (address : CBitcoinAddress) (strName : String) :
    CWallet :=
  { w with
    mapAddressBook := w.mapAddressBook.modify "" (fun _ => strName) address
    book_nodup := StdMap.nodup_keys_modify _ _ _ _ w.book_nodup }

/-- The label of an address after `SetAddressBookName`.
Source: none: infrastructure
Kind: L -/
@[simp]
theorem CWallet.setAddressBookName_find? (w : CWallet) (address a : CBitcoinAddress)
    (strName : String) : (w.setAddressBookName address strName).mapAddressBook.find? a =
      if a = address then some strName else w.mapAddressBook.find? a := by
  simp [setAddressBookName, StdMap.find?_modify]

/-- The wallet state the address-book calls read and write.
Source: `src/rpcwallet.cpp` l. 115–270
Kind: D -/
structure BookState where
  wallet : CWallet
  /-- The `CAccount` records of the wallet database: an account's current key, by its address.
  An account without a record reads as an invalid key. -/
  accounts : StdMap String CBitcoinAddress
  /-- The keys `GetKeyFromPool` hands out, in order. -/
  keypool : List CBitcoinAddress

/-- `JSONRPCError(RPC_WALLET_KEYPOOL_RAN_OUT, …)`.
Source: `src/rpcwallet.cpp` l. 135, 170
Kind: D -/
def keypoolRanOut : RPCError :=
  .json .RPC_WALLET_KEYPOOL_RAN_OUT "Error: Keypool ran out, please call keypoolrefill first"

/-! ## The calls -/

section Calls

variable (scriptFor : CBitcoinAddress → CScript) (isValid : CBitcoinAddress → Bool)

/-- Whether a key has received a payment: an output of `mapWallet` pays its script.
Source: `src/rpcwallet.cpp` l. 151–163
Kind: D
Fidelity: exact -/
def keyUsed (w : CWallet) (vchPubKey : CBitcoinAddress) : Bool :=
  w.mapWallet.any fun wtx => wtx.vout.any fun txout => txout.scriptPubKey = scriptFor vchPubKey

/-- The new-key branch of `GetAccountAddress`: the next pool key becomes the account's current key
(`WriteAccount`), labelled with the account.
Source: `src/rpcwallet.cpp` l. 166–173
Kind: D
Fidelity: exact -/
def renewAccountKey (s : BookState) (strAccount : String) :
    Except RPCError CBitcoinAddress × BookState :=
  match s.keypool with
  | [] => (.error keypoolRanOut, s)
  | vchPubKey :: pool =>
    (.ok vchPubKey, ⟨s.wallet.setAddressBookName vchPubKey strAccount,
      s.accounts.modify vchPubKey (fun _ => vchPubKey) strAccount, pool⟩)

/-- `GetAccountAddress(strAccount, bForceNew)`: the account's current key, renewed when there is
none, when it has received a payment, or when `bForceNew`.
Source: `src/rpcwallet.cpp` l. 143–176
Kind: D
Fidelity: exact -/
def getAccountAddress (s : BookState) (strAccount : String) (bForceNew : Bool) :
    Except RPCError CBitcoinAddress × BookState :=
  match s.accounts.find? strAccount with
  | some vchPubKey =>
    if bForceNew || keyUsed scriptFor s.wallet vchPubKey then renewAccountKey s strAccount
    else (.ok vchPubKey, s)
  | none => renewAccountKey s strAccount

/-- `getnewaddress [account]`: the next pool key, labelled with the account (`""` by default).
Source: `src/rpcwallet.cpp` l. 115–140
Kind: D
Fidelity: exact (`TopUpKeyPool` is the pool's refill, out of view) -/
def getnewaddress (s : BookState) (account : Option String) :
    Except RPCError CBitcoinAddress × BookState :=
  match (account.map accountFromValue).getD (.ok "") with
  | .error e => (.error e, s)
  | .ok strAccount =>
    match s.keypool with
    | [] => (.error keypoolRanOut, s)
    | newKey :: pool =>
      (.ok newKey, { s with wallet := s.wallet.setAddressBookName newKey strAccount, keypool := pool })

/-- `getaccountaddress <account>`: `GetAccountAddress(strAccount)`.
Source: `src/rpcwallet.cpp` l. 182–197
Kind: D -/
def getaccountaddress (s : BookState) (account : String) :
    Except RPCError CBitcoinAddress × BookState :=
  match accountFromValue account with
  | .error e => (.error e, s)
  | .ok strAccount => getAccountAddress scriptFor s strAccount false

/-- The detection in `setaccount`: when the address is labelled and is its account's current key
(as `GetAccountAddress` reads it, which may itself renew it), the account is given a new key.
Source: `src/rpcwallet.cpp` l. 215–221
Kind: D
Fidelity: exact -/
def retireAccountKey (s : BookState) (address : CBitcoinAddress) : Except RPCError Unit × BookState :=
  match s.wallet.mapAddressBook.find? address with
  | none => (.ok (), s)
  | some strOldAccount =>
    match getAccountAddress scriptFor s strOldAccount false with
    | (.error e, s₁) => (.error e, s₁)
    | (.ok current, s₁) =>
      if address = current then
        match getAccountAddress scriptFor s₁ strOldAccount true with
        | (.error e, s₂) => (.error e, s₂)
        | (.ok _, s₂) => (.ok (), s₂)
      else (.ok (), s₁)

/-- `setaccount <address> [account]`: the address's label becomes the account (`""` by default).
Source: `src/rpcwallet.cpp` l. 201–227
Kind: D
Fidelity: exact (`isValid` is `CBitcoinAddress::IsValid`) -/
def setaccount (s : BookState) (address : CBitcoinAddress) (account : Option String) :
    Except RPCError Unit × BookState :=
  if !isValid address then (.error (.json .RPC_INVALID_ADDRESS_OR_KEY "Invalid 42 address"), s)
  else
    match (account.map accountFromValue).getD (.ok "") with
    | .error e => (.error e, s)
    | .ok strAccount =>
      match retireAccountKey scriptFor s address with
      | (.error e, s₁) => (.error e, s₁)
      | (.ok (), s₁) => (.ok (), { s₁ with wallet := s₁.wallet.setAddressBookName address strAccount })

/-- `getaccount <address>`: the address's label, `""` when it has none.
Source: `src/rpcwallet.cpp` l. 231–247
Kind: D
Fidelity: exact -/
def getaccount (w : CWallet) (address : CBitcoinAddress) : Except RPCError String :=
  if !isValid address then .error (.json .RPC_INVALID_ADDRESS_OR_KEY "Invalid 42 address")
  else .ok <| match w.mapAddressBook.find? address with
    | some strName => if strName = "" then "" else strName
    | none => ""

/-- `getaddressesbyaccount <account>`: the addresses labelled with the account.
Source: `src/rpcwallet.cpp` l. 250–268
Kind: D
Fidelity: exact -/
def getaddressesbyaccount (w : CWallet) (account : String) : Except RPCError (List CBitcoinAddress) :=
  (accountFromValue account).map fun strAccount =>
    (w.mapAddressBook.filter fun item => item.2 = strAccount).map Prod.fst

/-- The calls that change the address book, and a payment entering the wallet.
Source: `src/rpcwallet.cpp` l. 115–227
Kind: D -/
inductive BookCall where
  | getnewaddress (account : Option String)
  | getaccountaddress (account : String)
  | setaccount (address : CBitcoinAddress) (account : Option String)
  /-- A transaction enters `mapWallet`; it may pay any script. -/
  | payment (wtx : CWalletTx)

/-- The state a call leaves, whether it returned or threw.
Source: `src/rpcwallet.cpp` l. 115–227
Kind: D -/
def BookCall.run (s : BookState) : BookCall → BookState
  | .getnewaddress account => (FortyTwo.Wallet.getnewaddress s account).2
  | .getaccountaddress account => (FortyTwo.Wallet.getaccountaddress scriptFor s account).2
  | .setaccount address account =>
    (FortyTwo.Wallet.setaccount scriptFor isValid s address account).2
  | .payment wtx => { s with wallet := { s.wallet with mapWallet := s.wallet.mapWallet ++ [wtx] } }

/-- A run of calls.
Source: none: infrastructure
Kind: D -/
def runCalls (s : BookState) (calls : List BookCall) : BookState :=
  calls.foldl (BookCall.run scriptFor isValid) s

end Calls

/-! ## The invariant -/

/-- Every account's current key is labelled with the account; the pool holds no key twice and no
account's current key.
Source: `src/rpcwallet.cpp` l. 143–227
Kind: D -/
structure BookInv (s : BookState) : Prop where
  labelled : ∀ strAccount k, s.accounts.find? strAccount = some k →
    s.wallet.mapAddressBook.find? k = some strAccount
  pool_nodup : s.keypool.Nodup
  pool_unused : ∀ k ∈ s.keypool, ∀ strAccount, s.accounts.find? strAccount ≠ some k

section Invariant

variable (scriptFor : CBitcoinAddress → CScript) (isValid : CBitcoinAddress → Bool)

/-- What a renewal does: with an empty pool it throws and changes nothing; otherwise the first
pool key becomes the account's current key, labelled with the account.
Source: `src/rpcwallet.cpp` l. 166–173
Kind: L -/
theorem renewAccountKey_cases (s : BookState) (strAccount : String) :
    (s.keypool = [] ∧ renewAccountKey s strAccount = (.error keypoolRanOut, s)) ∨
    ∃ k pool, s.keypool = k :: pool ∧ renewAccountKey s strAccount =
      (.ok k, ⟨s.wallet.setAddressBookName k strAccount,
        s.accounts.modify k (fun _ => k) strAccount, pool⟩) := by
  unfold renewAccountKey
  split
  · exact .inl ⟨‹_›, rfl⟩
  · exact .inr ⟨_, _, ‹_›, rfl⟩

/-- What `GetAccountAddress` does: a renewal, or, unforced, the account's current key with
nothing changed.
Source: `src/rpcwallet.cpp` l. 143–176
Kind: L -/
theorem getAccountAddress_cases (s : BookState) (strAccount : String) (bForceNew : Bool) :
    getAccountAddress scriptFor s strAccount bForceNew = renewAccountKey s strAccount ∨
    ∃ k, s.accounts.find? strAccount = some k ∧ bForceNew = false ∧
      getAccountAddress scriptFor s strAccount bForceNew = (.ok k, s) := by
  unfold getAccountAddress
  cases hk : s.accounts.find? strAccount with
  | none => exact .inl rfl
  | some k =>
    cases hb : (bForceNew || keyUsed scriptFor s.wallet k)
    · exact .inr ⟨k, rfl, (Bool.or_eq_false_iff.mp hb).1, by simp [hb]⟩
    · exact .inl (by simp [hb])

/-- Forced, `GetAccountAddress` renews.
Source: `src/rpcwallet.cpp` l. 166
Kind: L -/
theorem getAccountAddress_force (s : BookState) (strAccount : String) :
    getAccountAddress scriptFor s strAccount true = renewAccountKey s strAccount := by
  rcases getAccountAddress_cases scriptFor s strAccount true with h | ⟨_, _, h, _⟩
  · exact h
  · cases h

/-- The key a renewal returns comes from the pool and is the account's current key after it.
Source: `src/rpcwallet.cpp` l. 166–173
Kind: L -/
theorem renewAccountKey_current {s s' : BookState} {strAccount : String} {k : CBitcoinAddress}
    (h : renewAccountKey s strAccount = (.ok k, s')) :
    s'.accounts.find? strAccount = some k ∧ k ∈ s.keypool := by
  rcases renewAccountKey_cases s strAccount with ⟨-, h'⟩ | ⟨k', pool, hp, h'⟩ <;> rw [h'] at h
  · cases h
  · cases h
    exact ⟨by simp [StdMap.find?_modify], hp ▸ List.mem_cons_self _ _⟩

/-- The key `GetAccountAddress` returns is the account's current key after it.
Source: `src/rpcwallet.cpp` l. 143–176
Kind: L -/
theorem getAccountAddress_current {s s' : BookState} {strAccount : String} {bForceNew : Bool}
    {k : CBitcoinAddress} (h : getAccountAddress scriptFor s strAccount bForceNew = (.ok k, s')) :
    s'.accounts.find? strAccount = some k := by
  rcases getAccountAddress_cases scriptFor s strAccount bForceNew with h' | ⟨k', hk', -, h'⟩ <;>
    rw [h'] at h
  · exact (renewAccountKey_current h).1
  · cases h; exact hk'

/-- `GetAccountAddress` labels only with the account it serves, so an address labelled with that
account stays so.
Source: `src/rpcwallet.cpp` l. 171
Kind: L -/
theorem getAccountAddress_label {s s' : BookState} {strAccount : String} {bForceNew : Bool}
    {r : Except RPCError CBitcoinAddress}
    (h : getAccountAddress scriptFor s strAccount bForceNew = (r, s')) {x : CBitcoinAddress}
    (hx : s.wallet.mapAddressBook.find? x = some strAccount) :
    s'.wallet.mapAddressBook.find? x = some strAccount := by
  rcases getAccountAddress_cases scriptFor s strAccount bForceNew with h' | ⟨_, _, _, h'⟩ <;>
    rw [h'] at h
  · rcases renewAccountKey_cases s strAccount with ⟨-, h''⟩ | ⟨k, pool, -, h''⟩ <;>
      rw [h''] at h <;> cases h
    · exact hx
    · simp only [CWallet.setAddressBookName_find?]
      split_ifs <;> simp [hx]
  · cases h; exact hx

variable {s : BookState}

/-- A renewal keeps the invariant.
Source: `src/rpcwallet.cpp` l. 166–173
Kind: L -/
theorem renewAccountKey_inv (hs : BookInv s) (strAccount : String) :
    BookInv (renewAccountKey s strAccount).2 := by
  rcases renewAccountKey_cases s strAccount with ⟨-, h⟩ | ⟨k, pool, hp, h⟩ <;> rw [h]
  · exact hs
  have hk : k ∈ s.keypool := hp ▸ List.mem_cons_self k pool
  have hnd := hs.pool_nodup
  rw [hp, List.nodup_cons] at hnd
  refine ⟨fun a k' h => ?_, hnd.2, fun k'' hk'' a h => ?_⟩
  · rw [StdMap.find?_modify] at h
    by_cases ha : a = strAccount
    · -- the renewed account: its new key, labelled with it
      rw [if_pos ha, Option.some.injEq] at h
      simp [← h, ha]
    · -- another account: its key is not the pool key, so its label stays
      rw [if_neg ha] at h
      have hne : k' ≠ k := fun e => hs.pool_unused k hk a (e ▸ h)
      simp [hne, hs.labelled a k' h]
  · rw [StdMap.find?_modify] at h
    split_ifs at h
    · exact hnd.1 (Option.some.inj h ▸ hk'')
    · exact hs.pool_unused k'' (hp ▸ List.mem_cons_of_mem k hk'') a h

/-- `GetAccountAddress` keeps the invariant.
Source: `src/rpcwallet.cpp` l. 143–176
Kind: L -/
theorem getAccountAddress_inv (hs : BookInv s) (strAccount : String) (bForceNew : Bool) :
    BookInv (getAccountAddress scriptFor s strAccount bForceNew).2 := by
  rcases getAccountAddress_cases scriptFor s strAccount bForceNew with h | ⟨_, _, _, h⟩ <;> rw [h]
  · exact renewAccountKey_inv hs strAccount
  · exact hs

/-- Under the invariant, an address labelled `old` that is not `old`'s current key is no
account's current key.
Source: none: infrastructure
Kind: L -/
theorem BookInv.not_current (hs : BookInv s) {address : CBitcoinAddress} {old : String}
    (hb : s.wallet.mapAddressBook.find? address = some old)
    (ho : s.accounts.find? old ≠ some address) (a : String) :
    s.accounts.find? a ≠ some address := fun ha => by
  have hl := hs.labelled a address ha
  rw [hb, Option.some.injEq] at hl
  subst hl
  exact ho ha

/-- **The retiring step.** After it returns, the address is no account's current key.
Source: `src/rpcwallet.cpp` l. 215–221
Kind: L -/
theorem retireAccountKey_not_current (hs : BookInv s) {address : CBitcoinAddress}
    (h : (retireAccountKey scriptFor s address).1 = .ok ()) (a : String) :
    (retireAccountKey scriptFor s address).2.accounts.find? a ≠ some address := by
  unfold retireAccountKey at h ⊢
  cases hb : s.wallet.mapAddressBook.find? address with
  | none =>
    -- an unlabelled address is no account's current key
    exact fun ha => by simpa [hb] using hs.labelled a address ha
  | some old =>
    simp only [hb] at h ⊢
    rcases h₁ : getAccountAddress scriptFor s old false with ⟨_ | current, s₁⟩ <;>
      simp only [h₁] at h ⊢
    · cases h
    have hs₁ : BookInv (getAccountAddress scriptFor s old false).2 :=
      getAccountAddress_inv scriptFor hs old false
    rw [h₁] at hs₁
    have hcur := getAccountAddress_current scriptFor h₁
    have hbook₁ := getAccountAddress_label scriptFor h₁ hb
    split_ifs at h ⊢ with hac
    · -- the address was the current key: the forced renewal replaces it
      rw [getAccountAddress_force] at h ⊢
      rcases h₂ : renewAccountKey s₁ old with ⟨_ | k₂, s₂⟩ <;> simp only [h₂] at h ⊢
      · cases h
      obtain ⟨hk₂, hpool⟩ := renewAccountKey_current h₂
      have hne : k₂ ≠ address := fun e => hs₁.pool_unused k₂ hpool old (by rw [hcur, ← hac, e])
      have hbook₂ :=
        getAccountAddress_label scriptFor ((getAccountAddress_force scriptFor s₁ old).trans h₂) hbook₁
      have hs₂ := renewAccountKey_inv hs₁ old
      rw [h₂] at hs₂
      exact hs₂.not_current hbook₂ (by rw [hk₂]; simpa using hne) a
    · exact hs₁.not_current hbook₁ (by rw [hcur]; simpa using Ne.symm hac) a

/-- The retiring step keeps the invariant, whether it returns or throws.
Source: `src/rpcwallet.cpp` l. 215–221
Kind: L -/
theorem retireAccountKey_inv (hs : BookInv s) (address : CBitcoinAddress) :
    BookInv (retireAccountKey scriptFor s address).2 := by
  unfold retireAccountKey
  cases s.wallet.mapAddressBook.find? address with
  | none => exact hs
  | some old =>
    have hs₁ : BookInv (getAccountAddress scriptFor s old false).2 :=
      getAccountAddress_inv scriptFor hs old false
    rcases h₁ : getAccountAddress scriptFor s old false with ⟨_ | current, s₁⟩ <;>
      rw [h₁] at hs₁ <;> simp only [h₁]
    · exact hs₁
    split_ifs
    · have hs₂ : BookInv (getAccountAddress scriptFor s₁ old true).2 :=
        getAccountAddress_inv scriptFor hs₁ old true
      rcases h₂ : getAccountAddress scriptFor s₁ old true with ⟨_ | _, s₂⟩ <;> rw [h₂] at hs₂ <;>
        exact hs₂
    · exact hs₁

/-- `getnewaddress` keeps the invariant: the key it labels is no account's current key.
Source: `src/rpcwallet.cpp` l. 115–140
Kind: L -/
theorem getnewaddress_inv (hs : BookInv s) (account : Option String) :
    BookInv (getnewaddress s account).2 := by
  unfold getnewaddress
  split
  · exact hs
  split
  · exact hs
  rename_i k pool hp
  have hk : k ∈ s.keypool := hp ▸ List.mem_cons_self k pool
  have hnd := hs.pool_nodup
  rw [hp, List.nodup_cons] at hnd
  refine ⟨fun a k' h => ?_, hnd.2,
    fun k'' hk'' => hs.pool_unused k'' (hp ▸ List.mem_cons_of_mem k hk'')⟩
  have hne : k' ≠ k := fun e => hs.pool_unused k hk a (e ▸ h)
  simp [hne, hs.labelled a k' h]

/-- `setaccount` keeps the invariant, whether it returns or throws.
Source: `src/rpcwallet.cpp` l. 201–227
Kind: L -/
theorem setaccount_inv (hs : BookInv s) (address : CBitcoinAddress) (account : Option String) :
    BookInv (setaccount scriptFor isValid s address account).2 := by
  unfold setaccount
  split_ifs
  · exact hs
  split
  · exact hs
  have hs₁ : BookInv (retireAccountKey scriptFor s address).2 :=
    retireAccountKey_inv scriptFor hs address
  have hnc : (retireAccountKey scriptFor s address).1 = .ok () → ∀ a,
      (retireAccountKey scriptFor s address).2.accounts.find? a ≠ some address :=
    retireAccountKey_not_current scriptFor hs
  rcases h₁ : retireAccountKey scriptFor s address with ⟨_ | _, s₁⟩ <;>
    rw [h₁] at hs₁ hnc <;> simp only [h₁]
  · exact hs₁
  -- the relabelled address is no account's current key
  refine ⟨fun a k h => ?_, hs₁.pool_nodup, hs₁.pool_unused⟩
  have hne : k ≠ address := fun e => hnc rfl a (e ▸ h)
  simp [hne, hs₁.labelled a k h]

/-- Every call and every payment keeps the invariant.
Source: `src/rpcwallet.cpp` l. 115–227
Kind: L -/
theorem BookCall.run_inv (hs : BookInv s) (c : BookCall) : BookInv (c.run scriptFor isValid s) := by
  cases c with
  | getnewaddress account => exact getnewaddress_inv hs account
  | getaccountaddress account =>
    simp only [BookCall.run, FortyTwo.Wallet.getaccountaddress]
    split
    · exact hs
    · exact getAccountAddress_inv scriptFor hs _ false
  | setaccount address account => exact setaccount_inv scriptFor isValid hs address account
  | payment wtx => exact ⟨hs.labelled, hs.pool_nodup, hs.pool_unused⟩

/-- **The invariant holds along every run.**
Source: `src/rpcwallet.cpp` l. 115–227
Kind: L -/
theorem runCalls_inv (hs : BookInv s) (calls : List BookCall) :
    BookInv (runCalls scriptFor isValid s calls) := by
  induction calls generalizing s with
  | nil => exact hs
  | cons c calls ih => exact ih (BookCall.run_inv scriptFor isValid hs c)

end Invariant

/-! ## What `getaccountaddress` returns -/

/-- `getaddressesbyaccount` lists every address labelled with the account.
Source: `src/rpcwallet.cpp` l. 250–268
Kind: L -/
theorem mem_getaddressesbyaccount {w : CWallet} {account : String} (h : account ≠ "*")
    {address : CBitcoinAddress} (hb : w.mapAddressBook.find? address = some account) :
    ∃ l, getaddressesbyaccount w account = .ok l ∧ address ∈ l :=
  ⟨(w.mapAddressBook.filter fun item => item.2 = account).map Prod.fst,
    by simp [getaddressesbyaccount, accountFromValue, h, Except.map],
    List.mem_map.mpr ⟨_, List.mem_filter.mpr ⟨StdMap.mem_of_find? hb, by simp⟩, rfl⟩⟩

/-- `getaccount` reports a valid address's label.
Source: `src/rpcwallet.cpp` l. 231–247
Kind: L -/
theorem getaccount_of_find? (isValid : CBitcoinAddress → Bool) {w : CWallet}
    {address : CBitcoinAddress} (hv : isValid address = true) {account : String}
    (hb : w.mapAddressBook.find? address = some account) :
    getaccount isValid w address = .ok account := by
  simp only [getaccount, hv, Bool.not_true, Bool.false_eq_true, ↓reduceIte, hb]
  split_ifs with he <;> simp [he]

/-- **`getaccountaddress` returns a key of the account.** From a state with the invariant, after
any run of address-book calls and incoming payments, a successful `getaccountaddress(account)`
leaves the invariant in place and returns the account's current key; the address book labels it
with the account, so `getaddressesbyaccount(account)` lists it and `getaccount` reports the
account for it.
Source: `src/rpcwallet.cpp` l. 115–268
Kind: T -/
theorem getaccountaddress_labelled (scriptFor : CBitcoinAddress → CScript)
    (isValid : CBitcoinAddress → Bool) (s : BookState) (hs : BookInv s) (calls : List BookCall)
    (account : String) {address : CBitcoinAddress} {s' : BookState}
    (h : getaccountaddress scriptFor (runCalls scriptFor isValid s calls) account = (.ok address, s')) :
    BookInv s' ∧ s'.accounts.find? account = some address ∧
      (∃ l, getaddressesbyaccount s'.wallet account = .ok l ∧ address ∈ l) ∧
      (isValid address = true → getaccount isValid s'.wallet address = .ok account) := by
  have hr := runCalls_inv scriptFor isValid hs calls
  unfold getaccountaddress at h
  split at h
  · cases h
  rename_i strAccount hacc
  obtain ⟨hstar, rfl⟩ := accountFromValue_eq_ok.mp hacc
  have hinv := getAccountAddress_inv scriptFor hr strAccount false
  rw [h] at hinv
  have hcur := getAccountAddress_current scriptFor h
  have hbook := hinv.labelled strAccount address hcur
  exact ⟨hinv, hcur, mem_getaddressesbyaccount hstar hbook,
    fun hv => getaccount_of_find? isValid hv hbook⟩

/-- An empty wallet whose key pool holds `"k1"` and `"k2"`.
Source: none: a sample state
Kind: D -/
def freshBook : BookState :=
  ⟨⟨[], [], List.nodup_nil, fun _ => true, fun _ => false, fun _ => none, fun _ => none, 0, [], 0⟩,
    [], ["k1", "k2"]⟩

/-- `freshBook` has the invariant.
Source: none: a sample state
Kind: L -/
theorem freshBook_inv : BookInv freshBook :=
  ⟨fun _ _ h => (by cases h), by decide, fun _ _ _ h => (by cases h)⟩

/-- On `freshBook`: `getaccountaddress("A")` takes `"k1"`; `setaccount("k1", "B")` finds it is
`"A"`'s unused current key and gives `"A"` the key `"k2"`; `getaccountaddress("A")` then returns
`"k2"`, labelled `"A"`.
Source: `src/rpcwallet.cpp` l. 115–268
Kind: W -/
theorem getaccountaddress_labelled_retired :
    let s' := (getaccountaddress (fun _ => []) (runCalls (fun _ => []) (fun _ => true) freshBook
      [.getaccountaddress "A", .setaccount "k1" (some "B")]) "A").2
    BookInv s' ∧ s'.accounts.find? "A" = some "k2" ∧
      (∃ l, getaddressesbyaccount s'.wallet "A" = .ok l ∧ "k2" ∈ l) ∧
      ((fun _ => true) "k2" = true → getaccount (fun _ => true) s'.wallet "k2" = .ok "A") :=
  getaccountaddress_labelled (fun _ => []) (fun _ => true) freshBook freshBook_inv
    [.getaccountaddress "A", .setaccount "k1" (some "B")] "A" (Prod.ext rfl rfl)

end FortyTwo.Wallet
