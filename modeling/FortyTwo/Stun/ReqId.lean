import FortyTwo.Stun.Walk

/-!
# `stun.cpp` · ReqId: `stun_req_id` and its reads of the server table

* **The id** (`stunReqId`): four `GetRandInt` words masked with `0x55555555` (or, and, or, and),
  then twenty rounds, `x = 20 .. 1` (`reqIdRound`, `reqIdLoop`). Each round reads
  `S_block[(uint8_t)randfiller]`, the server table seen as `uint64_t` words, stirs the static
  `randfiller` with its rotation by 5 and `s_elm ^ x`, and xors a word into `req->id.id[x & 3]`.
* **Accesses** (`IdAccess`): each round reads one table word and writes one id word, in that
  order. `IdAccess.Inside N` says a read stays in the `sizeof(StunSrvList) = 48 N` bytes of a list
  of `N` servers (`8 (i + 1) ≤ 48 N`) and a write in the four words of the id.
* **What the indices can be** (`reqIdLoop_trace`): a read index is a byte, a write index is
  `x & 3 < 4`, whatever the table holds and whatever `randfiller` is.
* **Tables of at least 43 servers** (`stunReqId_in_bounds`): `8 · 256 ≤ 48 · 43`, so every access of
  every call stays inside. The shipped table has 893 servers.
* **Shorter tables** (`stunReqId_reads_past_table`): with `N` servers and a `randfiller` whose low
  byte is at least `6 N` (there is one for every `N ≤ 42`, three servers among them), the first
  access already reads past the table.

The table's bytes only reach the id and `randfiller`, never an index, so they are data: `sBlock i`
is what the read of word `i` returns, inside the table or not. `GetRandInt`'s four results are the
call's inputs.
-/

namespace FortyTwo.Stun

/-- `sizeof(StunSrv)`: `char name[46]` and a `uint16_t port`, 48 bytes with no padding.
Source: `src/stun.cpp` l. 52–55
Kind: D -/
def sizeofStunSrv : Nat := 48

/-- One access of `stun_req_id`: a read of `S_block[i]` or a write of `req->id.id[j]`.
Source: none: instrumentation
Kind: D -/
inductive IdAccess where
  | readSBlock (i : Nat)
  | writeId (j : Nat)
  deriving DecidableEq, Repr

/-- An access inside the objects it touches: a read inside the `sizeof(StunSrvList)` bytes of a list
of `N` servers, a write inside the four words of `struct stun_trans_id`.
Source: `src/stun.cpp` l. 52–55, 968; `struct stun_trans_id` (`ministun.h`, not in the sources)
Kind: D -/
def IdAccess.Inside (N : Nat) : IdAccess → Prop
  | .readSBlock i => 8 * (i + 1) ≤ sizeofStunSrv * N
  | .writeId j => j < 4

instance (N : Nat) : DecidablePred (IdAccess.Inside N) := fun e =>
  match e with
  | .readSBlock i => inferInstanceAs (Decidable (8 * (i + 1) ≤ sizeofStunSrv * N))
  | .writeId j => inferInstanceAs (Decidable (j < 4))

/-- What `stun_req_id` changes: the static `randfiller`, the four words of `req->id` and the
accesses made so far.
Source: `src/stun.cpp` l. 965–985
Kind: D -/
structure ReqIdState where
  randfiller : UInt64
  /-- `req->id.id[0 .. 3]`. -/
  id : List UInt32
  /-- Every access so far, oldest first. -/
  trace : List IdAccess

/-- One round with counter `x`: `s_elm` is `S_block[(uint8_t)randfiller]` cut to 32 bits, then
`randfiller ^= rotl5(randfiller)`, `randfiller += s_elm ^ x`, and `id[x & 3]` is xored with
`randfiller + (randfiller >> 13)`, cut to 32 bits.
Source: `src/stun.cpp` l. 978–983
Kind: D
Fidelity: exact (the table's words are data) -/
def reqIdRound (sBlock : Nat → UInt64) (x : Nat) (st : ReqIdState) : ReqIdState :=
  let i := st.randfiller.toUInt8.toNat
  let s_elm : UInt32 := (sBlock i).toUInt32
  let r := st.randfiller ^^^ ((st.randfiller <<< 5) ||| (st.randfiller >>> (64 - 5)))
  let r := r + (s_elm ^^^ x.toUInt32).toUInt64
  let j := x &&& 3
  ⟨r, st.id.set j (st.id.getD j 0 ^^^ (r + (r >>> 13)).toUInt32),
    st.trace ++ [.readSBlock i, .writeId j]⟩

/-- `do { … } while (--x)` from `x = k`: the rounds `x = k, k − 1, …, 1`.
Source: `src/stun.cpp` l. 977–984
Kind: D
Fidelity: exact for `k ≥ 1` -/
def reqIdLoop (sBlock : Nat → UInt64) : Nat → ReqIdState → ReqIdState
  | 0, st => st
  | x + 1, st => reqIdLoop sBlock x (reqIdRound sBlock (x + 1) st)

/-- `stun_req_id(req)` with the table's words `sBlock`, the four results `r₀ .. r₃` of
`GetRandInt(INT32_MAX)` and the current `randfiller`.
Source: `src/stun.cpp` l. 965–985
Kind: D
Fidelity: exact -/
def stunReqId (sBlock : Nat → UInt64) (r₀ r₁ r₂ r₃ : UInt32) (randfiller : UInt64) : ReqIdState :=
  reqIdLoop sBlock 20
    ⟨randfiller, [r₀ ||| 0x55555555, r₁ &&& 0x55555555, r₂ ||| 0x55555555, r₃ &&& 0x55555555], []⟩

/-! ## What the indices can be -/

/-- The loop only appends to the trace.
Source: `src/stun.cpp` l. 977–984
Kind: L -/
theorem reqIdLoop_trace_append (sBlock : Nat → UInt64) :
    ∀ (k : Nat) (st : ReqIdState), ∃ t, (reqIdLoop sBlock k st).trace = st.trace ++ t
  | 0, st => ⟨[], (List.append_nil _).symm⟩
  | x + 1, st => by
    obtain ⟨t, ht⟩ := reqIdLoop_trace_append sBlock x (reqIdRound sBlock (x + 1) st)
    exact ⟨_, by rw [reqIdLoop, ht, reqIdRound, List.append_assoc]⟩

/-- Every access of the loop is an earlier one, a read at a byte index, or a write below `4`.
Source: `src/stun.cpp` l. 977–984
Kind: L -/
theorem reqIdLoop_trace (sBlock : Nat → UInt64) :
    ∀ (k : Nat) (st : ReqIdState), ∀ e ∈ (reqIdLoop sBlock k st).trace,
      e ∈ st.trace ∨ (∃ i < 256, e = .readSBlock i) ∨ ∃ j < 4, e = .writeId j
  | 0, _, _, he => .inl he
  | x + 1, st, e, he => by
    rcases reqIdLoop_trace sBlock x _ e he with he | he
    · simp only [reqIdRound, List.mem_append, List.mem_cons, List.mem_singleton,
        List.not_mem_nil, or_false] at he
      rcases he with he | rfl | rfl
      · exact .inl he
      · exact .inr (.inl ⟨_, st.randfiller.toUInt8.toBitVec.isLt, rfl⟩)
      · exact .inr (.inr ⟨_, Nat.lt_succ_of_le Nat.and_le_right, rfl⟩)
    · exact .inr he

/-! ## Tables of at least 43 servers -/

/-- **Every access is inside for a table of at least 43 servers.** A read index is a byte, and
`8 · 256 ≤ 48 · 43`; a write index is `x & 3`. This holds for every `randfiller`, every table and
every `GetRandInt` result.
Source: `src/stun.cpp` l. 52–55, 965–985
Kind: T -/
theorem stunReqId_in_bounds {N : Nat} (hN : 43 ≤ N) (sBlock : Nat → UInt64) (r₀ r₁ r₂ r₃ : UInt32)
    (randfiller : UInt64) : ∀ e ∈ (stunReqId sBlock r₀ r₁ r₂ r₃ randfiller).trace, e.Inside N := by
  intro e he
  rcases reqIdLoop_trace sBlock 20 _ e he with he | ⟨i, hi, rfl⟩ | ⟨j, hj, rfl⟩
  · exact absurd he (List.not_mem_nil _)
  · show 8 * (i + 1) ≤ 48 * N
    omega
  · exact hj

/-- The shipped table: `StunSrvListQty = 893 ≥ 43`.
Source: `src/stun.cpp` l. 955, 965–985
Kind: W -/
theorem stunReqId_in_bounds_shipped :
    43 ≤ StunSrvListQty ∧
      ∀ e ∈ (stunReqId (fun _ => 0) 0 0 0 0 0xffffffffffffffff).trace, e.Inside StunSrvListQty :=
  ⟨by decide, stunReqId_in_bounds (by decide) _ _ _ _ _ _⟩

/-! ## Shorter tables -/

/-- **A short table is read past its end.** For a list of `N` servers and a `randfiller` whose low
byte `i` is at least `6 N`, the first access of `stun_req_id` reads `S_block[i]`, whose 8 bytes end
past the `48 N` bytes of the table. For every `N ≤ 42` such a `randfiller` exists (`i = 255`).
Source: `src/stun.cpp` l. 52–55, 955, 968, 979
Kind: C -/
theorem stunReqId_reads_past_table {N : Nat} (sBlock : Nat → UInt64) (r₀ r₁ r₂ r₃ : UInt32)
    (randfiller : UInt64) (hlow : 6 * N ≤ randfiller.toUInt8.toNat) :
    (stunReqId sBlock r₀ r₁ r₂ r₃ randfiller).trace.head? =
        some (.readSBlock randfiller.toUInt8.toNat) ∧
      ¬(IdAccess.readSBlock randfiller.toUInt8.toNat).Inside N := by
  obtain ⟨t, ht⟩ := reqIdLoop_trace_append sBlock 19 (reqIdRound sBlock 20
    ⟨randfiller, [r₀ ||| 0x55555555, r₁ &&& 0x55555555, r₂ ||| 0x55555555, r₃ &&& 0x55555555], []⟩)
  refine ⟨by rw [stunReqId, reqIdLoop, ht]; rfl, fun h => ?_⟩
  change 8 * (randfiller.toUInt8.toNat + 1) ≤ 48 * N at h
  omega

/-- The failing input: the spec's three servers and `randfiller = 18`, whose first read,
`S_block[18]`, covers bytes `144 .. 151` of a 144-byte table.
Source: `src/stun.cpp` l. 52–55, 968, 979
Kind: W -/
theorem stunReqId_reads_past_table_three :
    6 * 3 ≤ (18 : UInt64).toUInt8.toNat ∧
      (stunReqId (fun _ => 0) 0 0 0 0 18).trace.head? = some (.readSBlock (18 : UInt64).toUInt8.toNat) ∧
      ¬(IdAccess.readSBlock (18 : UInt64).toUInt8.toNat).Inside 3 :=
  ⟨by decide, stunReqId_reads_past_table _ _ _ _ _ _ (by decide)⟩

end FortyTwo.Stun
