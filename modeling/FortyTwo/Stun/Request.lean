import FortyTwo.Stun.Grammar

/-!
# `stun.cpp` · Request: `StunRequest2`, what it reports and what it touches

* **`StunRequest2`** (`stunRequest2`) with the outcomes of its socket calls as data (`StunIO`):
  `stun_send`, `select` and `recvfrom` into the 1024-byte `reply_buf` with room for 1023 bytes
  (`Reply` carries both facts). The request's transaction id (`stun_req_id`) does not reach the
  parser and is not modelled here. `StunRequest` adds the host lookup, the socket and the bind.
* **Bounds** (`stunRequest2_in_bounds`): for every reply, `stun_handle_packet` with
  `stun_get_mapped` reads only bytes below `res`: `msglen`, and inside the region clipped to
  `msglen` the parsed attributes' headers, the value of a parsed attribute only when its length
  field is 8, and the length field of a remainder it stops at (`AttrRead`). It writes exactly the
  type fields of the parsed attributes and the NUL after the last one, at offsets up to `res`, so
  no access leaves `reply_buf`. The loop-level facts are `attrLoop_within`, for any callback that
  reads only inside its attribute (`ReadsInside`), and `attrLoop_accesses`, for one that reads
  the value of a length-8 attribute only (`ReadsHeaderOr8`).
* **What success means** (`stunRequest2_mapped`): a non-negative result is `res`, the region tiles
  exactly, and `*mapped` is the endpoint of the last MAPPED-ADDRESS attribute of length 8 among
  the attributes, or the zeroed `sockaddr_in` when there is none (`lastMapped`).
  `stunRequest2_empty_reply` is a 20-byte reply with `msglen = 0`: success, no attribute, and the
  zero endpoint.
-/

namespace FortyTwo.Stun

/-! ## `StunRequest2` and `StunRequest` -/

/-- What `recvfrom(sock, reply_buf, sizeof(reply_buf) - 1, …)` leaves: the 1024 bytes of
`reply_buf` and the result, at most the 1023 bytes asked for.
Source: `src/stun.cpp` l. 1084, 1111–1114
Kind: D -/
structure Reply where
  /-- The whole of `reply_buf`. -/
  replyBuf : List UInt8
  /-- `recvfrom`'s result. -/
  res : Int
  /-- `unsigned char reply_buf[1024]`. -/
  size_eq : replyBuf.length = 1024
  /-- `recvfrom` returns at most the size it is given. -/
  res_le : res ≤ 1023

/-- The outcomes of the socket calls of one request.
Source: `src/stun.cpp` l. 1099–1118
Kind: D -/
structure StunIO where
  /-- `stun_send`'s result. -/
  sent : Int
  /-- `select`'s result. -/
  selected : Int
  /-- The reply `recvfrom` received. -/
  reply : Reply

/-- What a request returns: its code, `*mapped` and the accesses to `reply_buf`.
Source: none: infrastructure
Kind: D -/
structure Requested where
  /-- The `int` result. -/
  rc : Int
  /-- `*mapped`. -/
  mapped : SockaddrIn
  /-- The accesses to `reply_buf`. -/
  trace : List Access

/-- `StunRequest2(sock, server, mapped)`: `-10` if the send fails, `-11` on a timeout, `-12` if
nothing is received; otherwise `*mapped` is zeroed and the reply handled with `stun_get_mapped`.
Source: `src/stun.cpp` l. 1076–1118
Kind: D
Fidelity: exact (the socket calls are data) -/
def stunRequest2 (io : StunIO) (mapped : SockaddrIn) : Requested :=
  if io.sent < 0 then ⟨-10, mapped, []⟩
  else if io.selected ≤ 0 then ⟨-11, mapped, []⟩
  else if io.reply.res ≤ 0 then ⟨-12, mapped, []⟩
  else
    let h := stunHandlePacket stunGetMapped io.reply.replyBuf io.reply.res.toNat SockaddrIn.zero
    ⟨h.ret, h.arg, h.mem.trace⟩

/-- The outcomes of the calls `StunRequest` makes before `StunRequest2`.
Source: `src/stun.cpp` l. 1121–1145
Kind: D -/
structure StunEnv where
  /-- `gethostbyname` found the host. -/
  hostFound : Bool
  /-- `socket` succeeded. -/
  socketOk : Bool
  /-- `bind` succeeded. -/
  bindOk : Bool
  /-- The request's socket calls. -/
  io : StunIO

/-- `StunRequest(host, port, mapped)`: `-1` for an unknown host, `-2` without a socket, `-3` if the
bind fails, otherwise `StunRequest2`.
Source: `src/stun.cpp` l. 1121–1145
Kind: D
Fidelity: exact (the socket calls are data) -/
def stunRequest (env : StunEnv) (mapped : SockaddrIn) : Int × SockaddrIn :=
  if !env.hostFound then (-1, mapped)
  else if !env.socketOk then (-2, mapped)
  else if !env.bindOk then (-3, mapped)
  else ((stunRequest2 env.io mapped).rc, (stunRequest2 env.io mapped).mapped)

/-- `StunRequest2`'s code does not depend on `*mapped`.
Source: `src/stun.cpp` l. 1076–1118
Kind: L -/
theorem stunRequest2_rc (io : StunIO) (m m' : SockaddrIn) :
    (stunRequest2 io m).rc = (stunRequest2 io m').rc := by
  unfold stunRequest2
  split_ifs <;> rfl

/-- Nor does `StunRequest`'s.
Source: `src/stun.cpp` l. 1076–1147
Kind: L -/
theorem stunRequest_fst (env : StunEnv) (m m' : SockaddrIn) :
    (stunRequest env m).1 = (stunRequest env m').1 := by
  simp only [stunRequest, apply_ite Prod.fst, stunRequest2_rc env.io m m']

/-! ## Every access stays inside the reply -/

/-- Where an access may fall: reads and writes in `[lo, hi)`, calls anywhere.
Source: none: infrastructure
Kind: D -/
def Within (lo hi : Nat) : Access → Prop
  | .read i => lo ≤ i ∧ i < hi
  | .write i => lo ≤ i ∧ i < hi
  | .call _ => True

/-- A wider window holds every access a narrower one does.
Source: none: infrastructure
Kind: L -/
theorem Within.mono {lo hi lo' hi' : Nat} {e : Access} (h : Within lo hi e) (hl : lo' ≤ lo)
    (hh : hi ≤ hi') : Within lo' hi' e := by
  cases e <;> simp only [Within] at h ⊢ <;> omega

/-- A callback that reads only inside the attribute it is called on.
Source: none: infrastructure
Kind: D -/
def ReadsInside {σ : Type} (cb : StunCb σ) : Prop :=
  ∀ buf off s, ∀ i ∈ (cb buf off s).2, off ≤ i ∧ i < off + (ntohsAt buf (off + 2) + 4)

/-- `stun_get_mapped` reads only inside its attribute: the header always, the 8 address bytes
only when the length field is 8.
Source: `src/stun.cpp` l. 1062–1072
Kind: L -/
theorem stunGetMapped_readsInside : ReadsInside stunGetMapped := by
  intro buf off s i hi
  unfold stunGetMapped at hi
  split_ifs at hi with h1 h2
  · simp at hi; omega
  · simp at hi; omega
  · simp only [not_not] at h2
    simp [h2] at hi ⊢
    omega

variable {σ : Type}

/-- Every access of the loop over `[off, off + len)` lies in that window, and `data` stops at most
at its end.
Source: `src/stun.cpp` l. 1022–1041
Kind: L -/
theorem attrLoop_within {cb : StunCb σ} (hcb : ReadsInside cb) (off len : Nat) (arg : σ) (m : Mem) :
    (attrLoop cb off len arg m).off ≤ off + len ∧
      ∃ t, (attrLoop cb off len arg m).mem.trace = m.trace ++ t ∧
        ∀ e ∈ t, Within off (off + len) e := by
  induction off, len, arg, m using attrLoop.induct cb with
  | case1 off arg m => simp [attrLoop]
  | case2 off len arg m h0 h4 => rw [attrLoop, if_neg h0, if_pos h4]; simp
  | case3 off len arg m h0 h4 x hx =>
    rw [attrLoop, if_neg h0, if_neg h4, if_pos hx]
    refine ⟨by simp, [.read (off + 2), .read (off + 3)], rfl, ?_⟩
    simp [Within]; omega
  | case4 off len arg m h0 h4 x hx r ih =>
    have hx' : ntohsAt m.buf (off + 2) + 4 ≤ len := Nat.le_of_not_lt hx
    rw [attrLoop, if_neg h0, if_neg h4, if_neg hx]
    obtain ⟨hoff, t, ht, hw⟩ := ih
    refine ⟨le_trans hoff (by omega), [.read (off + 2), .read (off + 3), .call off] ++
      r.2.map .read ++ [.write off, .write (off + 1)] ++ t, by rw [ht]; simp, ?_⟩
    intro e he
    simp only [List.mem_append, List.mem_cons, List.mem_map, List.not_mem_nil, or_false] at he
    rcases he with (((rfl | rfl | rfl) | ⟨i, hi, rfl⟩) | rfl | rfl) | he
    · simp [Within]; omega
    · simp [Within]; omega
    · trivial
    · have := hcb m.buf off arg i hi
      simp [Within]; omega
    · simp [Within]; omega
    · simp [Within]; omega
    · exact (hw e he).mono (by omega) (by omega)

/-- A callback that reads the header of its attribute, and its value only when the length field
is 8, up to the 12 bytes such an attribute has.
Source: none: infrastructure
Kind: D -/
def ReadsHeaderOr8 (cb : StunCb σ) : Prop :=
  ∀ buf off s, ∀ i ∈ (cb buf off s).2,
    off ≤ i ∧ i < off + 4 ∨ ntohsAt buf (off + 2) = 8 ∧ off + 4 ≤ i ∧ i < off + 12

/-- `stun_get_mapped` reads the type and length fields, and the address bytes only of an attribute
whose length field is 8.
Source: `src/stun.cpp` l. 1062–1072
Kind: L -/
theorem stunGetMapped_readsHeaderOr8 : ReadsHeaderOr8 stunGetMapped := by
  intro buf off s i hi
  unfold stunGetMapped at hi
  split_ifs at hi with h1 h2
  · simp at hi; omega
  · simp at hi; omega
  · simp only [not_not] at h2
    simp at hi
    omega

/-- Where a read of the attribute loop at `off` falls, given the attributes `as` it parsed: in the
header of a parsed attribute, in the value of a parsed attribute whose length field is 8, or in
the length field of the remainder it stopped at.
Source: `src/stun.cpp` l. 1022–1041, 1062–1072
Kind: D -/
def AttrRead (off : Nat) (as : List (List UInt8)) (i : Nat) : Prop :=
  (∃ p ∈ (attrOffsets off as).zip as, p.1 ≤ i ∧ i < p.1 + 4 ∨
      ntohsAt p.2 2 = 8 ∧ p.1 + 4 ≤ i ∧ i < p.1 + p.2.length) ∨
    i = off + (as.map List.length).sum + 2 ∨ i = off + (as.map List.length).sum + 3

/-- A read of the loop after the attribute `a` is a read of the loop from `a` on.
Source: none: infrastructure
Kind: L -/
theorem AttrRead.cons {off x i : Nat} {a : List UInt8} {as : List (List UInt8)} (ha : a.length = x)
    (h : AttrRead (off + x) as i) : AttrRead off (a :: as) i := by
  unfold AttrRead at h ⊢
  rw [List.map_cons, List.sum_cons, ha]
  rcases h with ⟨p, hp, hi⟩ | hi | hi
  · exact .inl ⟨p, List.mem_cons_of_mem _ (ha ▸ hp), hi⟩
  · exact .inr (.inl (by omega))
  · exact .inr (.inr (by omega))

/-- The loop's writes are the type fields of the attributes it parses, in order; it stops right
after them; and every read it makes, with a callback that reads its header and only the value of
a length-8 attribute, falls where `AttrRead` says.
Source: `src/stun.cpp` l. 1022–1041
Kind: L -/
theorem attrLoop_accesses {cb : StunCb σ} (hcb : ReadsHeaderOr8 cb) (off len : Nat) (arg : σ)
    (m : Mem) (h : off + len ≤ m.buf.length) :
    (attrLoop cb off len arg m).off = off + ((tlvSplit (seg m.buf off len)).1.map List.length).sum ∧
      ∃ t, (attrLoop cb off len arg m).mem.trace = m.trace ++ t ∧
        writes t = (attrOffsets off (tlvSplit (seg m.buf off len)).1).flatMap (fun o => [o, o + 1]) ∧
        ∀ i, Access.read i ∈ t → AttrRead off (tlvSplit (seg m.buf off len)).1 i := by
  induction off, len, arg, m using attrLoop.induct cb with
  | case1 off arg m =>
    rw [attrLoop, if_pos rfl, tlvSplit_seg_stop h (.inl (by omega))]
    exact ⟨by simp, [], by simp, by simp [attrOffsets], by simp⟩
  | case2 off len arg m h0 h4 =>
    rw [attrLoop, if_neg h0, if_pos h4, tlvSplit_seg_stop h (.inl h4)]
    exact ⟨by simp, [], by simp, by simp [attrOffsets], by simp⟩
  | case3 off len arg m h0 h4 x hx =>
    rw [attrLoop, if_neg h0, if_neg h4, if_pos hx, tlvSplit_seg_stop h (.inr hx)]
    refine ⟨by simp, [.read (off + 2), .read (off + 3)], rfl, by simp [attrOffsets], fun i hi => ?_⟩
    simp only [List.mem_cons, Access.read.injEq, List.not_mem_nil, or_false] at hi
    simp only [AttrRead, List.map_nil, List.sum_nil, Nat.add_zero]
    exact .inr hi
  | case4 off len arg m h0 h4 x hx r ih =>
    have hx' : ntohsAt m.buf (off + 2) + 4 ≤ len := Nat.le_of_not_lt hx
    have hlen : (seg m.buf off (ntohsAt m.buf (off + 2) + 4)).length = x := length_seg (by omega)
    have h2 : ntohsAt (seg m.buf off (ntohsAt m.buf (off + 2) + 4)) 2 = ntohsAt m.buf (off + 2) :=
      ntohsAt_seg (by omega)
    rw [attrLoop, if_neg h0, if_neg h4, if_neg hx, tlvSplit_seg_step h hx',
      show ntohsAt m.buf (off + 2) + 4 = x from rfl]
    rw [show ntohsAt m.buf (off + 2) + 4 = x from rfl] at hlen h2
    obtain ⟨hoff, t, ht, hw, hr⟩ := ih (by simp; omega)
    simp only [Mem.write_buf, Mem.read_buf, Mem.call_buf, seg_set (show off + 1 < off + x by omega),
      seg_set (show off < off + x by omega)] at hoff hw hr
    refine ⟨by rw [hoff, List.map_cons, List.sum_cons, hlen]; omega,
      [.read (off + 2), .read (off + 3), .call off] ++ r.2.map .read ++
        [.write off, .write (off + 1)] ++ t, by rw [ht]; simp, by simp [hw, attrOffsets, hlen],
      fun i hi => ?_⟩
    -- this step reads the attribute at `off`; the loop after it reads past it
    simp only [List.mem_append, List.mem_cons, Access.read.injEq, List.mem_map, List.not_mem_nil,
      or_false, reduceCtorEq] at hi
    rcases hi with ((hi | hi) | ⟨j, hj, rfl⟩) | hi
    · exact .inl ⟨_, List.mem_cons_self _ _, .inl (by omega)⟩
    · exact .inl ⟨_, List.mem_cons_self _ _, .inl (by omega)⟩
    · exact .inl ⟨_, List.mem_cons_self _ _, by rw [h2, hlen]; have := hcb m.buf off arg j hj; omega⟩
    · exact AttrRead.cons hlen (hr i hi)

/-- Where an access of a reply of `n` bytes may fall: reads below `n`, writes at most at `n` (the
NUL after the last byte), calls anywhere.
Source: comment at `src/stun.cpp` l. 1042–1047, 1109–1110
Kind: D -/
def Bounded (n : Nat) : Access → Prop
  | .read i => i < n
  | .write i => i ≤ n
  | .call _ => True

/-- `stun_handle_packet` with a callback that reads inside its attribute reads only the `len`
bytes it is given and writes at most one byte past them.
Source: `src/stun.cpp` l. 998–1056
Kind: L -/
theorem stunHandlePacket_bounded {cb : StunCb σ} (hcb : ReadsInside cb) (data : List UInt8)
    (len : Nat) (arg : σ) : ∀ e ∈ (stunHandlePacket cb data len arg).mem.trace, Bounded len e := by
  unfold stunHandlePacket
  split_ifs with h
  · simp
  simp only [clip_eq_min]
  obtain ⟨hoff, t, ht, hw⟩ := attrLoop_within hcb 20 (min (len - 20) (ntohsAt data 2)) arg
    ⟨data, [.read 2, .read 3]⟩
  intro e he
  simp only [Mem.write_trace, ht, List.mem_append, List.mem_cons, List.not_mem_nil, or_false] at he
  rcases he with ((rfl | rfl) | he) | rfl
  · simp [Bounded]; omega
  · simp [Bounded]; omega
  · have := hw e he
    cases e <;> simp only [Within, Bounded] at this ⊢ <;> omega
  · simp only [Bounded]; omega

/-- `stun_handle_packet` with a callback that reads its header, and only the value of a length-8
attribute, writes the type fields of the attributes of the region's tiling and then the NUL right
after them; it reads `msglen` and, inside the region, what `AttrRead` allows.
Source: `src/stun.cpp` l. 998–1056
Kind: L -/
theorem stunHandlePacket_accesses {cb : StunCb σ} (hcb : ReadsHeaderOr8 cb) (hcb' : ReadsInside cb)
    (data : List UInt8) (len : Nat) (arg : σ) (h20 : 20 ≤ len) (hlen : len ≤ data.length) :
    writes (stunHandlePacket cb data len arg).mem.trace =
        (attrOffsets 20 (tlvSplit (attrRegion data len)).1).flatMap (fun o => [o, o + 1]) ++
          [20 + ((tlvSplit (attrRegion data len)).1.map List.length).sum] ∧
      ∀ i, Access.read i ∈ (stunHandlePacket cb data len arg).mem.trace →
        i = 2 ∨ i = 3 ∨ 20 ≤ i ∧ i < 20 + (attrRegion data len).length ∧
          AttrRead 20 (tlvSplit (attrRegion data len)).1 i := by
  have hR : (attrRegion data len).length = min (len - 20) (ntohsAt data 2) :=
    length_seg (by omega)
  simp only [stunHandlePacket, if_neg (show ¬len < 20 by omega), clip_eq_min]
  obtain ⟨hoff, t, ht, hw, hr⟩ := attrLoop_accesses hcb 20 (min (len - 20) (ntohsAt data 2)) arg
    ⟨data, [.read 2, .read 3]⟩ (by simp only; omega)
  obtain ⟨-, t', ht', hin⟩ := attrLoop_within hcb' 20 (min (len - 20) (ntohsAt data 2)) arg
    ⟨data, [.read 2, .read 3]⟩
  obtain rfl : t' = t := List.append_cancel_left (ht'.symm.trans ht)
  refine ⟨by simp only [Mem.write_trace, ht, writes_append, hw, hoff]; simp [attrRegion], fun i hi => ?_⟩
  simp only [Mem.write_trace, ht, List.mem_append, List.mem_cons, List.not_mem_nil, or_false,
    Access.read.injEq, reduceCtorEq] at hi
  rcases hi with (rfl | rfl) | hi
  · exact .inl rfl
  · exact .inr (.inl rfl)
  · have hw' := hin _ hi
    simp only [Within] at hw'
    exact .inr (.inr ⟨hw'.1, by omega, hr i hi⟩)

/-- **No access leaves the reply.** For every reply `StunRequest2` receives, parsing it with
`stun_get_mapped` reads only bytes at offsets below `res`: `msglen`, and inside the region clipped
to `msglen` the headers of the parsed attributes, the value of a parsed attribute only when its
length field is 8, and the length field of a remainder the loop stops at. Its writes are exactly
the zeroing of each parsed attribute's type field, in order, and the NUL right after the last
one, all at offsets up to `res` inside the 1024 bytes of `reply_buf`.
Source: `src/stun.cpp` l. 998–1072, 1109–1117
Kind: T -/
theorem stunRequest2_in_bounds (io : StunIO) (mapped : SockaddrIn) :
    (∀ i, Access.read i ∈ (stunRequest2 io mapped).trace → (i : Int) < io.reply.res ∧
      (i = 2 ∨ i = 3 ∨ 20 ≤ i ∧ i < 20 + (attrRegion io.reply.replyBuf io.reply.res.toNat).length ∧
        AttrRead 20 (tlvSplit (attrRegion io.reply.replyBuf io.reply.res.toNat)).1 i)) ∧
    (∀ i ∈ writes (stunRequest2 io mapped).trace, (i : Int) ≤ io.reply.res ∧
      i < io.reply.replyBuf.length) ∧
    writes (stunRequest2 io mapped).trace =
      if 0 ≤ io.sent ∧ 0 < io.selected ∧ 20 ≤ io.reply.res then
        (attrOffsets 20 (tlvSplit (attrRegion io.reply.replyBuf io.reply.res.toNat)).1).flatMap
            (fun o => [o, o + 1]) ++
          [20 + ((tlvSplit (attrRegion io.reply.replyBuf io.reply.res.toNat)).1.map List.length).sum]
      else [] := by
  have hle := io.reply.res_le
  have hsize := io.reply.size_eq
  unfold stunRequest2
  by_cases hc : 0 ≤ io.sent ∧ 0 < io.selected ∧ 20 ≤ io.reply.res
  · rw [if_pos hc, if_neg (by omega), if_neg (by omega), if_neg (by omega)]
    have hb := stunHandlePacket_bounded stunGetMapped_readsInside io.reply.replyBuf
      io.reply.res.toNat SockaddrIn.zero
    obtain ⟨hw, hr⟩ := stunHandlePacket_accesses stunGetMapped_readsHeaderOr8
      stunGetMapped_readsInside io.reply.replyBuf io.reply.res.toNat SockaddrIn.zero (by omega)
      (by omega)
    refine ⟨fun i hi => ⟨?_, hr i hi⟩, fun i hi => ?_, hw⟩
    · have := hb _ hi
      simp only [Bounded] at this
      omega
    · have := hb _ (mem_writes.mp hi)
      simp only [Bounded] at this
      omega
  · rw [if_neg hc]
    split_ifs
    · simp
    · simp
    · simp
    -- a reply shorter than a header is not parsed
    have h20 : io.reply.res.toNat < 20 := by omega
    simp [stunHandlePacket, h20]

/-- A 20-byte reply with `msglen = 0`: the only write is the NUL at offset 20, and the theorem's
bounds hold.
Source: none: witness
Kind: W -/
theorem stunRequest2_in_bounds_header :
    writes (stunRequest2 ⟨0, 1, ⟨List.replicate 1024 0, 20, List.length_replicate _ _, by decide⟩⟩
        SockaddrIn.zero).trace = [20] ∧
      (∀ i, Access.read i ∈ (stunRequest2 ⟨0, 1, ⟨List.replicate 1024 0, 20,
          List.length_replicate _ _, by decide⟩⟩ SockaddrIn.zero).trace → (i : Int) < 20 ∧
        (i = 2 ∨ i = 3 ∨ 20 ≤ i ∧ i < 20 + (attrRegion (List.replicate 1024 0) (20 : Int).toNat).length ∧
          AttrRead 20 (tlvSplit (attrRegion (List.replicate 1024 0) (20 : Int).toNat)).1 i)) ∧
      (∀ i ∈ writes (stunRequest2 ⟨0, 1, ⟨List.replicate 1024 0, 20, List.length_replicate _ _,
          by decide⟩⟩ SockaddrIn.zero).trace, (i : Int) ≤ 20 ∧ i < (List.replicate 1024 (0 : UInt8)).length) ∧
      writes (stunRequest2 ⟨0, 1, ⟨List.replicate 1024 0, 20, List.length_replicate _ _, by decide⟩⟩
          SockaddrIn.zero).trace =
        if 0 ≤ (0 : Int) ∧ (0 : Int) < 1 ∧ (20 : Int) ≤ 20 then
          (attrOffsets 20 (tlvSplit (attrRegion (List.replicate 1024 0) (20 : Int).toNat)).1).flatMap
              (fun o => [o, o + 1]) ++
            [20 + ((tlvSplit (attrRegion (List.replicate 1024 0) (20 : Int).toNat)).1.map
              List.length).sum]
        else [] := by
  have hx : ntohsAt (List.replicate 1024 0) 2 = 0 := by
    simp only [ntohsAt, List.getD_eq_getElem?_getD, List.getElem?_replicate]; decide
  have hR : attrRegion (List.replicate 1024 0) (20 : Int).toNat = [] := by rw [attrRegion, hx]; rfl
  have h := stunRequest2_in_bounds ⟨0, 1, ⟨List.replicate 1024 0, 20, List.length_replicate _ _,
    by decide⟩⟩ SockaddrIn.zero
  refine ⟨?_, h⟩
  rw [h.2.2, hR, tlvSplit_of_lt (by decide)]
  rfl

/-! ## What a successful request reports -/

/-- A MAPPED-ADDRESS attribute of length 8: type `STUN_MAPPED_ADDRESS` and length field 8.
Source: `src/stun.cpp` l. 1068
Kind: D -/
def IsMappedAddress (a : List UInt8) : Prop :=
  ntohsAt a 0 = STUN_MAPPED_ADDRESS ∧ ntohsAt a 2 = 8

instance : DecidablePred IsMappedAddress := fun _ => inferInstanceAs (Decidable (_ ∧ _))

/-- `sa` with the endpoint of a MAPPED-ADDRESS attribute: the port at value bytes 2–3, the IPv4
address at value bytes 4–7.
Source: `src/stun.cpp` l. 1070–1071
Kind: D -/
def SockaddrIn.setMapped (sa : SockaddrIn) (a : List UInt8) : SockaddrIn :=
  { sa with sinPort := ntohsAt a 6, sinAddr := ntohlAt a 8 }

@[simp] theorem SockaddrIn.setMapped_setMapped (sa : SockaddrIn) (a b : List UInt8) :
    (sa.setMapped a).setMapped b = sa.setMapped b := rfl

/-- What `stun_get_mapped` does with one attribute, read as bytes.
Source: `src/stun.cpp` l. 1062–1072
Kind: D -/
def mappedOf (sa : SockaddrIn) (a : List UInt8) : SockaddrIn :=
  if IsMappedAddress a then sa.setMapped a else sa

/-- The endpoint of the last MAPPED-ADDRESS attribute of `as`, the zeroed `sockaddr_in` when there
is none.
Source: none: specification
Kind: D -/
def lastMapped (as : List (List UInt8)) : SockaddrIn :=
  match (as.filter fun a => decide (IsMappedAddress a)).getLast? with
  | some a => SockaddrIn.zero.setMapped a
  | none => SockaddrIn.zero

/-- Folding `stun_get_mapped` over attributes keeps the last MAPPED-ADDRESS.
Source: none: infrastructure
Kind: L -/
theorem foldl_mappedOf (as : List (List UInt8)) (s : SockaddrIn) :
    as.foldl mappedOf s =
      match (as.filter fun a => decide (IsMappedAddress a)).getLast? with
      | some a => s.setMapped a
      | none => s := by
  induction as using List.reverseRecOn with
  | nil => rfl
  | append_singleton as a ih =>
    rw [List.foldl_append, List.foldl_cons, List.foldl_nil, ih, List.filter_append]
    by_cases ha : IsMappedAddress a
    · simp only [mappedOf, ha, if_true, List.filter_cons, decide_True, List.filter_nil,
        List.getLast?_append_cons]
      split <;> simp
    · simp [mappedOf, ha, List.filter_cons]

/-- `stun_get_mapped` sees only its attribute.
Source: `src/stun.cpp` l. 1062–1072
Kind: L -/
theorem stunGetMapped_attrLocal : AttrLocal stunGetMapped mappedOf := by
  intro buf off s h
  have h0 : ntohsAt (seg buf off (ntohsAt buf (off + 2) + 4)) 0 = ntohsAt buf off :=
    ntohsAt_seg (by omega)
  have h2 : ntohsAt (seg buf off (ntohsAt buf (off + 2) + 4)) 2 = ntohsAt buf (off + 2) :=
    ntohsAt_seg (by omega)
  unfold stunGetMapped mappedOf IsMappedAddress
  simp only [h0, h2]
  by_cases hA : ntohsAt buf off = STUN_MAPPED_ADDRESS
  · by_cases hB : ntohsAt buf (off + 2) = 8
    · simp only [hA, hB, ne_eq, not_true_eq_false, if_false, and_self, if_true,
        SockaddrIn.setMapped, ntohlAt, ntohsAt_seg (show 6 + 1 < 8 + 4 by omega),
        ntohsAt_seg (show 8 + 1 < 8 + 4 by omega), ntohsAt_seg (show 8 + 2 + 1 < 8 + 4 by omega)]
    · simp [hA, hB]
  · simp [hA]

/-- **What a successful request reports.** If `StunRequest2` returns a non-negative value, that
value is `res`, the reply's attribute region tiles exactly, and `*mapped` holds the port and
IPv4 address of the last MAPPED-ADDRESS attribute of length 8 in it, or is the zeroed
`sockaddr_in` when there is none.
Source: `src/stun.cpp` l. 998–1118
Kind: T -/
theorem stunRequest2_mapped (io : StunIO) (mapped : SockaddrIn)
    (h : 0 ≤ (stunRequest2 io mapped).rc) :
    (stunRequest2 io mapped).rc = io.reply.res ∧
      (tlvSplit (attrRegion io.reply.replyBuf io.reply.res.toNat)).2 = [] ∧
      (stunRequest2 io mapped).mapped =
        lastMapped (tlvSplit (attrRegion io.reply.replyBuf io.reply.res.toNat)).1 := by
  have hle := io.reply.res_le
  have hsize := io.reply.size_eq
  unfold stunRequest2 at h ⊢
  split_ifs at h ⊢ with h1 h2 h3
  · simp at h
  · simp at h
  · simp at h
  by_cases h20 : io.reply.res.toNat < 20
  · simp [stunHandlePacket, h20] at h
  obtain ⟨-, hret⟩ := stunHandlePacket_calls_ret stunGetMapped SockaddrIn.zero io.reply.replyBuf
    io.reply.res.toNat (by omega) (by omega) (by omega)
  simp only [hret] at h ⊢
  have hrest : (tlvSplit (attrRegion io.reply.replyBuf io.reply.res.toNat)).2 = [] := by
    unfold restErr at h
    split_ifs at h with ha
    · exact ha
    all_goals simp at h
  refine ⟨by simp [restErr, hrest]; omega, hrest, ?_⟩
  rw [stunHandlePacket_arg stunGetMapped_attrLocal _ _ _ (by omega) (by omega), foldl_mappedOf]
  rfl

/-- The hypothesis of `stunRequest2_mapped` holds on a 20-byte reply with `msglen = 0`.
Source: none: witness
Kind: W -/
theorem stunRequest2_mapped_empty :
    0 ≤ (stunRequest2 ⟨0, 1, ⟨List.replicate 1024 0, 20, List.length_replicate _ _, by decide⟩⟩
        SockaddrIn.zero).rc ∧
      (stunRequest2 ⟨0, 1, ⟨List.replicate 1024 0, 20, List.length_replicate _ _, by decide⟩⟩
        SockaddrIn.zero).mapped = lastMapped (tlvSplit (attrRegion (List.replicate 1024 0) 20)).1 := by
  have hx : ntohsAt (List.replicate 1024 0) 2 = 0 := by
    simp only [ntohsAt, List.getD_eq_getElem?_getD, List.getElem?_replicate]; decide
  have h0 : 0 ≤ (stunRequest2 ⟨0, 1, ⟨List.replicate 1024 0, 20, List.length_replicate _ _,
      by decide⟩⟩ SockaddrIn.zero).rc := by
    simp only [stunRequest2, stunHandlePacket, hx, show (20 : Int).toNat = 20 from rfl]
    rw [attrLoop]
    decide
  exact ⟨h0, (stunRequest2_mapped _ _ h0).2.2⟩

/-- A reply that parses but carries no MAPPED-ADDRESS: a 20-byte header with `msglen = 0`. The
request succeeds, the region has no attribute, and `*mapped` is the zeroed `sockaddr_in`.
Source: `src/stun.cpp` l. 1117–1118
Kind: C -/
theorem stunRequest2_empty_reply :
    0 ≤ (stunRequest2 ⟨0, 1, ⟨List.replicate 1024 0, 20, List.length_replicate _ _, by decide⟩⟩
        SockaddrIn.zero).rc ∧
      (∀ a ∈ (tlvSplit (attrRegion (List.replicate 1024 0) 20)).1, ¬IsMappedAddress a) ∧
      (stunRequest2 ⟨0, 1, ⟨List.replicate 1024 0, 20, List.length_replicate _ _, by decide⟩⟩
        SockaddrIn.zero).mapped = SockaddrIn.zero := by
  have hx : ntohsAt (List.replicate 1024 0) 2 = 0 := by
    simp only [ntohsAt, List.getD_eq_getElem?_getD, List.getElem?_replicate]; decide
  have hR : attrRegion (List.replicate 1024 0) 20 = [] := by rw [attrRegion, hx]; rfl
  simp only [stunRequest2, stunHandlePacket, hx, hR, show (20 : Int).toNat = 20 from rfl]
  rw [attrLoop, tlvSplit_of_lt (by decide)]
  decide

end FortyTwo.Stun
