import FortyTwo.Stun.Packet

/-!
# `stun.cpp` · Grammar: the attribute region tiles into TLV attributes

The abstract reading of a reply's attribute region, and the theorem that `stun_handle_packet`
implements it.

* **The grammar.** An attribute is a byte string whose length is `4 + L`, `L` the big-endian
  length field at bytes 2–3 (`IsAttr`). `Tiles R as rest`: `R` is the attributes `as` followed by
  a remainder `rest` that does not start with a whole attribute (`NoAttr`: empty, a stub of 1–3
  bytes, or a header whose `4 + L` runs past the end). The tiling is unique (`tiles_unique`), and
  `tlvSplit R` computes it (`tlvSplit_tiles`): it is the longest well-formed TLV prefix of `R`.
* **The loop implements the grammar** (`attrLoop_calls_err`): over the `len` bytes at `off`, the
  attribute loop calls the callback on the offset of each attribute of `tlvSplit`, in order and on
  nothing else, and breaks with `-21` / `-22` exactly when the remainder is a stub / an overrun.
  A callback that reads only its own attribute (`AttrLocal`) ends with the fold of its
  attribute-level meaning over the attributes (`attrLoop_arg`): the zeroing of earlier type fields
  is invisible to it.
* **The packet theorem** (`stunHandlePacket_tiles`): for every UDP payload, the result is `-20`
  below a header; otherwise the region `R = P[20 .. 20 + min(len - 20, msglen))` has a unique
  tiling, the callback runs once on each of its attributes in order (an attribute-local one
  leaves the fold of its meaning over them), and the result is `len`, `-21` or `-22` as the
  remainder is empty, a stub or an overrun. The loop always terminates:
  `attrLoop` is a total function (its measure is `len`).
-/

namespace FortyTwo.Stun

/-! ## Segments of a buffer -/

/-- The `len` bytes at offset `off` of a buffer.
Source: none: infrastructure
Kind: D -/
def seg (buf : List UInt8) (off len : Nat) : List UInt8 := (buf.drop off).take len

/-- A segment inside the buffer has its full length.
Source: none: infrastructure
Kind: L -/
theorem length_seg {buf : List UInt8} {off len : Nat} (h : off + len ≤ buf.length) :
    (seg buf off len).length = len := by
  simp [seg]; omega

/-- Byte `i` of a segment is byte `off + i` of the buffer.
Source: none: infrastructure
Kind: L -/
theorem getD_seg {buf : List UInt8} {off len i : Nat} (h : i < len) :
    (seg buf off len).getD i 0 = buf.getD (off + i) 0 := by
  simp [seg, List.getElem?_take, h]

/-- A 16-bit field inside a segment is the buffer's field at the shifted offset.
Source: none: infrastructure
Kind: L -/
theorem ntohsAt_seg {buf : List UInt8} {off len i : Nat} (h : i + 1 < len) :
    ntohsAt (seg buf off len) i = ntohsAt buf (off + i) := by
  simp only [ntohsAt, getD_seg h, getD_seg (show i < len by omega), Nat.add_assoc]

/-- Dropping `x` bytes of a segment moves its start by `x`.
Source: none: infrastructure
Kind: L -/
theorem seg_drop (buf : List UInt8) (off len x : Nat) :
    (seg buf off len).drop x = seg buf (off + x) (len - x) := by
  simp [seg, List.drop_take, Nat.add_comm]

/-- Taking `x ≤ len` bytes of a segment shortens it.
Source: none: infrastructure
Kind: L -/
theorem seg_take {buf : List UInt8} {off len x : Nat} (h : x ≤ len) :
    (seg buf off len).take x = seg buf off x := by
  simp [seg, List.take_take, Nat.min_eq_left h]

/-- A write before a segment does not change it.
Source: none: infrastructure
Kind: L -/
theorem seg_set {buf : List UInt8} {off len i : Nat} (h : i < off) (v : UInt8) :
    seg (buf.set i v) off len = seg buf off len := by
  simp [seg, List.drop_set_of_lt _ _ h]

/-! ## The TLV grammar -/

/-- One whole attribute: a 4-byte header whose big-endian length field `L` (bytes 2–3) is
followed by exactly `L` value bytes.
Source: header comment, `src/stun.cpp` l. 23–28
Kind: D -/
def IsAttr (a : List UInt8) : Prop := a.length = ntohsAt a 2 + 4

/-- A remainder that does not start with a whole attribute: empty, a stub shorter than a header,
or a header whose `4 + L` runs past the end.
Source: header comment, `src/stun.cpp` l. 23–28
Kind: D -/
def NoAttr (r : List UInt8) : Prop := r.length < ntohsAt r 2 + 4

/-- `r` is the attributes `as` followed by a remainder that starts no further attribute.
Source: header comment, `src/stun.cpp` l. 23–28
Kind: D -/
def Tiles (r : List UInt8) (as : List (List UInt8)) (rest : List UInt8) : Prop :=
  r = as.flatten ++ rest ∧ (∀ a ∈ as, IsAttr a) ∧ NoAttr rest

/-- The longest well-formed TLV prefix of a region, attribute by attribute, and what follows it.
Source: header comment, `src/stun.cpp` l. 23–28
Kind: D -/
def tlvSplit (r : List UInt8) : List (List UInt8) × List UInt8 :=
  if ntohsAt r 2 + 4 ≤ r.length then
    (r.take (ntohsAt r 2 + 4) :: (tlvSplit (r.drop (ntohsAt r 2 + 4))).1,
      (tlvSplit (r.drop (ntohsAt r 2 + 4))).2)
  else ([], r)
termination_by r.length

/-- Equation lemma: no whole attribute at the front.
Source: none: infrastructure
Kind: L -/
theorem tlvSplit_of_lt {r : List UInt8} (h : r.length < ntohsAt r 2 + 4) :
    tlvSplit r = ([], r) := by
  rw [tlvSplit, if_neg (by omega)]

/-- Equation lemma: a whole attribute at the front.
Source: none: infrastructure
Kind: L -/
theorem tlvSplit_of_le {r : List UInt8} (h : ntohsAt r 2 + 4 ≤ r.length) :
    tlvSplit r = (r.take (ntohsAt r 2 + 4) :: (tlvSplit (r.drop (ntohsAt r 2 + 4))).1,
      (tlvSplit (r.drop (ntohsAt r 2 + 4))).2) := by
  rw [tlvSplit, if_pos h]

/-- A whole attribute in front of anything keeps its length field.
Source: none: infrastructure
Kind: L -/
theorem ntohsAt_append_of_isAttr {a : List UInt8} (ha : IsAttr a) (t : List UInt8) :
    ntohsAt (a ++ t) 2 = ntohsAt a 2 := by
  unfold IsAttr at ha
  simp only [ntohsAt, List.getD_eq_getElem?_getD,
    List.getElem?_append_left (show 2 < a.length by omega),
    List.getElem?_append_left (show 2 + 1 < a.length by omega)]

/-- `tlvSplit` tiles its region.
Source: none: infrastructure
Kind: L -/
theorem tlvSplit_tiles (r : List UInt8) : Tiles r (tlvSplit r).1 (tlvSplit r).2 := by
  induction r using tlvSplit.induct with
  | case1 r h ih =>
    rw [tlvSplit_of_le h]
    obtain ⟨hr, ha, hn⟩ := ih
    refine ⟨by rw [List.flatten_cons, List.append_assoc, ← hr, List.take_append_drop], ?_, hn⟩
    intro a ha'
    rcases List.mem_cons.mp ha' with rfl | ha'
    · have h3 : ntohsAt (r.take (ntohsAt r 2 + 4)) 2 = ntohsAt r 2 := by
        simp [ntohsAt, List.getElem?_take]
      simp [IsAttr, h3, h]
    · exact ha _ ha'
  | case2 r h =>
    rw [tlvSplit_of_lt (by omega)]
    exact ⟨rfl, by simp, show r.length < ntohsAt r 2 + 4 by omega⟩

/-- A tiling with no attribute: the remainder is the whole region.
Source: none: infrastructure
Kind: L -/
theorem tiles_nil {r rest : List UInt8} (h : Tiles r [] rest) :
    rest = r ∧ r.length < ntohsAt r 2 + 4 := by
  obtain ⟨hr, -, hn⟩ := h
  simp only [List.flatten_nil, List.nil_append] at hr
  subst hr
  exact ⟨rfl, hn⟩

/-- A tiling's first attribute is the region's front attribute, and the rest tiles what follows.
Source: none: infrastructure
Kind: L -/
theorem tiles_cons {r rest a : List UInt8} {as : List (List UInt8)} (h : Tiles r (a :: as) rest) :
    ntohsAt r 2 + 4 ≤ r.length ∧ a = r.take (ntohsAt r 2 + 4) ∧
      Tiles (r.drop (ntohsAt r 2 + 4)) as rest := by
  obtain ⟨hr, ha, hn⟩ := h
  have ha0 := ha a (List.mem_cons_self _ _)
  subst hr
  rw [List.flatten_cons, List.append_assoc, ntohsAt_append_of_isAttr ha0, ← ha0]
  refine ⟨by simp, by rw [List.take_left], ?_⟩
  rw [List.drop_left]
  exact ⟨rfl, fun b hb => ha b (List.mem_cons_of_mem _ hb), hn⟩

/-- A region has at most one tiling: the longest well-formed TLV prefix is well defined.
Source: none: infrastructure
Kind: L -/
theorem tiles_unique {r rest rest' : List UInt8} {as as' : List (List UInt8)}
    (h : Tiles r as rest) (h' : Tiles r as' rest') : as = as' ∧ rest = rest' := by
  induction as generalizing r as' with
  | nil =>
    obtain ⟨rfl, hn⟩ := tiles_nil h
    cases as' with
    | nil => exact ⟨rfl, (tiles_nil h').1.symm⟩
    | cons a' as' => exact absurd (tiles_cons h').1 (by omega)
  | cons a as ih =>
    obtain ⟨hle, rfl, ht⟩ := tiles_cons h
    cases as' with
    | nil => exact absurd (tiles_nil h').2 (by omega)
    | cons a' as' =>
      obtain ⟨-, rfl, ht'⟩ := tiles_cons h'
      obtain ⟨rfl, rfl⟩ := ih ht ht'
      exact ⟨rfl, rfl⟩

/-! ## The grammar on a segment, step by step -/

/-- The loop's two stops: a stub, or a length field that runs past the segment.
Source: none: infrastructure
Kind: L -/
theorem tlvSplit_seg_stop {buf : List UInt8} {off len : Nat} (h : off + len ≤ buf.length)
    (hs : len < 4 ∨ len < ntohsAt buf (off + 2) + 4) :
    tlvSplit (seg buf off len) = ([], seg buf off len) := by
  apply tlvSplit_of_lt
  rw [length_seg h]
  by_cases h4 : len < 4
  · omega
  · rw [ntohsAt_seg (by omega)]; omega

/-- The loop's step: the attribute at `off`, then the segment after it.
Source: none: infrastructure
Kind: L -/
theorem tlvSplit_seg_step {buf : List UInt8} {off len : Nat} (h : off + len ≤ buf.length)
    (hx : ntohsAt buf (off + 2) + 4 ≤ len) :
    tlvSplit (seg buf off len) =
      (seg buf off (ntohsAt buf (off + 2) + 4) ::
          (tlvSplit (seg buf (off + (ntohsAt buf (off + 2) + 4))
            (len - (ntohsAt buf (off + 2) + 4)))).1,
        (tlvSplit (seg buf (off + (ntohsAt buf (off + 2) + 4))
          (len - (ntohsAt buf (off + 2) + 4)))).2) := by
  have h2 : ntohsAt (seg buf off len) 2 = ntohsAt buf (off + 2) := ntohsAt_seg (by omega)
  rw [tlvSplit_of_le (by rw [length_seg h, h2]; exact hx), h2, seg_drop, seg_take hx]

/-! ## The attribute loop implements the grammar -/

/-- The offsets of consecutive attributes starting at `off`.
Source: none: infrastructure
Kind: D -/
def attrOffsets (off : Nat) : List (List UInt8) → List Nat
  | [] => []
  | a :: as => off :: attrOffsets (off + a.length) as

/-- The code a remainder ends the loop with: none when it is empty, `-21` for a stub of 1–3 bytes,
`-22` for an attribute that runs past the region.
Source: `src/stun.cpp` l. 1023–1032
Kind: D -/
def restErr (rest : List UInt8) : Option Int :=
  if rest = [] then none else if rest.length < 4 then some (-21) else some (-22)

variable {σ : Type}

/-- The loop calls the callback on the offset of each attribute of `tlvSplit` of its segment, in
order and on nothing else, and breaks with the code of the remainder.
Source: `src/stun.cpp` l. 1022–1041
Kind: L -/
theorem attrLoop_calls_err (cb : StunCb σ) (off len : Nat) (arg : σ) (m : Mem)
    (h : off + len ≤ m.buf.length) :
    calls (attrLoop cb off len arg m).mem.trace =
        calls m.trace ++ attrOffsets off (tlvSplit (seg m.buf off len)).1 ∧
      (attrLoop cb off len arg m).err = restErr (tlvSplit (seg m.buf off len)).2 := by
  induction off, len, arg, m using attrLoop.induct cb with
  | case1 off arg m =>
    rw [attrLoop, if_pos rfl, tlvSplit_seg_stop h (.inl (by omega))]
    simp [seg, attrOffsets, restErr]
  | case2 off len arg m h0 h4 =>
    rw [attrLoop, if_neg h0, if_pos h4, tlvSplit_seg_stop h (.inl h4)]
    simp [attrOffsets, restErr, ← List.length_eq_zero, length_seg h, h0, h4]
  | case3 off len arg m h0 h4 x hx =>
    rw [attrLoop, if_neg h0, if_neg h4, if_pos hx, tlvSplit_seg_stop h (.inr hx)]
    simp [attrOffsets, restErr, ← List.length_eq_zero, length_seg h, h0, h4]
  | case4 off len arg m h0 h4 x hx r ih =>
    have hx' : ntohsAt m.buf (off + 2) + 4 ≤ len := Nat.le_of_not_lt hx
    rw [attrLoop, if_neg h0, if_neg h4, if_neg hx, tlvSplit_seg_step h hx']
    obtain ⟨ihc, ihe⟩ := ih (by simp; omega)
    simp only [Mem.write_buf, Mem.read_buf, Mem.call_buf, seg_set (show off + 1 < off + x by omega),
      seg_set (show off < off + x by omega)] at ihc ihe
    refine ⟨?_, ihe⟩
    rw [ihc]
    simp [attrOffsets, length_seg (show off + (ntohsAt m.buf (off + 2) + 4) ≤ m.buf.length by omega)]

/-- A callback that sees only its own attribute: its new argument is `f` of the old one and of the
attribute's bytes.
Source: none: infrastructure
Kind: D -/
def AttrLocal (cb : StunCb σ) (f : σ → List UInt8 → σ) : Prop :=
  ∀ buf off s, off + (ntohsAt buf (off + 2) + 4) ≤ buf.length →
    (cb buf off s).1 = f s (seg buf off (ntohsAt buf (off + 2) + 4))

/-- With an attribute-local callback the loop's argument is the fold of `f` over the attributes.
Source: `src/stun.cpp` l. 1033–1040
Kind: L -/
theorem attrLoop_arg {cb : StunCb σ} {f : σ → List UInt8 → σ} (hcb : AttrLocal cb f)
    (off len : Nat) (arg : σ) (m : Mem) (h : off + len ≤ m.buf.length) :
    (attrLoop cb off len arg m).arg = (tlvSplit (seg m.buf off len)).1.foldl f arg := by
  induction off, len, arg, m using attrLoop.induct cb with
  | case1 off arg m => simp [attrLoop, tlvSplit_seg_stop h (.inl (Nat.zero_lt_succ 3))]
  | case2 off len arg m h0 h4 => rw [attrLoop, if_neg h0, if_pos h4, tlvSplit_seg_stop h (.inl h4)]; rfl
  | case3 off len arg m h0 h4 x hx =>
    rw [attrLoop, if_neg h0, if_neg h4, if_pos hx, tlvSplit_seg_stop h (.inr hx)]; rfl
  | case4 off len arg m h0 h4 x hx r ih =>
    have hx' : ntohsAt m.buf (off + 2) + 4 ≤ len := Nat.le_of_not_lt hx
    rw [attrLoop, if_neg h0, if_neg h4, if_neg hx, tlvSplit_seg_step h hx', List.foldl_cons,
      ← hcb _ _ _ (by omega), ih (by simp; omega)]
    simp only [Mem.write_buf, Mem.read_buf, Mem.call_buf, seg_set (show off + 1 < off + x by omega),
      seg_set (show off < off + x by omega)]

/-! ## `stun_handle_packet` on a UDP payload -/

/-- A UDP payload: a byte string the 16-bit UDP length field can carry.
Source: `data`, `len` of `stun_handle_packet` (the payload `recvfrom` returns)
Kind: D -/
structure UdpPayload where
  /-- The payload's bytes. -/
  data : List UInt8
  /-- It fits the UDP length field. -/
  size_lt : data.length < 2 ^ 16

/-- The attribute region `R = data[20 .. 20 + min(len - 20, msglen))` of a reply of `len` bytes,
`msglen` the big-endian field at bytes 2–3.
Source: `src/stun.cpp` l. 1013–1017
Kind: D -/
def attrRegion (data : List UInt8) (len : Nat) : List UInt8 :=
  seg data 20 (min (len - 20) (ntohsAt data 2))

/-- `stun_handle_packet` clips the region with `if (x < len) len = x`, i.e. `min`.
Source: `src/stun.cpp` l. 1015–1017
Kind: L -/
theorem clip_eq_min (x l : Nat) : (if x < l then x else l) = min l x := by
  split_ifs <;> omega

/-- Above a whole header, `stun_handle_packet` calls the callback on the attributes of the
region's tiling and returns `len` or the remainder's error code.
Source: `src/stun.cpp` l. 998–1056
Kind: L -/
theorem stunHandlePacket_calls_ret (cb : StunCb σ) (arg : σ) (data : List UInt8) (len : Nat)
    (h20 : 20 ≤ len) (hlen : len ≤ data.length) (h31 : len < 2 ^ 31) :
    calls (stunHandlePacket cb data len arg).mem.trace =
        attrOffsets 20 (tlvSplit (attrRegion data len)).1 ∧
      (stunHandlePacket cb data len arg).ret = ((restErr (tlvSplit (attrRegion data len)).2).getD len : Int) := by
  obtain ⟨hc, he⟩ := attrLoop_calls_err cb 20 (min (len - 20) (ntohsAt data 2)) arg
    ⟨data, [.read 2, .read 3]⟩ (by simp only; omega)
  simp only [stunHandlePacket, if_neg (show ¬len < 20 by omega), clip_eq_min, Mem.write_trace,
    calls_append, hc, he, toInt32_of_lt h31]
  exact ⟨by simp [attrRegion], rfl⟩

/-- Above a whole header, an attribute-local callback ends with its fold over the region's
attributes.
Source: `src/stun.cpp` l. 998–1056
Kind: L -/
theorem stunHandlePacket_arg {cb : StunCb σ} {f : σ → List UInt8 → σ} (hcb : AttrLocal cb f)
    (arg : σ) (data : List UInt8) (len : Nat) (h20 : 20 ≤ len) (hlen : len ≤ data.length) :
    (stunHandlePacket cb data len arg).arg = (tlvSplit (attrRegion data len)).1.foldl f arg := by
  simp only [stunHandlePacket, if_neg (show ¬len < 20 by omega), clip_eq_min]
  exact attrLoop_arg hcb _ _ _ _ (by simp only; omega)

/-- **The packet grammar.** For every UDP payload `P` of `len` bytes and every callback: below a
whole header the result is `-20` and the callback never runs; otherwise the region `R` has a
unique tiling `as`, `rest`, the callback is called exactly once on each attribute of `as`, in
order, and on nothing else, a callback that sees only its attribute (`AttrLocal cb f`) leaves
the fold of `f` over `as` in its argument, and the result is `len` when `rest` is empty, `-21`
when it is a stub of 1–3 bytes and `-22` when its header's `4 + L` runs past `R`.
Source: `src/stun.cpp` l. 998–1056
Kind: T -/
theorem stunHandlePacket_tiles (cb : StunCb σ) (arg : σ) (P : UdpPayload) :
    let r := stunHandlePacket cb P.data P.data.length arg
    (P.data.length < 20 ∧ r.ret = -20 ∧ calls r.mem.trace = [] ∧ r.arg = arg) ∨
    (20 ≤ P.data.length ∧ ∃ as rest, Tiles (attrRegion P.data P.data.length) as rest ∧
      (∀ as' rest', Tiles (attrRegion P.data P.data.length) as' rest' → as' = as ∧ rest' = rest) ∧
      calls r.mem.trace = attrOffsets 20 as ∧
      (∀ f, AttrLocal cb f → r.arg = as.foldl f arg) ∧
      r.ret = if rest = [] then (P.data.length : Int) else if rest.length < 4 then -21 else -22) := by
  intro r
  by_cases hlt : P.data.length < 20
  · exact .inl ⟨hlt, by simp [r, stunHandlePacket, hlt], by simp [r, stunHandlePacket, hlt],
      by simp [r, stunHandlePacket, hlt]⟩
  obtain ⟨hc, he⟩ := stunHandlePacket_calls_ret cb arg P.data _ (by omega) le_rfl
    (by have := P.size_lt; omega)
  refine .inr ⟨by omega, _, _, tlvSplit_tiles _, fun _ _ h => tiles_unique h (tlvSplit_tiles _),
    hc, fun f hcb => stunHandlePacket_arg hcb arg P.data _ (by omega) le_rfl, ?_⟩
  rw [he]
  unfold restErr
  split_ifs <;> rfl

end FortyTwo.Stun
