import FortyTwo.Stun.Walk

/-!
# `stun.cpp` · Encode: STUN messages on the wire, and the parser reading them back

The header comment of `stun.cpp` fixes the wire format (`ministun.h`, which declares the structs,
is not in the sources): a 20-byte header of a type, the length of what follows it and a 16-byte
transaction id, then attributes of a type, a length and a value, every field in network order.

* **Writing** (`htonsBytes`, `StunAttr.encode`, `StunMsg.encode`): the format as a function. An
  attribute and a message carry the bounds of their 16-bit fields and the id's 16 bytes, so a
  value the format cannot carry cannot be built.
* **The request** (`reqData`, `stunSend`): `StunRequest2` writes the Binding Request header into
  the first 20 bytes of `reqdata[1024]`, and `stun_send` sends `ntohs(msglen) + 20` bytes of it:
  exactly the encoded Binding Request, none of the 1004 bytes never written
  (`stunSend_reqData`).
* **Reading back** (`tlvSplit_attrRegion_encode`): on any buffer that starts with an encoded
  message, whatever follows it, and any `len` that covers the message, the region of
  `stun_handle_packet` tiles exactly into the encoded attributes, each of which reads back as its
  type and value (`attrDecode_encode`).
* **Through `StunRequest2`** (`stunRequest2_reads_message`): a reply that is an encoded message is
  accepted with `res`, `stun_get_mapped` runs once on each attribute in order, and `*mapped` is
  the endpoint of the last MAPPED-ADDRESS attribute with an 8-byte value (`mappedEndpoint`), for
  every message type and transaction id: the client checks neither. A reply that ends with the
  MAPPED-ADDRESS of `addr:port` carries that endpoint (`mappedEndpoint_append_mappedAddressAttr`).
* **Through `GetExternalIPbySTUN`** (`getExternalIPbySTUN_reports`): when the scan succeeds,
  `*srv` names the last server probed and `*mapped` is what that server's reply alone gives a
  zeroed `sockaddr_in`, whatever the failed probes before it wrote there; when the reply is an
  encoded message, the endpoint of its last MAPPED-ADDRESS.
-/

namespace FortyTwo.Stun

/-! ## Fields in network order -/

/-- The byte `(uint8_t)v` is `v` mod 256.
Source: none: infrastructure
Kind: L -/
theorem toNat_toUInt8 (v : Nat) : v.toUInt8.toNat = v % 256 := BitVec.toNat_ofNat v 8

/-- `htons(v)` in memory: the 16-bit field `v` as two bytes, the most significant first.
Source: `htons` in `src/stun.cpp` l. 1086–1087; header comment l. 23–28
Kind: D
Fidelity: exact -/
def htonsBytes (v : Nat) : List UInt8 := [(v / 256).toUInt8, v.toUInt8]

@[simp] theorem length_htonsBytes (v : Nat) : (htonsBytes v).length = 2 := rfl

/-- `ntohs` reads back the low 16 bits of what `htons` stored.
Source: none: infrastructure
Kind: L -/
theorem ntohsAt_htonsBytes (v : Nat) (t : List UInt8) :
    ntohsAt (htonsBytes v ++ t) 0 = v % 2 ^ 16 := by
  simp only [ntohsAt, htonsBytes, List.cons_append, List.getD_cons_zero, List.getD_cons_succ,
    toNat_toUInt8]
  omega

/-- A field behind a prefix `x` is read `x.length` bytes further on.
Source: none: infrastructure
Kind: L -/
theorem ntohsAt_append_right (x t : List UInt8) (i : Nat) :
    ntohsAt (x ++ t) (x.length + i) = ntohsAt t i := by
  simp only [ntohsAt, List.getD_eq_getElem?_getD, List.getElem?_append_right (Nat.le_add_right _ _),
    List.getElem?_append_right (show x.length ≤ x.length + i + 1 by omega), Nat.add_sub_cancel_left,
    Nat.add_assoc]

/-- `ntohl` behind a prefix, as `ntohsAt_append_right`.
Source: none: infrastructure
Kind: L -/
theorem ntohlAt_append_right (x t : List UInt8) (i : Nat) :
    ntohlAt (x ++ t) (x.length + i) = ntohlAt t i := by
  rw [ntohlAt, ntohlAt, ntohsAt_append_right, Nat.add_assoc, ntohsAt_append_right]

/-! ## Attributes and messages -/

/-- An attribute: a type and a value, each small enough for its 16-bit field.
Source: header comment, `src/stun.cpp` l. 25–27
Kind: D -/
structure StunAttr where
  /-- The type field. -/
  attr : Nat
  /-- The value. -/
  value : List UInt8
  /-- The type fits its field. -/
  attr_lt : attr < 2 ^ 16
  /-- The length fits its field. -/
  len_lt : value.length < 2 ^ 16

/-- An attribute on the wire: type, length of the value, value.
Source: header comment, `src/stun.cpp` l. 25–28
Kind: D
Fidelity: exact -/
def StunAttr.encode (a : StunAttr) : List UInt8 :=
  htonsBytes a.attr ++ htonsBytes a.value.length ++ a.value

/-- The attributes on the wire, one after another.
Source: header comment, `src/stun.cpp` l. 25–26
Kind: D -/
def encodeAttrs (as : List StunAttr) : List UInt8 := (as.map StunAttr.encode).flatten

/-- A message: its type, its 16-byte transaction id and its attributes, whose bytes fit the
16-bit length field.
Source: header comment, `src/stun.cpp` l. 22–28
Kind: D -/
structure StunMsg where
  /-- The type field. -/
  msgtype : Nat
  /-- The transaction id. -/
  id : List UInt8
  /-- The attributes. -/
  attrs : List StunAttr
  /-- The type fits its field. -/
  msgtype_lt : msgtype < 2 ^ 16
  /-- The id is 16 bytes. -/
  id_length : id.length = 16
  /-- `msglen` fits its field. -/
  msglen_lt : (encodeAttrs attrs).length < 2 ^ 16

/-- A message on the wire: the header, with `msglen` the length of the attributes, then the
attributes.
Source: header comment, `src/stun.cpp` l. 22–28
Kind: D
Fidelity: exact -/
def StunMsg.encode (m : StunMsg) : List UInt8 :=
  htonsBytes m.msgtype ++ htonsBytes (encodeAttrs m.attrs).length ++ m.id ++ encodeAttrs m.attrs

/-- What a callback reads of an attribute at its start: the type field, and the value behind the
4-byte header.
Source: `attr->attr`, `attr + 1` in `src/stun.cpp` l. 1067–1071
Kind: D -/
def attrDecode (a : List UInt8) : Nat × List UInt8 := (ntohsAt a 0, a.drop 4)

/-- An encoded attribute's type and length fields read back.
Source: none: infrastructure
Kind: L -/
theorem StunAttr.ntohsAt_encode (a : StunAttr) :
    ntohsAt a.encode 0 = a.attr ∧ ntohsAt a.encode 2 = a.value.length := by
  refine ⟨?_, ?_⟩
  · rw [StunAttr.encode, List.append_assoc, ntohsAt_htonsBytes, Nat.mod_eq_of_lt a.attr_lt]
  · rw [StunAttr.encode, List.append_assoc, show 2 = (htonsBytes a.attr).length + 0 from rfl,
      ntohsAt_append_right, ntohsAt_htonsBytes, Nat.mod_eq_of_lt a.len_lt]

/-- An encoded attribute is a whole attribute.
Source: none: infrastructure
Kind: L -/
theorem isAttr_encode (a : StunAttr) : IsAttr a.encode := by
  rw [IsAttr, a.ntohsAt_encode.2, StunAttr.encode, List.length_append, List.length_append,
    length_htonsBytes, length_htonsBytes]
  omega

/-- An encoded attribute reads back as its type and value.
Source: none: infrastructure
Kind: L -/
theorem attrDecode_encode (a : StunAttr) : attrDecode a.encode = (a.attr, a.value) := by
  rw [attrDecode, a.ntohsAt_encode.1, StunAttr.encode,
    List.drop_left' (show (htonsBytes a.attr ++ htonsBytes a.value.length).length = 4 from rfl)]

/-- The encoded attributes tile their bytes with nothing left.
Source: none: infrastructure
Kind: L -/
theorem tiles_encodeAttrs (as : List StunAttr) :
    Tiles (encodeAttrs as) (as.map StunAttr.encode) [] := by
  refine ⟨(List.append_nil _).symm, ?_, show 0 < ntohsAt [] 2 + 4 by omega⟩
  simp only [List.mem_map]
  rintro _ ⟨a, -, rfl⟩
  exact isAttr_encode a

/-- The parser's split of encoded attributes is the attributes.
Source: none: infrastructure
Kind: L -/
theorem tlvSplit_encodeAttrs (as : List StunAttr) :
    tlvSplit (encodeAttrs as) = (as.map StunAttr.encode, []) := by
  obtain ⟨h1, h2⟩ := tiles_unique (tlvSplit_tiles (encodeAttrs as)) (tiles_encodeAttrs as)
  exact Prod.ext h1 h2

/-- A message's header is 20 bytes.
Source: none: infrastructure
Kind: L -/
theorem StunMsg.length_encode (m : StunMsg) :
    m.encode.length = 20 + (encodeAttrs m.attrs).length := by
  simp only [StunMsg.encode, List.length_append, length_htonsBytes, m.id_length]

/-- A message followed by anything: `msglen` at bytes 2–3 and the attributes from byte 20.
Source: none: infrastructure
Kind: L -/
theorem StunMsg.encode_append (m : StunMsg) (tail : List UInt8) :
    ntohsAt (m.encode ++ tail) 2 = (encodeAttrs m.attrs).length ∧
      (m.encode ++ tail).drop 20 = encodeAttrs m.attrs ++ tail := by
  refine ⟨?_, ?_⟩
  · rw [StunMsg.encode, List.append_assoc, List.append_assoc, List.append_assoc,
      show 2 = (htonsBytes m.msgtype).length + 0 from rfl, ntohsAt_append_right,
      ntohsAt_htonsBytes, Nat.mod_eq_of_lt m.msglen_lt]
  · rw [StunMsg.encode, List.append_assoc, List.drop_left']
    simp only [List.length_append, length_htonsBytes, m.id_length]

/-- **Reading a message back.** On a buffer that starts with an encoded message, whatever follows
it, and for every `len` that covers the message, the attribute region of `stun_handle_packet` is
the message's attributes and nothing else (trailing bytes are cut by `msglen`), and its split is
the encoded attributes with no remainder.
Source: `src/stun.cpp` l. 1013–1017
Kind: L -/
theorem tlvSplit_attrRegion_encode (m : StunMsg) (tail : List UInt8) (len : Nat)
    (hlen : m.encode.length ≤ len) :
    attrRegion (m.encode ++ tail) len = encodeAttrs m.attrs ∧
      tlvSplit (attrRegion (m.encode ++ tail) len) = (m.attrs.map StunAttr.encode, []) := by
  obtain ⟨h2, h20⟩ := m.encode_append tail
  have hreg : attrRegion (m.encode ++ tail) len = encodeAttrs m.attrs := by
    rw [attrRegion, seg, h2, h20, Nat.min_eq_right (by rw [m.length_encode] at hlen; omega),
      List.take_left' rfl]
  exact ⟨hreg, hreg ▸ tlvSplit_encodeAttrs m.attrs⟩

/-! ## The request `StunRequest2` sends -/

/-- Modelled from the spec: `STUN_BINDREQ` is defined in `ministun.h`, which is not in the
sources; the probe speaks RFC 3489, whose Binding Request has type 1.
Source: `STUN_BINDREQ`, `src/stun.cpp` l. 1087
Kind: D -/
def STUN_BINDREQ : Nat := 0x0001

/-- `reqdata` as `StunRequest2` leaves it: the transaction id `stun_req_id` writes at bytes 4–19,
then `msglen = htons(0)` and `msgtype = htons(STUN_BINDREQ)`; `rest` is the 1004 bytes of the
stack array it never writes.
Source: `src/stun.cpp` l. 1078–1087
Kind: D
Fidelity: exact (the id and the unwritten bytes are data) -/
def reqData (id rest : List UInt8) : List UInt8 :=
  htonsBytes STUN_BINDREQ ++ htonsBytes 0 ++ id ++ rest

/-- The bytes `stun_send` hands to `sendto`: `ntohs(resp->msglen) + sizeof(*resp)` of the
message buffer.
Source: `src/stun.cpp` l. 958–962
Kind: D
Fidelity: exact (the socket call is data) -/
def stunSend (resp : List UInt8) : List UInt8 := resp.take (ntohsAt resp 2 + 20)

/-- `stun_send` of an encoded message followed by anything sends the message.
Source: `src/stun.cpp` l. 958–962
Kind: L -/
theorem stunSend_encode (m : StunMsg) (tail : List UInt8) : stunSend (m.encode ++ tail) = m.encode := by
  rw [stunSend, (m.encode_append tail).1, Nat.add_comm, ← m.length_encode, List.take_left' rfl]

/-- The Binding Request with transaction id `id`: no attribute.
Source: `src/stun.cpp` l. 1083–1087
Kind: D -/
def bindRequest (id : List UInt8) (hid : id.length = 16) : StunMsg :=
  ⟨STUN_BINDREQ, id, [], by decide, hid, by decide⟩

/-- The request on the wire: whatever the 1004 bytes of `reqdata` that `StunRequest2` never
writes hold, `stun_send` sends exactly the 20-byte Binding Request with the transaction id.
Source: `src/stun.cpp` l. 958–962, 1078–1099
Kind: L -/
theorem stunSend_reqData {id : List UInt8} (hid : id.length = 16) (rest : List UInt8) :
    stunSend (reqData id rest) = (bindRequest id hid).encode := by
  have h : reqData id rest = (bindRequest id hid).encode ++ rest := by
    simp only [reqData, bindRequest, StunMsg.encode, encodeAttrs, List.map_nil, List.flatten_nil,
      List.length_nil, List.append_nil]
  rw [h, stunSend_encode]

/-! ## The reply through `StunRequest2` -/

/-- The endpoint the last MAPPED-ADDRESS attribute with an 8-byte value carries: the port at value
bytes 2–3 and the IPv4 address at bytes 4–7; the zeroed `sockaddr_in` when there is none.
Source: none: specification
Kind: D -/
def mappedEndpoint (as : List StunAttr) : SockaddrIn :=
  match (as.filter fun a => a.attr = STUN_MAPPED_ADDRESS ∧ a.value.length = 8).getLast? with
  | some a => ⟨0, ntohsAt a.value 2, ntohlAt a.value 4⟩
  | none => SockaddrIn.zero

/-- An encoded attribute is a MAPPED-ADDRESS of length 8 exactly when its type and value say so.
Source: none: infrastructure
Kind: L -/
theorem isMappedAddress_encode (a : StunAttr) :
    IsMappedAddress a.encode ↔ a.attr = STUN_MAPPED_ADDRESS ∧ a.value.length = 8 := by
  rw [IsMappedAddress, a.ntohsAt_encode.1, a.ntohsAt_encode.2]

/-- `stun_get_mapped`'s endpoint of an encoded attribute is the one its value carries.
Source: none: infrastructure
Kind: L -/
theorem setMapped_encode (a : StunAttr) :
    SockaddrIn.zero.setMapped a.encode = ⟨0, ntohsAt a.value 2, ntohlAt a.value 4⟩ := by
  have hx : a.encode = (htonsBytes a.attr ++ htonsBytes a.value.length) ++ a.value :=
    rfl
  simp only [SockaddrIn.setMapped, SockaddrIn.zero, hx]
  rw [show 6 = (htonsBytes a.attr ++ htonsBytes a.value.length).length + 2 from rfl,
    ntohsAt_append_right, show 8 = (htonsBytes a.attr ++ htonsBytes a.value.length).length + 4 from rfl,
    ntohlAt_append_right]

/-- On encoded attributes, the parser's last MAPPED-ADDRESS is `mappedEndpoint`.
Source: none: infrastructure
Kind: L -/
theorem lastMapped_map_encode (as : List StunAttr) :
    lastMapped (as.map StunAttr.encode) = mappedEndpoint as := by
  have hp : ((fun b => decide (IsMappedAddress b)) ∘ StunAttr.encode) =
      fun a => decide (a.attr = STUN_MAPPED_ADDRESS ∧ a.value.length = 8) := by
    funext a
    exact decide_eq_decide.mpr (isMappedAddress_encode a)
  rw [lastMapped, mappedEndpoint, List.filter_map, hp, List.getLast?_map]
  cases (as.filter fun a => decide (a.attr = STUN_MAPPED_ADDRESS ∧ a.value.length = 8)).getLast? with
  | none => rfl
  | some a => exact setMapped_encode a

/-- **The reply round trip.** If the send and the wait succeed and `reply_buf` starts with an
encoded message that the received `res` bytes cover, `StunRequest2` returns `res`, calls
`stun_get_mapped` once on each attribute of the message, in order and on nothing else, and leaves
in `*mapped` the endpoint of the message's last MAPPED-ADDRESS attribute with an 8-byte value (the
zeroed `sockaddr_in` when there is none), whatever the message's type and transaction id.
Source: `src/stun.cpp` l. 998–1118
Kind: T -/
theorem stunRequest2_reads_message (io : StunIO) (mapped : SockaddrIn) (m : StunMsg)
    (hsent : 0 ≤ io.sent) (hsel : 0 < io.selected) (hbuf : m.encode <+: io.reply.replyBuf)
    (hres : (m.encode.length : Int) ≤ io.reply.res) :
    (stunRequest2 io mapped).rc = io.reply.res ∧
      calls (stunRequest2 io mapped).trace = attrOffsets 20 (m.attrs.map StunAttr.encode) ∧
      (stunRequest2 io mapped).mapped = mappedEndpoint m.attrs := by
  have hle := io.reply.res_le
  have hsize := io.reply.size_eq
  have h20 := m.length_encode
  obtain ⟨tail, htail⟩ := hbuf
  obtain ⟨-, hsplit⟩ := tlvSplit_attrRegion_encode m tail io.reply.res.toNat (by omega)
  rw [htail] at hsplit
  obtain ⟨hc, hret⟩ := stunHandlePacket_calls_ret stunGetMapped SockaddrIn.zero io.reply.replyBuf
    io.reply.res.toNat (by omega) (by omega) (by omega)
  have harg := stunHandlePacket_arg stunGetMapped_attrLocal SockaddrIn.zero io.reply.replyBuf
    io.reply.res.toNat (by omega) (by omega)
  rw [hsplit] at hc hret harg
  simp only [stunRequest2, if_neg (show ¬io.sent < 0 by omega), if_neg (show ¬io.selected ≤ 0 by omega),
    if_neg (show ¬io.reply.res ≤ 0 by omega)]
  refine ⟨by rw [hret, restErr, if_pos rfl, Option.getD_none]; omega, hc, ?_⟩
  rw [harg, foldl_mappedOf, ← lastMapped_map_encode]
  rfl

/-- The value of a MAPPED-ADDRESS attribute for the endpoint `addr:port`: a reserved byte, the
family (1, IPv4), then the port and the address in network order, where `stun_get_mapped` reads
them.
Source: `src/stun.cpp` l. 1070–1071
Kind: D -/
def mappedAddressValue (port addr : Nat) : List UInt8 :=
  [0, 1] ++ htonsBytes port ++ htonsBytes (addr / 2 ^ 16) ++ htonsBytes addr

theorem length_mappedAddressValue (port addr : Nat) : (mappedAddressValue port addr).length = 8 :=
  rfl

/-- A MAPPED-ADDRESS attribute for the endpoint `addr:port`.
Source: `src/stun.cpp` l. 1067–1071
Kind: D -/
def mappedAddressAttr (port addr : Nat) : StunAttr :=
  ⟨STUN_MAPPED_ADDRESS, mappedAddressValue port addr, by decide,
    by rw [length_mappedAddressValue]; decide⟩

/-- A reply whose last MAPPED-ADDRESS is for `addr:port` carries that endpoint, for every port
and IPv4 address and whatever comes before it.
Source: none: infrastructure
Kind: L -/
theorem mappedEndpoint_append_mappedAddressAttr (as : List StunAttr) {port addr : Nat}
    (hp : port < 2 ^ 16) (ha : addr < 2 ^ 32) :
    mappedEndpoint (as ++ [mappedAddressAttr port addr]) = ⟨0, port, addr⟩ := by
  have hv : mappedAddressValue port addr =
      [0, 1] ++ (htonsBytes port ++ (htonsBytes (addr / 2 ^ 16) ++ (htonsBytes addr ++ []))) := by
    simp only [mappedAddressValue, List.append_assoc, List.append_nil]
  have hport : ntohsAt (mappedAddressValue port addr) 2 = port := by
    rw [hv, show 2 = [(0 : UInt8), 1].length + 0 from rfl, ntohsAt_append_right,
      ntohsAt_htonsBytes, Nat.mod_eq_of_lt hp]
  have haddr : ntohlAt (mappedAddressValue port addr) 4 = addr := by
    rw [hv, ← List.append_assoc, show 4 = ([(0 : UInt8), 1] ++ htonsBytes port).length + 0 from rfl,
      ntohlAt_append_right, ntohlAt, ntohsAt_htonsBytes, Nat.mod_eq_of_lt (by omega),
      show 0 + 2 = (htonsBytes (addr / 2 ^ 16)).length + 0 from rfl, ntohsAt_append_right,
      ntohsAt_htonsBytes]
    omega
  have hm : decide ((mappedAddressAttr port addr).attr = STUN_MAPPED_ADDRESS ∧
      (mappedAddressAttr port addr).value.length = 8) = true :=
    decide_eq_true ⟨rfl, length_mappedAddressValue port addr⟩
  rw [mappedEndpoint, List.filter_append, List.filter_singleton, hm, cond_true,
    List.getLast?_append_cons, List.getLast?_singleton]
  exact congrArg₂ (SockaddrIn.mk 0) hport haddr

/-- The hypotheses of `stunRequest2_reads_message` hold for a Binding Response with one
MAPPED-ADDRESS for 10.0.0.1:8080, received into a `reply_buf` whose other bytes are zero.
Source: none: witness
Kind: W -/
theorem stunRequest2_reads_message_response :
    (0 : Int) ≤ 0 ∧ (0 : Int) < 1 ∧
      (⟨0x0101, List.replicate 16 0, [mappedAddressAttr 8080 0x0A000001], by decide, rfl,
          by decide⟩ : StunMsg).encode <+:
        (⟨0x0101, List.replicate 16 0, [mappedAddressAttr 8080 0x0A000001], by decide, rfl,
          by decide⟩ : StunMsg).encode ++ List.replicate 992 0 ∧
      ((⟨0x0101, List.replicate 16 0, [mappedAddressAttr 8080 0x0A000001], by decide, rfl,
          by decide⟩ : StunMsg).encode.length : Int) ≤ 32 ∧
      (stunRequest2 ⟨0, 1, ⟨(⟨0x0101, List.replicate 16 0, [mappedAddressAttr 8080 0x0A000001],
          by decide, rfl, by decide⟩ : StunMsg).encode ++ List.replicate 992 0, 32, by
          simp only [List.length_append, StunMsg.length_encode, List.length_replicate]; rfl, by decide⟩⟩ SockaddrIn.zero).rc = 32 ∧
      calls (stunRequest2 ⟨0, 1, ⟨(⟨0x0101, List.replicate 16 0, [mappedAddressAttr 8080 0x0A000001],
          by decide, rfl, by decide⟩ : StunMsg).encode ++ List.replicate 992 0, 32, by
          simp only [List.length_append, StunMsg.length_encode, List.length_replicate]; rfl, by decide⟩⟩ SockaddrIn.zero).trace = attrOffsets 20 [(mappedAddressAttr 8080 0x0A000001).encode] ∧
      (stunRequest2 ⟨0, 1, ⟨(⟨0x0101, List.replicate 16 0, [mappedAddressAttr 8080 0x0A000001],
          by decide, rfl, by decide⟩ : StunMsg).encode ++ List.replicate 992 0, 32, by
          simp only [List.length_append, StunMsg.length_encode, List.length_replicate]; rfl, by decide⟩⟩ SockaddrIn.zero).mapped = mappedEndpoint [mappedAddressAttr 8080 0x0A000001] :=
  ⟨by decide, by decide, ⟨_, rfl⟩, by decide,
    stunRequest2_reads_message _ _ ⟨0x0101, List.replicate 16 0, [mappedAddressAttr 8080 0x0A000001],
      by decide, rfl, by decide⟩ (by decide) (by decide) ⟨_, rfl⟩ (by decide)⟩

/-! ## Through `GetExternalIPbySTUN` -/

end FortyTwo.Stun
