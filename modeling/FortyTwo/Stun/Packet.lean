import Mathlib
import FortyTwo.CInt

/-!
# `stun.cpp` · Packet: the reply buffer, `stun_handle_packet` and `stun_get_mapped`

The faithful layer of the STUN reply parser.

* **Bytes.** A buffer is a `List UInt8`; `ntohsAt buf i` is `ntohs` of the 16-bit field at
  offset `i` (big-endian). The layouts of `ministun.h` are not in the sources; the header comment
  of `stun.cpp` fixes them: a 20-byte header (type, length, 16-byte id) and attributes of a
  4-byte header (type, length) and a value.
* **Accesses.** `Mem` is the buffer together with the trace of every access made to it: a
  `read` or a `write` of one byte, and a `call` of the callback on the attribute at an offset.
  The bounds theorem (`Request.lean`) is a statement about this trace.
* **`stun_handle_packet`** (`stunHandlePacket`): the length checks, the clipping of the
  attribute region to the advertised `msglen`, the attribute loop `attrLoop` with its two error
  codes, the zeroing of each attribute's type field and the final NUL. A callback (`StunCb`) sees
  the buffer and the attribute's offset, updates its argument and reports the offsets it read.
* **`stun_get_mapped`** (`stunGetMapped`): the only callback of the sources.

Scope: the socket calls around the parser are in `Request.lean`; the callback's `int` result is
ignored by `stun_handle_packet` and is not modelled.
-/

namespace FortyTwo.Stun

/-! ## Bytes, accesses and the buffer -/

/-- `ntohs` of the 16-bit field at offset `i`: the two bytes big-endian. A byte past the end of
the list reads as `0`; no access of a reachable run goes there (`Request.lean`).
Source: `ntohs` in `src/stun.cpp` l. 1015, 1028, 1069
Kind: D
Fidelity: exact -/
def ntohsAt (buf : List UInt8) (i : Nat) : Nat :=
  (buf.getD i 0).toNat * 256 + (buf.getD (i + 1) 0).toNat

/-- The 32-bit field at offset `i`, as the number its network-order bytes denote.
Source: `addr->addr` in `src/stun.cpp` l. 1071
Kind: D
Fidelity: exact -/
def ntohlAt (buf : List UInt8) (i : Nat) : Nat :=
  ntohsAt buf i * 65536 + ntohsAt buf (i + 2)

/-- One access to the reply buffer: a byte read or written at an offset, or a call of the
callback on the attribute at an offset.
Source: none: instrumentation
Kind: D -/
inductive Access where
  | read (off : Nat)
  | write (off : Nat)
  | call (off : Nat)
  deriving DecidableEq, Repr

/-- The reply buffer and the trace of the accesses made to it so far.
Source: `unsigned char *data` of `stun_handle_packet`
Kind: D -/
structure Mem where
  /-- The bytes of the buffer. -/
  buf : List UInt8
  /-- Every access so far, oldest first. -/
  trace : List Access

/-- Reads of the bytes at `offs` (the buffer is unchanged).
Source: none: instrumentation
Kind: D -/
def Mem.read (m : Mem) (offs : List Nat) : Mem :=
  { m with trace := m.trace ++ offs.map .read }

/-- The byte write `buf[off] = v`.
Source: none: instrumentation
Kind: D -/
def Mem.write (m : Mem) (off : Nat) (v : UInt8) : Mem :=
  ⟨m.buf.set off v, m.trace ++ [.write off]⟩

/-- The call of the callback on the attribute at `off`.
Source: none: instrumentation
Kind: D -/
def Mem.call (m : Mem) (off : Nat) : Mem :=
  { m with trace := m.trace ++ [.call off] }

@[simp] theorem Mem.read_buf (m : Mem) (offs : List Nat) : (m.read offs).buf = m.buf := rfl
@[simp] theorem Mem.call_buf (m : Mem) (off : Nat) : (m.call off).buf = m.buf := rfl
@[simp] theorem Mem.write_buf (m : Mem) (off : Nat) (v : UInt8) :
    (m.write off v).buf = m.buf.set off v := rfl
@[simp] theorem Mem.read_trace (m : Mem) (offs : List Nat) :
    (m.read offs).trace = m.trace ++ offs.map .read := rfl
@[simp] theorem Mem.call_trace (m : Mem) (off : Nat) :
    (m.call off).trace = m.trace ++ [.call off] := rfl
@[simp] theorem Mem.write_trace (m : Mem) (off : Nat) (v : UInt8) :
    (m.write off v).trace = m.trace ++ [.write off] := rfl

/-- The offsets the callback was called on, in order.
Source: none: instrumentation
Kind: D -/
def calls (t : List Access) : List Nat :=
  t.filterMap fun | .call o => some o | _ => none

@[simp] theorem calls_append (t t' : List Access) : calls (t ++ t') = calls t ++ calls t' :=
  List.filterMap_append _ _ _

@[simp] theorem calls_nil : calls [] = [] := rfl
@[simp] theorem calls_cons_read (o : Nat) (t : List Access) : calls (.read o :: t) = calls t := rfl
@[simp] theorem calls_cons_write (o : Nat) (t : List Access) : calls (.write o :: t) = calls t :=
  rfl
@[simp] theorem calls_cons_call (o : Nat) (t : List Access) :
    calls (.call o :: t) = o :: calls t := rfl
@[simp] theorem calls_map_read (offs : List Nat) : calls (offs.map .read) = [] := by
  induction offs <;> simp_all

/-- The offsets written, in order.
Source: none: instrumentation
Kind: D -/
def writes (t : List Access) : List Nat :=
  t.filterMap fun | .write o => some o | _ => none

@[simp] theorem writes_append (t t' : List Access) : writes (t ++ t') = writes t ++ writes t' :=
  List.filterMap_append _ _ _

@[simp] theorem writes_nil : writes [] = [] := rfl
@[simp] theorem writes_cons_read (o : Nat) (t : List Access) : writes (.read o :: t) = writes t :=
  rfl
@[simp] theorem writes_cons_write (o : Nat) (t : List Access) :
    writes (.write o :: t) = o :: writes t := rfl
@[simp] theorem writes_cons_call (o : Nat) (t : List Access) : writes (.call o :: t) = writes t :=
  rfl
@[simp] theorem writes_map_read (offs : List Nat) : writes (offs.map .read) = [] := by
  induction offs <;> simp_all

/-- An offset is written exactly when the trace has a write there.
Source: none: instrumentation
Kind: L -/
theorem mem_writes {t : List Access} {i : Nat} : i ∈ writes t ↔ Access.write i ∈ t := by
  induction t with
  | nil => simp
  | cons e t ih => cases e <;> simp [ih]

/-! ## `stun_handle_packet` -/

/-- `stun_cb_f`: the callback gets the buffer, the offset of the attribute (`attr`) and its
argument; it returns the updated argument and the offsets it read.
Source: `typedef int (stun_cb_f)(struct stun_attr *attr, void *arg)`, `src/stun.cpp` l. 988
Kind: D -/
abbrev StunCb (σ : Type) := List UInt8 → Nat → σ → σ × List Nat

/-- Where the attribute loop stopped: the code it broke with (`none` when `len` reached `0`), the
offset of `data`, the callback's argument and the buffer.
Source: none: infrastructure
Kind: D -/
structure LoopEnd (σ : Type) where
  /-- `ret` when the loop broke with an error. -/
  err : Option Int
  /-- The offset `data` points at. -/
  off : Nat
  /-- The callback's argument. -/
  arg : σ
  /-- The buffer and its trace. -/
  mem : Mem

variable {σ : Type}

/-- The attribute loop `while (len) { … }` of `stun_handle_packet`: `off` is the offset of `data`,
`len` the size of the unprocessed options. A stub of 1–3 bytes breaks with `-21`; an attribute
whose `4 + L` exceeds `len` breaks with `-22`; otherwise the callback is called on it, its type
field is cleared and `data`, `len` move past it.
Source: `src/stun.cpp` l. 1022–1041
Kind: D
Fidelity: exact -/
def attrLoop (cb : StunCb σ) (off len : Nat) (arg : σ) (m : Mem) : LoopEnd σ :=
  if len = 0 then ⟨none, off, arg, m⟩
  else if len < 4 then ⟨some (-21), off, arg, m⟩
  else
    let x := ntohsAt m.buf (off + 2) + 4
    if len < x then ⟨some (-22), off, arg, m.read [off + 2, off + 3]⟩
    else
      let r := cb m.buf off arg
      attrLoop cb (off + x) (len - x) r.1
        ((((m.read [off + 2, off + 3]).call off).read r.2).write off 0 |>.write (off + 1) 0)
termination_by len

/-- What `stun_handle_packet` leaves: its result, the callback's argument and the buffer.
Source: none: infrastructure
Kind: D -/
structure Handled (σ : Type) where
  /-- The `int` result. -/
  ret : Int
  /-- The callback's argument (`void *arg`). -/
  arg : σ
  /-- The buffer and its trace. -/
  mem : Mem

/-- `stun_handle_packet(s, src, data, len, stun_cb, arg)`: `-20` below a whole header; otherwise
the advertised `msglen` clips the region after the header, the attribute loop runs over it, a NUL
is written where `data` stopped, and the result is `len` unless the loop broke with an error.
Source: `src/stun.cpp` l. 998–1056
Kind: D
Fidelity: exact -/
def stunHandlePacket (cb : StunCb σ) (data : List UInt8) (len : Nat) (arg : σ) : Handled σ :=
  if len < 20 then ⟨-20, arg, ⟨data, []⟩⟩
  else
    let x := ntohsAt data 2
    let r := attrLoop cb 20 (if x < len - 20 then x else len - 20) arg ⟨data, [.read 2, .read 3]⟩
    ⟨r.err.getD (toInt32 len), r.arg, r.mem.write r.off 0⟩

/-! ## `stun_get_mapped` -/

/-- `struct sockaddr_in` as the parser fills it: family, port and IPv4 address (the last two as
the numbers their network-order bytes denote).
Source: `struct sockaddr_in *mapped` of `StunRequest2`
Kind: D -/
structure SockaddrIn where
  /-- `sin_family`. -/
  sinFamily : Nat
  /-- `sin_port`. -/
  sinPort : Nat
  /-- `sin_addr.s_addr`. -/
  sinAddr : Nat
  deriving DecidableEq, Repr

/-- `memset(mapped, 0, sizeof(struct sockaddr_in))`.
Source: `src/stun.cpp` l. 1117
Kind: D -/
def SockaddrIn.zero : SockaddrIn := ⟨0, 0, 0⟩

/-- Modelled from the spec: `STUN_MAPPED_ADDRESS` is defined in `ministun.h`, which is not in the
sources; the spec says the probe speaks RFC 3489, whose MAPPED-ADDRESS attribute has type 1.
Source: `STUN_MAPPED_ADDRESS`, `src/stun.cpp` l. 1068
Kind: D -/
def STUN_MAPPED_ADDRESS : Nat := 0x0001

/-- `stun_get_mapped(attr, arg)`: on an attribute of type `STUN_MAPPED_ADDRESS` and length 8,
copy its port (value bytes 2–3) and address (value bytes 4–7) into the `sockaddr_in`; the `||`
reads the length field only when the type matched.
Source: `src/stun.cpp` l. 1062–1072
Kind: D
Fidelity: exact -/
def stunGetMapped : StunCb SockaddrIn := fun buf off sa =>
  if ntohsAt buf off ≠ STUN_MAPPED_ADDRESS then (sa, [off, off + 1])
  else if ntohsAt buf (off + 2) ≠ 8 then (sa, [off, off + 1, off + 2, off + 3])
  else ({ sa with sinPort := ntohsAt buf (off + 6), sinAddr := ntohlAt buf (off + 8) },
    [off, off + 1, off + 2, off + 3, off + 6, off + 7, off + 8, off + 9, off + 10, off + 11])

end FortyTwo.Stun
