import Multihash.Primitive

/-!
Multihash.Machine — the buffer machine the chain functions run on.

A chain function of `libmultihash` touches four byte regions: its two
scratch buffers `uint32_t hashA[16], hashB[16]` (64 bytes each, reused from
stage to stage and never initialised), `uint32_t finalhash[8]` in
`globalhash`, and the caller's 32-byte `output`. It also keeps one context
per primitive type (`ctx_sha2`, `ctx_jh`, ...). The statements it executes
are of five kinds, one constructor of `Instr` each:

* `sph_X_init(&ctx)` / `blake2X_init` — `init`: the context absorbs nothing yet;
* `sph_X(&ctx, src, n)` / `blake2X_update` — `update`: the context absorbs
  `n` bytes of `src` (the caller's `input` with `len`, or a region);
* `sph_X_close(&ctx, dst)` / `blake2X_final` — `close`: the digest of what
  the context absorbed is written to the first `width` bytes of `dst`, and
  nothing else of `dst` changes;
* `memset(&dst[i], 0, c)` — `memset`: word index `i` of the `uint32_t`
  array, so the zeros start at byte `4 * i`;
* `memcpy(dst, src, c)` — `memcpy`.

A read or write past the end of a region is undefined behaviour in C and
makes `exec` return `none`; a theorem that a run returns `some` is also a
proof that the run stays in bounds. `Mem.calls` is a ghost log of every
digest computed, with the bytes it was computed on; no statement reads it.
-/

namespace Multihash

/-- The byte regions a chain function touches. -/
inductive Region
  | hashA | hashB | finalhash | output
  deriving DecidableEq, Repr

/-- Region sizes in bytes. -/
def Region.size : Region → Nat
  | .hashA | .hashB => 64
  | .finalhash | .output => 32

theorem Region.size_ge (r : Region) : 32 ≤ r.size := by
  cases r <;> decide

theorem Region.size_le (r : Region) : r.size ≤ 64 := by
  cases r <;> decide

/-- `buf` with the bytes `[off, off + d.length)` replaced by `d`. -/
def overwrite (buf : List UInt8) (off : Nat) (d : List UInt8) : List UInt8 :=
  buf.take off ++ d ++ buf.drop (off + d.length)

theorem length_overwrite {buf d : List UInt8} {off : Nat} (h : off + d.length ≤ buf.length) :
    (overwrite buf off d).length = buf.length := by
  simp only [overwrite, List.length_append, List.length_take, List.length_drop]
  omega

@[simp] theorem overwrite_zero (buf d : List UInt8) :
    overwrite buf 0 d = d ++ buf.drop d.length := by
  simp [overwrite]

/-- A store right after a prefix `d`, as long as the stale bytes it covers,
leaves `d` followed by the stored bytes. -/
theorem overwrite_append_of_length {d s z : List UInt8} (h : s.length = z.length) :
    overwrite (d ++ s) d.length z = d ++ z := by
  simp [overwrite, List.drop_of_length_le, h]

/-- The machine state: the regions' bytes, each of its region's size, the
contexts' absorbed bytes, and the ghost log of digest calls. -/
structure Mem where
  bytes : Region → List UInt8
  size_eq : ∀ r, (bytes r).length = r.size
  ctx : Primitive → List UInt8
  calls : List (Primitive × List UInt8)

namespace Mem

/-- The memory in which every byte is `b`, with empty contexts and log. -/
def filled (b : UInt8) : Mem :=
  ⟨fun r => List.replicate r.size b, fun _ => List.length_replicate _ _, fun _ => [], []⟩

/-- The first `n` bytes of `r`; undefined past its end. -/
def load (m : Mem) (r : Region) (n : Nat) : Option (List UInt8) :=
  if n ≤ r.size then some ((m.bytes r).take n) else none

theorem size_eq_update (m : Mem) {r : Region} {off : Nat} {d : List UInt8}
    (h : off + d.length ≤ r.size) (r' : Region) :
    (Function.update m.bytes r (overwrite (m.bytes r) off d) r').length = r'.size := by
  rcases eq_or_ne r' r with rfl | hne
  · rw [Function.update_same, length_overwrite (by rw [m.size_eq]; exact h), m.size_eq]
  · rw [Function.update_noteq hne, m.size_eq]

/-- Write `d` into `r` from byte `off` on; undefined past its end. -/
def store (m : Mem) (r : Region) (off : Nat) (d : List UInt8) : Option Mem :=
  if h : off + d.length ≤ r.size then
    some { m with
      bytes := Function.update m.bytes r (overwrite (m.bytes r) off d)
      size_eq := m.size_eq_update h }
  else none

/-- Set the bytes context `p` has absorbed. -/
def setCtx (m : Mem) (p : Primitive) (c : List UInt8) : Mem :=
  { m with ctx := Function.update m.ctx p c }

theorem load_of_le (m : Mem) {r : Region} {n : Nat} (h : n ≤ r.size) :
    m.load r n = some ((m.bytes r).take n) := if_pos h

/-- An in-bounds store changes the bytes of `r` and nothing else the chain
proofs read. -/
theorem store_of_le (m : Mem) (r : Region) (off : Nat) (d : List UInt8)
    (h : off + d.length ≤ r.size) :
    ∃ m', m.store r off d = some m' ∧ m'.bytes r = overwrite (m.bytes r) off d ∧
      m'.calls = m.calls := by
  simp [store, h]

@[simp] theorem setCtx_bytes (m : Mem) (p : Primitive) (c : List UInt8) :
    (m.setCtx p c).bytes = m.bytes := rfl

@[simp] theorem setCtx_calls (m : Mem) (p : Primitive) (c : List UInt8) :
    (m.setCtx p c).calls = m.calls := rfl

@[simp] theorem setCtx_ctx_self (m : Mem) (p : Primitive) (c : List UInt8) :
    (m.setCtx p c).ctx p = c := by
  simp [setCtx]

end Mem

/-- The pointer and length an `update` reads: the caller's `input` with
`len`, or the first `n` bytes of a region. -/
inductive Src
  | input
  | region (r : Region) (n : Nat)
  deriving DecidableEq, Repr

/-- One statement of a chain function. -/
inductive Instr
  | init (p : Primitive)
  | update (p : Primitive) (src : Src)
  | close (p : Primitive) (dst : Region)
  | memset (dst : Region) (word count : Nat)
  | memcpy (dst src : Region) (count : Nat)
  deriving DecidableEq, Repr

section Run

variable (H : Digests) (input : List UInt8) (len : UInt32)

/-- The bytes an `update` absorbs; reading `input[0..len)` past the end of
the caller's buffer is undefined. -/
def Src.load (m : Mem) : Src → Option (List UInt8)
  | .input => if len.toNat ≤ input.length then some (input.take len.toNat) else none
  | .region r n => m.load r n

/-- One statement. -/
def exec : Instr → Mem → Option Mem
  | .init p, m => some (m.setCtx p [])
  | .update p src, m => (src.load input len m).map fun data => m.setCtx p (m.ctx p ++ data)
  | .close p dst, m =>
      (m.store dst 0 (H.digest p (m.ctx p))).map fun m' =>
        { m' with calls := m'.calls ++ [(p, m.ctx p)] }
  | .memset dst word count, m => m.store dst (4 * word) (List.replicate count 0)
  | .memcpy dst src count, m => (m.load src count).bind (m.store dst 0)

/-- A chain function's body, run statement by statement. -/
def run : List Instr → Mem → Option Mem
  | [], m => some m
  | i :: is, m => (exec H input len i m).bind (run is)

@[simp] theorem run_nil (m : Mem) : run H input len [] m = some m := rfl

@[simp] theorem run_cons (i : Instr) (is : List Instr) (m : Mem) :
    run H input len (i :: is) m = (exec H input len i m).bind (run H input len is) := rfl

end Run

end Multihash
