import Mathlib.Data.List.Basic

/-!
Multihash.Primitive — the primitive hash registry the chain functions call.

Every chain function of `libmultihash` is a fixed sequence of calls to
sph-style primitives (`sph_X_init`, `sph_X`, `sph_X_close`) and, in
`globalhash`, to the BLAKE2 reference code. The primitives are external
collaborators: here each is an enumerated name, the number of bytes its
close writes, and an arbitrary function from byte strings to byte strings
of exactly that width (`Digests`). Every theorem of the project quantifies
over all such functions, so nothing depends on what the primitives compute.

`toUint512` is the storage rule of the C++ client the chains were ported
from: each stage's digest goes into a fresh, zero-initialised `uint512`, so
a 32-byte digest is followed by 32 zero bytes.
-/

namespace Multihash

/-- The primitives the modelled chains call, named after their context types
(`sph_sha512_context`, `blake2b_state`, ...). -/
inductive Primitive
  | blake512 | bmw512 | groestl512 | jh512 | keccak512 | skein512 | luffa512
  | cubehash512 | shavite512 | simd512 | echo512 | hamsi512 | fugue512
  | shabal512 | whirlpool | sha512 | haval256_5 | gost512 | blake2b | blake2s
  deriving DecidableEq, Repr

/-- Modelled from the spec: the digest widths, declared in the sph and
BLAKE2 headers that are not among the sources. Bytes the primitive's close
writes: 64 for the 512-bit sph primitives and for `blake2b_final` with
`BLAKE2B_OUTBYTES`, 32 for HAVAL-256/5 and for `blake2s_final` with
`BLAKE2S_OUTBYTES`. -/
def Primitive.width : Primitive → Nat
  | .haval256_5 | .blake2s => 32
  | _ => 64

theorem Primitive.width_eq (p : Primitive) : p.width = 32 ∨ p.width = 64 := by
  cases p <;> simp [Primitive.width]

theorem Primitive.width_ge (p : Primitive) : 32 ≤ p.width := by
  rcases p.width_eq with h | h <;> omega

theorem Primitive.width_le (p : Primitive) : p.width ≤ 64 := by
  rcases p.width_eq with h | h <;> omega

/-- The primitive hash registry: one total, deterministic digest function per
primitive, each returning exactly `width` bytes. -/
structure Digests where
  digest : Primitive → List UInt8 → List UInt8
  length_digest : ∀ p msg, (digest p msg).length = p.width

attribute [simp] Digests.length_digest

/-- The registry in which each primitive returns the first `width` bytes of
what it hashes, zero-padded: every byte of a block up to the width shows in
the digest, a stale upper half of a buffer included. -/
def Digests.truncate : Digests :=
  ⟨fun p msg => (msg ++ List.replicate p.width 0).take p.width, fun p msg => by
    simp only [List.length_take, List.length_append, List.length_replicate]
    omega⟩

/-- The fresh zero-initialised `uint512` a digest of at most 64 bytes is
stored in. -/
def toUint512 (d : List UInt8) : List UInt8 :=
  d ++ List.replicate (64 - d.length) 0

@[simp] theorem length_toUint512 {d : List UInt8} (h : d.length ≤ 64) :
    (toUint512 d).length = 64 := by
  rw [toUint512, List.length_append, List.length_replicate]
  omega

/-- The first `k` bytes of the `uint512`, for `k` past the digest: the digest
and then `k - d.length` zeros. -/
theorem take_toUint512 {d : List UInt8} {k : Nat} (hd : d.length ≤ k) (hk : k ≤ 64) :
    (toUint512 d).take k = d ++ List.replicate (k - d.length) 0 := by
  rw [toUint512, List.take_append_eq_append_take, List.take_of_length_le hd,
    List.take_replicate]
  congr 2; omega

/-- Up to the digest's length the `uint512` is the digest itself. -/
theorem take_toUint512_of_le {d : List UInt8} {k : Nat} (hk : k ≤ d.length) :
    (toUint512 d).take k = d.take k :=
  List.take_append_of_le_length hk

/-- A digest is read back from its `uint512` once its width is known:
`toUint512` is injective on digests of one length. -/
theorem toUint512_inj {d₁ d₂ : List UInt8} (hlen : d₁.length = d₂.length)
    (h : toUint512 d₁ = toUint512 d₂) : d₁ = d₂ :=
  (List.append_inj h hlen).1

end Multihash
