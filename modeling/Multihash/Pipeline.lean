import Multihash.Primitive

/-!
Multihash.Pipeline — the reference semantics of a chain.

A `Pipeline` is what a chain function is for: an ordered, non-empty list of
primitives. Its reference semantics is that of the C++ client: the first
stage hashes the message, and every later stage hashes the previous digest
held in a fresh zero-initialised `uint512` (`toUint512`), that is, exactly
the 64-byte block made of the digest followed by zeros. The result is the
first 32 bytes of the last digest.

`Pipeline.calls` lists every primitive invocation of the reference with the
bytes it hashes; the buffer-machine theorems compare a run's call log with
it, which is what rules out a stage hashing a stale buffer half.
-/

namespace Multihash

/-- A chain: a first stage on the raw message and the later stages on
64-byte blocks. Non-empty by construction. -/
structure Pipeline where
  first : Primitive
  rest : List Primitive
  deriving DecidableEq, Repr

namespace Pipeline

variable (H : Digests)

/-- The later stages: each hashes the previous digest in a fresh `uint512`. -/
def chain : List UInt8 → List Primitive → List UInt8
  | d, [] => d
  | d, q :: qs => chain (H.digest q (toUint512 d)) qs

/-- The primitive invocations of the later stages, each with the block it hashes. -/
def chainCalls : List UInt8 → List Primitive → List (Primitive × List UInt8)
  | _, [] => []
  | d, q :: qs => (q, toUint512 d) :: chainCalls (H.digest q (toUint512 d)) qs

/-- The last digest of the reference pipeline on `msg`. -/
def digest (P : Pipeline) (msg : List UInt8) : List UInt8 :=
  chain H (H.digest P.first msg) P.rest

/-- The 32-byte result: the first 32 bytes of the last digest. -/
def output (P : Pipeline) (msg : List UInt8) : List UInt8 :=
  (P.digest H msg).take 32

/-- Every primitive invocation of the reference pipeline on `msg`, in order. -/
def calls (P : Pipeline) (msg : List UInt8) : List (Primitive × List UInt8) :=
  (P.first, msg) :: chainCalls H (H.digest P.first msg) P.rest

@[simp] theorem chain_nil (d : List UInt8) : chain H d [] = d := rfl

@[simp] theorem chain_cons (d : List UInt8) (q : Primitive) (qs : List Primitive) :
    chain H d (q :: qs) = chain H (H.digest q (toUint512 d)) qs := rfl

@[simp] theorem chainCalls_nil (d : List UInt8) : chainCalls H d [] = [] := rfl

@[simp] theorem chainCalls_cons (d : List UInt8) (q : Primitive) (qs : List Primitive) :
    chainCalls H d (q :: qs) =
      (q, toUint512 d) :: chainCalls H (H.digest q (toUint512 d)) qs := rfl

end Pipeline

end Multihash
