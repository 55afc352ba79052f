import Multihash.Chains
import Multihash.Validate

/-!
Multihash.Catalog — the five chain functions meet their pipelines.

`catalog` pairs each chain function's body with the pipeline it was ported
from. The validator accepts all five
(`catalog_check`, run by `decide`), and `Pipeline.check_sound` turns that
into the refinement: for every input and length, every initial content of
the reused scratch buffers and contexts, and every choice of primitives of
the declared widths, each body stays in bounds, copies to `output` the
first 32 bytes of the reference pipeline, and makes exactly the reference's
digest calls. The second half is what says that each later stage hashes the
previous digest followed by zeros and never a stale half of `hashA`/`hashB`.
-/

namespace Multihash

/-- A chain function: its body and its reference pipeline. -/
structure ChainEntry where
  body : List Instr
  pipeline : Pipeline

/-- The chain functions of `libmultihash` whose bodies are modelled. -/
def catalog : List ChainEntry :=
  [⟨astralhashHash, astralhashPipeline⟩,
   ⟨globalhashHash, globalhashPipeline⟩,
   ⟨jeonghashHash, jeonghashPipeline⟩,
   ⟨padihashHash, padihashPipeline⟩,
   ⟨pawelhashHash, pawelhashPipeline⟩]

/-- Every body in the catalog passes the validator against its pipeline. -/
theorem catalog_check : ∀ c ∈ catalog, c.pipeline.check c.body = true := by
  decide

/-- Without its first `memset` (statement 19), `padihash_hash` would hash the
stale upper half of `hashB`, and the validator rejects it. -/
example : padihashPipeline.check (padihashHash.eraseIdx 18) = false := by
  decide

/-- Each chain function computes its reference pipeline, from any scratch
contents and with any primitives of the declared widths. -/
theorem catalog_refines_pipeline (H : Digests) (input : List UInt8) (len : UInt32)
    (hlen : len.toNat ≤ input.length) (m : Mem) :
    ∀ c ∈ catalog, ∃ m', run H input len c.body m = some m' ∧
      m'.bytes .output = c.pipeline.output H (input.take len.toNat) ∧
      m'.calls = m.calls ++ c.pipeline.calls H (input.take len.toNat) :=
  fun c hc => Pipeline.check_sound H input len (catalog_check c hc) hlen m

/-- The refinement on the first three bytes of a four-byte input, from memory
filled with ones, with primitives whose digests show what they hash. -/
theorem catalog_refines_pipeline_on_prefix :
    (3 : UInt32).toNat ≤ [1, 2, 3, 4].length ∧
      ∀ c ∈ catalog, ∃ m', run Digests.truncate [1, 2, 3, 4] 3 c.body (Mem.filled 1) = some m' ∧
        m'.bytes .output = c.pipeline.output Digests.truncate [1, 2, 3] ∧
        m'.calls = c.pipeline.calls Digests.truncate [1, 2, 3] :=
  ⟨by decide, catalog_refines_pipeline _ [1, 2, 3, 4] 3 (by decide) _⟩

/-- The scratch buffers and contexts a chain function never initialises do
not reach its result: from any two memories it is defined and writes the
same output. -/
theorem catalog_output_independent_of_scratch (H : Digests) (input : List UInt8) (len : UInt32)
    (hlen : len.toNat ≤ input.length) (m₁ m₂ : Mem) :
    ∀ c ∈ catalog, ∃ m₁' m₂', run H input len c.body m₁ = some m₁' ∧
      run H input len c.body m₂ = some m₂' ∧ m₁'.bytes .output = m₂'.bytes .output := by
  intro c hc
  obtain ⟨m₁', h₁, out₁, -⟩ := Pipeline.check_sound H input len (catalog_check c hc) hlen m₁
  obtain ⟨m₂', h₂, out₂, -⟩ := Pipeline.check_sound H input len (catalog_check c hc) hlen m₂
  exact ⟨m₁', m₂', h₁, h₂, out₁.trans out₂.symm⟩

/-- Scratch independence on a two-byte input, between zeroed memory and
memory filled with ones, with primitives whose digests show what they hash. -/
theorem catalog_output_independent_of_scratch_on_two_bytes :
    (2 : UInt32).toNat ≤ [5, 7].length ∧
      ∀ c ∈ catalog, ∃ m₁' m₂', run Digests.truncate [5, 7] 2 c.body (Mem.filled 0) = some m₁' ∧
        run Digests.truncate [5, 7] 2 c.body (Mem.filled 1) = some m₂' ∧
        m₁'.bytes .output = m₂'.bytes .output :=
  ⟨by decide, catalog_output_independent_of_scratch _ [5, 7] 2 (by decide) _ _⟩

end Multihash
