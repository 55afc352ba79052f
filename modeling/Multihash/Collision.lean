import Multihash.Catalog

/-!
Multihash.Collision — the chain functions add no weakness of their own.

A chain function is a cascade of primitives. This module proves the
cascade's collision reduction for the code: if two runs of a chain function
return the same 32 bytes for two different messages, then the two runs'
digest-call logs exhibit a collision of one of the primitives, on blocks
the code itself hashed. Nothing is assumed of the primitives: the statement
holds for every registry `Digests`, so whatever collision resistance the
primitives have carries over to the chain.

The collision found is a full one (one primitive maps two distinct blocks
to the same digest), or one at the last call of both runs on the first 32
bytes of the digest only: the chains keep 32 bytes of the last digest, and
the cascade says nothing about the bytes it drops.

## How the proof goes

The reduction rests on the blocks being decodable: each later stage hashes
`toUint512 d`, and all digests of one primitive have one width, so distinct
digests give distinct blocks (`toUint512_inj`). `collisionIn_stages` walks
the stages from two distinct blocks: either the current stage maps them
alike, or its digests differ and so do the next blocks. The catalog theorem
reads the runs' logs through `Pipeline.check_run`.
-/

namespace Multihash

/-- Two digest-call logs expose a collision: their `i`-th calls hashed two
distinct blocks with one primitive to the same digest, or, as the last call
of both logs, to digests with the same first 32 bytes. -/
def CollisionIn (H : Digests) (l₁ l₂ : List (Primitive × List UInt8)) : Prop :=
  ∃ i q x y, x ≠ y ∧ l₁[i]? = some (q, x) ∧ l₂[i]? = some (q, y) ∧
    (H.digest q x = H.digest q y ∨
      i + 1 = l₁.length ∧ i + 1 = l₂.length ∧ (H.digest q x).take 32 = (H.digest q y).take 32)

namespace CollisionIn

variable {H : Digests}

/-- A collision between the first calls of two logs. -/
theorem head {q : Primitive} {x y : List UInt8} (hne : x ≠ y)
    (heq : H.digest q x = H.digest q y) (l₁ l₂ : List (Primitive × List UInt8)) :
    CollisionIn H ((q, x) :: l₁) ((q, y) :: l₂) :=
  ⟨0, q, x, y, hne, List.getElem?_cons_zero, List.getElem?_cons_zero, .inl heq⟩

/-- A collision between two logs survives a call put in front of each. -/
theorem cons {l₁ l₂ : List (Primitive × List UInt8)} (h : CollisionIn H l₁ l₂)
    (a b : Primitive × List UInt8) : CollisionIn H (a :: l₁) (b :: l₂) := by
  obtain ⟨i, q, x, y, hne, hx, hy, hc⟩ := h
  refine ⟨i + 1, q, x, y, hne, List.getElem?_cons_succ.trans hx,
    List.getElem?_cons_succ.trans hy, ?_⟩
  simpa only [List.length_cons, Nat.add_right_cancel_iff] using hc

end CollisionIn

namespace Pipeline

variable (H : Digests)

/-- **The stage walk.** The stages `q :: qs`, run from two distinct blocks
to digests with the same first 32 bytes, hashed two distinct blocks alike
on the way. -/
theorem collisionIn_stages (qs : List Primitive) :
    ∀ (q : Primitive) {b₁ b₂ : List UInt8}, b₁ ≠ b₂ →
      (chain H (H.digest q b₁) qs).take 32 = (chain H (H.digest q b₂) qs).take 32 →
      CollisionIn H ((q, b₁) :: chainCalls H (H.digest q b₁) qs)
        ((q, b₂) :: chainCalls H (H.digest q b₂) qs) := by
  induction qs with
  | nil =>
    intro q b₁ b₂ hne heq
    exact ⟨0, q, b₁, b₂, hne, List.getElem?_cons_zero, List.getElem?_cons_zero,
      .inr ⟨rfl, rfl, heq⟩⟩
  | cons q' qs ih =>
    intro q b₁ b₂ hne heq
    by_cases hd : H.digest q b₁ = H.digest q b₂
    · exact .head hne hd _ _
    · have hblock : toUint512 (H.digest q b₁) ≠ toUint512 (H.digest q b₂) :=
        fun h => hd (toUint512_inj (by simp) h)
      exact (ih q' hblock heq).cons _ _

/-- A pipeline mapping two distinct messages to the same output made a
collision among its digest calls. -/
theorem collisionIn_calls (P : Pipeline) {msg₁ msg₂ : List UInt8} (hne : msg₁ ≠ msg₂)
    (heq : P.output H msg₁ = P.output H msg₂) :
    CollisionIn H (P.calls H msg₁) (P.calls H msg₂) :=
  collisionIn_stages H P.rest P.first hne heq

end Pipeline

/-- **Collision reduction for the chain functions.** Two runs of a chain
function, from any memories and with any primitives, that return the same
32 bytes for two different messages have between them hashed two distinct
blocks with one primitive to the same digest, or, at their last calls, to
digests with the same first 32 bytes. -/
theorem catalog_collision_reduction (H : Digests) (input₁ input₂ : List UInt8)
    (len₁ len₂ : UInt32) (m₁ m₂ m₁' m₂' : Mem) :
    ∀ c ∈ catalog, run H input₁ len₁ c.body m₁ = some m₁' →
      run H input₂ len₂ c.body m₂ = some m₂' →
      m₁'.bytes .output = m₂'.bytes .output →
      input₁.take len₁.toNat ≠ input₂.take len₂.toNat →
      CollisionIn H (m₁'.calls.drop m₁.calls.length) (m₂'.calls.drop m₂.calls.length) := by
  intro c hc h₁ h₂ hout hne
  obtain ⟨out₁, calls₁⟩ := Pipeline.check_run H input₁ len₁ (catalog_check c hc) h₁
  obtain ⟨out₂, calls₂⟩ := Pipeline.check_run H input₂ len₂ (catalog_check c hc) h₂
  rw [calls₁, calls₂, List.drop_left, List.drop_left]
  exact c.pipeline.collisionIn_calls H hne (out₁.symm.trans (hout.trans out₂))

/-- The reduction on two 33-byte messages that differ only in their last
byte, from memory filled with ones, with primitives that return a prefix of
what they hash: `globalhash_hash` keeps the difference through GOST-512,
BLAKE-512 and BLAKE2b and loses it in BLAKE2s, whose 32 bytes are the output. -/
theorem catalog_collision_reduction_on_last_byte :
    ∃ m₁ m₂, run Digests.truncate (List.replicate 32 0 ++ [1]) 33 globalhashHash
        (Mem.filled 1) = some m₁ ∧
      run Digests.truncate (List.replicate 32 0 ++ [2]) 33 globalhashHash
        (Mem.filled 1) = some m₂ ∧
      m₁.bytes .output = m₂.bytes .output ∧ CollisionIn Digests.truncate m₁.calls m₂.calls := by
  have hc : (⟨globalhashHash, globalhashPipeline⟩ : ChainEntry) ∈ catalog := .tail _ (.head _)
  obtain ⟨m₁, h₁, out₁, -⟩ := Pipeline.check_sound Digests.truncate (List.replicate 32 0 ++ [1])
    33 (catalog_check _ hc) (by decide) (Mem.filled 1)
  obtain ⟨m₂, h₂, out₂, -⟩ := Pipeline.check_sound Digests.truncate (List.replicate 32 0 ++ [2])
    33 (catalog_check _ hc) (by decide) (Mem.filled 1)
  have hout : m₁.bytes .output = m₂.bytes .output := by
    rw [out₁, out₂]
    decide
  exact ⟨m₁, m₂, h₁, h₂, hout, catalog_collision_reduction _ _ _ 33 33 _ _ m₁ m₂ _ hc h₁ h₂ hout
    (by decide)⟩

end Multihash
