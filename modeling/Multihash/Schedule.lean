import Multihash.Chains
import Multihash.Validate

/-!
Multihash.Schedule — the two-buffer executor the chains unroll.

Four of the five chain functions are one schedule of their pipeline written
out by hand: the first stage reads the input into `hashA`, every later
stage reads the buffer the previous stage wrote and writes the other one,
a 32-byte stage is followed by `memset(&buf[8], 0, 32)` on the buffer it
wrote, and the last buffer's first 32 bytes are copied to `output`.
`Pipeline.schedule` is that schedule for an arbitrary pipeline.

`Pipeline.check_schedule` shows the validator accepts the schedule of every
pipeline, so the executor computes the reference for any chain of this
pattern, not only the five whose bodies are in the repository.
`globalhash_hash` is the one body that departs from it: its last stage
writes the 32-byte `finalhash` instead of `hashB`.
-/

namespace Multihash

/-- The scratch buffer a stage writes when the previous stage wrote `r`. -/
def Region.other : Region → Region
  | .hashA => .hashB
  | _ => .hashA

theorem Region.size_other (r : Region) : r.other.size = 64 := by
  cases r <;> rfl

/-- One stage of the schedule, with its padding for a 32-byte digest. -/
def scheduleStage (q : Primitive) (src : Src) (dst : Region) : List Instr :=
  [.init q, .update q src, .close q dst] ++ if q.width = 64 then [] else [.memset dst 8 32]

/-- The later stages, from the buffer `cur` the previous stage wrote. -/
def scheduleLater (cur : Region) : List Primitive → List Instr
  | [] => [.memcpy .output cur 32]
  | q :: qs => scheduleStage q (.region cur 64) cur.other ++ scheduleLater cur.other qs

/-- The two-buffer schedule of a pipeline. -/
def Pipeline.schedule (P : Pipeline) : List Instr :=
  scheduleStage P.first .input .hashA ++ scheduleLater .hashA P.rest

theorem matchStage_scheduleStage {q : Primitive} {src : Src} {dst : Region}
    (hdst : dst.size = 64) (rest : List Instr) :
    matchStage q src (scheduleStage q src dst ++ rest) = some (dst, rest) := by
  rcases q.width_eq with hw | hw <;>
    simp [scheduleStage, matchStage, stripPad, hw, hdst]

theorem checkLater_scheduleLater (qs : List Primitive) :
    ∀ {cur : Region}, cur.size = 64 → checkLater cur (scheduleLater cur qs) qs = true := by
  induction qs with
  | nil => intro cur _; simp [scheduleLater, checkLater]
  | cons q qs ih =>
    intro cur hcur
    simp [scheduleLater, checkLater, matchStage_scheduleStage cur.size_other, hcur,
      ih cur.size_other]

/-- The validator accepts the two-buffer schedule of every pipeline. -/
theorem Pipeline.check_schedule (P : Pipeline) : P.check P.schedule = true := by
  have hA : Region.hashA.size = 64 := rfl
  simp [Pipeline.check, Pipeline.schedule, matchStage_scheduleStage hA,
    checkLater_scheduleLater P.rest hA]

/-- The two-buffer schedule computes the reference pipeline for every
pipeline, from any memory and with any primitives; `astralhash_hash`,
`jeonghash_hash`, `padihash_hash` and `pawelhash_hash` are that schedule,
and `globalhash_hash` is not. -/
theorem schedule_refines_pipeline :
    (∀ (P : Pipeline) (H : Digests) (input : List UInt8) (len : UInt32),
      len.toNat ≤ input.length → ∀ m : Mem, ∃ m', run H input len P.schedule m = some m' ∧
        m'.bytes .output = P.output H (input.take len.toNat) ∧
        m'.calls = m.calls ++ P.calls H (input.take len.toNat)) ∧
    astralhashHash = astralhashPipeline.schedule ∧ jeonghashHash = jeonghashPipeline.schedule ∧
    padihashHash = padihashPipeline.schedule ∧ pawelhashHash = pawelhashPipeline.schedule ∧
    globalhashHash ≠ globalhashPipeline.schedule :=
  ⟨fun P H input len hlen m => Pipeline.check_sound H input len P.check_schedule hlen m,
    by decide, by decide, by decide, by decide, by decide⟩

/-- The schedule of a two-stage pipeline whose first stage is the 32-byte
HAVAL, on a two-byte input, from memory filled with ones, with primitives
whose digests show what they hash: the `memset` after HAVAL is what keeps
the ones of `hashA`'s upper half out of the SHA-512 block. -/
theorem schedule_refines_pipeline_haval_sha512 :
    (2 : UInt32).toNat ≤ [5, 7].length ∧
      ∃ m', run Digests.truncate [5, 7] 2 (Pipeline.schedule ⟨.haval256_5, [.sha512]⟩)
          (Mem.filled 1) = some m' ∧
        m'.bytes .output = Pipeline.output Digests.truncate ⟨.haval256_5, [.sha512]⟩ [5, 7] ∧
        m'.calls = Pipeline.calls Digests.truncate ⟨.haval256_5, [.sha512]⟩ [5, 7] :=
  ⟨by decide, schedule_refines_pipeline.1 _ _ [5, 7] 2 (by decide) _⟩

end Multihash
