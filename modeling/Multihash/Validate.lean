import Multihash.Machine
import Multihash.Pipeline

/-!
Multihash.Validate — when a buffer program implements a pipeline.

The chain functions are hand-unrolled: two reused 64-byte buffers, a
`memset` placed by hand after each 32-byte stage. `Pipeline.check` is a
validator for that shape, written without reference to any particular
chain: it accepts a program that, stage by stage,

* runs `init q; update q src; close q dst` on the context of the stage's
  primitive, with `src` the caller's `input` for the first stage and the
  full 64 bytes of the buffer holding the previous digest afterwards;
* when the digest is shorter than `dst`, follows the close with the one
  `memset` that zeroes exactly the rest of `dst`;
* ends with `memcpy(output, cur, 32)` from the buffer holding the last digest.

`Pipeline.check_sound` is the translation-validation theorem: a program the
validator accepts, run from any memory (any stale buffer contents, any
context contents) with any primitives, stays in bounds, writes the
reference output to `output`, and computes exactly the reference's digest
calls, each on exactly the reference's bytes.

## How the proof goes

`HoldsPadded m r d` is the invariant between stages: region `r` holds the
digest `d` in a fresh `uint512`, cut to the region's size. `run_stage` is
one stage, padding included, taking any `src` to it; `checkLater_sound`
folds it along the later stages, and the first stage is `run_stage` once
more, on the input.
-/

namespace Multihash

/-- The optional `memset` after a close of a `w`-byte digest into `dst`:
nothing when the digest fills `dst`, else one `memset` zeroing exactly bytes
`[w, dst.size)`. Returns the instructions that follow. -/
def stripPad (w : Nat) (dst : Region) (prog : List Instr) : Option (List Instr) :=
  if w = dst.size then some prog
  else match prog with
    | .memset r i c :: rest =>
        if r = dst ∧ 4 * i = w ∧ 4 * i + c = dst.size then some rest else none
    | _ => none

/-- One stage of primitive `q` reading `src` at the head of `prog`, with its
padding: the buffer it writes and the instructions after it. -/
def matchStage (q : Primitive) (src : Src) : List Instr → Option (Region × List Instr)
  | .init p :: .update p' s :: .close p'' dst :: rest =>
      if p = q ∧ p' = q ∧ s = src ∧ p'' = q then (stripPad q.width dst rest).map (dst, ·)
      else none
  | _ => none

/-- `prog` runs the later stages `qs` on the digest held in `cur`, each
reading the whole 64-byte buffer, and then copies 32 bytes to `output`. -/
def checkLater (cur : Region) (prog : List Instr) : List Primitive → Bool
  | [] => prog == [.memcpy .output cur 32]
  | q :: qs =>
      match matchStage q (.region cur 64) prog with
      | some (dst, rest) => cur.size == 64 && checkLater dst rest qs
      | none => false

/-- `prog` implements the pipeline `P`. -/
def Pipeline.check (P : Pipeline) (prog : List Instr) : Bool :=
  match matchStage P.first .input prog with
  | some (dst, rest) => checkLater dst rest P.rest
  | none => false

/-- Region `r` holds the digest `d` in a fresh `uint512`, cut to `r`'s size. -/
def HoldsPadded (m : Mem) (r : Region) (d : List UInt8) : Prop :=
  m.bytes r = (toUint512 d).take r.size

/-! ## 1. What the validator accepts -/

theorem stripPad_eq_some {w : Nat} {dst : Region} {prog rest : List Instr}
    (h : stripPad w dst prog = some rest) :
    (w = dst.size ∧ prog = rest) ∨
      ∃ i c, prog = .memset dst i c :: rest ∧ 4 * i = w ∧ 4 * i + c = dst.size := by
  unfold stripPad at h
  split_ifs at h with hw
  · exact .inl ⟨hw, Option.some_inj.mp h⟩
  · split at h
    · split_ifs at h with hc
      obtain ⟨rfl, hi, hs⟩ := hc
      exact .inr ⟨_, _, by rw [Option.some_inj.mp h], hi, hs⟩
    · cases h

theorem matchStage_eq_some {q : Primitive} {src : Src} {prog rest : List Instr} {dst : Region}
    (h : matchStage q src prog = some (dst, rest)) :
    ∃ pad, prog = .init q :: .update q src :: .close q dst :: pad ∧
      stripPad q.width dst pad = some rest := by
  unfold matchStage at h
  split at h
  · split_ifs at h with hc
    obtain ⟨rfl, rfl, rfl, rfl⟩ := hc
    obtain ⟨rest', hpad, heq⟩ := Option.map_eq_some'.mp h
    cases heq
    exact ⟨_, rfl, hpad⟩
  · cases h

/-! ## 2. One stage -/

section Stage

variable (H : Digests) (input : List UInt8) (len : UInt32)

@[simp] theorem Src.load_setCtx (m : Mem) (p : Primitive) (c : List UInt8) (src : Src) :
    src.load input len (m.setCtx p c) = src.load input len m := by
  cases src <;> rfl

/-- The padding after a close: from `d` followed by stale bytes, the buffer
ends up holding `d` zero-padded. -/
theorem run_pad {m : Mem} {dst : Region} {d stale : List UInt8} {pad rest : List Instr}
    (hpad : stripPad d.length dst pad = some rest) (hm : m.bytes dst = d ++ stale) :
    ∃ m', run H input len pad m = run H input len rest m' ∧ HoldsPadded m' dst d ∧
      m'.calls = m.calls := by
  have hsize : d.length + stale.length = dst.size := by
    rw [← List.length_append, ← hm, m.size_eq]
  rcases stripPad_eq_some hpad with ⟨hw, rfl⟩ | ⟨i, c, rfl, hi, hc⟩
  · refine ⟨m, rfl, ?_, rfl⟩
    have hstale : stale = [] := List.eq_nil_of_length_eq_zero (by omega)
    rw [HoldsPadded, hm, hstale, List.append_nil, ← hw, take_toUint512_of_le le_rfl,
      List.take_length]
  · obtain ⟨m', hst, hbytes, hcalls⟩ :=
      m.store_of_le dst (4 * i) (List.replicate c 0)
        (by rw [List.length_replicate]; omega)
    refine ⟨m', by simp [exec, hst], ?_, hcalls⟩
    rw [HoldsPadded, hbytes, hm, hi,
      overwrite_append_of_length (by rw [List.length_replicate]; omega),
      take_toUint512 (by omega) dst.size_le]
    congr 2; omega

/-- One stage `init q; update q src; close q dst` and its padding: the
buffer ends up holding the digest of what `src` reads, and the digest call
is logged on exactly those bytes. -/
theorem run_stage {m : Mem} {q : Primitive} {src : Src} {prog rest : List Instr}
    {dst : Region} {data : List UInt8}
    (h : matchStage q src prog = some (dst, rest))
    (hload : src.load input len m = some data) :
    ∃ m', run H input len prog m = run H input len rest m' ∧
      HoldsPadded m' dst (H.digest q data) ∧ m'.calls = m.calls ++ [(q, data)] := by
  obtain ⟨pad, rfl, hpad⟩ := matchStage_eq_some h
  have hfit : (H.digest q data).length ≤ dst.size := by
    rw [H.length_digest]
    rcases stripPad_eq_some hpad with ⟨hw, -⟩ | ⟨_, _, -, hi, hc⟩ <;> omega
  obtain ⟨m₁, hst, hbytes, hcalls⟩ :=
    ((m.setCtx q []).setCtx q data).store_of_le dst 0 (H.digest q data) (by simpa using hfit)
  have hlogged : ({ m₁ with calls := m₁.calls ++ [(q, data)] } : Mem).bytes dst =
      H.digest q data ++ (m.bytes dst).drop (H.digest q data).length := by
    simpa using hbytes
  obtain ⟨m₂, hrun, hheld, hcalls₂⟩ := run_pad H input len (by simpa using hpad) hlogged
  refine ⟨m₂, ?_, hheld, by simpa [hcalls] using hcalls₂⟩
  simpa [exec, hload, hst] using hrun

/-- The final `memcpy(output, cur, 32)`: the first 32 bytes of the digest
held in `cur` land in `output`. -/
theorem run_copyOut {m : Mem} {cur : Region} {d : List UInt8}
    (hm : HoldsPadded m cur d) (hd : 32 ≤ d.length) :
    ∃ m', run H input len [.memcpy .output cur 32] m = some m' ∧
      m'.bytes .output = d.take 32 ∧ m'.calls = m.calls := by
  have h32 : (d.take 32).length = Region.output.size := by
    rw [List.length_take]; exact Nat.min_eq_left hd
  have hcopy : (m.bytes cur).take 32 = d.take 32 := by
    rw [hm, List.take_take, Nat.min_eq_left cur.size_ge, take_toUint512_of_le hd]
  obtain ⟨m', hst, hbytes, hcalls⟩ :=
    m.store_of_le .output 0 (d.take 32) (by rw [h32, Nat.zero_add])
  refine ⟨m', by simp [exec, m.load_of_le cur.size_ge, hcopy, hst], ?_, hcalls⟩
  rw [hbytes, overwrite_zero, List.drop_of_length_le (by rw [h32, m.size_eq]), List.append_nil]

end Stage

/-! ## 3. The whole chain -/

section Chain

variable (H : Digests) (input : List UInt8) (len : UInt32)

/-- The later stages: from a buffer holding the padded digest `d`, a program
`checkLater` accepts ends with the reference's last digest in `output` and
has made exactly the reference's later digest calls. -/
theorem checkLater_sound {qs : List Primitive} :
    ∀ {cur : Region} {prog : List Instr} {m : Mem} {d : List UInt8},
      checkLater cur prog qs = true → HoldsPadded m cur d →
      32 ≤ d.length → d.length ≤ 64 →
      ∃ m', run H input len prog m = some m' ∧
        m'.bytes .output = (Pipeline.chain H d qs).take 32 ∧
        m'.calls = m.calls ++ Pipeline.chainCalls H d qs := by
  induction qs with
  | nil =>
    intro cur prog m d h hm hd _
    rw [checkLater, beq_iff_eq] at h
    subst h
    simpa using run_copyOut H input len hm hd
  | cons q qs ih =>
    intro cur prog m d h hm hd hd'
    unfold checkLater at h
    split at h
    · rename_i dst rest hmatch
      obtain ⟨hcur, hrest⟩ : cur.size = 64 ∧ checkLater dst rest qs = true := by simpa using h
      have hload : (Src.region cur 64).load input len m = some (toUint512 d) := by
        rw [Src.load, m.load_of_le hcur.ge, hm, hcur, List.take_take, min_self,
          List.take_of_length_le (by simp [hd'])]
      obtain ⟨m₁, hrun, hheld, hcalls⟩ := run_stage H input len hmatch hload
      obtain ⟨m₂, hrun₂, hout, hcalls₂⟩ :=
        ih hrest hheld (by simp [q.width_ge]) (by simp [q.width_le])
      exact ⟨m₂, hrun.trans hrun₂, by simpa using hout, by simp [hcalls₂, hcalls]⟩
    · cases h

/-- **Soundness of `Pipeline.check`.** A program the validator accepts, run
from any memory with any primitives on an input of at least `len` bytes,
stays in bounds, leaves the reference output in `output`, and makes exactly
the reference's digest calls. -/
theorem Pipeline.check_sound {P : Pipeline} {prog : List Instr} (h : P.check prog = true)
    (hlen : len.toNat ≤ input.length) (m : Mem) :
    ∃ m', run H input len prog m = some m' ∧
      m'.bytes .output = P.output H (input.take len.toNat) ∧
      m'.calls = m.calls ++ P.calls H (input.take len.toNat) := by
  unfold Pipeline.check at h
  split at h
  · rename_i dst rest hmatch
    obtain ⟨m₁, hrun, hheld, hcalls⟩ := run_stage H input len hmatch (if_pos hlen)
    obtain ⟨m₂, hrun₂, hout, hcalls₂⟩ :=
      checkLater_sound H input len h hheld (by simp [P.first.width_ge]) (by simp [P.first.width_le])
    exact ⟨m₂, hrun.trans hrun₂, hout, by simp [hcalls₂, hcalls, Pipeline.calls]⟩
  · cases h

/-- The first stage of an accepted program reads `input[0..len)`, so on an
input shorter than `len` the program is undefined. -/
theorem Pipeline.run_eq_none_of_lt {P : Pipeline} {prog : List Instr} (h : P.check prog = true)
    (hlt : input.length < len.toNat) (m : Mem) : run H input len prog m = none := by
  unfold Pipeline.check at h
  split at h
  · obtain ⟨pad, rfl, -⟩ := matchStage_eq_some ‹_›
    simp [exec, Src.load, Nat.not_le.mpr hlt]
  · cases h

/-- Every run of an accepted program that returns computes the reference:
it read a long enough input, so `Pipeline.check_sound` applies. -/
theorem Pipeline.check_run {P : Pipeline} {prog : List Instr} (h : P.check prog = true)
    {m m' : Mem} (hrun : run H input len prog m = some m') :
    m'.bytes .output = P.output H (input.take len.toNat) ∧
      m'.calls = m.calls ++ P.calls H (input.take len.toNat) := by
  have hlen : len.toNat ≤ input.length := Nat.not_lt.mp fun hlt => by
    simp [Pipeline.run_eq_none_of_lt H input len h hlt] at hrun
  obtain ⟨m'', hrun', hout, hcalls⟩ := Pipeline.check_sound H input len h hlen m
  cases hrun.symm.trans hrun'
  exact ⟨hout, hcalls⟩

end Chain

end Multihash
