import Mathlib.Algebra.Group.Int
import Multihash.Chains

/-!
Multihash.Exports — the entries of the export table (`exports.cpp`) whose
logic is more than a call.

Most exports forward their arguments unchanged to a hash function whose
code is not among the modelled files. Two kinds are modelled here:

* the five chain exports, which forward to the bodies of
  `Multihash.Chains`;
* `scrypt_export` and `scryptn_export`. There is no range check in either:
  `scrypt_export` hands `N` and `R` to `scrypt_N_R_1_256` as they come, and
  `scryptn_export` computes `N` as the `int` shift `1 << nFactor` and hard-codes
  `R = 1`. The shift follows the C++ rule (`intShiftLeft`): exact up to bit
  30, wrapped through `int` at bit 31, and undefined for a shift count of 32
  or more, which `none` stands for.

`scrypt_N_R_1_256` is a parameter, so every statement holds whatever it
computes.
-/

namespace Multihash

/-! ## 1. Chain exports -/

/-- `X_export(input, output, input_len)` for a chain function `X_hash`. -/
def chainExport (body : List Instr) (H : Digests) (input : List UInt8) (inputLen : UInt32)
    (m : Mem) : Option Mem :=
  run H input inputLen body m

/-- `astralhash_export`. -/
def astralhashExport := chainExport astralhashHash

/-- `globalhash_export`. -/
def globalhashExport := chainExport globalhashHash

/-- `jeonghash_export`. -/
def jeonghashExport := chainExport jeonghashHash

/-- `padihash_export`. -/
def padihashExport := chainExport padihashHash

/-- `pawelhash_export`. -/
def pawelhashExport := chainExport pawelhashHash

/-! ## 2. The scrypt exports -/

/-- `scrypt_N_R_1_256(input, output, N, R, input_len)`, external: the contents
of `output` after the call. -/
abbrev ScryptNR1256 := List UInt8 → List UInt8 → UInt32 → UInt32 → UInt32 → List UInt8

/-- C++ `e1 << e2` on a 32-bit `int`: undefined when `e2` is 32 or more, when
`e1` is negative, or when `e1 * 2^e2` does not fit in `unsigned int`;
otherwise `e1 * 2^e2` converted to `int`. -/
def intShiftLeft (e1 : Int) (e2 : Nat) : Option Int :=
  if e2 < 32 ∧ 0 ≤ e1 ∧ e1 * 2 ^ e2 < 2 ^ 32 then some ((e1 * 2 ^ e2).bmod (2 ^ 32)) else none

/-- Conversion of an `int` to `unsigned int`: the value modulo `2^32`. -/
def toUnsigned (v : Int) : UInt32 :=
  UInt32.ofNat (v % 2 ^ 32).toNat

/-- `scrypt_export(input, output, N, R, input_len)`. -/
def scryptExport (scrypt : ScryptNR1256) (input output : List UInt8) (N R inputLen : UInt32) :
    List UInt8 :=
  scrypt input output N R inputLen

/-- `scryptn_export(input, output, nFactor, input_len)`: `unsigned int N = 1 << nFactor`,
then scrypt with `R = 1`. `none` when the shift is undefined. -/
def scryptnExport (scrypt : ScryptNR1256) (input output : List UInt8) (nFactor inputLen : UInt32) :
    Option (List UInt8) :=
  (intShiftLeft 1 nFactor.toNat).map fun n => scrypt input output (toUnsigned n) 1 inputLen

/-- Below bit 31 the shift is exact: `1 << k` is `2^k` for `k ≤ 30`. -/
theorem intShiftLeft_one {k : Nat} (hk : k ≤ 30) :
    intShiftLeft 1 k = some ((2 ^ k : Nat) : Int) := by
  have hlt : ((2 ^ k : Nat) : Int) < 2 ^ 31 := by
    exact_mod_cast Nat.pow_lt_pow_right (by decide) (by omega : k < 31)
  have hx : (0 : Int) ≤ ((2 ^ k : Nat) : Int) := Int.ofNat_nonneg _
  rw [intShiftLeft, Int.one_mul]
  push_cast at hlt hx ⊢
  generalize (2 : Int) ^ k = x at hlt hx ⊢
  rw [if_pos ⟨by omega, by decide, by omega⟩, Int.bmod_def, Int.emod_eq_of_lt hx (by omega),
    if_pos (by omega)]

/-- A value that fits in 32 bits converts to `unsigned int` unchanged. -/
theorem toNat_toUnsigned {n : Nat} (h : n < 2 ^ 32) : (toUnsigned n).toNat = n := by
  rw [toUnsigned, Int.emod_eq_of_lt (by omega) (by omega), Int.toNat_ofNat,
    UInt32.toNat_ofNat_of_lt h]

/-- At `nFactor = 31` the shift `1 << 31` is `2^31`, which fits in
`unsigned int` but not in `int`: it becomes `-2^31`, and the conversion to
`unsigned int` gives back `N = 2^31 = 2147483648`. -/
theorem scryptnExport_thirtyOne (scrypt : ScryptNR1256) (input output : List UInt8)
    (inputLen : UInt32) :
    scryptnExport scrypt input output 31 inputLen =
      some (scrypt input output 2147483648 1 inputLen) := by
  have hshift : intShiftLeft 1 31 = some (-2 ^ 31) := by decide
  have hN : toUnsigned (-2 ^ 31) = 2147483648 := by decide
  show (intShiftLeft 1 31).map _ = _
  rw [hshift, Option.map_some', hN]

/-- From `nFactor = 32` on, `1 << nFactor` is undefined, and so is the call. -/
theorem scryptnExport_undefined (scrypt : ScryptNR1256) (input output : List UInt8)
    {nFactor : UInt32} (inputLen : UInt32) (h : 32 ≤ nFactor.toNat) :
    scryptnExport scrypt input output nFactor inputLen = none := by
  simp [scryptnExport, intShiftLeft, Nat.not_lt.mpr h]

/-- `scryptn_export` checks nothing: for every exponent up to 30, zero
included, it runs scrypt with `R = 1` and `N` exactly `2^nFactor`; and
`scrypt_export` runs scrypt on every `(N, R)`, zeros included, unchanged. -/
theorem scrypt_exports_forward_cost (scrypt : ScryptNR1256) (input output : List UInt8) :
    (∀ nFactor inputLen : UInt32, nFactor.toNat ≤ 30 →
      ∃ N : UInt32, N.toNat = 2 ^ nFactor.toNat ∧
        scryptnExport scrypt input output nFactor inputLen =
          some (scrypt input output N 1 inputLen)) ∧
    ∀ N R inputLen : UInt32,
      scryptExport scrypt input output N R inputLen = scrypt input output N R inputLen := by
  refine ⟨fun nFactor inputLen h => ⟨toUnsigned (2 ^ nFactor.toNat : Nat), ?_, ?_⟩,
    fun _ _ _ => rfl⟩
  · exact toNat_toUnsigned (Nat.pow_lt_pow_right (by decide) (by omega))
  · rw [scryptnExport, intShiftLeft_one h]
    rfl

/-- The forwarding at `nFactor = 10`, with a scrypt that writes the low byte
of `N` and of `R`. -/
theorem scrypt_exports_forward_cost_at_ten :
    (10 : UInt32).toNat ≤ 30 ∧
      ∃ N : UInt32, N.toNat = 2 ^ (10 : UInt32).toNat ∧
        scryptnExport (fun _ _ n r _ => [n.toUInt8, r.toUInt8]) [] [] 10 0 =
          some [N.toUInt8, (1 : UInt32).toUInt8] :=
  ⟨by decide,
    (scrypt_exports_forward_cost (fun _ _ n r _ => [n.toUInt8, r.toUInt8]) [] []).1 10 0
      (by decide)⟩

/-- Outside the ranges the exports are said to reject, at `nFactor = 0` and at
`N = 0`, both still run scrypt: with a scrypt that writes ones, a zeroed
`output` does not come back unchanged. -/
theorem scrypt_exports_write_on_invalid_cost :
    scryptnExport (fun _ _ _ _ _ => List.replicate 32 1) [] (List.replicate 32 0) 0 0 ≠
        some (List.replicate 32 0) ∧
      scryptExport (fun _ _ _ _ _ => List.replicate 32 1) [] (List.replicate 32 0) 0 1 0 ≠
        List.replicate 32 0 := by
  decide

end Multihash
