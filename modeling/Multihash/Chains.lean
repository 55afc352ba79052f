import Multihash.Machine
import Multihash.Pipeline

/-!
Multihash.Chains — the five chain functions of `libmultihash`, statement by
statement.

Each `...Hash` is the body of the C function of the same name, one
`Instr` per statement: each line below is one stage, the three calls
`init`, `update`, `close` on one context, and the `memset` and the final
`memcpy` stand on lines of their own. The context declarations are left
out: each context is named by its primitive. Beside each body is the
pipeline it was ported from, read off the order of its closes; the
validator of `Multihash.Validate` is what ties the two together, so a body
that departs from its pipeline fails `Multihash.Catalog`.
-/

namespace Multihash

open Instr in
/-- `astralhash_hash` (astralhash.c): thirteen stages, one 32-byte HAVAL stage
whose buffer `hashB` is zeroed from word 8 on before SHA-512 reads it. -/
def astralhashHash : List Instr :=
  [init .luffa512, update .luffa512 .input, close .luffa512 .hashA,
   init .skein512, update .skein512 (.region .hashA 64), close .skein512 .hashB,
   init .echo512, update .echo512 (.region .hashB 64), close .echo512 .hashA,
   init .whirlpool, update .whirlpool (.region .hashA 64), close .whirlpool .hashB,
   init .bmw512, update .bmw512 (.region .hashB 64), close .bmw512 .hashA,
   init .blake512, update .blake512 (.region .hashA 64), close .blake512 .hashB,
   init .shavite512, update .shavite512 (.region .hashB 64), close .shavite512 .hashA,
   init .skein512, update .skein512 (.region .hashA 64), close .skein512 .hashB,
   init .whirlpool, update .whirlpool (.region .hashB 64), close .whirlpool .hashA,
   init .fugue512, update .fugue512 (.region .hashA 64), close .fugue512 .hashB,
   init .hamsi512, update .hamsi512 (.region .hashB 64), close .hamsi512 .hashA,
   init .haval256_5, update .haval256_5 (.region .hashA 64), close .haval256_5 .hashB,
   memset .hashB 8 32,
   init .sha512, update .sha512 (.region .hashB 64), close .sha512 .hashA,
   memcpy .output .hashA 32]

/-- The reference pipeline of `astralhash_hash`, in the order of its closes. -/
def astralhashPipeline : Pipeline :=
  ⟨.luffa512,
    [.skein512, .echo512, .whirlpool, .bmw512, .blake512, .shavite512, .skein512,
     .whirlpool, .fugue512, .hamsi512, .haval256_5, .sha512]⟩

open Instr in
/-- `globalhash_hash` (globalhash.c): GOST, BLAKE-512, BLAKE2b, and a last
BLAKE2s stage written to the 32-byte `finalhash`, which is copied out. -/
def globalhashHash : List Instr :=
  [init .gost512, update .gost512 .input, close .gost512 .hashA,
   init .blake512, update .blake512 (.region .hashA 64), close .blake512 .hashB,
   init .blake2b, update .blake2b (.region .hashB 64), close .blake2b .hashA,
   init .blake2s, update .blake2s (.region .hashA 64), close .blake2s .finalhash,
   memcpy .output .finalhash 32]

/-- The reference pipeline of `globalhash_hash`, in the order of its closes. -/
def globalhashPipeline : Pipeline :=
  ⟨.gost512,
    [.blake512, .blake2b, .blake2s]⟩

open Instr in
/-- `jeonghash_hash` (jeonghash.c): twenty-four 64-byte stages, no padding. -/
def jeonghashHash : List Instr :=
  [init .simd512, update .simd512 .input, close .simd512 .hashA,
   init .hamsi512, update .hamsi512 (.region .hashA 64), close .hamsi512 .hashB,
   init .shabal512, update .shabal512 (.region .hashB 64), close .shabal512 .hashA,
   init .blake512, update .blake512 (.region .hashA 64), close .blake512 .hashB,
   init .bmw512, update .bmw512 (.region .hashB 64), close .bmw512 .hashA,
   init .sha512, update .sha512 (.region .hashA 64), close .sha512 .hashB,
   init .whirlpool, update .whirlpool (.region .hashB 64), close .whirlpool .hashA,
   init .skein512, update .skein512 (.region .hashA 64), close .skein512 .hashB,
   init .skein512, update .skein512 (.region .hashB 64), close .skein512 .hashA,
   init .whirlpool, update .whirlpool (.region .hashA 64), close .whirlpool .hashB,
   init .sha512, update .sha512 (.region .hashB 64), close .sha512 .hashA,
   init .bmw512, update .bmw512 (.region .hashA 64), close .bmw512 .hashB,
   init .blake512, update .blake512 (.region .hashB 64), close .blake512 .hashA,
   init .shabal512, update .shabal512 (.region .hashA 64), close .shabal512 .hashB,
   init .hamsi512, update .hamsi512 (.region .hashB 64), close .hamsi512 .hashA,
   init .simd512, update .simd512 (.region .hashA 64), close .simd512 .hashB,
   init .simd512, update .simd512 (.region .hashB 64), close .simd512 .hashA,
   init .hamsi512, update .hamsi512 (.region .hashA 64), close .hamsi512 .hashB,
   init .shabal512, update .shabal512 (.region .hashB 64), close .shabal512 .hashA,
   init .blake512, update .blake512 (.region .hashA 64), close .blake512 .hashB,
   init .bmw512, update .bmw512 (.region .hashB 64), close .bmw512 .hashA,
   init .sha512, update .sha512 (.region .hashA 64), close .sha512 .hashB,
   init .whirlpool, update .whirlpool (.region .hashB 64), close .whirlpool .hashA,
   init .skein512, update .skein512 (.region .hashA 64), close .skein512 .hashB,
   memcpy .output .hashB 32]

/-- The reference pipeline of `jeonghash_hash`, in the order of its closes. -/
def jeonghashPipeline : Pipeline :=
  ⟨.simd512,
    [.hamsi512, .shabal512, .blake512, .bmw512, .sha512, .whirlpool, .skein512,
     .skein512, .whirlpool, .sha512, .bmw512, .blake512, .shabal512, .hamsi512,
     .simd512, .simd512, .hamsi512, .shabal512, .blake512, .bmw512, .sha512,
     .whirlpool, .skein512]⟩

open Instr in
/-- `padihash_hash` (padihash.c): twenty-six stages, three of them 32-byte
HAVAL stages each followed by a `memset` of the buffer it wrote. -/
def padihashHash : List Instr :=
  [init .sha512, update .sha512 .input, close .sha512 .hashA,
   init .jh512, update .jh512 (.region .hashA 64), close .jh512 .hashB,
   init .luffa512, update .luffa512 (.region .hashB 64), close .luffa512 .hashA,
   init .echo512, update .echo512 (.region .hashA 64), close .echo512 .hashB,
   init .bmw512, update .bmw512 (.region .hashB 64), close .bmw512 .hashA,
   init .haval256_5, update .haval256_5 (.region .hashA 64), close .haval256_5 .hashB,
   memset .hashB 8 32,
   init .cubehash512, update .cubehash512 (.region .hashB 64), close .cubehash512 .hashA,
   init .shabal512, update .shabal512 (.region .hashA 64), close .shabal512 .hashB,
   init .sha512, update .sha512 (.region .hashB 64), close .sha512 .hashA,
   init .jh512, update .jh512 (.region .hashA 64), close .jh512 .hashB,
   init .luffa512, update .luffa512 (.region .hashB 64), close .luffa512 .hashA,
   init .echo512, update .echo512 (.region .hashA 64), close .echo512 .hashB,
   init .bmw512, update .bmw512 (.region .hashB 64), close .bmw512 .hashA,
   init .haval256_5, update .haval256_5 (.region .hashA 64), close .haval256_5 .hashB,
   memset .hashB 8 32,
   init .cubehash512, update .cubehash512 (.region .hashB 64), close .cubehash512 .hashA,
   init .shabal512, update .shabal512 (.region .hashA 64), close .shabal512 .hashB,
   init .shabal512, update .shabal512 (.region .hashB 64), close .shabal512 .hashA,
   init .cubehash512, update .cubehash512 (.region .hashA 64), close .cubehash512 .hashB,
   init .haval256_5, update .haval256_5 (.region .hashB 64), close .haval256_5 .hashA,
   memset .hashA 8 32,
   init .bmw512, update .bmw512 (.region .hashA 64), close .bmw512 .hashB,
   init .echo512, update .echo512 (.region .hashB 64), close .echo512 .hashA,
   init .luffa512, update .luffa512 (.region .hashA 64), close .luffa512 .hashB,
   init .jh512, update .jh512 (.region .hashB 64), close .jh512 .hashA,
   init .sha512, update .sha512 (.region .hashA 64), close .sha512 .hashB,
   init .jh512, update .jh512 (.region .hashB 64), close .jh512 .hashA,
   init .bmw512, update .bmw512 (.region .hashA 64), close .bmw512 .hashB,
   memcpy .output .hashB 32]

/-- The reference pipeline of `padihash_hash`, in the order of its closes. -/
def padihashPipeline : Pipeline :=
  ⟨.sha512,
    [.jh512, .luffa512, .echo512, .bmw512, .haval256_5, .cubehash512, .shabal512,
     .sha512, .jh512, .luffa512, .echo512, .bmw512, .haval256_5, .cubehash512,
     .shabal512, .shabal512, .cubehash512, .haval256_5, .bmw512, .echo512,
     .luffa512, .jh512, .sha512, .jh512, .bmw512]⟩

open Instr in
/-- `pawelhash_hash` (pawelhash.c): nineteen stages, one 32-byte HAVAL stage
written to `hashA` and zeroed from word 8 on. -/
def pawelhashHash : List Instr :=
  [init .fugue512, update .fugue512 .input, close .fugue512 .hashA,
   init .sha512, update .sha512 (.region .hashA 64), close .sha512 .hashB,
   init .skein512, update .skein512 (.region .hashB 64), close .skein512 .hashA,
   init .jh512, update .jh512 (.region .hashA 64), close .jh512 .hashB,
   init .keccak512, update .keccak512 (.region .hashB 64), close .keccak512 .hashA,
   init .luffa512, update .luffa512 (.region .hashA 64), close .luffa512 .hashB,
   init .whirlpool, update .whirlpool (.region .hashB 64), close .whirlpool .hashA,
   init .shabal512, update .shabal512 (.region .hashA 64), close .shabal512 .hashB,
   init .echo512, update .echo512 (.region .hashB 64), close .echo512 .hashA,
   init .groestl512, update .groestl512 (.region .hashA 64), close .groestl512 .hashB,
   init .haval256_5, update .haval256_5 (.region .hashB 64), close .haval256_5 .hashA,
   memset .hashA 8 32,
   init .bmw512, update .bmw512 (.region .hashA 64), close .bmw512 .hashB,
   init .echo512, update .echo512 (.region .hashB 64), close .echo512 .hashA,
   init .fugue512, update .fugue512 (.region .hashA 64), close .fugue512 .hashB,
   init .bmw512, update .bmw512 (.region .hashB 64), close .bmw512 .hashA,
   init .gost512, update .gost512 (.region .hashA 64), close .gost512 .hashB,
   init .shabal512, update .shabal512 (.region .hashB 64), close .shabal512 .hashA,
   init .whirlpool, update .whirlpool (.region .hashA 64), close .whirlpool .hashB,
   init .groestl512, update .groestl512 (.region .hashB 64), close .groestl512 .hashA,
   memcpy .output .hashA 32]

/-- The reference pipeline of `pawelhash_hash`, in the order of its closes. -/
def pawelhashPipeline : Pipeline :=
  ⟨.fugue512,
    [.sha512, .skein512, .jh512, .keccak512, .luffa512, .whirlpool, .shabal512, .echo512,
     .groestl512, .haval256_5, .bmw512, .echo512, .fugue512, .bmw512, .gost512,
     .shabal512, .whirlpool, .groestl512]⟩

end Multihash
