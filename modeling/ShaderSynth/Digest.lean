import ShaderSynth.Image

/-!
# Content digests

Configurations are filed under a 64-bit digest of their image: the XXH3 hash
with its default secret.  Images are never short, so only the construction
for inputs of more than 240 bytes is needed.  It runs eight accumulators over
stripes of 64 bytes, mixes them after every sixteenth stripe, and folds them
together at the end.
-/

namespace ShaderSynth.Digest

/-- Eight words, one for each accumulator. -/
abbrev Lanes := Vector UInt64 8

/-- The secret, as words of eight bytes, the low one first. -/
def secretWords : List UInt64 :=
  [0xbe4ba423396cfeb8, 0x1cad21f72c81017c, 0xdb979083e96dd4de,
    0x1f67b3b7a4a44072, 0x78e5c0cc4ee679cb, 0x2172ffcc7dd05a82,
    0x8e2443f7744608b8, 0x4c263a81e69035e0, 0xcb00c391bb52283c,
    0xa32e531b8b65d088, 0x4ef90da297486471, 0xd8acdea946ef1938,
    0x3f349ce33f76faa8, 0x1d4f0bc7c7bbdcf9, 0x3159b4cd4be0518a,
    0x647378d9c97e9fc8, 0xc3ebd33483acc5ea, 0xeb6313faffa081c5,
    0x49daf0b751dd0d17, 0x9e68d429265516d3, 0xfca1477d58be162b,
    0xce31d07ad1b8f88f, 0x280416958f3acb45, 0x7e404bbbcafbd7af]

/-- The word at the front of a byte string; missing bytes count as zero. -/
def word (bytes : List UInt8) : UInt64 :=
  (bytes.take 8).foldr (fun byte high => (high <<< 8) ||| byte.toUInt64) 0

/-- Eight words from the front of a byte string. -/
def lanes (bytes : List UInt8) : Lanes :=
  Vector.ofFn fun index => word (bytes.drop (8 * index.val))

/-- The secret. -/
def secret : List UInt8 :=
  secretWords.flatMap Format.wordBytes

/-- Eight words of the secret, from a byte on. -/
def secretLanes (offset : Nat) : Lanes :=
  lanes (secret.drop offset)

/-- The words of the secret used for the stripes of a block. -/
def stripeSecrets : Vector Lanes 16 :=
  Vector.ofFn fun index => secretLanes (8 * index.val)

/-- The multiplier of `scramble`. -/
def prime32A : UInt64 := 0x9E3779B1

/-- The multiplier of the length. -/
def prime64A : UInt64 := 0x9E3779B185EBCA87

/-- What the accumulators start from. -/
def start : Lanes :=
  #v[0xC2B2AE3D, prime64A, 0xC2B2AE3D27D4EB4F, 0x165667B19E3779F9,
    0x85EBCA77C2B2AE63, 0x85EBCA77, 0x27D4EB2F165667C5, prime32A]

/-- The accumulator beside another one. -/
def beside (lane : Fin 8) : Fin 8 :=
  if lane.val % 2 = 0 then lane + 1 else lane - 1

/-- Takes in a stripe. -/
def accumulate (accumulators stripe key : Lanes) : Lanes :=
  Vector.ofFn fun lane =>
    let mixed := stripe.get lane ^^^ key.get lane
    let low := mixed.toUInt32.toUInt64
    accumulators.get lane + stripe.get (beside lane) + low * (mixed >>> 32)

/-- Mixes the accumulators after a block. -/
def scramble (accumulators : Lanes) : Lanes :=
  let key := secretLanes 128
  Vector.ofFn fun lane =>
    let value := accumulators.get lane
    (value ^^^ (value >>> 47) ^^^ key.get lane) * prime32A

/-- Takes in stripes from the front of a byte string, so many of them. -/
def absorb : Nat → Fin 16 → List UInt8 → Lanes → Lanes
  | 0, _, _, accumulators => accumulators
  | count + 1, index, bytes, accumulators =>
      let next :=
        accumulate accumulators (lanes bytes) (stripeSecrets.get index)
      let next := if index.val = 15 then scramble next else next
      absorb count (index + 1) (bytes.drop 64) next

/-- The two halves of a product, folded together. -/
def foldProduct (left right : UInt64) : UInt64 :=
  let product := left.toNat * right.toNat
  UInt64.ofNat product ^^^ UInt64.ofNat (product >>> 64)

/-- Folds the accumulators together. -/
def merge (length : Nat) (accumulators : Lanes) : UInt64 :=
  let key := secretLanes 11
  UInt64.ofNat length * prime64A
    + foldProduct (accumulators[0] ^^^ key[0]) (accumulators[1] ^^^ key[1])
    + foldProduct (accumulators[2] ^^^ key[2]) (accumulators[3] ^^^ key[3])
    + foldProduct (accumulators[4] ^^^ key[4]) (accumulators[5] ^^^ key[5])
    + foldProduct (accumulators[6] ^^^ key[6]) (accumulators[7] ^^^ key[7])

/-- Spreads every bit over the digest. -/
def avalanche (value : UInt64) : UInt64 :=
  let value := (value ^^^ (value >>> 37)) * 0x165667919E3779F9
  value ^^^ (value >>> 32)

/-- The digest of a byte string of more than 240 bytes. -/
def ofBytes (bytes : List UInt8) : UInt64 :=
  let length := bytes.length
  let accumulators := absorb ((length - 1) / 64) 0 bytes start
  let last := lanes (bytes.drop (length - 64))
  avalanche (merge length (accumulate accumulators last (secretLanes 121)))

/-- The 64-bit FNV-1a digest, by which file contents are told apart. -/
def fingerprint (bytes : List UInt8) : UInt64 :=
  bytes.foldl
    (fun value byte => (value ^^^ byte.toUInt64) * 0x100000001b3)
    0xcbf29ce484222325

end ShaderSynth.Digest

namespace ShaderSynth.PipelineState

/-- The digest under which a configuration is filed. -/
def digest (state : PipelineState) : UInt64 :=
  Digest.ofBytes state.toBytes

end ShaderSynth.PipelineState
