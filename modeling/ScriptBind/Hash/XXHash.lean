/-!
# The XXH64 digest

The 64-bit digest of a byte string with seed zero. The input is cut into stripes of 32 bytes that
feed four lanes, then the remaining words of eight, four and single bytes are folded in, and the
result is mixed so that every input bit can reach every output bit. Arithmetic wraps at 64 bits.

* `digest` — the digest of a list of bytes.
* `digestText` — the digest of a string's UTF-8 bytes.
-/

namespace ScriptBind.Hash

def prime1 : UInt64 := 0x9E3779B185EBCA87
def prime2 : UInt64 := 0xC2B2AE3D27D4EB4F
def prime3 : UInt64 := 0x165667B19E3779F9
def prime4 : UInt64 := 0x85EBCA77C2B2AE63
def prime5 : UInt64 := 0x27D4EB2F165667C5

/-- Rotation to the left by `k` bits, `0 < k < 64`. -/
def rotate (x k : UInt64) : UInt64 := (x <<< k) ||| (x >>> (64 - k))

/-- The number whose little-endian digits are the given bytes. -/
def littleEndian (bytes : List UInt8) : UInt64 :=
  bytes.foldr (fun b n => n * 256 + b.toUInt64) 0

/-- Feeds one word into a lane. -/
def round (acc word : UInt64) : UInt64 :=
  rotate (acc + word * prime2) 31 * prime1

/-! ## Stripes -/

/-- The four lanes that long inputs are spread over. -/
structure Lanes where
  first : UInt64
  second : UInt64
  third : UInt64
  fourth : UInt64

/-- The lanes before any input. -/
def Lanes.start : Lanes := ⟨prime1 + prime2, prime2, 0, 0 - prime1⟩

/-- Feeds `count` stripes of 32 bytes into the lanes. -/
def Lanes.absorb : Nat → List UInt8 → Lanes → Lanes
  | 0, _, lanes => lanes
  | count + 1, bytes, lanes =>
    Lanes.absorb count (bytes.drop 32)
      { first := round lanes.first (littleEndian (bytes.take 8))
        second := round lanes.second (littleEndian ((bytes.drop 8).take 8))
        third := round lanes.third (littleEndian ((bytes.drop 16).take 8))
        fourth := round lanes.fourth (littleEndian ((bytes.drop 24).take 8)) }

/-- Folds one lane into the joined accumulator. -/
def joinLane (acc lane : UInt64) : UInt64 :=
  (acc ^^^ round 0 lane) * prime1 + prime4

/-- One accumulator from four lanes. -/
def Lanes.join (l : Lanes) : UInt64 :=
  let acc := rotate l.first 1 + rotate l.second 7 + rotate l.third 12 + rotate l.fourth 18
  joinLane (joinLane (joinLane (joinLane acc l.first) l.second) l.third) l.fourth

/-! ## Remaining bytes -/

/-- Folds in `count` words of eight bytes. -/
def foldWords : Nat → List UInt8 → UInt64 → UInt64
  | 0, _, acc => acc
  | count + 1, bytes, acc =>
    let word := round 0 (littleEndian (bytes.take 8))
    foldWords count (bytes.drop 8) (rotate (acc ^^^ word) 27 * prime1 + prime4)

/-- Folds in a word of four bytes, if at least that many are left. -/
def foldHalfWord (bytes : List UInt8) (acc : UInt64) : List UInt8 × UInt64 :=
  if 4 ≤ bytes.length then
    let word := littleEndian (bytes.take 4) * prime1
    (bytes.drop 4, rotate (acc ^^^ word) 23 * prime2 + prime3)
  else (bytes, acc)

/-- Folds in one byte. -/
def foldByte (acc : UInt64) (b : UInt8) : UInt64 :=
  rotate (acc ^^^ (b.toUInt64 * prime5)) 11 * prime1

/-- The final mixing. -/
def avalanche (x : UInt64) : UInt64 :=
  let x := (x ^^^ (x >>> 33)) * prime2
  let x := (x ^^^ (x >>> 29)) * prime3
  x ^^^ (x >>> 32)

/-! ## The digest -/

/-- The digest of a byte string. -/
def digest (bytes : List UInt8) : UInt64 :=
  let stripes := bytes.length / 32
  let start := if stripes = 0 then prime5 else (Lanes.absorb stripes bytes Lanes.start).join
  let rest := bytes.drop (32 * stripes)
  let words := rest.length / 8
  let acc := foldWords words rest (start + bytes.length.toUInt64)
  let (rest, acc) := foldHalfWord (rest.drop (8 * words)) acc
  avalanche (rest.foldl foldByte acc)

/-- The digest of a string's UTF-8 bytes. -/
def digestText (s : String) : UInt64 := digest s.toUTF8.toList

end ScriptBind.Hash
