/-
  LowRankTuner/Sampling/ChaCha.lean
  =================================
  The seeded random generator behind sampling and initialisation: ChaCha with twelve rounds,
  keyed from a 64-bit seed.

  * A seed becomes a 256-bit key through a permuted congruential step per 32-bit word
    (`keyOfSeed`), so nearby seeds give unrelated keys.
  * The keystream is the ChaCha block function on a state of four constants, the eight key
    words, a 64-bit block counter (low word first) and a 64-bit stream number, zero here.
  * Blocks are produced four at a time into a buffer of 64 words; words are handed out in
    order, and a 64-bit draw is two consecutive words, the first the low half.  A draw that
    needs the last word of a buffer takes it as its low half and the first word of the next
    buffer as its high half.
-/
namespace LowRankTuner

namespace ChaCha

/-- The four constant words, "expand 32-byte k" in little-endian. -/
def constants : List UInt32 := [0x61707865, 0x3320646e, 0x79622d32, 0x6b206574]

/-- Rotation of a word to the left. -/
def rotl (x : UInt32) (n : UInt32) : UInt32 := (x <<< n) ||| (x >>> (32 - n))

/-- The quarter round on positions `a`, `b`, `c`, `d` of the state. -/
def quarter (s : Array UInt32) (a b c d : Nat) : Array UInt32 :=
  let va := s.getD a 0
  let vb := s.getD b 0
  let vc := s.getD c 0
  let vd := s.getD d 0
  let va := va + vb
  let vd := rotl (vd ^^^ va) 16
  let vc := vc + vd
  let vb := rotl (vb ^^^ vc) 12
  let va := va + vb
  let vd := rotl (vd ^^^ va) 8
  let vc := vc + vd
  let vb := rotl (vb ^^^ vc) 7
  ((((s.set! a va).set! b vb).set! c vc).set! d vd)

/-- A column round followed by a diagonal round. -/
def doubleRound (s : Array UInt32) : Array UInt32 :=
  let s := quarter s 0 4 8 12
  let s := quarter s 1 5 9 13
  let s := quarter s 2 6 10 14
  let s := quarter s 3 7 11 15
  let s := quarter s 0 5 10 15
  let s := quarter s 1 6 11 12
  let s := quarter s 2 7 8 13
  quarter s 3 4 9 14

/-- The input state of a block. -/
def initialState (key : List UInt32) (counter stream : UInt64) : Array UInt32 :=
  (constants ++ key ++
    [counter.toUInt32, (counter >>> 32).toUInt32, stream.toUInt32, (stream >>> 32).toUInt32]).toArray

/-- One block of keystream: `doubleRounds` double rounds, then the input added word by word. -/
def block (doubleRounds : Nat) (key : List UInt32) (counter stream : UInt64) : List UInt32 :=
  let s0 := initialState key counter stream
  let s := (List.range doubleRounds).foldl (fun s _ => doubleRound s) s0
  (s.toList.zip s0.toList).map (fun (x, y) => x + y)

end ChaCha

/-- The multiplier of the congruential step that expands a seed. -/
def seedMultiplier : UInt64 := 6364136223846793005

/-- The increment of the congruential step that expands a seed. -/
def seedIncrement : UInt64 := 11634580027462260723

/-- One key word from a congruential state: an xorshift of the high bits, rotated right by
the top five bits. -/
def permutedWord (state : UInt64) : UInt32 :=
  let xorshifted := (((state >>> 18) ^^^ state) >>> 27).toUInt32
  let rot := (state >>> 59).toUInt32
  (xorshifted >>> rot) ||| (xorshifted <<< (32 - rot))

/-- The eight key words of a seed, each after one more congruential step. -/
def keyOfSeed (seed : UInt64) : List UInt32 :=
  ((List.range 8).foldl (fun (st, ws) _ =>
    let st := st * seedMultiplier + seedIncrement
    (st, ws ++ [permutedWord st])) (seed, [])).2

/-- A ChaCha12 generator: its key, the counter of the next block, and a buffer of words with
the position of the next unread word. -/
structure StdRng where
  key : List UInt32
  counter : UInt64
  buffer : Array UInt32
  index : Nat

namespace StdRng

/-- The number of words a refill produces: four blocks of sixteen. -/
def bufferWords : Nat := 64

/-- The generator of a seed, with nothing buffered yet. -/
def seedFromU64 (seed : UInt64) : StdRng := ⟨keyOfSeed seed, 0, #[], bufferWords⟩

/-- The next four blocks of keystream, and the counter after them. -/
def refill (r : StdRng) : StdRng :=
  let ws := (List.range 4).flatMap (fun i => ChaCha.block 6 r.key (r.counter + i.toUInt64) 0)
  { r with buffer := ws.toArray, counter := r.counter + 4, index := 0 }

/-- The next 32-bit word. -/
def nextU32 (r : StdRng) : UInt32 × StdRng :=
  let r := if r.index ≥ bufferWords then r.refill else r
  (r.buffer.getD r.index 0, { r with index := r.index + 1 })

/-- The next 64-bit word: two consecutive words, the first the low half. -/
def nextU64 (r : StdRng) : UInt64 × StdRng :=
  if r.index + 1 < bufferWords then
    let lo := r.buffer.getD r.index 0
    let hi := r.buffer.getD (r.index + 1) 0
    ((hi.toUInt64 <<< 32) ||| lo.toUInt64, { r with index := r.index + 2 })
  else if r.index ≥ bufferWords then
    let r := r.refill
    let lo := r.buffer.getD 0 0
    let hi := r.buffer.getD 1 0
    ((hi.toUInt64 <<< 32) ||| lo.toUInt64, { r with index := 2 })
  else
    let lo := r.buffer.getD (bufferWords - 1) 0
    let r := r.refill
    let hi := r.buffer.getD 0 0
    ((hi.toUInt64 <<< 32) ||| lo.toUInt64, { r with index := 1 })

/-- A float uniform in [0, 1): the top 52 bits of a draw as the fraction of a number in
[1, 2), less one. -/
def nextUnit (r : StdRng) : Float × StdRng :=
  let (x, r) := r.nextU64
  (Float.ofBits ((x >>> 12) ||| ((1023 : UInt64) <<< 52)) - 1.0, r)

end StdRng

end LowRankTuner
