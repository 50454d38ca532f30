import Playfield.Language.Heading

/-!
The source of random headings: a generator with 256 bits of state, filled from a 64-bit seed.
The same seed always gives the same headings.
-/

namespace Playfield

structure Generator where
  s0 : UInt64
  s1 : UInt64
  s2 : UInt64
  s3 : UInt64
  deriving DecidableEq

namespace Generator

def rotateLeft (word amount : UInt64) : UInt64 :=
  (word <<< amount) ||| (word >>> (64 - amount))

def rotateRight (word amount : UInt32) : UInt32 :=
  (word >>> amount) ||| (word <<< (32 - amount))

/-! Filling the state. A linear congruential sequence starts at the seed, and each of its
members after the seed is scrambled into 32 bits. -/

def seedNext (state : UInt64) : UInt64 :=
  state * 6364136223846793005 + 11634580027462260723

def seedWord (state : UInt64) : UInt64 :=
  let mixed := (((state >>> 18) ^^^ state) >>> 27).toUInt32
  (rotateRight mixed (state >>> 59).toUInt32).toUInt64

def ofSeed (seed : UInt64) : Generator :=
  let w0 := seedNext seed
  let w1 := seedNext w0
  let w2 := seedNext w1
  let w3 := seedNext w2
  let w4 := seedNext w3
  let w5 := seedNext w4
  let w6 := seedNext w5
  let w7 := seedNext w6
  { s0 := seedWord w0 ||| (seedWord w1 <<< 32)
    s1 := seedWord w2 ||| (seedWord w3 <<< 32)
    s2 := seedWord w4 ||| (seedWord w5 <<< 32)
    s3 := seedWord w6 ||| (seedWord w7 <<< 32) }

/-! Drawing. -/

def next (generator : Generator) : UInt64 × Generator :=
  let { s0, s1, s2, s3 } := generator
  let result := rotateLeft (s0 + s3) 23 + s0
  let shifted := s1 <<< 17
  let s2 := s2 ^^^ s0
  let s3 := s3 ^^^ s1
  let s1 := s1 ^^^ s2
  let s0 := s0 ^^^ s3
  let s2 := s2 ^^^ shifted
  let s3 := rotateLeft s3 45
  (result, { s0, s1, s2, s3 })

/-- A word is used if four times it, as a 64-bit word, stays below `2 ^ 63`. -/
def accepts (word : UInt64) : Bool :=
  word * 4 < 9223372036854775808

/-- The heading that the top two bits of a word choose. -/
def choose (word : UInt64) : Heading :=
  if word < 4611686018427387904 then .up
  else if word < 9223372036854775808 then .down
  else if word < 13835058055282163712 then .left
  else .right

/-- Draws until a word is accepted, at most `tries` times after the first. -/
def headingWithin : Nat → Generator → Heading × Generator
  | 0, generator => (choose generator.next.1, generator.next.2)
  | tries + 1, generator =>
      let drawn := generator.next
      if accepts drawn.1 then (choose drawn.1, drawn.2) else headingWithin tries drawn.2

/-- Half of all words are accepted, so a row of refused words as long as this does not occur. -/
def patience : Nat := 0x10000

def heading (generator : Generator) : Heading × Generator := headingWithin patience generator

def headings : Nat → Generator → List Heading
  | 0, _ => []
  | count + 1, generator =>
      let drawn := generator.heading
      drawn.1 :: headings count drawn.2

end Generator

end Playfield
