set_option autoImplicit false

namespace PulseAnalyzer.Noise

structure Key where
  k0 : UInt32
  k1 : UInt32
  k2 : UInt32
  k3 : UInt32
  k4 : UInt32
  k5 : UInt32
  k6 : UInt32
  k7 : UInt32
deriving DecidableEq, Repr

def seedStep (state : UInt64) : UInt64 := state * 6364136223846793005 + 11634580027462260723

def seedWord (state : UInt64) : UInt32 :=
  let x := (((state >>> 18) ^^^ state) >>> 27).toUInt32
  let turn := (state >>> 59).toUInt32
  (x >>> turn) ||| (x <<< ((32 - turn) &&& 31))

def Key.ofSeed (seed : UInt64) : Key :=
  let s0 := seedStep seed
  let s1 := seedStep s0
  let s2 := seedStep s1
  let s3 := seedStep s2
  let s4 := seedStep s3
  let s5 := seedStep s4
  let s6 := seedStep s5
  let s7 := seedStep s6
  ⟨seedWord s0, seedWord s1, seedWord s2, seedWord s3, seedWord s4, seedWord s5, seedWord s6,
    seedWord s7⟩

structure Block where
  w0 : UInt32
  w1 : UInt32
  w2 : UInt32
  w3 : UInt32
  w4 : UInt32
  w5 : UInt32
  w6 : UInt32
  w7 : UInt32
  w8 : UInt32
  w9 : UInt32
  w10 : UInt32
  w11 : UInt32
  w12 : UInt32
  w13 : UInt32
  w14 : UInt32
  w15 : UInt32
deriving DecidableEq, Repr

@[inline]
def rotate (x amount : UInt32) : UInt32 := (x <<< amount) ||| (x >>> (32 - amount))

@[inline]
def quarter (a b c d : UInt32) : UInt32 × UInt32 × UInt32 × UInt32 :=
  let a := a + b
  let d := rotate (d ^^^ a) 16
  let c := c + d
  let b := rotate (b ^^^ c) 12
  let a := a + b
  let d := rotate (d ^^^ a) 8
  let c := c + d
  let b := rotate (b ^^^ c) 7
  (a, b, c, d)

def doubleRound (s : Block) : Block :=
  let (a0, b0, c0, d0) := quarter s.w0 s.w4 s.w8 s.w12
  let (a1, b1, c1, d1) := quarter s.w1 s.w5 s.w9 s.w13
  let (a2, b2, c2, d2) := quarter s.w2 s.w6 s.w10 s.w14
  let (a3, b3, c3, d3) := quarter s.w3 s.w7 s.w11 s.w15
  let (a0, b1, c2, d3) := quarter a0 b1 c2 d3
  let (a1, b2, c3, d0) := quarter a1 b2 c3 d0
  let (a2, b3, c0, d1) := quarter a2 b3 c0 d1
  let (a3, b0, c1, d2) := quarter a3 b0 c1 d2
  ⟨a0, a1, a2, a3, b0, b1, b2, b3, c0, c1, c2, c3, d0, d1, d2, d3⟩

def Block.add (s t : Block) : Block :=
  ⟨s.w0 + t.w0, s.w1 + t.w1, s.w2 + t.w2, s.w3 + t.w3, s.w4 + t.w4, s.w5 + t.w5, s.w6 + t.w6,
    s.w7 + t.w7, s.w8 + t.w8, s.w9 + t.w9, s.w10 + t.w10, s.w11 + t.w11, s.w12 + t.w12,
    s.w13 + t.w13, s.w14 + t.w14, s.w15 + t.w15⟩

def block (key : Key) (counter : UInt64) : Block :=
  let start : Block :=
    ⟨0x61707865, 0x3320646e, 0x79622d32, 0x6b206574, key.k0, key.k1, key.k2, key.k3, key.k4, key.k5,
      key.k6, key.k7, counter.toUInt32, (counter >>> 32).toUInt32, 0, 0⟩
  (doubleRound (doubleRound (doubleRound (doubleRound start)))).add start

def Block.pair (s : Block) (index : Nat) : UInt64 :=
  let join (low high : UInt32) : UInt64 := low.toUInt64 ||| (high.toUInt64 <<< 32)
  match index with
  | 0 => join s.w0 s.w1
  | 1 => join s.w2 s.w3
  | 2 => join s.w4 s.w5
  | 3 => join s.w6 s.w7
  | 4 => join s.w8 s.w9
  | 5 => join s.w10 s.w11
  | 6 => join s.w12 s.w13
  | _ => join s.w14 s.w15

-- The upper 52 bits of a draw as a number from -1 up to 1.
def unit (bits : UInt64) : Float :=
  (bits >>> 12).toFloat / 4503599627370496.0 * 2.0 + (-1.0)

def draw (key : Key) (position : Nat) : Float :=
  unit ((block key (UInt64.ofNat (position / 8))).pair (position % 8))

end PulseAnalyzer.Noise
