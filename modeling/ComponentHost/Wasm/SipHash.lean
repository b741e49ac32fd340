import ComponentHost.Value

/-! SipHash with one round a word and three at the end, under the zero key. -/

namespace ComponentHost.SipHash

structure State where
  a : UInt64
  b : UInt64
  c : UInt64
  d : UInt64
deriving DecidableEq

def initial : State :=
  ⟨0x736f6d6570736575, 0x646f72616e646f6d, 0x6c7967656e657261, 0x7465646279746573⟩

def rotate (n : UInt64) (k : UInt64) : UInt64 := (n <<< k) ||| (n >>> (64 - k))

def round (s : State) : State :=
  let a := s.a + s.b
  let b := rotate s.b 13 ^^^ a
  let a := rotate a 32
  let c := s.c + s.d
  let d := rotate s.d 16 ^^^ c
  let a := a + d
  let d := rotate d 21 ^^^ a
  let c := c + b
  let b := rotate b 17 ^^^ c
  let c := rotate c 32
  ⟨a, b, c, d⟩

def absorb (s : State) (word : UInt64) : State :=
  let t := round { s with d := s.d ^^^ word }
  { t with a := t.a ^^^ word }

def littleEndian : Bytes → UInt64
  | [] => 0
  | b :: bs => b.toUInt64 ||| (littleEndian bs <<< 8)

/-- The last word: what bytes are left, and the length of all in the top byte. -/
def lastWord (left : Bytes) (length : Nat) : UInt64 :=
  littleEndian left ||| (UInt64.ofNat (length % 256) <<< 56)

def absorbAll (length : Nat) : Bytes → State → State
  | b₀ :: b₁ :: b₂ :: b₃ :: b₄ :: b₅ :: b₆ :: b₇ :: rest, s =>
    absorbAll length rest (absorb s (littleEndian [b₀, b₁, b₂, b₃, b₄, b₅, b₆, b₇]))
  | left, s => absorb s (lastWord left length)

def finish (s : State) : UInt64 :=
  let t := round (round (round { s with c := s.c ^^^ 0xff }))
  t.a ^^^ t.b ^^^ t.c ^^^ t.d

def hash (bytes : Bytes) : UInt64 := finish (absorbAll bytes.length bytes initial)

def lengthBytes (n : Nat) : Bytes := (List.range 8).map fun i => UInt8.ofNat (n >>> (8 * i))

def hashSized (bytes : Bytes) : UInt64 := hash (lengthBytes bytes.length ++ bytes)

end ComponentHost.SipHash
