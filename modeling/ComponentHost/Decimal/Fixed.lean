import ComponentHost.Decimal.Binary64

/-! Decimal text with a set number of places, and the rounding it takes: to the nearer of two
numbers. A tie is settled by a rule of its own. -/

namespace ComponentHost.Decimal

inductive Tie
  | even
  | up
deriving DecidableEq

def Tie.rises (n : Nat) : Tie → Bool
  | even => n % 2 = 1
  | up => true

def roundDiv (tie : Tie) (num den : Nat) : Nat :=
  let q := num / den
  let r := num % den
  if 2 * r < den ∨ (2 * r = den ∧ tie.rises q = false) then q else q + 1

theorem roundDiv_near (tie : Tie) (num : Nat) {den : Nat} (h : 0 < den) :
    2 * (roundDiv tie num den * den) ≤ 2 * num + den ∧
      2 * num ≤ 2 * (roundDiv tie num den * den) + den := by
  have split := Nat.div_add_mod num den
  have small := Nat.mod_lt num h
  rw [Nat.mul_comm] at split
  unfold roundDiv
  simp only
  split
  · omega
  · rw [Nat.add_mul, Nat.one_mul]
    omega

theorem roundDiv_self_mul (tie : Tie) (n : Nat) {den : Nat} (h : 0 < den) :
    roundDiv tie (n * den) den = n := by
  simp [roundDiv, h]

/-- A binary number in units of the last place; a tie goes to the even digit. -/
def scaled (mantissa : Nat) (exponent : Int) (places : Nat) : Nat :=
  if 0 ≤ exponent then mantissa * 10 ^ places * 2 ^ exponent.toNat
  else roundDiv .even (mantissa * 10 ^ places) (2 ^ (-exponent).toNat)

def pointed (n places : Nat) : String :=
  let digits := (toString n).toList
  let padded := List.replicate (places + 1 - digits.length) '0' ++ digits
  let whole := padded.take (padded.length - places)
  let part := padded.drop (padded.length - places)
  String.ofList (if places = 0 then whole else whole ++ '.' :: part)

def fixed (places : Nat) (x : Binary64) : String :=
  match x.read with
  | .notANumber => "NaN"
  | .infinite negative => if negative then "-inf" else "inf"
  | .finite negative mantissa exponent =>
    (if negative then "-" else "") ++ pointed (scaled mantissa exponent places) places

example : scaled (2 ^ 52) (-54) 1 = 2 := by decide

end ComponentHost.Decimal
