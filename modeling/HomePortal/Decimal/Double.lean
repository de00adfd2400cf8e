/-!
Binary floating-point numbers of 64 bits, decoded to exact rationals and rounded back to nearest.
-/

namespace HomePortal

structure Double where
  bits : UInt64
  deriving DecidableEq

namespace Double

def signWeight : Nat :=
  0x8000000000000000

def fractionSpan : Nat :=
  0x10000000000000

def isNegative (x : Double) : Bool :=
  signWeight ≤ x.bits.toNat

def exponentField (x : Double) : Nat :=
  x.bits.toNat / fractionSpan % 2048

def fraction (x : Double) : Nat :=
  x.bits.toNat % fractionSpan

def isFinite (x : Double) : Bool :=
  x.exponentField != 2047

def isNaN (x : Double) : Bool :=
  x.exponentField == 2047 && x.fraction != 0

def significand (x : Double) : Nat :=
  if x.exponentField = 0 then x.fraction else fractionSpan + x.fraction

def scale (x : Double) : Int :=
  max x.exponentField 1 - 1075

def scaled (m : Nat) (q : Int) : Nat × Nat :=
  if 0 ≤ q then (m * Nat.pow 2 q.toNat, 1) else (m, Nat.pow 2 (-q).toNat)

def toRat (x : Double) : Rat :=
  let ratio := scaled x.significand x.scale
  let magnitude := mkRat ratio.1 ratio.2
  if x.isNegative then -magnitude else magnitude

def roundHalfEven (num den : Nat) : Nat :=
  let low := num / den
  let rest := num % den
  if 2 * rest < den then low
  else if den < 2 * rest then low + 1
  else if low % 2 = 0 then low else low + 1

def binaryExponent (num den : Nat) : Int :=
  let guess : Int := (num.log2 : Int) - den.log2
  let reached :=
    if 0 ≤ guess then den * Nat.pow 2 guess.toNat ≤ num
    else den ≤ num * Nat.pow 2 (-guess).toNat
  if reached then guess else guess - 1

/-- The bits, without sign, of the number nearest to a ratio; past the largest number stands
infinity. The significand is added to the shifted exponent, so that a carry moves to the next
exponent by itself. -/
def nearestBits (num den : Nat) : Nat :=
  if num = 0 then 0 else
    let q := max (binaryExponent num den - 52) (-1074)
    let m := if 0 ≤ q then roundHalfEven num (den * Nat.pow 2 q.toNat)
      else roundHalfEven (num * Nat.pow 2 (-q).toNat) den
    min ((q + 1074).toNat * fractionSpan + m) (2047 * fractionSpan)

def ofRatio (negative : Bool) (num den : Nat) : Double :=
  ⟨UInt64.ofNat ((if negative then signWeight else 0) + nearestBits num den)⟩

def zero (negative : Bool) : Double :=
  ofRatio negative 0 1

def infinity (negative : Bool) : Double :=
  ⟨UInt64.ofNat ((if negative then signWeight else 0) + 2047 * fractionSpan)⟩

/-- A not-a-number that was made on its own, and is told from every other one. -/
def nan : Double :=
  ⟨0x7FF8000000000000⟩

/-- The one not-a-number that every text in JSON or YAML stands for that names it. -/
def namedNan : Double :=
  ⟨0x7FF8000000000001⟩

def ofRat (q : Rat) : Double :=
  ofRatio (q.num < 0) q.num.natAbs q.den

def negate (x : Double) : Double :=
  ⟨UInt64.ofNat ((x.bits.toNat + signWeight) % (2 * signWeight))⟩

/-- The product of a number and a positive integer, which is rounded first. -/
def mulNat (x : Double) (n : Nat) : Double :=
  let weight := ofRatio false n 1
  let a := scaled x.significand x.scale
  let b := scaled weight.significand weight.scale
  if x.isFinite then ofRatio x.isNegative (a.1 * b.1) (a.2 * b.2) else x

def add (x y : Double) : Double :=
  if x.isNaN || y.isNaN then nan
  else if x.isFinite && y.isFinite then ofRat (x.toRat + y.toRat)
  else if x.isFinite then y
  else if y.isFinite || x.isNegative == y.isNegative then x
  else nan

def divNat (x : Double) (n : Nat) : Double :=
  let ratio := scaled x.significand x.scale
  ofRatio x.isNegative ratio.1 (ratio.2 * n)

end Double

end HomePortal
