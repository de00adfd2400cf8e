import HomePortal.Decimal.Double
/-!
Numbers as a draft gives them: an integer of any size or a floating-point number, compared by
exact value.
-/

namespace HomePortal

/-- An integer or a floating-point number; the two stay apart even where their values agree. -/
inductive Number where
  | int (n : Int)
  | real (x : Double)
  deriving DecidableEq

namespace Number

def isFinite : Number → Bool
  | int _ => true
  | real x => x.isFinite

def toRat : Number → Rat
  | int n => n
  | real x => x.toRat

def clamp (low high : Int) (v : Number) : Number :=
  if v.toRat < low then int low
  else if high < v.toRat then int high
  else v

def hundredth : Number → Double
  | int n => Double.ofRatio (n < 0) n.natAbs 100
  | real x => x.divNat 100

end Number

end HomePortal
