import HomePortal.Decimal.Double
/-!
The fewest decimal digits that read back as a given floating-point number, and their layout.
-/

namespace HomePortal.Double

def decimalExponent (num den : Nat) : Int :=
  if den ≤ num then ((Nat.toDigits 10 (num / den)).length : Int) - 1
  else -((Nat.toDigits 10 ((den + num - 1) / num - 1)).length : Int)

/-- The integer of `n` digits that, times `10 ^ p`, lies in the interval of reals that round to
`m * 2 ^ q`; of two, the nearer. Everything is counted in quarters of `2 ^ q`, where the interval
reaches two quarters each way, and one quarter downwards from a power of two. -/
def candidate? (m : Nat) (q : Int) (p : Int) : Option Nat :=
  let unit := scaled 1 (q - 2)
  let grid := if 0 ≤ p then (Nat.pow 10 p.toNat, 1) else (1, Nat.pow 10 (-p).toNat)
  let step := grid.1 * unit.2
  let quarter := unit.1 * grid.2
  let value := 4 * m * quarter
  let low := (if m = fractionSpan ∧ -1074 < q then 4 * m - 1 else 4 * m - 2) * quarter
  let high := (4 * m + 2) * quarter
  let inside (d : Nat) : Bool :=
    if m % 2 = 0 then low ≤ d * step && d * step ≤ high else low < d * step && d * step < high
  let below := value / step
  let above := below + 1
  match inside below, inside above with
  | true, true =>
    let down := value - below * step
    let up := above * step - value
    if down < up ∨ (down = up ∧ below % 2 = 0) then some below else some above
  | true, false => some below
  | false, true => some above
  | false, false => none

def shortest (m : Nat) (q : Int) : Nat × Int :=
  let ratio := scaled m q
  let top := decimalExponent ratio.1 ratio.2
  let found := (List.range 17).findSome? fun (n : Nat) =>
    (candidate? m q (top - n)).map fun d => (d, top - n)
  found.getD (m, q)

def digitsAndPoint (d : Nat) (p : Int) : List Char × Int :=
  let all := Nat.toDigits 10 d
  ((all.reverse.dropWhile (· == '0')).reverse, all.length + p)

/-- Positional from `0.0001` to below ten to the sixteenth, with a decimal point always; else one
digit before the point and an exponent of two digits or more with its sign. -/
def layout (digits : List Char) (point : Int) : List Char :=
  if -3 ≤ point ∧ point ≤ 16 then
    if point ≤ 0 then ['0', '.'] ++ List.replicate (-point).toNat '0' ++ digits
    else
      let whole := digits.take point.toNat
      let rest := digits.drop point.toNat
      whole ++ List.replicate (point.toNat - whole.length) '0' ++ ['.'] ++
        (if rest.isEmpty then ['0'] else rest)
  else
    let exponent := point - 1
    let places := Nat.toDigits 10 exponent.natAbs
    let rest := digits.drop 1
    digits.take 1 ++ (if rest.isEmpty then [] else '.' :: rest) ++
      ['e', if exponent < 0 then '-' else '+'] ++
      (if places.length < 2 then '0' :: places else places)

def text (x : Double) : String :=
  if x.isNaN then "nan"
  else
    let sign := if x.isNegative then "-" else ""
    if !x.isFinite then sign ++ "inf"
    else if x.significand = 0 then sign ++ "0.0"
    else
      let (d, p) := shortest x.significand x.scale
      let (digits, point) := digitsAndPoint d p
      sign ++ String.ofList (layout digits point)

end HomePortal.Double
