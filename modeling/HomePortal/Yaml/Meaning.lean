import HomePortal.Decimal.Reading
import HomePortal.Text.Base64
import HomePortal.Text.Lower
import HomePortal.Value.Calendar
import HomePortal.Yaml.Kind
import HomePortal.Yaml.Source
/-!
The data that the text of a scalar stands for, by its kind. A text that does not fit the kind it
was given is no fault of the file's form.
-/

namespace HomePortal.Yaml.Meaning

variable {α : Type}

def orFault (fault : Fault) : Option α → Except Failure α
  | some a => .ok a
  | none => .error (.fault fault)

def bool (s : String) : Except Failure Bool :=
  orFault .unknownKey ((Kind.boolWords.map fun w => (Text.lower w.1, w.2)).lookup (Text.lower s))

def signed (cs : List Char) : Except Failure (Bool × List Char) :=
  match cs with
  | [] => .error (.fault .outOfRange)
  | _ => .ok (Double.takeSign cs)

def magnitude? (cs : List Char) : Option Int :=
  match cs with
  | ['0'] => some 0
  | '0' :: 'b' :: rest => intInBase? 2 rest
  | '0' :: 'x' :: rest => intInBase? 16 rest
  | '0' :: _ => intInBase? 8 cs
  | _ =>
    if cs.contains ':' then do
      let parts ← (cs.splitOn ':').mapM fun part => intOfText? (String.ofList part)
      some (parts.foldl (fun n part => 60 * n + part) 0)
    else intOfText? (String.ofList cs)

def int (s : String) : Except Failure Int := do
  let (negative, cs) ← signed (s.toList.filter (· != '_'))
  if cs.isEmpty then .error (.fault .outOfRange)
  let n ← orFault .badValue (magnitude? cs)
  pure (if negative then -n else n)

def sexagesimal (parts : List Double) : Double :=
  (parts.reverse.foldl (fun (sum, factor) part => (sum.add (part.mulNat factor), factor * 60))
    (Double.zero false, 1)).1

/-- With more parts than this, the weight of the first one is beyond every number. -/
def maxParts : Nat :=
  174

def float (s : String) : Except Failure Double := do
  let (negative, cs) ← signed (Text.lower (String.ofList (s.toList.filter (· != '_')))).toList
  let name := String.ofList cs
  if name == ".nan" then pure Double.namedNan
  else
    let x ←
      if name == ".inf" then pure (Double.infinity false)
      else if cs.contains ':' then do
        let parts ← orFault .badValue
          ((cs.splitOn ':').mapM fun part => Double.ofText? (String.ofList part))
        if maxParts < parts.length then .error (.fault .overflow)
        pure (sexagesimal parts)
      else orFault .badValue (Double.ofText? name)
    pure (if negative then x.negate else x)

def millionths (fraction : List Char) : Nat :=
  natOfDigits ((fraction ++ List.replicate 6 '0').take 6)

def clock? (t : StampTime) : Option Clock :=
  if t.hour < 24 ∧ t.minute < 60 ∧ t.second < 60 ∧ (t.offset.all fun m => m.natAbs < 1440) then
    some { hour := t.hour, minute := t.minute, second := t.second
           micro := millionths t.fraction, offset := t.offset.map (· * 60) }
  else none

def moment? (s : Stamp) : Option Moment :=
  if 1 ≤ s.year ∧ 1 ≤ s.month ∧ s.month ≤ 12 ∧ 1 ≤ s.day ∧ s.day ≤ daysInMonth s.year s.month then
    match s.time with
    | none => some { year := s.year, month := s.month, day := s.day, clock := none }
    | some t => (clock? t).map fun c =>
        { year := s.year, month := s.month, day := s.day, clock := some c }
  else none

def timestamp (s : String) : Except Failure Moment := do
  let stamp ← orFault .noField (Stamp.ofText? s.toList)
  orFault .badValue (moment? stamp)

def bytes (s : String) : Except Failure (List UInt8) :=
  let cs := s.toList
  if cs.all fun c => c.val < 128 then orFailure (Text.base64Decode? cs) else malformed
where
  orFailure : Option (List UInt8) → Except Failure (List UInt8)
    | some data => .ok data
    | none => malformed

def ofKind (k : Kind) (s : String) : Except Failure Scalar :=
  match k with
  | .null => .ok .null
  | .bool => (bool s).map Scalar.bool
  | .int => (int s).map Scalar.int
  | .float => (float s).map Scalar.float
  | .timestamp => (timestamp s).map Scalar.moment
  | .binary => (bytes s).map Scalar.bytes
  | .text => .ok (.text s)
  | .merge | .value => malformed

end HomePortal.Yaml.Meaning
