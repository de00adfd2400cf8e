import HomePortal.Value.Calendar
/-!
Equality of foreign data by meaning: numbers and truth values by their exact value, lists item by
item, sets and mappings whatever the order of their members and entries. What is one and the same
object is equal to itself, also if it is not-a-number.
-/

namespace HomePortal

/-- The place of a number on the extended number line; not-a-number is an object of its own, told by
its bits. -/
inductive Quantity where
  | finite (q : Rat)
  | infinite (negative : Bool)
  | undefined (bits : UInt64)
  deriving DecidableEq

/-- False is zero and true is one. Not-a-number that was made on its own is the same as nothing. -/
def Scalar.quantity? : Scalar → Option Quantity
  | bool b => some (.finite (if b then 1 else 0))
  | int n => some (.finite n)
  | float x =>
    if x.isFinite then some (.finite x.toRat)
    else if !x.isNaN then some (.infinite x.isNegative)
    else if x = Double.nan then none
    else some (.undefined x.bits)
  | _ => none

def Scalar.same : Scalar → Scalar → Bool
  | null, null => true
  | text s, text t => s == t
  | moment m, moment n => m.same n
  | bytes a, bytes b => a == b
  | a, b =>
    match a.quantity?, b.quantity? with
    | some p, some q => p == q
    | _, _ => false

def Entries.lookup? (entries : Entries) (key : Scalar) : Option Value :=
  (entries.find? fun entry => entry.1.same key).map (·.2)

mutual

def Value.same : Value → Value → Bool
  | .scalar a, .scalar b => a.same b
  | .list xs, .list ys => sameItems xs ys
  | .pair a b, .pair c d => a.same c && b.same d
  | .set xs, .set ys => xs.length == ys.length && xs.all fun x => ys.any x.same
  | .mapping xs, .mapping ys => xs.length == ys.length && sameEntries xs ys
  | _, _ => false

def Value.sameItems : List Value → List Value → Bool
  | [], [] => true
  | x :: xs, y :: ys => x.same y && sameItems xs ys
  | _, _ => false

def Value.sameEntries : List (Scalar × Value) → Entries → Bool
  | [], _ => true
  | (key, x) :: rest, ys =>
    (match Entries.lookup? ys key with
      | some y => x.same y
      | none => false) && sameEntries rest ys

end

end HomePortal
