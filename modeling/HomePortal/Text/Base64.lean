/-!
Bytes written in an alphabet of sixty-four characters, three bytes as four characters.
-/

namespace HomePortal.Text

def base64Digit (n : Nat) : Char :=
  Char.ofNat
    (if n < 26 then 'A'.toNat + n
    else if n < 52 then 'a'.toNat + (n - 26)
    else if n < 62 then '0'.toNat + (n - 52)
    else if n = 62 then '+'.toNat else '/'.toNat)

def base64Value? (c : Char) : Option Nat :=
  if 'A' ≤ c && c ≤ 'Z' then some (c.toNat - 'A'.toNat)
  else if 'a' ≤ c && c ≤ 'z' then some (c.toNat - 'a'.toNat + 26)
  else if '0' ≤ c && c ≤ '9' then some (c.toNat - '0'.toNat + 52)
  else if c == '+' then some 62
  else if c == '/' then some 63
  else none

def base64 : List UInt8 → List Char
  | [] => []
  | [a] =>
    let n := a.toNat * 16
    [base64Digit (n / 64), base64Digit (n % 64), '=', '=']
  | [a, b] =>
    let n := (a.toNat * 256 + b.toNat) * 4
    [base64Digit (n / 4096), base64Digit (n / 64 % 64), base64Digit (n % 64), '=']
  | a :: b :: c :: rest =>
    let n := (a.toNat * 256 + b.toNat) * 256 + c.toNat
    base64Digit (n / 262144) :: base64Digit (n / 4096 % 64) :: base64Digit (n / 64 % 64) ::
      base64Digit (n % 64) :: base64 rest

def base64Group : List Nat → List UInt8
  | [a, b] => [UInt8.ofNat (a * 4 + b / 16)]
  | [a, b, c] => [UInt8.ofNat (a * 4 + b / 16), UInt8.ofNat (b % 16 * 16 + c / 4)]
  | [a, b, c, d] =>
    [UInt8.ofNat (a * 4 + b / 16), UInt8.ofNat (b % 16 * 16 + c / 4), UInt8.ofNat (c % 4 * 64 + d)]
  | _ => []

/-- Reads on in a group of which some numbers are read, and equals signs right before here. Other
characters do not count. Equals signs that fill up a group end the text, which must not end inside
a group. -/
def base64Bytes? (group : List Nat) (signs : Nat) : List Char → Option (List UInt8)
  | [] => if group.isEmpty then some [] else none
  | '=' :: rest =>
    if group.length < 2 then base64Bytes? group signs rest
    else if group.length + signs < 3 then base64Bytes? group (signs + 1) rest
    else some (base64Group group)
  | c :: rest =>
    match base64Value? c with
    | none => base64Bytes? group signs rest
    | some n =>
      if group.length < 3 then base64Bytes? (group ++ [n]) 0 rest
      else (base64Bytes? [] 0 rest).map (base64Group (group ++ [n]) ++ ·)

def base64Decode? (cs : List Char) : Option (List UInt8) :=
  base64Bytes? [] 0 cs

end HomePortal.Text
