import HomePortal.Text.Hex
/-!
Percent-encoded text: each byte of a character that does not stand for itself is written as a
percent sign and two hexadecimal digits.
-/

namespace HomePortal.Percent

def isUnreserved (c : Char) : Bool :=
  c.isAlphanum || c == '-' || c == '.' || c == '_' || c == '~'

def encodeByte (b : UInt8) : List Char :=
  ['%', Text.hexDigit (b.toNat / 16), Text.hexDigit (b.toNat % 16)]

def encodeChar (keeps : Char → Bool) (c : Char) : List Char :=
  if keeps c then [c] else (String.utf8EncodeChar c).flatMap encodeByte

def encode (keeps : Char → Bool) (cs : List Char) : List Char :=
  cs.flatMap (encodeChar keeps)

def decode : List Char → List UInt8
  | [] => []
  | '%' :: high :: low :: rest =>
    match Text.hexNumber? [high, low] with
    | some n => UInt8.ofNat n :: decode rest
    | none => String.utf8EncodeChar '%' ++ decode (high :: low :: rest)
  | c :: rest => String.utf8EncodeChar c ++ decode rest

end HomePortal.Percent
