import HomePortal.Decimal.Reading
import HomePortal.Text.Hex
import HomePortal.Yaml.Source
import HomePortal.Yaml.Token
/-!
Directives, and the properties of values: anchors, aliases and tags.
-/

namespace HomePortal.Yaml

def isNameChar (c : Char) : Bool :=
  c.isAlphanum || c == '-' || c == '_'

def isTagChar (c : Char) : Bool :=
  c.isAlphanum || "-;/?:@&=+$,_.!~*'()[]%".toList.contains c

namespace Property

def escapedBytes (fuel : Nat) (s : Source) : Except Failure (List UInt8 × Source) :=
  match fuel with
  | 0 => malformed
  | fuel + 1 =>
    if s.peek 0 != '%' then .ok ([], s)
    else
      let digits := s.next.rest.take 2
      match Text.hexNumber? digits with
      | some n =>
        if digits.length < 2 then malformed
        else (escapedBytes fuel (s.advance 3)).map fun found =>
          (UInt8.ofNat n :: found.1, found.2)
      | none => malformed

def tagText (fuel : Nat) (s : Source) : Except Failure (List Char × Source) :=
  match fuel with
  | 0 => malformed
  | fuel + 1 => do
    if s.peek 0 == '%' then
      let (bytes, after) ← escapedBytes fuel s
      match String.fromUTF8? ⟨bytes.toArray⟩ with
      | some decoded =>
        let (more, last) ← tagText fuel after
        pure (decoded.toList ++ more, last)
      | none => malformed
    else if isTagChar (s.peek 0) then
      let (more, last) ← tagText fuel s.next
      pure (s.peek 0 :: more, last)
    else pure ([], s)

def uri (s : Source) : Except Failure (String × Source) := do
  if !isTagChar (s.peek 0) then malformed
  let (text, after) ← tagText (s.rest.length + 1) s
  pure (String.ofList text, after)

def handle (s : Source) : Except Failure (String × Source) :=
  if s.peek 0 != '!' then malformed
  else if s.peek 1 == ' ' then .ok ("!", s.next)
  else
    let (name, after) := s.next.run isNameChar
    if after.peek 0 == '!' then .ok ("!" ++ String.ofList name ++ "!", after.next) else malformed

def anchorName (s : Source) : Except Failure (String × Source) :=
  let (name, after) := s.run isNameChar
  let c := after.peek 0
  if name.isEmpty || !(isSpaceOrEnd c || "?:,]\x7d%@`".toList.contains c) then malformed
  else .ok (String.ofList name, after)

def hasHandle (cs : List Char) : Bool :=
  (cs.takeWhile fun c => !(c == ' ' || isBreak c)).contains '!'

def tag (s : Source) : Except Failure (Token × Source) := do
  let (token, after) ←
    if s.peek 1 == '<' then do
      let (suffix, after) ← uri (s.advance 2)
      if after.peek 0 == '>' then pure (Token.tag none suffix, after.next) else malformed
    else if isSpaceOrEnd (s.peek 1) then pure (Token.tag none "!", s.next)
    else do
      let (prefixed, start) ←
        if hasHandle s.next.rest then handle s else pure ("!", s.next)
      let (suffix, after) ← uri start
      pure (Token.tag (some prefixed) suffix, after)
  if after.peek 0 == ' ' || isBreakOrEnd (after.peek 0) then pure (token, after) else malformed

def versionNumber (s : Source) : Except Failure (Nat × Source) :=
  let (digits, after) := s.run Char.isDigit
  if digits.isEmpty then malformed else .ok (natOfDigits digits, after)

def endPart (s : Source) : Except Failure Unit :=
  if s.peek 0 == ' ' || isBreakOrEnd (s.peek 0) then .ok () else malformed

def version (s : Source) : Except Failure (Directive × Source) := do
  let (major, afterMajor) ← versionNumber s.skipSpaces
  if afterMajor.peek 0 != '.' then malformed
  let (_, after) ← versionNumber afterMajor.next
  endPart after
  pure (.version major, after)

def tagDirective (s : Source) : Except Failure (Directive × Source) := do
  let (name, afterName) ← handle s.skipSpaces
  if afterName.peek 0 != ' ' then malformed
  let (meaning, after) ← uri afterName.skipSpaces
  endPart after
  pure (.tag name meaning, after)

def directive (s : Source) : Except Failure (Token × Source) := do
  let (name, afterName) := s.next.run isNameChar
  if name.isEmpty then malformed
  endPart afterName
  let (found, after) ←
    match String.ofList name with
    | "YAML" => version afterName
    | "TAG" => tagDirective afterName
    | _ => pure (Directive.other, afterName.skip fun c => !isBreak c)
  pure (.directive found, ← after.endLine)

end Property

end HomePortal.Yaml
