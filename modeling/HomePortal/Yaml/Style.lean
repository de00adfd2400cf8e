import HomePortal.Yaml.Kind
import HomePortal.Yaml.Source
/-!
How a text is written as a scalar: plain where it reads back as the same text, else in single
quotes, and in double quotes where only escapes can show it.
-/

namespace HomePortal.Yaml

inductive Style where
  | plain
  | single
  | double
  deriving DecidableEq

namespace Style

def startsWith (mark : String) (cs : List Char) : Bool :=
  mark.toList.isPrefixOf cs

def openingSigns : List Char :=
  "#,[]\x7b\x7d&*!|>'\"%@`".toList

def opensAsSign : List Char → Bool
  | [] => false
  | c :: rest =>
    openingSigns.contains c ||
      ((c == '-' || c == '?' || c == ':') && isSpaceOrEnd (rest.headD endOfText))

def hasSign (before : Char) : List Char → Bool
  | [] => false
  | c :: rest =>
    (c == ':' && isSpaceOrEnd (rest.headD endOfText)) || (c == '#' && isSpaceOrEnd before) ||
      hasSign c rest

def hasStructure (cs : List Char) : Bool :=
  startsWith "---" cs || startsWith "..." cs || opensAsSign cs ||
    (match cs with
      | [] => false
      | c :: rest => hasSign c rest)

def isSpecial (c : Char) : Bool :=
  !(c == '\n' || (' ' ≤ c && c ≤ '~') || c == '\x85' || ('\xA0' ≤ c && c ≤ '\uD7FF') ||
    ('\uE000' ≤ c && c ≤ '\uFFFD') || (0x10000 ≤ c.toNat && c.toNat < 0x10FFFF)) ||
    c == byteOrderMark

def follows (p q : Char → Bool) : List Char → Bool
  | a :: b :: rest => (p a && q b) || follows p q (b :: rest)
  | _ => false

def isSpace (c : Char) : Bool :=
  c == ' '

def isMultiline (cs : List Char) : Bool :=
  cs.any isBreak

def isBlankEnd (c : Option Char) : Bool :=
  c.any fun c => isSpace c || isBreak c

def allowsPlain (cs : List Char) : Bool :=
  !cs.isEmpty && !isBlankEnd cs.head? && !isBlankEnd cs.getLast? && !cs.any isBreak &&
    !cs.any isSpecial && !hasStructure cs

/-- Whether a text can be shown in single quotes: spaces next to line breaks would be lost. -/
def allowsSingle (cs : List Char) : Bool :=
  !follows isBreak isSpace cs && !follows isSpace isBreak cs && !cs.any isSpecial

def ofText (s : String) : Style :=
  let cs := s.toList
  if Kind.ofPlain cs == .text && allowsPlain cs then plain
  else if allowsSingle cs then single
  else double

end Style

end HomePortal.Yaml
