import HomePortal.Text.Word
/-!
Templates inside text: whether a text has any, and whether all it reads is the trigger and the
clock.
-/

namespace HomePortal.Template

def hasPair (a b : Char) : List Char → Bool
  | x :: y :: rest => (x == a && y == b) || hasPair a b (y :: rest)
  | _ => false

/-- Whether a text holds an expression, a statement or a comment of the hub's templates. -/
def isTemplate (text : String) : Bool :=
  let cs := text.toList
  hasPair '\x7b' '\x7b' cs || hasPair '\x7b' '%' cs || hasPair '\x7b' '#' cs

def breakAtDouble (c : Char) : List Char → Option (List Char × List Char)
  | x :: y :: rest =>
    if x == c && y == c then some ([], rest)
    else (breakAtDouble c (y :: rest)).map fun found => (x :: found.1, found.2)
  | _ => none

theorem length_of_breakAtDouble {c : Char} {cs before after : List Char}
    (h : breakAtDouble c cs = some (before, after)) : after.length < cs.length := by
  induction cs generalizing before with
  | nil => simp [breakAtDouble] at h
  | cons x tail ih =>
    cases tail with
    | nil => simp [breakAtDouble] at h
    | cons y rest =>
      unfold breakAtDouble at h
      split at h
      · simp only [Option.some.injEq, Prod.mk.injEq] at h
        simp only [← h.2, List.length_cons]
        omega
      · obtain ⟨found, hfound, heq⟩ := Option.map_eq_some_iff.1 h
        simp only [Prod.mk.injEq] at heq
        have hrest : breakAtDouble c (y :: rest) = some (found.1, after) := by rw [hfound, ← heq.2]
        have := ih hrest
        simp only [List.length_cons] at this ⊢
        omega

/-- The bodies of the expressions of a text, and the text without its expressions. An expression
ends at the first closing mark; one that never ends is none. -/
def expressions (cs : List Char) : List (List Char) × List Char :=
  match hopen : breakAtDouble '\x7b' cs with
  | none => ([], cs)
  | some (before, opened) =>
    match hclose : breakAtDouble '\x7d' opened with
    | none => ([], cs)
    | some (body, closed) =>
      have : closed.length < cs.length :=
        Nat.lt_trans (length_of_breakAtDouble hclose) (length_of_breakAtDouble hopen)
      let found := expressions closed
      (body :: found.1, before ++ found.2)
termination_by cs.length

def isNameStart (c : Char) : Bool :=
  Text.isAsciiWord c && !c.isDigit

/-- The names in an expression: runs of word characters that start with an ASCII letter or an
underscore and follow no dot. `fresh` tells whether a name may start here. -/
def freeNames (fresh : Bool) : List Char → List (List Char)
  | [] => []
  | c :: rest =>
    let later := freeNames (!Text.isWord c && c != '.') rest
    if fresh && isNameStart c then (c :: rest.takeWhile Text.isWord) :: later else later

/-- The trigger, the clock, functions on numbers, and the words of the expression language. -/
def contextNames : List String :=
  ["trigger", "now", "float", "int", "round", "abs", "and", "or", "not", "is", "none", "true",
   "false", "None", "True", "False"]

def isContextBody (body : List Char) : Bool :=
  !body.contains '\'' && !body.contains '"' &&
    (freeNames true body).all fun name => contextNames.contains (String.ofList name)

/-- Whether a text is a template of expressions only, all of which read nothing but the trigger
and the clock. -/
def isContextOnly (text : String) : Bool :=
  let cs := text.toList
  let found := expressions cs
  !hasPair '\x7b' '%' cs && !hasPair '\x7b' '#' cs && !found.1.isEmpty &&
    !hasPair '\x7b' '\x7b' found.2 && found.1.all isContextBody

end HomePortal.Template
