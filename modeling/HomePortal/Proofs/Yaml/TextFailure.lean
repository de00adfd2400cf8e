import HomePortal.Yaml.Lexer
import HomePortal.Yaml.Meaning
/-!
Reading a text as tokens and a scalar as its kind: it fails only because the text is not well
formed, or because a value in it cannot be made.
-/

namespace HomePortal.Yaml

variable {α β : Type}

def IsTextFailure : Failure → Prop
  | .hub .notYaml | .fault _ => True
  | _ => False

def FailsAsText (x : Except Failure α) : Prop :=
  ∀ e, x = .error e → IsTextFailure e

namespace FailsAsText

@[simp] theorem ok (a : α) : FailsAsText (.ok a) :=
  nofun

@[simp] theorem pure (a : α) : FailsAsText (pure a) :=
  nofun

@[simp] theorem malformed : FailsAsText (malformed : Except Failure α) := by
  intro e he
  cases he
  trivial

@[simp] theorem fault (f : Fault) : FailsAsText (.error (.fault f) : Except Failure α) := by
  intro e he
  cases he
  trivial

@[simp] theorem bind_iff {x : Except Failure α} {f : α → Except Failure β} :
    FailsAsText (x >>= f) ↔ FailsAsText x ∧ ∀ a, x = .ok a → FailsAsText (f a) := by
  cases x with
  | error e => simp [FailsAsText, Bind.bind, Except.bind]
  | ok a => simp [FailsAsText, Bind.bind, Except.bind]

@[simp] theorem bind'_iff {x : Except Failure α} {f : α → Except Failure β} :
    FailsAsText (x.bind f) ↔ FailsAsText x ∧ ∀ a, x = .ok a → FailsAsText (f a) :=
  bind_iff

@[simp] theorem map_iff {x : Except Failure α} {f : α → β} :
    FailsAsText (x.map f) ↔ FailsAsText x := by
  cases x with
  | error e => simp [FailsAsText, Except.map]
  | ok a => simp [FailsAsText, Except.map]

@[simp] theorem map'_iff {x : Except Failure α} {f : α → β} :
    FailsAsText (f <$> x) ↔ FailsAsText x :=
  map_iff

@[simp] theorem malformed_ne (a : α) : (Yaml.malformed : Except Failure α) ≠ .ok a :=
  nofun

@[simp] theorem ite_iff {c : Prop} [Decidable c] {x y : Except Failure α} :
    FailsAsText (if c then x else y) ↔ (c → FailsAsText x) ∧ (¬ c → FailsAsText y) := by
  split <;> simp_all

end FailsAsText

namespace Property

@[simp] theorem failsAsText_escapedBytes (fuel : Nat) (s : Source) :
    FailsAsText (escapedBytes fuel s) := by
  induction fuel generalizing s with
  | zero => simp [escapedBytes]
  | succ fuel ih =>
    rw [escapedBytes]
    split
    · simp
    · dsimp only
      split <;> simp [ih]

@[simp] theorem failsAsText_tagText (fuel : Nat) (s : Source) : FailsAsText (tagText fuel s) := by
  induction fuel generalizing s with
  | zero => simp [tagText]
  | succ fuel ih =>
    simp only [tagText, FailsAsText.ite_iff, FailsAsText.bind_iff]
    refine ⟨fun _ => ⟨failsAsText_escapedBytes fuel s, fun found _ => ?_⟩, by simp [ih]⟩
    split <;> simp [ih]

@[simp] theorem failsAsText_uri (s : Source) : FailsAsText (uri s) := by
  simp [uri]

@[simp] theorem failsAsText_handle (s : Source) : FailsAsText (handle s) := by
  simp [handle]

@[simp] theorem failsAsText_anchorName (s : Source) : FailsAsText (anchorName s) := by
  simp [anchorName]

@[simp] theorem failsAsText_tag (s : Source) : FailsAsText (tag s) := by
  simp [tag]

@[simp] theorem failsAsText_versionNumber (s : Source) : FailsAsText (versionNumber s) := by
  simp [versionNumber]

@[simp] theorem failsAsText_endPart (s : Source) : FailsAsText (endPart s) := by
  simp [endPart]

@[simp] theorem failsAsText_version (s : Source) : FailsAsText (version s) := by
  simp [version]

@[simp] theorem failsAsText_tagDirective (s : Source) : FailsAsText (tagDirective s) := by
  simp [tagDirective]

@[simp] theorem failsAsText_endLine (s : Source) : FailsAsText s.endLine := by
  simp [Source.endLine]

@[simp] theorem failsAsText_directive (s : Source) : FailsAsText (directive s) := by
  simp [directive]
  intro h a h'
  split <;> simp

end Property

namespace Quoted

@[simp] theorem failsAsText_emptyLines (fuel : Nat) (s : Source) :
    FailsAsText (emptyLines fuel s) := by
  induction fuel generalizing s with
  | zero => simp [emptyLines]
  | succ fuel ih =>
    rw [emptyLines]
    split
    · simp
    · dsimp only
      split <;> simp [ih]

@[simp] theorem failsAsText_gap (s : Source) : FailsAsText (gap s) := by
  unfold gap
  dsimp only
  split <;> simp

@[simp] theorem failsAsText_ofCode (n : Nat) : FailsAsText (ofCode n) := by
  simp [ofCode]

@[simp] theorem failsAsText_escape (s : Source) : FailsAsText (escape s) := by
  unfold escape
  dsimp only
  split
  · simp
  · split
    · simp
    · split <;> simp
  · simp

@[simp] theorem failsAsText_read (fuel : Nat) (quote : Char) (s : Source) :
    FailsAsText (read fuel quote s) := by
  induction fuel generalizing s with
  | zero => simp [read]
  | succ fuel ih => simp [read, ih]

end Quoted

namespace Block

@[simp] theorem failsAsText_increment? (c : Char) : FailsAsText (increment? c) := by
  simp [increment?]

@[simp] theorem failsAsText_header (s : Source) : FailsAsText (header s) := by
  unfold header
  split
  · simp
    intro a h
    split <;> simp
  · simp
    intro a h
    split 
    · split <;> simp
    · simp

@[simp] theorem failsAsText_read (isFolded : Bool) (indent : Int) (s : Source) :
    FailsAsText (read isFolded indent s) := by
  simp [read]

end Block

namespace Lexer

@[simp] theorem failsAsText_dropCandidate (l : Lexer) : FailsAsText l.dropCandidate := by
  simp [dropCandidate]

@[simp] theorem failsAsText_saveCandidate (l : Lexer) : FailsAsText l.saveCandidate := by
  simp [saveCandidate]

@[simp] theorem failsAsText_dropStale (l : Lexer) : FailsAsText l.dropStale := by
  simp [dropStale]

@[simp] theorem failsAsText_endBlocks (l : Lexer) : FailsAsText l.endBlocks := by
  simp [endBlocks]

@[simp] theorem failsAsText_directive (l : Lexer) : FailsAsText l.directive := by
  simp [directive]

@[simp] theorem failsAsText_documentMark (l : Lexer) (t : Token) :
    FailsAsText (l.documentMark t) := by
  simp [documentMark]

@[simp] theorem failsAsText_openFlow (l : Lexer) (t : Token) : FailsAsText (l.openFlow t) := by
  simp [openFlow]

@[simp] theorem failsAsText_closeFlow (l : Lexer) (t : Token) : FailsAsText (l.closeFlow t) := by
  simp [closeFlow]

@[simp] theorem failsAsText_flowEntry (l : Lexer) : FailsAsText l.flowEntry := by
  simp [flowEntry]

@[simp] theorem failsAsText_openAt (l : Lexer) (t : Token) : FailsAsText (l.openAt t) := by
  simp [openAt]
  intro h h'
  split <;> simp

@[simp] theorem failsAsText_blockEntry (l : Lexer) : FailsAsText l.blockEntry := by
  simp [blockEntry]

@[simp] theorem failsAsText_explicitKey (l : Lexer) : FailsAsText l.explicitKey := by
  simp [explicitKey]

@[simp] theorem failsAsText_value (l : Lexer) : FailsAsText l.value := by
  unfold value
  split <;> simp

@[simp] theorem failsAsText_property {read : Source → Except Failure (Token × Source)}
    (hread : ∀ s, FailsAsText (read s)) (l : Lexer) : FailsAsText (l.property read) := by
  simp [property, hread]

@[simp] theorem failsAsText_named (make : String → Token) (s : Source) :
    FailsAsText (named make s) := by
  simp [named]

@[simp] theorem failsAsText_quoted (quote : Char) (s : Source) : FailsAsText (quoted quote s) := by
  simp [quoted]

@[simp] theorem failsAsText_block (l : Lexer) (isFolded : Bool) :
    FailsAsText (l.block isFolded) := by
  simp [block]

@[simp] theorem failsAsText_plain (l : Lexer) : FailsAsText l.plain := by
  simp [plain]

@[simp] theorem failsAsText_step (l : Lexer) : FailsAsText l.step := by
  simp [step]
  intro h h' h''
  split <;> simp

@[simp] theorem failsAsText_run (fuel : Nat) (l : Lexer) : FailsAsText (run fuel l) := by
  induction fuel generalizing l with
  | zero => simp [run]
  | succ fuel ih => simp [run, ih]

end Lexer

namespace Meaning

@[simp] theorem failsAsText_orFault (fault : Fault) (a : Option α) :
    FailsAsText (orFault fault a) := by
  cases a <;> simp [orFault]

@[simp] theorem failsAsText_signed (cs : List Char) : FailsAsText (signed cs) := by
  cases cs <;> simp [signed]

@[simp] theorem failsAsText_int (s : String) : FailsAsText (int s) := by
  simp [int]

@[simp] theorem failsAsText_float (s : String) : FailsAsText (float s) := by
  simp [float]

@[simp] theorem failsAsText_timestamp (s : String) : FailsAsText (timestamp s) := by
  simp [timestamp]

@[simp] theorem failsAsText_bytes (s : String) : FailsAsText (bytes s) := by
  simp [bytes]
  intro h
  cases Text.base64Decode? s.toList <;> simp [bytes.orFailure]

@[simp] theorem failsAsText_ofKind (k : Kind) (s : String) : FailsAsText (ofKind k s) := by
  cases k <;> simp [ofKind, bool]

end Meaning

end HomePortal.Yaml
