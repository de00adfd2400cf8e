import HomePortal.Proofs.Yaml.TextFailure
import HomePortal.Yaml.Document
/-!
Reading the data of a file: whatever its bytes are, it fails only because they are not well formed
text, or because a value in them cannot be made.
-/

namespace HomePortal.Yaml

variable {α β : Type}

namespace Tree

namespace Build

def Fails (x : Build α) : Prop :=
  ∀ b, FailsAsText (x.run b)

namespace Fails

theorem pure (a : α) : Fails (pure a) :=
  fun _ => .ok _

theorem get : Fails get :=
  fun _ => .ok _

theorem set (b : Builder) : Fails (set b) :=
  fun _ => .ok _

theorem modify (f : Builder → Builder) : Fails (modify f) :=
  fun _ => .ok _

theorem bind {x : Build α} {f : α → Build β} (hx : Fails x) (hf : ∀ a, Fails (f a)) :
    Fails (x >>= f) := by
  intro b
  rw [StateT.run_bind, FailsAsText.bind_iff]
  exact ⟨hx b, fun a _ => hf a.1 a.2⟩

theorem ite {c : Prop} [Decidable c] {x y : Build α} (hx : Fails x) (hy : Fails y) :
    Fails (if c then x else y) := by
  split
  · exact hx
  · exact hy

theorem fail : Fails (fail : Build α) := by
  intro b
  simp [Build.fail]

/-- A step that is taken or left out before the rest. -/
theorem first {c : Prop} [Decidable c] {x : Build Unit} {y : Build α} (hx : Fails x)
    (hy : Fails y) : Fails (if c then x >>= fun _ => y else y) :=
  .ite (.bind hx fun _ => hy) hy

/-- What would come after a failure does not matter. -/
theorem fail_bind (f : α → Build β) : Fails (Build.fail >>= f) := by
  intro b
  simp [Build.fail]

theorem peek : Fails peek :=
  .bind .get fun _ => .pure _

theorem skip : Fails skip :=
  .modify _

theorem accept (t : Token) : Fails (accept t) :=
  .bind .peek fun _ => .ite (.bind .skip fun _ => .pure _) (.pure _)

theorem expect (t : Token) : Fails (expect t) :=
  .bind (.accept t) fun _ => .ite .fail (.pure _)

theorem isNext (ts : List Token) : Fails (isNext ts) := by
  refine .bind .peek fun t => ?_
  cases t <;> exact .pure _

theorem freshMark : Fails freshMark :=
  .bind .get fun _ => .bind (.set _) fun _ => .pure _

theorem properties : Fails properties := by
  refine .bind .peek fun t => ?_
  split
  · refine .bind .skip fun _ => .bind .peek fun t => ?_
    split
    · exact .bind .skip fun _ => .pure _
    · exact .pure _
  · refine .bind .skip fun _ => .bind .peek fun t => ?_
    split
    · exact .bind .skip fun _ => .pure _
    · exact .pure _
  · exact .pure _

theorem tagName (tag : Option (Option String × String)) : Fails (tagName tag) := by
  unfold Build.tagName
  split
  · exact .pure _
  · exact .pure _
  · refine .bind .get fun b => ?_
    split
    · exact .pure _
    · exact .fail

theorem announce (anchor : Option String) : Fails (announce anchor) := by
  cases anchor with
  | none => exact .pure _
  | some name => exact .bind .get fun _ => .ite .fail (.pure _)

theorem name (anchor : Option String) (t : Tree) : Fails (name anchor t) := by
  cases anchor with
  | none => exact .pure _
  | some name => exact .bind (.modify _) fun _ => .pure _

theorem tooDeep : Fails (StateT.lift (.error (.fault .tooDeep)) : Build α) := by
  intro b
  simp

theorem around (anchor : Option String) (isList : Bool) {content : Build α}
    (hcontent : Fails content) (make : Nat → α → Tree) :
    Fails (around anchor isList content make) := by
  refine .bind .freshMark fun mark => .bind (.name _ _) fun _ => .bind .get fun b => ?_
  dsimp only
  split
  · exact .bind .tooDeep fun _ => .bind (.modify _) fun _ => .bind hcontent fun _ =>
      .bind (.modify _) fun _ => .name _ _
  · exact .bind (.modify _) fun _ => .bind hcontent fun _ => .bind (.modify _) fun _ => .name _ _

theorem nothing : Fails nothing :=
  .bind .freshMark fun _ => .pure _

end Fails

end Build

open Build

structure PartsFail (fuel : Nat) : Prop where
  node : ∀ block indentless, Fails (node fuel block indentless)
  nodeUnless : ∀ ends block indentless, Fails (nodeUnless fuel ends block indentless)
  blockItems : Fails (blockItems fuel)
  indentlessItems : Fails (indentlessItems fuel)
  blockEntries : Fails (blockEntries fuel)
  flowItems : ∀ first, Fails (flowItems fuel first)
  flowPair : Fails (flowPair fuel)
  flowEntries : ∀ first, Fails (flowEntries fuel first)

namespace PartsFail

variable {fuel : Nat}

theorem zero : PartsFail 0 where
  node _ _ := by simpa only [Tree.node] using .fail
  nodeUnless _ _ _ := by simpa only [Tree.nodeUnless] using .fail
  blockItems := by simpa only [Tree.blockItems] using .fail
  indentlessItems := by simpa only [Tree.indentlessItems] using .fail
  blockEntries := by simpa only [Tree.blockEntries] using .fail
  flowItems _ := by simpa only [Tree.flowItems] using .fail
  flowPair := by simpa only [Tree.flowPair] using .fail
  flowEntries _ := by simpa only [Tree.flowEntries] using .fail

theorem node_succ (h : PartsFail fuel) (block indentless : Bool) :
    Fails (Tree.node (fuel + 1) block indentless) := by
  simp only [Tree.node]
  refine .bind .peek fun t => ?_
  split
  · refine .bind .skip fun _ => .bind .get fun b => ?_
    split
    · exact .pure _
    · exact .fail_bind _
  · refine .bind .properties fun found => .bind (.tagName _) fun tag => ?_
    refine .bind (.announce _) fun _ => .bind .peek fun t => ?_
    refine .ite (.around _ _ h.indentlessItems _) ?_
    split
    · exact .bind .skip fun _ => .bind .freshMark fun _ => .name _ _
    · exact .bind .skip fun _ => .around _ _ (h.flowItems true) _
    · exact .bind .skip fun _ => .around _ _ (h.flowEntries true) _
    · exact .ite (.fail_bind _) (.bind .skip fun _ => .around _ _ h.blockItems _)
    · exact .ite (.fail_bind _) (.bind .skip fun _ => .around _ _ h.blockEntries _)
    · exact .ite (.bind .freshMark fun _ => .name _ _) .fail

theorem nodeUnless_succ (h : PartsFail fuel) (ends : List Token) (block indentless : Bool) :
    Fails (Tree.nodeUnless (fuel + 1) ends block indentless) := by
  simp only [Tree.nodeUnless]
  exact .bind (.isNext _) fun _ => .ite .nothing (h.node _ _)

/-- The value after a key, or nothing. -/
theorem valueOr (h : PartsFail fuel) (ends : List Token) (block indentless : Bool)
    {f : Tree → Build α} (hf : ∀ t, Fails (f t)) :
    Fails (do
      let found ← Build.accept .value
      if found then
        let t ← Tree.nodeUnless fuel ends block indentless
        f t
      else
        let t ← Build.nothing
        f t) :=
  .bind (.accept _) fun _ =>
    .ite (.bind (h.nodeUnless _ _ _) hf) (.bind .nothing hf)

theorem blockItems_succ (h : PartsFail fuel) : Fails (Tree.blockItems (fuel + 1)) := by
  simp only [Tree.blockItems]
  refine .bind (.accept _) fun _ => .ite ?_ (.bind (.expect _) fun _ => .pure _)
  exact .bind (h.nodeUnless _ _ _) fun _ => .bind h.blockItems fun _ => .pure _

theorem indentlessItems_succ (h : PartsFail fuel) : Fails (Tree.indentlessItems (fuel + 1)) := by
  simp only [Tree.indentlessItems]
  refine .bind (.accept _) fun _ => .ite ?_ (.pure _)
  exact .bind (h.nodeUnless _ _ _) fun _ => .bind h.indentlessItems fun _ => .pure _

theorem blockEntries_succ (h : PartsFail fuel) : Fails (Tree.blockEntries (fuel + 1)) := by
  simp only [Tree.blockEntries]
  refine .bind (.accept _) fun _ => .ite ?_ (.bind (.expect _) fun _ => .pure _)
  refine .bind (h.nodeUnless _ _ _) fun _ => h.valueOr _ _ _ fun value => ?_
  exact .bind h.blockEntries fun _ => .pure _

theorem flowItems_succ (h : PartsFail fuel) (first : Bool) :
    Fails (Tree.flowItems (fuel + 1) first) := by
  simp only [Tree.flowItems]
  refine .bind (.accept _) fun _ => .ite (.pure _) (.first (.expect _) ?_)
  refine .bind (.accept _) fun _ => .ite ?_ (.bind (.accept _) fun _ => .ite (.pure _) ?_)
  · exact .bind (.around _ _ h.flowPair _) fun _ => .bind (h.flowItems _) fun _ => .pure _
  · exact .bind (h.node _ _) fun _ => .bind (h.flowItems _) fun _ => .pure _

theorem flowPair_succ (h : PartsFail fuel) : Fails (Tree.flowPair (fuel + 1)) := by
  simp only [Tree.flowPair]
  exact .bind (h.nodeUnless _ _ _) fun _ => h.valueOr _ _ _ fun value => .pure _

theorem flowEntries_succ (h : PartsFail fuel) (first : Bool) :
    Fails (Tree.flowEntries (fuel + 1) first) := by
  simp only [Tree.flowEntries]
  refine .bind (.accept _) fun _ => .ite (.pure _) (.first (.expect _) ?_)
  refine .bind (.accept _) fun _ => .ite ?_ (.bind (.accept _) fun _ => .ite (.pure _) ?_)
  · refine .bind (h.nodeUnless _ _ _) fun _ => h.valueOr _ _ _ fun value => ?_
    exact .bind (h.flowEntries _) fun _ => .pure _
  · exact .bind (h.node _ _) fun _ => .bind .nothing fun _ => .bind (h.flowEntries _) fun _ =>
      .pure _

end PartsFail

theorem partsFail (fuel : Nat) : PartsFail fuel := by
  induction fuel with
  | zero => exact .zero
  | succ fuel ih =>
    exact ⟨ih.node_succ, ih.nodeUnless_succ, ih.blockItems_succ, ih.indentlessItems_succ,
      ih.blockEntries_succ, ih.flowItems_succ, ih.flowPair_succ, ih.flowEntries_succ⟩

@[simp] theorem failsAsText_directives (versioned : Bool) (own : List (String × String))
    (tokens : List Token) : FailsAsText (directives versioned own tokens) := by
  fun_induction directives versioned own tokens <;> simp_all

theorem failsAsText_content (handles : List (String × String)) (explicit : Bool)
    (tokens : List Token) : FailsAsText (content handles explicit tokens) := by
  unfold content
  dsimp only
  rw [FailsAsText.bind_iff]
  refine ⟨?_, fun _ _ => .pure _⟩
  split
  all_goals first | exact Fails.nothing _ | exact (partsFail _).node _ _ _

theorem failsAsText_ofTokens? (tokens : List Token) : FailsAsText (ofTokens? tokens) := by
  unfold ofTokens?
  extract_lets finish
  have hfinish (start) : FailsAsText (finish start) := by
    simp [finish, failsAsText_content]
  split
  · simp
  · simp only [FailsAsText.bind_iff, failsAsText_directives, true_and]
    intro found _
    split <;> simp [hfinish]
  · simp only [FailsAsText.bind_iff, failsAsText_directives, true_and]
    intro found _
    split <;> simp [hfinish]
  · simp [hfinish]

end Tree

namespace Outcome

def Fails (x : Outcome α) : Prop :=
  ∀ e, x = .error e → IsTextFailure e.2

namespace Fails

theorem ok (a : α) : Fails (.ok a) :=
  nofun

theorem malformedAt (depth : Nat) : Fails (malformedAt depth : Outcome α) := by
  intro e he
  cases he
  trivial

theorem fault (depth : Nat) (f : Fault) : Fails (.error (depth, .fault f) : Outcome α) := by
  intro e he
  cases he
  trivial

theorem map {x : Outcome α} (hx : Fails x) (f : α → β) : Fails (f <$> x) := by
  cases x with
  | error e => exact fun e' he => hx e' (by cases he; rfl)
  | ok a => exact nofun

theorem both {x : Outcome α} {y : Outcome β} (hx : Fails x) (hy : Fails y) :
    Fails (both x y) := by
  unfold Outcome.both
  split
  · exact nofun
  · exact fun e he => hx e (by cases he; rfl)
  · exact fun e he => hy e (by cases he; rfl)
  · split
    · exact fun e he => hy e (by cases he; rfl)
    · exact fun e he => hx e (by cases he; rfl)

theorem ofText (depth : Nat) (k : Kind) (mark : Nat) (text : String) :
    Fails (Leaf.ofText depth k mark text) := by
  unfold Leaf.ofText
  split
  · exact .ok _
  · exact .ok _
  · next f hf =>
    intro e he
    cases he
    exact Meaning.failsAsText_ofKind k text f hf

theorem ofValueKey (depth : Nat) (k : Kind) (mark : Nat) (text : Option String) :
    Fails (Node.ofValueKey depth k mark text) := by
  unfold Node.ofValueKey
  split
  · exact .malformedAt _
  · split
    · exact .fault _ _
    · exact .map (.ofText _ _ _ _) _

end Fails

end Outcome

namespace Node

open Outcome

mutual

theorem fails_ofMerged (depth : Nat) (m : Merged) : Fails (ofMerged depth m) := by
  cases m with
  | scalar tag mark text =>
    cases tag <;> simp only [ofMerged]
    case scalar k => exact .map (.ofText _ _ _ _) _
    all_goals exact .malformedAt _
  | list tag mark items =>
    cases tag <;> simp only [ofMerged]
    case list => exact .map (fails_ofItems _ _) _
    case pairs => exact .map (fails_ofPairs _ _) _
    all_goals exact .malformedAt _
  | mapping tag mark written merged =>
    cases tag <;> cases merged <;> simp only [ofMerged]
    case mapping.some => exact .map (fails_ofMergedEntries _ _) _
    case set.some => exact .map (fails_ofMergedEntries _ _) _
    case scalar.none => exact .ofValueKey _ _ _ _
    case scalar.some => exact .ofValueKey _ _ _ _
    all_goals exact .malformedAt _
  | again mark isList => simpa only [ofMerged] using .ok _

theorem fails_ofItems (depth : Nat) (items : List Merged) : Fails (ofItems depth items) := by
  cases items with
  | nil => simpa only [ofItems] using .ok _
  | cons item rest =>
    simp only [ofItems]
    exact .map (.both (fails_ofMerged _ _) (fails_ofItems _ _)) _

theorem fails_ofPairs (depth : Nat) (items : List Merged) : Fails (ofPairs depth items) := by
  unfold ofPairs
  split
  · exact .ok _
  · exact .map (.both (fails_ofMerged _ _) (.both (fails_ofMerged _ _) (fails_ofPairs _ _))) _
  · exact .malformedAt _

theorem fails_ofMergedEntries (depth : Nat) (entries : List (Merged × Merged)) :
    Fails (ofMergedEntries depth entries) := by
  cases entries with
  | nil => simpa only [ofMergedEntries] using .ok _
  | cons entry rest =>
    obtain ⟨key, value⟩ := entry
    simp only [ofMergedEntries]
    refine .map (.both ?_ (.both (fails_ofMerged _ _) (fails_ofMergedEntries _ _))) _
    have hkey := fails_ofMerged depth key
    split
    · exact .ok _
    · exact .malformedAt _
    · next e he =>
      split
      · exact .malformedAt _
      · intro e' he'
        cases he'
        exact hkey e he

end

theorem failsAsText_ofTree (t : Tree) : FailsAsText (ofTree t) := by
  intro e he
  unfold ofTree at he
  cases h : ofMerged 0 (Merged.ofTree t) with
  | ok n =>
    rw [h] at he
    cases he
  | error e' =>
    rw [h] at he
    cases he
    exact fails_ofMerged 0 _ e' h

end Node

theorem failsAsText_readText (text : List Char) : FailsAsText (readText text) := by
  simp only [readText, Token.ofText, FailsAsText.ite_iff, FailsAsText.bind_iff,
    FailsAsText.malformed, FailsAsText.malformed_ne, Lexer.failsAsText_run,
    Tree.failsAsText_ofTokens?, false_implies, implies_true, true_and]
  intro _ tokens _ found _
  cases found with
  | none => exact .pure _
  | some t => exact Node.failsAsText_ofTree t

theorem failsAsText_readBytes (bytes : ByteArray) : FailsAsText (readBytes bytes) := by
  unfold readBytes
  split
  · exact failsAsText_readText _
  · simp

end HomePortal.Yaml
