import HomePortal.Proofs.Config.Template
import HomePortal.Text.Digit
/-!
Texts that are taken to read the trigger and the clock only. All that their expressions name in
ASCII is among the names of the context. Names that start outside ASCII are not looked at.
-/

namespace HomePortal.Template

variable {c : Char} {cs before after body word : List Char} {bodies : List (List Char)}

/-! ### Expressions -/

inductive Holds : List Char → List (List Char) → Prop
  | plain {cs : List Char} (h : ¬ ['\x7b', '\x7b'] <:+: cs) : Holds cs []
  | expression {before body after : List Char} {bodies : List (List Char)}
      (hopen : ¬ ['\x7b', '\x7b'] <:+: before ++ ['\x7b'])
      (hclose : ¬ ['\x7d', '\x7d'] <:+: body ++ ['\x7d']) (h : Holds after bodies) :
      Holds (before ++ '\x7b' :: '\x7b' :: (body ++ '\x7d' :: '\x7d' :: after)) (body :: bodies)

theorem Holds.expressions_eq (h : Holds cs bodies) :
    (expressions cs).1 = bodies ∧ ¬ ['\x7b', '\x7b'] <:+: (expressions cs).2 := by
  induction h with
  | @plain cs hplain =>
    have hnone : breakAtDouble '\x7b' cs = none := by
      rw [Option.eq_none_iff_forall_ne_some]
      intro ⟨before, after⟩ hfound
      obtain ⟨rfl, -⟩ := first_of_breakAtDouble hfound
      exact hplain ⟨before, after, by simp⟩
    rw [expressions_of_none hnone]
    exact ⟨rfl, hplain⟩
  | expression hopen hclose _ ih =>
    rw [expressions_of_some (breakAtDouble_of_first hopen) (breakAtDouble_of_first hclose),
      pair_infix_append hopen, ih.1]
    exact ⟨rfl, ih.2⟩

/-- Where no expression is left open, those that are found are those that the text holds. -/
theorem holds_expressions (h : ¬ ['\x7b', '\x7b'] <:+: (expressions cs).2) :
    Holds cs (expressions cs).1 := by
  fun_induction expressions cs with
  | case1 cs hnone => exact .plain h
  | case2 cs before opened hopen hnone =>
    obtain ⟨rfl, -⟩ := first_of_breakAtDouble hopen
    exact absurd ⟨before, opened, by simp⟩ h
  | case3 cs before opened hopen body closed hclose hlt found ih =>
    obtain ⟨rfl, hfirst⟩ := first_of_breakAtDouble hopen
    obtain ⟨rfl, hlast⟩ := first_of_breakAtDouble hclose
    rw [pair_infix_append hfirst] at h
    exact .expression hfirst hlast (ih h)

theorem Holds.unique {others : List (List Char)} (h : Holds cs bodies) (h' : Holds cs others) :
    bodies = others :=
  h.expressions_eq.1.symm.trans h'.expressions_eq.1

/-! ### Names -/

structure IsName (before name after : List Char) : Prop where
  nonempty : name ≠ []
  word : ∀ c ∈ name, Text.isWord c = true
  start : ∀ c ∈ name.head?, Text.isDigit c = false
  left : ∀ c ∈ before.getLast?, Text.isWord c = false ∧ c ≠ '.'
  right : ∀ c ∈ after.head?, Text.isWord c = false

def Names (body name : List Char) : Prop :=
  ∃ before after, body = before ++ name ++ after ∧ IsName before name after

def IsAsciiStart (name : List Char) : Prop :=
  ∀ c ∈ name.head?, c.toNat < 128

def isFresh : Bool → List Char → Bool
  | fresh, [] => fresh
  | _, c :: rest => isFresh (!Text.isWord c && c != '.') rest

theorem isFresh_iff {fresh : Bool} : isFresh fresh before = true ↔
    (before = [] → fresh = true) ∧ ∀ c ∈ before.getLast?, Text.isWord c = false ∧ c ≠ '.' := by
  induction before generalizing fresh with
  | nil => simp [isFresh]
  | cons x rest ih =>
    rw [isFresh, ih]
    cases rest with
    | nil => simp
    | cons y ys => simp

/-- The names that are found start with a letter of ASCII or an underscore. -/
theorem mem_freeNames {fresh : Bool} : word ∈ freeNames fresh cs ↔
    ∃ before first tail after, cs = before ++ first :: (tail ++ after) ∧ word = first :: tail ∧
      isFresh fresh before = true ∧ isNameStart first = true ∧
      (∀ c ∈ tail, Text.isWord c = true) ∧ ∀ c ∈ after.head?, Text.isWord c = false := by
  induction cs generalizing fresh with
  | nil => simp [freeNames]
  | cons x rest ih =>
    have hcons : word ∈ freeNames fresh (x :: rest) ↔
        (fresh = true ∧ isNameStart x = true ∧ word = x :: rest.takeWhile Text.isWord) ∨
          word ∈ freeNames (!Text.isWord x && x != '.') rest := by
      rw [freeNames]
      split <;> simp_all
    rw [hcons, ih]
    constructor
    · rintro (⟨hfresh, hstart, rfl⟩ | ⟨before, first, tail, after, rfl, hname⟩)
      · refine ⟨[], x, rest.takeWhile Text.isWord, rest.dropWhile Text.isWord, ?_, rfl, hfresh,
          hstart, fun c hc => List.all_eq_true.1 List.all_takeWhile c hc, fun c hc => ?_⟩
        · rw [List.takeWhile_append_dropWhile, List.nil_append]
        · have hstop := List.head?_dropWhile_not Text.isWord rest
          rw [hc] at hstop
          simpa using hstop
      · exact ⟨x :: before, first, tail, after, rfl, hname⟩
    · rintro ⟨before, first, tail, after, heq, hword, hfresh, hstart, htail, hafter⟩
      cases before with
      | nil =>
        obtain ⟨rfl, rfl⟩ := List.cons.inj heq
        have hstop : after.takeWhile Text.isWord = [] := by
          cases after with
          | nil => rfl
          | cons y ys => simp [hafter y rfl]
        refine .inl ⟨hfresh, hstart, ?_⟩
        rw [hword, List.takeWhile_append_of_pos htail, hstop, List.append_nil]
      | cons y ys =>
        obtain ⟨rfl, rfl⟩ := List.cons.inj heq
        exact .inr ⟨ys, first, tail, after, rfl, hword, hfresh, hstart, htail, hafter⟩

theorem isNameStart_iff : isNameStart c = true ↔
    Text.isWord c = true ∧ Text.isDigit c = false ∧ c.toNat < 128 := by
  have hascii : c.toNat < 128 → (isNameStart c = true ↔
      Text.isWord c = true ∧ Text.isDigit c = false) :=
    Text.forall_ascii (P := fun c => isNameStart c = true ↔
      Text.isWord c = true ∧ Text.isDigit c = false) (by decide +kernel)
  constructor
  · intro h
    have hword : Text.isAsciiWord c = true := (Bool.and_eq_true_iff.1 h).1
    have hlt := Text.toNat_lt_of_isAsciiWord hword
    exact ⟨((hascii hlt).1 h).1, ((hascii hlt).1 h).2, hlt⟩
  · intro h
    exact (hascii h.2.2).2 ⟨h.1, h.2.1⟩

/-- Of the names in an expression those are found that start in ASCII. -/
theorem mem_freeNames_iff : word ∈ freeNames true body ↔ Names body word ∧ IsAsciiStart word := by
  rw [mem_freeNames]
  constructor
  · rintro ⟨before, first, tail, after, rfl, rfl, hfresh, hstart, htail, hafter⟩
    obtain ⟨hword, hdigit, hlt⟩ := isNameStart_iff.1 hstart
    refine ⟨⟨before, after, by simp, ?_⟩, by simpa [IsAsciiStart] using hlt⟩
    exact {
      nonempty := List.cons_ne_nil first tail
      word := List.forall_mem_cons.2 ⟨hword, htail⟩
      start := by simpa using hdigit
      left := (isFresh_iff.1 hfresh).2
      right := hafter }
  · rintro ⟨⟨before, after, rfl, h⟩, hlt⟩
    obtain ⟨first, tail, rfl⟩ := List.exists_cons_of_ne_nil h.nonempty
    have hword := List.forall_mem_cons.1 h.word
    have hstart := isNameStart_iff.2 ⟨hword.1, h.start first rfl, hlt first rfl⟩
    exact ⟨before, first, tail, after, by simp, rfl, isFresh_iff.2 ⟨fun _ => rfl, h.left⟩, hstart,
      hword.2, h.right⟩

/-! ### What a text reads -/

/-- A text with expressions, none of them left open, and without statements and comments. No
expression has text of its own, and all that they name is known. -/
structure Reads (known : List Char → Prop) (text : String) : Prop where
  statement : ¬ ['\x7b', '%'] <:+: text.toList
  comment : ¬ ['\x7b', '#'] <:+: text.toList
  expressions : ∃ bodies, bodies ≠ [] ∧ Holds text.toList bodies ∧ ∀ body ∈ bodies,
    '\'' ∉ body ∧ '"' ∉ body ∧ ∀ name, Names body name → known name

def IsContextName (name : List Char) : Prop :=
  String.ofList name ∈ contextNames

def ReadsContext : String → Prop :=
  Reads IsContextName

variable {text : String}

theorem isContextBody_iff : isContextBody body = true ↔ '\'' ∉ body ∧ '"' ∉ body ∧
    ∀ name, Names body name → IsAsciiStart name → IsContextName name := by
  simp only [isContextBody, Bool.and_eq_true, Bool.not_eq_true', List.contains_eq_mem,
    decide_eq_false_iff_not, List.all_eq_true, decide_eq_true_eq, mem_freeNames_iff, and_assoc,
    and_imp]
  rfl

theorem isContextOnly_iff : isContextOnly text = true ↔
    Reads (fun name => IsAsciiStart name → IsContextName name) text := by
  have hcode : isContextOnly text = true ↔ ¬ ['\x7b', '%'] <:+: text.toList ∧
      ¬ ['\x7b', '#'] <:+: text.toList ∧ (expressions text.toList).1 ≠ [] ∧
      ¬ ['\x7b', '\x7b'] <:+: (expressions text.toList).2 ∧
      ∀ body ∈ (expressions text.toList).1, isContextBody body = true := by
    simp only [isContextOnly, Bool.and_eq_true, Bool.not_eq_true', ← hasPair_iff,
      Bool.not_eq_true, List.isEmpty_eq_false_iff, List.all_eq_true, and_assoc]
  rw [hcode]
  constructor
  · rintro ⟨hstatement, hcomment, hsome, hclosed, hbodies⟩
    exact ⟨hstatement, hcomment, _, hsome, holds_expressions hclosed,
      fun body hbody => isContextBody_iff.1 (hbodies body hbody)⟩
  · rintro ⟨hstatement, hcomment, bodies, hsome, hholds, hbodies⟩
    obtain ⟨rfl, hclosed⟩ := hholds.expressions_eq
    exact ⟨hstatement, hcomment, hsome, hclosed,
      fun body hbody => isContextBody_iff.2 (hbodies body hbody)⟩

theorem IsContextName.isAsciiStart {name : List Char} (h : IsContextName name) :
    IsAsciiStart name := by
  have hall : ∀ known ∈ contextNames, (known.toList.all fun c => c.toNat < 128) = true := by decide
  have hascii := List.all_eq_true.1 (hall _ h)
  rw [String.toList_ofList] at hascii
  exact fun c hc => of_decide_eq_true (hascii c (List.mem_of_mem_head? hc))

/-- The texts that are taken to read the context only, exactly. They do so if no name in them starts
outside ASCII, and else do not. -/
theorem contextOnly_exact (text : String) :
    (isContextOnly text = true ↔
      Reads (fun name => IsAsciiStart name → IsContextName name) text) ∧
    (ReadsContext text ↔ isContextOnly text = true ∧ ∀ bodies, Holds text.toList bodies →
      ∀ body ∈ bodies, ∀ name, Names body name → IsAsciiStart name) := by
  refine ⟨isContextOnly_iff, ?_⟩
  rw [isContextOnly_iff]
  constructor
  · rintro ⟨hstatement, hcomment, bodies, hsome, hholds, hbodies⟩
    refine ⟨⟨hstatement, hcomment, bodies, hsome, hholds, fun body hbody => ?_⟩, ?_⟩
    · obtain ⟨hquote, hquotes, hnames⟩ := hbodies body hbody
      exact ⟨hquote, hquotes, fun name hname _ => hnames name hname⟩
    · intro others hothers body hbody name hname
      obtain rfl := hholds.unique hothers
      exact ((hbodies body hbody).2.2 name hname).isAsciiStart
  · rintro ⟨⟨hstatement, hcomment, bodies, hsome, hholds, hbodies⟩, hascii⟩
    refine ⟨hstatement, hcomment, bodies, hsome, hholds, fun body hbody => ?_⟩
    obtain ⟨hquote, hquotes, hnames⟩ := hbodies body hbody
    exact ⟨hquote, hquotes,
      fun name hname => hnames name hname (hascii bodies hholds body hbody name hname)⟩

/-- A text names a variable in French, and is taken to read the context only. -/
theorem not_readsContext_foreign :
    ¬ ∀ text, isContextOnly text = true → ReadsContext text := by
  intro hall
  have hcontext : isContextOnly (Item.expression "état") = true := by
    rw [isContextOnly_expression (by decide)]
    decide +kernel
  obtain ⟨-, -, bodies, -, hholds, hbodies⟩ := hall _ hcontext
  have hbody : bodies = [[' ', 'é', 't', 'a', 't', ' ']] := by
    rw [toList_expression] at hholds
    rw [← hholds.expressions_eq.1, expressions_eq (by decide)]
    rfl
  have hname : Names [' ', 'é', 't', 'a', 't', ' '] ['é', 't', 'a', 't'] := by
    refine ⟨[' '], [' '], rfl, ?_⟩
    constructor
    case nonempty => exact List.cons_ne_nil _ _
    case word => exact List.all_eq_true.1 (by decide +kernel)
    all_goals
      rintro _ ⟨⟩
      decide +kernel
  have hknown := (hbodies _ (hbody ▸ List.mem_singleton_self _)).2.2 _ hname
  exact absurd hknown (by unfold IsContextName; decide)

end HomePortal.Template
