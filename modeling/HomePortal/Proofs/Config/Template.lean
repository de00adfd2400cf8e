import HomePortal.Config.Item
import HomePortal.Config.Template
import HomePortal.Proofs.Text.Ascii
/-!
Expressions inside text. An expression without braces of its own is taken out whole, and its names
are those of its parts, wherever a character that belongs to no name parts them.
-/

namespace HomePortal.Template

variable {a b c x : Char} {cs before after : List Char}

/-! Two characters in a row, and the first place where one is doubled. -/

theorem pair_infix_cons : [a, b] <:+: x :: cs ↔ x = a ∧ cs.head? = some b ∨ [a, b] <:+: cs := by
  have hprefix : [a, b] <+: x :: cs ↔ x = a ∧ cs.head? = some b := by
    cases cs with
    | nil => simp
    | cons y rest => simp [List.cons_prefix_cons, eq_comm]
  rw [List.infix_cons_iff, hprefix]

theorem hasPair_iff : hasPair a b cs = true ↔ [a, b] <:+: cs := by
  induction cs with
  | nil => simp [hasPair]
  | cons x tail ih =>
    rw [pair_infix_cons, ← ih]
    cases tail with
    | nil => simp [hasPair]
    | cons y rest => simp [hasPair]

theorem hasPair_of_not_mem (h : a ∉ cs) : hasPair a b cs = false := by
  rw [← Bool.not_eq_true, hasPair_iff]
  exact fun hpair => h (hpair.subset List.mem_cons_self)

theorem isTemplate_of_not_mem {s : String} (h : '\x7b' ∉ s.toList) : isTemplate s = false := by
  simp [isTemplate, hasPair_of_not_mem h]

/-- A doubled character is looked for behind a text that it does not begin in. -/
theorem pair_infix_append (h : ¬ [c, c] <:+: before ++ [c]) :
    [c, c] <:+: before ++ after ↔ [c, c] <:+: after := by
  induction before with
  | nil => rfl
  | cons x rest ih =>
    rw [List.cons_append, pair_infix_cons, not_or] at h
    rw [List.cons_append, pair_infix_cons, ih h.2, or_iff_right_iff_imp]
    rintro ⟨rfl, hhead⟩
    cases rest with
    | nil => simp at h
    | cons y ys => exact absurd ⟨rfl, hhead⟩ h.1

theorem breakAtDouble_cons {tail : List Char} (h : ¬ (x = c ∧ tail.head? = some c)) :
    breakAtDouble c (x :: tail) =
      (breakAtDouble c tail).map fun found => (x :: found.1, found.2) := by
  cases tail with
  | nil => rfl
  | cons y rest =>
    have hdouble : ¬ (x == c && y == c) = true := by simpa using h
    rw [breakAtDouble, if_neg hdouble]

/-- A text is split at the first place where a character is doubled. -/
theorem breakAtDouble_of_first (h : ¬ [c, c] <:+: before ++ [c]) :
    breakAtDouble c (before ++ c :: c :: after) = some (before, after) := by
  induction before with
  | nil => simp [breakAtDouble]
  | cons x rest ih =>
    rw [List.cons_append, pair_infix_cons, not_or] at h
    have hstep : ¬ (x = c ∧ (rest ++ c :: c :: after).head? = some c) := by
      cases rest <;> exact h.1
    rw [List.cons_append, breakAtDouble_cons hstep, ih h.2]
    rfl

theorem first_of_breakAtDouble (h : breakAtDouble c cs = some (before, after)) :
    cs = before ++ c :: c :: after ∧ ¬ [c, c] <:+: before ++ [c] := by
  induction cs generalizing before with
  | nil => cases h
  | cons x tail ih =>
    by_cases hdouble : x = c ∧ tail.head? = some c
    · obtain ⟨rfl, hhead⟩ := hdouble
      obtain ⟨rest, rfl⟩ := List.head?_eq_some_iff.1 hhead
      simp only [breakAtDouble, BEq.rfl, Bool.and_self, if_true, Option.some.injEq,
        Prod.mk.injEq] at h
      obtain ⟨rfl, rfl⟩ := h
      exact ⟨rfl, by simp [pair_infix_cons]⟩
    · rw [breakAtDouble_cons hdouble] at h
      obtain ⟨⟨front, rest⟩, hfound, heq⟩ := Option.map_eq_some_iff.1 h
      obtain ⟨rfl, rfl⟩ := Prod.mk.inj heq
      obtain ⟨rfl, hfirst⟩ := ih hfound
      refine ⟨rfl, ?_⟩
      rw [List.cons_append, pair_infix_cons, not_or]
      refine ⟨?_, hfirst⟩
      cases front <;> exact hdouble

theorem breakAtDouble_append (h : c ∉ before) :
    breakAtDouble c (before ++ c :: c :: after) = some (before, after) := by
  refine breakAtDouble_of_first fun hpair => ?_
  have hcount := hpair.sublist.count_le c
  simp [List.count_eq_zero_of_not_mem h] at hcount

/-! The expressions of a text. -/

theorem expressions_of_none (h : breakAtDouble '\x7b' cs = none) : expressions cs = ([], cs) := by
  rw [expressions]
  split
  · rfl
  · rename_i hfound
    rw [h] at hfound
    cases hfound

theorem expressions_of_some {opened body closed : List Char}
    (hopen : breakAtDouble '\x7b' cs = some (before, opened))
    (hclose : breakAtDouble '\x7d' opened = some (body, closed)) :
    expressions cs = (body :: (expressions closed).1, before ++ (expressions closed).2) := by
  rw [expressions]
  split
  · rename_i hnone
    rw [hopen] at hnone
    cases hnone
  · rename_i hfound
    obtain ⟨rfl, rfl⟩ := Prod.mk.inj (Option.some.inj (hopen.symm.trans hfound))
    split
    · rename_i hnone
      rw [hclose] at hnone
      cases hnone
    · rename_i hfound
      obtain ⟨rfl, rfl⟩ := Prod.mk.inj (Option.some.inj (hclose.symm.trans hfound))
      rfl

theorem expressions_eq {body : List Char} (h : '\x7d' ∉ body) :
    expressions ('\x7b' :: '\x7b' :: (body ++ ['\x7d', '\x7d'])) = ([body], []) := by
  have hopen : breakAtDouble '\x7b' ('\x7b' :: '\x7b' :: (body ++ ['\x7d', '\x7d'])) =
      some ([], body ++ ['\x7d', '\x7d']) := breakAtDouble_append List.not_mem_nil
  have hclose : breakAtDouble '\x7d' (body ++ ['\x7d', '\x7d']) = some (body, []) :=
    breakAtDouble_append h
  have hnil : expressions [] = ([], []) := expressions_of_none rfl
  rw [expressions_of_some hopen hclose, hnil]
  rfl

theorem toList_expression (body : String) : (Item.expression body).toList =
    '\x7b' :: '\x7b' :: ((' ' :: (body.toList ++ [' '])) ++ ['\x7d', '\x7d']) := by
  simp [Item.expression, String.toList_append]

def marks : List Char :=
  ['\x7b', '\x7d', '\'', '"']

/-- Whether an expression without marks reads the context only is decided on its names. -/
theorem isContextOnly_expression {body : String}
    (hmarks : (body.toList.all fun c => !marks.contains c) = true) :
    isContextOnly (Item.expression body) = (freeNames true (' ' :: (body.toList ++ [' ']))).all
      fun name => contextNames.contains (String.ofList name) := by
  have hnot {x : Char} (hx : marks.contains x = true) : x ∉ body.toList := by
    intro hmem
    have hfree := List.all_eq_true.1 hmarks x hmem
    rw [hx] at hfree
    cases hfree
  have hopen : '\x7b' ∉ body.toList := hnot (by decide)
  have hclose : '\x7d' ∉ ' ' :: (body.toList ++ [' ']) := by simp [hnot (x := '\x7d') (by decide)]
  have hquote : '\'' ∉ body.toList ∧ '"' ∉ body.toList := ⟨hnot (by decide), hnot (by decide)⟩
  have hrest (x : Char) : hasPair '\x7b' x ((' ' :: (body.toList ++ [' '])) ++ ['\x7d', '\x7d']) =
      false := hasPair_of_not_mem (by simp [hopen])
  have hpair (x : Char) (hbrace : '\x7b' ≠ x) (hblank : ' ' ≠ x) : hasPair '\x7b' x
      ('\x7b' :: '\x7b' :: ((' ' :: (body.toList ++ [' '])) ++ ['\x7d', '\x7d'])) = false := by
    have hx := hrest x
    rw [List.cons_append] at hx ⊢
    rw [hasPair, hasPair, hx]
    simp [hbrace, hblank]
  have hbody : isContextBody (' ' :: (body.toList ++ [' '])) =
      (freeNames true (' ' :: (body.toList ++ [' ']))).all
        fun name => contextNames.contains (String.ofList name) := by
    simp [isContextBody, hquote]
  unfold isContextOnly
  dsimp only
  rw [toList_expression, expressions_eq hclose, hpair '%' (by decide) (by decide),
    hpair '#' (by decide) (by decide), ← hbody]
  simp [hasPair]

/-! The names of an expression. -/

theorem isWord_of_isNameStart (h : isNameStart c = true) : Text.isWord c = true := by
  rw [isNameStart, Bool.and_eq_true] at h
  exact Text.isWord_of_isAsciiWord h.1

/-- No name starts inside a word. -/
theorem freeNames_word {word rest : List Char} (h : ∀ c ∈ word, Text.isWord c = true) :
    freeNames false (word ++ rest) = freeNames false rest := by
  induction word with
  | nil => rfl
  | cons c tail ih =>
    have hc := h c List.mem_cons_self
    have htail : ∀ x ∈ tail, Text.isWord x = true := fun x hx => h x (List.mem_cons_of_mem c hx)
    rw [List.cons_append, freeNames]
    simp [hc, ih htail]

theorem freeNames_gap {rest : List Char} (hc : Text.isWord c = false) (fresh : Bool) :
    freeNames fresh (c :: rest) = freeNames (c != '.') rest := by
  have hstart : isNameStart c = false := by
    cases h : isNameStart c with
    | false => rfl
    | true =>
      rw [isWord_of_isNameStart h] at hc
      cases hc
  rw [freeNames]
  simp [hc, hstart]

theorem takeWhile_gap {p : Char → Bool} {rest : List Char} (hc : p c = false) (cs : List Char) :
    (cs ++ c :: rest).takeWhile p = cs.takeWhile p := by
  induction cs with
  | nil => simp [hc]
  | cons x tail ih =>
    rw [List.cons_append, List.takeWhile_cons, List.takeWhile_cons, ih]

/-- A character that belongs to no word parts the names before it from those after it. -/
theorem freeNames_append {rest : List Char} (hc : Text.isWord c = false) (fresh : Bool)
    (cs : List Char) :
    freeNames fresh (cs ++ c :: rest) = freeNames fresh cs ++ freeNames (c != '.') rest := by
  induction cs generalizing fresh with
  | nil => exact freeNames_gap hc fresh
  | cons x tail ih =>
    rw [List.cons_append, freeNames, freeNames, ih, takeWhile_gap hc]
    split
    · rfl
    · rfl

theorem freeNames_eq_nil (h : ∀ c ∈ cs, isNameStart c = false) (fresh : Bool) :
    freeNames fresh cs = [] := by
  induction cs generalizing fresh with
  | nil => rfl
  | cons c rest ih =>
    have hc := h c List.mem_cons_self
    have hrest : ∀ x ∈ rest, isNameStart x = false := fun x hx => h x (List.mem_cons_of_mem c hx)
    rw [freeNames, hc, Bool.and_false, ih hrest]
    rfl

end HomePortal.Template
