import HomePortal.Config.Finding
import HomePortal.Proofs.Text.Ascii
/-!
Text without blanks around it and in lower case: which characters it may hold, and the form of the
names found in it.
-/

namespace HomePortal

namespace Text

def isUncased (c : Char) : Bool :=
  0 < c.toNat && c.toNat < 128 && !c.isAlpha

/-- Capitals outside ASCII have their small letters outside ASCII too, save the sign for Kelvin. -/
theorem capitalRuns_out {first last step : Nat} {distance : Int}
    (h : (first, last, step, distance) ∈ capitalRuns) :
    (128 : Int) ≤ first + distance ∨ first = 0x212A ∧ last = 0x212A ∧ distance = -8383 := by
  have hall : capitalRuns.all (fun run => decide ((128 : Int) ≤ run.1 + run.2.2.2) ||
      (run.1 == 0x212A && run.2.1 == 0x212A && run.2.2.2 == -8383)) = true := by decide +kernel
  have := List.all_eq_true.1 hall _ h
  simpa [and_assoc] using this

theorem toNat_ofNat_of_pos {n : Nat} {d : Char} (h : Char.ofNat n = d) (hd : 0 < d.toNat) :
    n = d.toNat := by
  subst h
  by_cases hvalid : n.isValidChar
  · have hself : Char.ofNat n = Char.ofNatAux n hvalid := dif_pos hvalid
    rw [hself]
    rfl
  · have hzero : Char.ofNat n = Char.ofNat 0 := dif_neg hvalid
    rw [hzero] at hd
    exact absurd hd (by decide)

theorem lowerByRuns_ne_uncased {c d : Char} (hc : 128 ≤ c.toNat) (hd : isUncased d = true) :
    lowerByRuns c ≠ d := by
  simp only [isUncased, Bool.and_eq_true, decide_eq_true_eq] at hd
  obtain ⟨⟨hpos, hlt⟩, halpha⟩ := hd
  intro heq
  unfold lowerByRuns at heq
  split at heq
  · rename_i first last step distance hfind
    have hrange := List.find?_some hfind
    simp only [Bool.and_eq_true, decide_eq_true_eq] at hrange
    have hout := toNat_ofNat_of_pos heq hpos
    obtain h128 | ⟨rfl, rfl, rfl⟩ := capitalRuns_out (List.mem_of_find?_eq_some hfind)
    · omega
    · have hk : d.toNat = 'k'.toNat := by
        have : ('k'.toNat : Nat) = 107 := rfl
        omega
      rw [Char.toNat_inj.1 hk] at halpha
      exact absurd halpha (by decide)
  · subst heq
    omega

/-- A character without a case is the small letter of nothing else. -/
theorem mem_lowerChar_uncased {c d : Char} (hd : isUncased d = true) :
    d ∈ lowerChar c ↔ d = c := by
  unfold lowerChar
  split
  · rename_i hc
    rw [List.mem_singleton]
    have hc' : c.toNat < 128 := hc
    have hlower : c.toLower = c ∨ isUncased c.toLower = false :=
      forall_ascii (P := fun c => c.toLower = c ∨ isUncased c.toLower = false) (by decide) hc'
    have hself : isUncased c = true → c.toLower = c :=
      forall_ascii (P := fun c => isUncased c = true → c.toLower = c) (by decide) hc'
    constructor
    · intro heq
      subst heq
      cases hlower with
      | inl h => exact h
      | inr h =>
        rw [h] at hd
        cases hd
    · intro heq
      subst heq
      exact (hself hd).symm
  · rename_i hc
    have hc' : 128 ≤ c.toNat := Nat.not_lt.1 hc
    have hne : d ≠ c := by
      intro heq
      subst heq
      simp only [isUncased, Bool.and_eq_true, decide_eq_true_eq] at hd
      omega
    split
    · simp only [List.mem_cons, List.not_mem_nil, or_false, hne, iff_false]
      intro h
      obtain rfl | rfl := h <;> exact absurd hd (by decide)
    · rw [List.mem_singleton]
      exact iff_of_false (fun h => lowerByRuns_ne_uncased hc' hd h.symm) hne

/-- A character without a case is in the lower case of a text exactly if it is in the text. -/
theorem mem_lowerAfter_uncased {before cs : List Char} {d : Char} (hd : isUncased d = true) :
    d ∈ lowerAfter before cs ↔ d ∈ cs := by
  induction cs generalizing before with
  | nil => simp [lowerAfter]
  | cons c rest ih =>
    have hone : d ∈ (if c == 'Σ' then (if meetsCased before && !meetsCased rest then ['ς'] else ['σ'])
        else lowerChar c) ↔ d = c := by
      split
      · rename_i hsigma
        obtain rfl := eq_of_beq hsigma
        have hne : d ≠ 'Σ' := by
          intro heq
          subst heq
          exact absurd hd (by decide)
        refine iff_of_false ?_ hne
        split
        all_goals
          rw [List.mem_singleton]
          intro heq
          subst heq
          exact absurd hd (by decide)
      · exact mem_lowerChar_uncased hd
    rw [lowerAfter, List.mem_append, hone, ih, List.mem_cons]

/-- The lower case of a text ends with that of its last character. -/
theorem lowerAfter_concat (before cs : List Char) (c : Char) :
    ∃ front context, lowerAfter before (cs ++ [c]) = front ++ lowerAfter context [c] := by
  induction cs generalizing before with
  | nil => exact ⟨[], before, rfl⟩
  | cons x rest ih =>
    obtain ⟨front, context, h⟩ := ih (x :: before)
    rw [List.cons_append, lowerAfter, h, ← List.append_assoc]
    exact ⟨_, context, rfl⟩

theorem lowerAfter_ne_nil {before : List Char} {c : Char} : lowerAfter before [c] ≠ [] := by
  unfold lowerAfter lowerChar
  split
  · split <;> simp
  · split
    · simp
    · split <;> simp

theorem lowerAfter_eq_self {before cs : List Char}
    (h : ∀ c ∈ cs, c.toNat < 128 ∧ c.toLower = c) : lowerAfter before cs = cs := by
  induction cs generalizing before with
  | nil => rfl
  | cons c rest ih =>
    obtain ⟨hlt, hlower⟩ := h c List.mem_cons_self
    have hsigma : (c == 'Σ') = false := by
      refine beq_false_of_ne ?_
      intro heq
      subst heq
      exact absurd hlt (by decide)
    have hone : lowerChar c = [c] := by
      rw [lowerChar, if_pos (show c.val < 128 from hlt), hlower]
    rw [lowerAfter, hsigma, hone, ih fun x hx => h x (List.mem_cons_of_mem c hx)]
    rfl

theorem stripChars_eq_self_of_ends {p : Char → Bool} {cs : List Char}
    (hhead : ∀ c ∈ cs.head?, p c = false) (hlast : ∀ c ∈ cs.getLast?, p c = false) :
    stripChars p cs = cs := by
  have hdrop (l : List Char) (hl : ∀ c ∈ l.head?, p c = false) : l.dropWhile p = l := by
    cases l with
    | nil => rfl
    | cons c rest => exact List.dropWhile_cons_of_neg (by simp [hl c rfl])
  rw [stripChars, hdrop cs hhead, hdrop _ (by rwa [List.head?_reverse]), List.reverse_reverse]

theorem stripChars_eq_self {p : Char → Bool} {cs : List Char} (h : ∀ c ∈ cs, p c = false) :
    stripChars p cs = cs :=
  stripChars_eq_self_of_ends (fun c hc => h c (List.mem_of_mem_head? hc)) fun c hc =>
    h c (List.mem_of_getLast? hc)

theorem stripChars_prefix_dropWhile (p : Char → Bool) (cs : List Char) :
    stripChars p cs <+: cs.dropWhile p := by
  rw [stripChars, ← List.reverse_suffix, List.reverse_reverse]
  exact List.dropWhile_suffix p

theorem stripChars_infix_self (p : Char → Bool) (cs : List Char) : stripChars p cs <:+: cs :=
  (stripChars_prefix_dropWhile p cs).isInfix.trans (List.dropWhile_suffix p).isInfix

/-- Blanks at the ends are dropped only. -/
theorem mem_stripChars {p : Char → Bool} {cs : List Char} {c : Char} (hp : p c = false)
    (h : c ∈ cs) : c ∈ stripChars p cs := by
  have hdrop (l : List Char) (hl : c ∈ l) : c ∈ l.dropWhile p := by
    rw [← List.takeWhile_append_dropWhile (p := p) (l := l), List.mem_append] at hl
    refine hl.resolve_left fun htake => ?_
    simp [List.all_eq_true.1 (List.all_takeWhile) c htake] at hp
  rw [stripChars, List.mem_reverse]
  exact hdrop _ (List.mem_reverse.2 (hdrop _ h))

/-- What is left begins and ends with no blank. -/
theorem stripChars_ends (p : Char → Bool) (cs : List Char) :
    (∀ c ∈ (stripChars p cs).head?, p c = false) ∧
      ∀ c ∈ (stripChars p cs).getLast?, p c = false := by
  have hhead (l : List Char) : ∀ c ∈ (l.dropWhile p).head?, p c = false := by
    intro c hc
    have hnot := List.head?_dropWhile_not p l
    rw [Option.mem_def.1 hc] at hnot
    simpa using hnot
  constructor
  · intro c hc
    obtain ⟨tail, htail⟩ := stripChars_prefix_dropWhile p cs
    refine hhead cs c ?_
    rw [← htail, List.head?_append, Option.mem_def.1 hc]
    rfl
  · intro c hc
    rw [stripChars, List.getLast?_reverse] at hc
    exact hhead _ c hc

def IsName (cs : List Char) : Prop :=
  ∃ first second, first ≠ [] ∧ second ≠ [] ∧ (∀ c ∈ first, isPlain c = true) ∧
    (∀ c ∈ second, isPlain c = true) ∧ cs = first ++ '.' :: second

theorem IsName.isPlain_of_mem {cs : List Char} (h : IsName cs) {c : Char} (hc : c ∈ cs) :
    isPlain c = true ∨ c = '.' := by
  obtain ⟨first, second, -, -, hfirst, hsecond, rfl⟩ := h
  cases List.mem_append.1 hc with
  | inl hc => exact .inl (hfirst c hc)
  | inr hc =>
    obtain rfl | hc := List.mem_cons.1 hc
    · exact .inr rfl
    · exact .inl (hsecond c hc)

/-- A dotted name that ends without a line break. -/
theorem isName_of_isDotted {cs : List Char} (h : isDotted cs = true)
    (hend : ∀ front, cs ≠ front ++ ['\n']) : IsName cs := by
  obtain ⟨⟨first, second⟩, hparts⟩ := Option.isSome_iff_exists.1 h
  unfold dottedParts? at hparts
  split at hparts
  · rename_i tail hdrop
    dsimp only at hparts
    split at hparts
    · rename_i hcond
      obtain ⟨rfl, rfl⟩ : cs.takeWhile isPlain = first ∧ tail = second := by simpa using hparts
      simp only [Bool.and_eq_true, Bool.or_eq_true, beq_iff_eq, Bool.not_eq_true',
        List.isEmpty_eq_false_iff] at hcond
      obtain ⟨⟨hfirst, hhead⟩, hafter⟩ := hcond
      have hcs : cs = cs.takeWhile isPlain ++ '.' :: tail := by
        rw [← hdrop, List.takeWhile_append_dropWhile]
      have htail := List.takeWhile_append_dropWhile (p := isPlain) (l := tail)
      cases hafter with
      | inl hafter =>
        rw [hafter, List.append_nil] at htail
        refine ⟨_, tail, hfirst, ?_, fun c hc => List.all_eq_true.1 List.all_takeWhile c hc, ?_, hcs⟩
        · intro heq
          subst heq
          cases hhead
        · rw [← htail]
          exact fun c hc => List.all_eq_true.1 List.all_takeWhile c hc
      | inr hafter =>
        refine absurd ?_ (hend (cs.takeWhile isPlain ++ '.' :: tail.takeWhile isPlain))
        rw [hafter] at htail
        rw [List.append_assoc, List.cons_append, htail]
        exact hcs
    · cases hparts
  · cases hparts

theorem isDotted_of_isName {cs : List Char} (h : IsName cs) : isDotted cs = true := by
  obtain ⟨first, second, hfirst, hsecond, hplain, hplain', rfl⟩ := h
  have htake : (first ++ '.' :: second).takeWhile isPlain = first := by
    rw [List.takeWhile_append_of_pos hplain, List.takeWhile_cons_of_neg (by decide),
      List.append_nil]
  have hdrop : (first ++ '.' :: second).dropWhile isPlain = '.' :: second := by
    rw [List.dropWhile_append_of_pos hplain, List.dropWhile_cons_of_neg (by decide)]
  have hafter : second.dropWhile isPlain = [] := by
    rw [← List.append_nil second, List.dropWhile_append_of_pos hplain', List.dropWhile_nil]
  have hhead : second.head?.any isPlain = true := by
    cases second with
    | nil => exact absurd rfl hsecond
    | cons c rest => exact hplain' c List.mem_cons_self
  simp [isDotted, dottedParts?, htake, hdrop, hafter, hhead, hfirst]

end Text

namespace Finding

/-- No line break ends a folded text. -/
theorem folded_ne_concat (cs front : List Char) : (folded cs).toList ≠ front ++ ['\n'] := by
  rw [folded, Text.lower, String.toList_ofList, String.toList_ofList]
  obtain h | ⟨head, c, h⟩ := List.eq_nil_or_concat (Text.stripChars Text.isBlank cs)
  · rw [Text.trimChars, h]
    exact fun heq => absurd (congrArg List.length heq) (by simp [Text.lowerAfter])
  · rw [List.concat_eq_append] at h
    have hc : Text.isBlank c = false :=
      (Text.stripChars_ends Text.isBlank cs).2 c (by simp [h])
    rw [Text.trimChars, h]
    obtain ⟨start, context, hlower⟩ := Text.lowerAfter_concat [] head c
    intro heq
    rw [hlower] at heq
    have hlast : '\n' ∈ Text.lowerAfter context [c] := by
      have hconcat := List.dropLast_concat_getLast
        (show Text.lowerAfter context [c] ≠ [] from Text.lowerAfter_ne_nil)
      rw [← hconcat, ← List.append_assoc] at heq
      rw [← (List.append_singleton_inj.1 heq).2]
      exact List.getLast_mem _
    have hnewline := (Text.mem_lowerAfter_uncased (by decide)).1 hlast
    rw [← List.mem_singleton.1 hnewline] at hc
    exact absurd hc (by decide)

/-- Folding drops no character but blanks and letters in upper case. -/
theorem mem_folded {cs : List Char} {c : Char} (huncased : Text.isUncased c = true)
    (hblank : Text.isBlank c = false) (h : c ∈ cs) : c ∈ (folded cs).toList := by
  rw [folded, Text.lower, String.toList_ofList, String.toList_ofList]
  exact (Text.mem_lowerAfter_uncased huncased).2 (Text.mem_stripChars hblank h)

theorem isName_folded {cs : List Char} (h : Text.isDotted (folded cs).toList = true) :
    Text.IsName (folded cs).toList :=
  Text.isName_of_isDotted h (folded_ne_concat cs)

end Finding

end HomePortal
