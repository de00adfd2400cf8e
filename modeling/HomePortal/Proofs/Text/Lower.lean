import HomePortal.Proofs.Text.Folded
/-!
Lower case keeps what it has made. No small letter of the table is a capital or a blank, so that a
folded text folds to itself.
-/

namespace HomePortal

namespace Text

def isSmall (c : Char) : Bool :=
  c != 'Σ' && lowerChar c == [c]

/-! ### The table of capitals -/

def otherRuns : List (Nat × Nat × Nat × Int) :=
  [(0x130, 0x130, 1, 0), (0x85, 0x85, 1, 0), (0xA0, 0xA0, 1, 0), (0x1680, 0x1680, 1, 0),
   (0x2000, 0x200A, 1, 0), (0x2028, 0x2029, 1, 0), (0x202F, 0x202F, 1, 0), (0x205F, 0x205F, 1, 0),
   (0x3000, 0x3000, 1, 0)]

def staysClear (run other : Nat × Nat × Nat × Int) : Bool :=
  Nat.blt (run.2.1 + run.2.2.2).toNat other.1 || Nat.blt other.2.1 (run.1 + run.2.2.2).toNat ||
    (other.2.2.1 == 2 && (run.2.2.1 == 2 || run.1 == run.2.1) &&
      ((run.1 + run.2.2.2).toNat + other.1) % 2 == 1)

theorem staysClear_capitalRuns {run other : Nat × Nat × Nat × Int} (h : run ∈ capitalRuns)
    (hother : other ∈ capitalRuns ++ otherRuns) : staysClear run other = true := by
  have hall : capitalRuns.all (fun run => (capitalRuns ++ otherRuns).all (staysClear run)) =
      true := by
    decide +kernel
  exact List.all_eq_true.1 (List.all_eq_true.1 hall run h) other hother

def InRun (point : Nat) (run : Nat × Nat × Nat × Int) : Prop :=
  run.1 ≤ point ∧ point ≤ run.2.1 ∧ (point - run.1) % run.2.2.1 = 0

/-- What a run leads to is in no other. -/
theorem not_inRun_of_mem {run other : Nat × Nat × Nat × Int} {point small : Nat}
    (h : run ∈ capitalRuns) (hother : other ∈ capitalRuns ++ otherRuns) (hpoint : InRun point run)
    (hsmall : (small : Int) = point + run.2.2.2) : ¬ InRun small other := by
  have hclear := staysClear_capitalRuns h hother
  obtain ⟨first, last, step, distance⟩ := run
  obtain ⟨first', last', step', distance'⟩ := other
  have hlow : 0 ≤ first + distance := by
    obtain hout | ⟨rfl, -, rfl⟩ := capitalRuns_out h
    · omega
    · decide
  simp only [staysClear, Bool.or_eq_true, Bool.and_eq_true, beq_iff_eq, Nat.blt_eq] at hclear
  obtain ⟨hfirst, hlast, hstep⟩ := hpoint
  rintro ⟨hfirst', hlast', hstep'⟩
  dsimp only at *
  obtain (hbelow | habove) | ⟨⟨rfl, rfl | rfl⟩, hparity⟩ := hclear
  · omega
  · omega
  · omega
  · omega

/-- A character outside the runs is kept, and one of a run is moved by its distance. -/
theorem lowerByRuns_cases (c : Char) :
    (lowerByRuns c = c ∧ ∀ run ∈ capitalRuns, ¬ InRun c.toNat run) ∨
      ∃ run ∈ capitalRuns, InRun c.toNat run ∧
        lowerByRuns c = Char.ofNat (Int.toNat (c.toNat + run.2.2.2)) := by
  unfold lowerByRuns
  split
  · rename_i first last step distance hfind
    have hin := List.find?_some hfind
    simp only [Bool.and_eq_true, decide_eq_true_eq, beq_iff_eq] at hin
    exact .inr ⟨_, List.mem_of_find?_eq_some hfind, ⟨hin.1.1, hin.1.2, hin.2⟩, rfl⟩
  · rename_i hnone
    refine .inl ⟨rfl, fun run hrun hin => ?_⟩
    have hout := List.find?_eq_none.1 hnone run hrun
    simp only [Bool.and_eq_true, decide_eq_true_eq, beq_iff_eq] at hout
    exact hout ⟨⟨hin.1, hin.2.1⟩, hin.2.2⟩

theorem lowerByRuns_eq_self {c : Char} (h : ∀ run ∈ capitalRuns, ¬ InRun c.toNat run) :
    lowerByRuns c = c := by
  obtain ⟨hself, -⟩ | ⟨run, hrun, hin, -⟩ := lowerByRuns_cases c
  · exact hself
  · exact absurd hin (h run hrun)

/-- A small letter of the table is in ASCII only for want of a character or as that of the sign for
Kelvin, and else in no run. -/
theorem small_of_run {c d : Char} {run : Nat × Nat × Nat × Int} (hrun : run ∈ capitalRuns)
    (hin : InRun c.toNat run) (hd : Char.ofNat (Int.toNat (c.toNat + run.2.2.2)) = d) :
    d = '\x00' ∨ d = 'k' ∨
      128 ≤ d.toNat ∧ ∀ other ∈ capitalRuns ++ otherRuns, ¬ InRun d.toNat other := by
  by_cases hzero : d.toNat = 0
  · exact .inl (Char.toNat_inj.1 hzero)
  · have hpoint := toNat_ofNat_of_pos hd (Nat.pos_of_ne_zero hzero)
    obtain ⟨first, last, step, distance⟩ := run
    have hfirst : first ≤ c.toNat := hin.1
    have hlast : c.toNat ≤ last := hin.2.1
    dsimp only at hpoint
    obtain hout | ⟨rfl, rfl, rfl⟩ := capitalRuns_out hrun
    · have hsmall : (d.toNat : Int) = c.toNat + distance := by omega
      exact .inr (.inr ⟨by omega, fun other hother => not_inRun_of_mem hrun hother hin hsmall⟩)
    · have hk : d.toNat = 'k'.toNat := by
        have hvalue : 'k'.toNat = 107 := rfl
        omega
      exact .inr (.inl (Char.toNat_inj.1 hk))

/-! ### One character -/

theorem isSmall_of_not_inRun {c : Char} (hc : 128 ≤ c.toNat)
    (h : ∀ run ∈ capitalRuns, ¬ InRun c.toNat run) (hdotted : c ≠ 'İ') : isSmall c = true := by
  have hsigma : c ≠ 'Σ' := by
    rintro rfl
    exact h (0x3A3, 0x3AB, 1, 32) (by decide +kernel) ⟨by decide, by decide, by decide⟩
  have hascii : ¬ c.val < 128 := Nat.not_lt.2 hc
  have hlower : lowerChar c = [c] := by
    rw [lowerChar, if_neg hascii, if_neg (by simpa using hdotted), lowerByRuns_eq_self h]
  simp [isSmall, hsigma, hlower]

/-- The lower case of a character is kept. -/
theorem isSmall_of_mem_lowerChar {c d : Char} (h : d ∈ lowerChar c) :
    isSmall d = true := by
  unfold lowerChar at h
  split at h
  · rename_i hc
    obtain rfl := List.mem_singleton.1 h
    exact forall_ascii (P := fun c => isSmall c.toLower = true) (by decide +kernel)
      (show c.toNat < 128 from hc)
  · rename_i hc
    have hc' : 128 ≤ c.toNat := Nat.not_lt.1 hc
    split at h
    · have hdot : ['i', '\u0307'].all isSmall = true := by decide +kernel
      exact List.all_eq_true.1 hdot d h
    · rename_i hdotted
      obtain rfl := List.mem_singleton.1 h
      obtain ⟨hself, hout⟩ | ⟨run, hrun, hin, heq⟩ := lowerByRuns_cases c
      · rw [hself]
        exact isSmall_of_not_inRun hc' hout (by simpa using hdotted)
      · obtain hzero | hk | ⟨hsmall, hout⟩ := small_of_run hrun hin heq.symm
        · rw [hzero]
          decide +kernel
        · rw [hk]
          decide +kernel
        · refine isSmall_of_not_inRun hsmall (fun run hrun => hout run ?_) fun hI => ?_
          · exact List.mem_append_left _ hrun
          · refine hout (0x130, 0x130, 1, 0) (by decide +kernel) ?_
            rw [hI]
            exact ⟨by decide, by decide, by decide⟩

theorem exists_run_of_isBlank {c : Char} (h : isBlank c = true) (hc : 128 ≤ c.toNat) :
    ∃ run ∈ otherRuns, InRun c.toNat run := by
  have hval : c.val.toNat = c.toNat := rfl
  simp only [isBlank, Bool.or_eq_true, Bool.and_eq_true, decide_eq_true_eq, beq_iff_eq,
    UInt32.le_iff_toNat_le, ← UInt32.toNat_inj, hval, UInt32.reduceToNat] at h
  simp only [otherRuns, List.mem_cons, List.not_mem_nil, or_false, exists_eq_or_imp,
    exists_eq_left, InRun, Nat.mod_one, and_true]
  omega

/-- The lower case of a character that is no blank has none. -/
theorem eq_of_isBlank_of_mem_lowerChar {c d : Char} (hd : isBlank d = true)
    (h : d ∈ lowerChar c) : d = c := by
  unfold lowerChar at h
  split at h
  · rename_i hc
    obtain rfl := List.mem_singleton.1 h
    exact forall_ascii (P := fun c => isBlank c.toLower = true → c.toLower = c) (by decide)
      (show c.toNat < 128 from hc) hd
  · split at h
    · have hdot : ['i', '\u0307'].any isBlank = false := by decide +kernel
      exact absurd hd (List.any_eq_false.1 hdot d h)
    · obtain rfl := List.mem_singleton.1 h
      obtain ⟨hself, -⟩ | ⟨run, hrun, hin, heq⟩ := lowerByRuns_cases c
      · exact hself
      · obtain hzero | hk | ⟨hsmall, hout⟩ := small_of_run hrun hin heq.symm
        · rw [hzero] at hd
          exact absurd hd (by decide)
        · rw [hk] at hd
          exact absurd hd (by decide)
        · obtain ⟨other, hother, hblank⟩ := exists_run_of_isBlank hd hsmall
          exact absurd hblank (hout other (List.mem_append_right _ hother))

structure IsLowered (c : Char) (chunk : List Char) : Prop where
  ne_nil : chunk ≠ []
  small : ∀ d ∈ chunk, isSmall d = true
  blank : ∀ d ∈ chunk, isBlank d = true → d = c
  uncased : ∀ d ∈ chunk, isUncased d = true → chunk = [c]

theorem isLowered_lowerChar (c : Char) : IsLowered c (lowerChar c) where
  ne_nil := by
    unfold lowerChar
    split
    · simp
    · split <;> simp
  small := fun d => isSmall_of_mem_lowerChar
  blank := fun d hd hblank => eq_of_isBlank_of_mem_lowerChar hblank hd
  uncased := by
    intro d hd huncased
    obtain rfl := (mem_lowerChar_uncased huncased).1 hd
    simp only [isUncased, Bool.and_eq_true, decide_eq_true_eq] at huncased
    rw [lowerChar, if_pos (show d.val < 128 from huncased.1.2)] at hd ⊢
    rw [← List.mem_singleton.1 hd]

/-! ### Text -/

variable {before cs : List Char} {c d : Char}

/-- The lower case of a text is made of what stands for each of its characters. -/
theorem lowerAfter_cons (before : List Char) (c : Char) (rest : List Char) :
    ∃ chunk, IsLowered c chunk ∧
      lowerAfter before (c :: rest) = chunk ++ lowerAfter (c :: before) rest := by
  refine ⟨_, ?_, rfl⟩
  split
  · have hsigma {d : Char} (hsmall : isSmall d = true) (hblank : isBlank d = false)
        (huncased : isUncased d = false) : IsLowered c [d] := by
      refine ⟨List.cons_ne_nil _ _, ?_, ?_, ?_⟩
      · exact List.forall_mem_singleton.2 hsmall
      · exact List.forall_mem_singleton.2 fun h => absurd (hblank.symm.trans h) (by decide)
      · exact List.forall_mem_singleton.2 fun h => absurd (huncased.symm.trans h) (by decide)
    split
    · exact hsigma (by decide +kernel) (by decide) (by decide)
    · exact hsigma (by decide +kernel) (by decide) (by decide)
  · exact isLowered_lowerChar c

theorem isSmall_of_mem_lowerAfter (h : d ∈ lowerAfter before cs) : isSmall d = true := by
  induction cs generalizing before with
  | nil => cases h
  | cons c rest ih =>
    obtain ⟨chunk, hchunk, heq⟩ := lowerAfter_cons before c rest
    rw [heq, List.mem_append] at h
    obtain hfirst | hrest := h
    · exact hchunk.small d hfirst
    · exact ih hrest

theorem lowerAfter_of_isSmall (h : ∀ c ∈ cs, isSmall c = true) : lowerAfter before cs = cs := by
  induction cs generalizing before with
  | nil => rfl
  | cons c rest ih =>
    obtain ⟨hsigma, hone⟩ := Bool.and_eq_true_iff.1 (h c (.head _))
    rw [lowerAfter, if_neg (by simpa using hsigma), eq_of_beq hone,
      ih fun x hx => h x (.tail _ hx)]
    rfl

theorem lower_lower (text : String) : lower (lower text) = lower text := by
  rw [lower, lowerAfter_of_isSmall, String.ofList_toList]
  intro c hc
  rw [lower, String.toList_ofList] at hc
  exact isSmall_of_mem_lowerAfter hc

/-- A text in lower case begins with what stands for its first character. -/
theorem head?_lowerAfter (h : d ∈ (lowerAfter before cs).head?) :
    ∃ c ∈ cs.head?, ∃ chunk, IsLowered c chunk ∧ d ∈ chunk := by
  cases cs with
  | nil => cases h
  | cons c rest =>
    obtain ⟨chunk, hchunk, heq⟩ := lowerAfter_cons before c rest
    obtain ⟨first, others, rfl⟩ := List.exists_cons_of_ne_nil hchunk.ne_nil
    rw [heq] at h
    obtain rfl := Option.some.inj h
    exact ⟨c, rfl, _, hchunk, .head _⟩

/-- A text in lower case ends with what stands for its last character. -/
theorem getLast?_lowerAfter (h : d ∈ (lowerAfter before cs).getLast?) :
    ∃ c ∈ cs.getLast?, ∃ chunk, IsLowered c chunk ∧ d ∈ chunk := by
  obtain rfl | ⟨front, c, heq⟩ := List.eq_nil_or_concat cs
  · cases h
  · obtain rfl := heq.trans List.concat_eq_append
    obtain ⟨start, context, hlower⟩ := lowerAfter_concat before front c
    obtain ⟨chunk, hchunk, heq⟩ := lowerAfter_cons context c []
    have hend : lowerAfter before (front ++ [c]) = start ++ chunk := by
      rw [hlower, heq]
      exact congrArg (start ++ ·) (List.append_nil chunk)
    rw [hend, List.getLast?_append, List.getLast?_eq_some_getLast hchunk.ne_nil] at h
    obtain rfl := Option.some.inj h
    exact ⟨c, by simp, chunk, hchunk, List.getLast_mem _⟩

theorem trimChars_lowerAfter (cs : List Char) :
    trimChars (lowerAfter before (trimChars cs)) = lowerAfter before (trimChars cs) := by
  obtain ⟨hhead, hlast⟩ := stripChars_ends isBlank cs
  refine stripChars_eq_self_of_ends (fun d hd => ?_) fun d hd => ?_
  · obtain ⟨c, hc, chunk, hchunk, hmem⟩ := head?_lowerAfter hd
    refine Bool.eq_false_iff.2 fun hblank => ?_
    obtain rfl := hchunk.blank d hmem hblank
    rw [hhead d hc] at hblank
    cases hblank
  · obtain ⟨c, hc, chunk, hchunk, hmem⟩ := getLast?_lowerAfter hd
    refine Bool.eq_false_iff.2 fun hblank => ?_
    obtain rfl := hchunk.blank d hmem hblank
    rw [hlast d hc] at hblank
    cases hblank

end Text

/-- What was folded folds to itself. -/
theorem Finding.folded_folded (cs : List Char) : folded (folded cs).toList = folded cs := by
  have htrim : Text.trimChars (folded cs).toList = (folded cs).toList := by
    rw [folded, Text.lower, String.toList_ofList, String.toList_ofList]
    exact Text.trimChars_lowerAfter cs
  rw [folded, htrim, String.ofList_toList, folded, Text.lower_lower]

end HomePortal
