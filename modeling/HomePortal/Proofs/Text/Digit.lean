import HomePortal.Decimal.Reading
import HomePortal.Draft.Field
import HomePortal.Proofs.Text.Folded
/-!
Digits of every script: they are no blanks, and a run of them writes one integer.
-/

namespace HomePortal

namespace Text

/-- A decidable property of digits is settled by looking at the ten digits of each script. -/
theorem forall_digit {P : Char → Prop} (h : ∀ start ∈ zeros, ∀ k : Fin 10, P (Char.ofNat (start + k)))
    {c : Char} (hc : isDigit c = true) : P c := by
  rw [isDigit, digitValue?, Option.isSome_map, List.find?_isSome] at hc
  obtain ⟨start, hstart, hrange⟩ := hc
  simp only [Bool.and_eq_true, decide_eq_true_eq] at hrange
  have hself := h start hstart ⟨c.toNat - start, by omega⟩
  have hsum : start + (c.toNat - start) = c.toNat := by omega
  simpa only [hsum, Char.ofNat_toNat] using hself

theorem isBlank_of_isDigit {c : Char} (h : isDigit c = true) : isBlank c = false :=
  forall_digit (P := fun c => isBlank c = false) (by decide +kernel) h

theorem ne_colon_of_isDigit {c : Char} (h : isDigit c = true) : c ≠ ':' := by
  intro heq
  subst heq
  exact absurd h (by decide)

theorem digitValue?_lt {c : Char} {n : Nat} (h : digitValue? c = some n) : n < 10 := by
  obtain ⟨start, hstart, rfl⟩ := Option.map_eq_some_iff.1 h
  have hrange := List.find?_some hstart
  simp only [Bool.and_eq_true, decide_eq_true_eq] at hrange
  omega

/-- In ASCII a digit has the same value. -/
theorem plainDigit_of_isDigit {c : Char} (h : isDigit c = true) :
    (Double.plainDigit c).isDigit = true ∧
      (Double.plainDigit c).toNat - '0'.toNat = (digitValue? c).getD 0 := by
  obtain ⟨n, hn⟩ := Option.isSome_iff_exists.1 h
  have hten : ∀ k : Fin 10, (Char.ofNat ('0'.toNat + k)).isDigit = true ∧
      (Char.ofNat ('0'.toNat + k)).toNat - '0'.toNat = k := by decide
  rw [Double.plainDigit, hn]
  exact hten ⟨n, digitValue?_lt hn⟩

end Text

open Double

variable {cs : List Char}

theorem natOfDigits_plainDigit (h : ∀ c ∈ cs, Text.isDigit c = true) :
    natOfDigits (cs.map plainDigit) = Field.digitsValue cs := by
  have hfold (start : Nat) : (cs.map plainDigit).foldl (fun n c => 10 * n + (c.toNat - '0'.toNat))
      start = cs.foldl (fun n c => 10 * n + (Text.digitValue? c).getD 0) start := by
    induction cs generalizing start with
    | nil => rfl
    | cons c rest ih =>
      rw [List.map_cons, List.foldl_cons, List.foldl_cons,
        (Text.plainDigit_of_isDigit (h c List.mem_cons_self)).2]
      exact ih (fun x hx => h x (List.mem_cons_of_mem c hx)) _
  exact hfold 0

/-- So many digits write a number below this power of ten. -/
theorem natOfDigits_lt {size : Nat} (h : ∀ c ∈ cs, c.isDigit = true) (hlength : cs.length ≤ size) :
    natOfDigits cs < Nat.pow 10 size := by
  have hfold (start : Nat) :
      cs.foldl (fun n c => 10 * n + (c.toNat - '0'.toNat)) start <
        (start + 1) * 10 ^ cs.length := by
    clear hlength
    induction cs generalizing start with
    | nil => simp
    | cons c rest ih =>
      have hdigit : c.toNat - '0'.toNat < 10 := by
        have hc := h c List.mem_cons_self
        simp only [Char.isDigit, Bool.and_eq_true, decide_eq_true_eq] at hc
        have hle : c.toNat ≤ '9'.toNat := hc.2
        change c.toNat ≤ 57 at hle
        change c.toNat - 48 < 10
        omega
      rw [List.foldl_cons, List.length_cons, Nat.pow_succ, Nat.mul_comm _ 10, ← Nat.mul_assoc]
      refine Nat.lt_of_lt_of_le (ih (fun x hx => h x (List.mem_cons_of_mem c hx)) _) ?_
      exact Nat.mul_le_mul_right _ (by omega)
  have hzero := hfold 0
  rw [Nat.zero_add, Nat.one_mul] at hzero
  exact Nat.lt_of_lt_of_le hzero (Nat.pow_le_pow_right (by decide) hlength)

theorem numberText_of_isDigit (h : ∀ c ∈ cs, Text.isDigit c = true) :
    numberText cs = cs.map plainDigit := by
  have hblank : ∀ c ∈ cs, Text.isNumberBlank c = false := by
    intro c hc
    rw [Text.isNumberBlank, Text.isBlank_of_isDigit (h c hc), Bool.false_and]
  rw [numberText, Text.stripChars_eq_self hblank]

theorem takeSign_of_isDigit (h : ∀ c ∈ cs, c.isDigit = true) : takeSign cs = (false, cs) := by
  unfold takeSign
  split
  · exact absurd (h '-' List.mem_cons_self) (by decide)
  · exact absurd (h '+' List.mem_cons_self) (by decide)
  · rfl

theorem dropUnderscores?_of_isDigit {before : Option Char} (h : ∀ c ∈ cs, c.isDigit = true) :
    dropUnderscores? before cs = some cs := by
  induction cs generalizing before with
  | nil => rfl
  | cons c rest ih =>
    have hne : c ≠ '_' := by
      intro heq
      subst heq
      exact absurd (h '_' List.mem_cons_self) (by decide)
    have hrest : dropUnderscores? (some c) rest = some rest :=
      ih fun x hx => h x (List.mem_cons_of_mem c hx)
    rw [dropUnderscores?, hrest, Option.map_some]
    exact hne

/-- A run of digits of any script writes the integer that it is read as. -/
theorem intOfText?_of_isDigit (hne : cs ≠ []) (hlength : cs.length ≤ maxDigits)
    (h : ∀ c ∈ cs, Text.isDigit c = true) :
    intOfText? (String.ofList cs) = some (Field.digitsValue cs) := by
  have hplain : ∀ c ∈ cs.map plainDigit, c.isDigit = true := by
    intro c hc
    obtain ⟨x, hx, rfl⟩ := List.mem_map.1 hc
    exact (Text.plainDigit_of_isDigit (h x hx)).1
  have hlong : ¬ maxDigits < cs.length := Nat.not_lt.2 hlength
  have hall : (cs.map plainDigit).all Char.isDigit = true := List.all_eq_true.2 hplain
  rw [intOfText?, String.toList_ofList, numberText_of_isDigit h, takeSign_of_isDigit hplain]
  dsimp only
  rw [dropUnderscores?_of_isDigit hplain]
  simp only [List.isEmpty_map, List.isEmpty_eq_false_iff.2 hne, List.length_map, hlong, hall,
    natOfDigits_plainDigit h]
  rfl

end HomePortal
