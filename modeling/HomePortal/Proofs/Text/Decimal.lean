import HomePortal.Proofs.Text.Digit
import HomePortal.Value.Text
import Mathlib.Data.List.Basic
import Mathlib.Data.List.Induction
import Mathlib.Data.Nat.Digits.Defs
/-!
Decimal numbers in text. A run of digits of any script writes one number; a number that is written
out in ASCII with leading zeros is the one that is read, and no other digits of that length are.
-/

namespace HomePortal.Text

variable {cs ds : List Char} {c : Char} {width n : Nat}

def decimal? (digits : List Char) : Option Nat :=
  if !digits.isEmpty && digits.all isDigit then some (Field.digitsValue digits) else none

theorem decimal?_of_isDigit (hne : cs ≠ []) (h : ∀ c ∈ cs, isDigit c = true) :
    decimal? cs = some (Field.digitsValue cs) := by
  have hempty : cs.isEmpty = false := List.isEmpty_eq_false_iff.2 hne
  rw [decimal?, hempty, List.all_eq_true.2 h]
  rfl

theorem digitsValue_concat (cs : List Char) (c : Char) :
    Field.digitsValue (cs ++ [c]) = 10 * Field.digitsValue cs + (digitValue? c).getD 0 := by
  simp [Field.digitsValue, List.foldl_append]

/-! ### Digits of ASCII -/

theorem isDigit_iff_of_ascii (h : c.toNat < 128) : isDigit c = true ↔ c.isDigit = true :=
  forall_ascii (P := fun c => isDigit c = true ↔ c.isDigit = true) (by decide +kernel) h

theorem toNat_lt_of_isDigit (h : c.isDigit = true) : c.toNat < 128 :=
  toNat_lt_of_isAsciiWord (by simp [isAsciiWord, Char.isAlphanum, h])

theorem isDigit_of_plain (h : c.isDigit = true) : isDigit c = true :=
  (isDigit_iff_of_ascii (toNat_lt_of_isDigit h)).2 h

theorem digitValue?_of_plain (h : c.isDigit = true) :
    digitValue? c = some (c.toNat - '0'.toNat) ∧ '0'.toNat ≤ c.toNat :=
  forall_ascii (P := fun c => c.isDigit = true →
    digitValue? c = some (c.toNat - '0'.toNat) ∧ '0'.toNat ≤ c.toNat) (by decide +kernel)
    (toNat_lt_of_isDigit h) h

theorem digitsValue_of_plain (h : ∀ c ∈ cs, c.isDigit = true) :
    Field.digitsValue cs = Nat.ofDigitChars 10 cs 0 := by
  refine List.foldl_ext _ _ _ fun n c hc => ?_
  rw [(digitValue?_of_plain (h c hc)).1, Option.getD_some]

/-- Digits of ASCII are told by their number and by the number that they write. -/
theorem eq_of_digitsValue (hcs : ∀ c ∈ cs, c.isDigit = true) (hds : ∀ c ∈ ds, c.isDigit = true)
    (hlength : cs.length = ds.length) (h : Field.digitsValue cs = Field.digitsValue ds) :
    cs = ds := by
  induction cs using List.reverseRecOn generalizing ds with
  | nil => exact (List.length_eq_zero_iff.1 hlength.symm).symm
  | append_singleton cs c ih =>
    obtain rfl | ⟨ds, d, rfl⟩ := List.eq_nil_or_concat' ds
    · simp at hlength
    · have hc : c.isDigit = true := hcs c (by simp)
      have hd : d.isDigit = true := hds d (by simp)
      obtain ⟨hvalue, hle⟩ := digitValue?_of_plain hc
      obtain ⟨hvalue', hle'⟩ := digitValue?_of_plain hd
      have hlt := digitValue?_lt hvalue
      have hlt' := digitValue?_lt hvalue'
      rw [digitsValue_concat, digitsValue_concat, hvalue, hvalue', Option.getD_some,
        Option.getD_some] at h
      -- The last digit is the remainder by ten, and the digits before it write the quotient.
      have hfront : cs = ds :=
        ih (fun x hx => hcs x (by simp [hx])) (fun x hx => hds x (by simp [hx]))
          (by simpa using hlength) (by omega)
      have hlast : c = d := Char.toNat_inj.1 (by omega)
      rw [hfront, hlast]

/-- A number is read from its digits. -/
theorem decimal?_toDigits (n : Nat) : decimal? (Nat.toDigits 10 n) = some n := by
  have hplain : ∀ c ∈ Nat.toDigits 10 n, c.isDigit = true :=
    fun c hc => Nat.isDigit_of_mem_toDigits (by decide) (by decide) hc
  rw [decimal?_of_isDigit Nat.toDigits_ne_nil fun c hc => isDigit_of_plain (hplain c hc),
    digitsValue_of_plain hplain, Nat.ofDigitChars_toDigits (by decide) (by decide)]

/-! ### Numbers with leading zeros -/

theorem toList_paddedDigits : (paddedDigits 10 width n).toList =
    List.replicate (width - (Nat.toDigits 10 n).length) '0' ++ Nat.toDigits 10 n :=
  String.toList_ofList

theorem isDigit_of_mem_paddedDigits (h : c ∈ (paddedDigits 10 width n).toList) :
    c.isDigit = true := by
  rw [toList_paddedDigits] at h
  cases List.mem_append.1 h with
  | inl hzero =>
    rw [List.eq_of_mem_replicate hzero]
    decide
  | inr hdigit => exact Nat.isDigit_of_mem_toDigits (by decide) (by decide) hdigit

theorem length_paddedDigits (hwidth : 0 < width) (h : n < 10 ^ width) :
    (paddedDigits 10 width n).toList.length = width := by
  have hle := Nat.toDigits_length 10 n width hwidth h
  rw [toList_paddedDigits, List.length_append, List.length_replicate]
  omega

theorem digitsValue_paddedDigits (width n : Nat) :
    Field.digitsValue (paddedDigits 10 width n).toList = n := by
  have hzeros (k : Nat) :
      Nat.ofDigitChars 10 (List.replicate k '0' ++ Nat.toDigits 10 n) 0 = n := by
    induction k with
    | zero => exact Nat.ofDigitChars_toDigits (by decide) (by decide)
    | succ k ih => exact ih
  rw [digitsValue_of_plain fun c hc => isDigit_of_mem_paddedDigits hc, toList_paddedDigits, hzeros]

end HomePortal.Text
