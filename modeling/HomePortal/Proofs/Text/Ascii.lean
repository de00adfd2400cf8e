import HomePortal.Text.Dotted
import HomePortal.Text.Word
/-!
Characters of ASCII: what holds of all of them is settled by looking at each.
-/

namespace HomePortal.Text

/-- A decidable property of the first 128 characters is settled by looking at each. -/
theorem forall_ascii {P : Char → Prop} [DecidablePred P] (h : ∀ n : Fin 128, P (Char.ofNat n))
    {c : Char} (hc : c.toNat < 128) : P c := by
  have := h ⟨c.toNat, hc⟩
  rwa [Char.ofNat_toNat] at this

theorem toNat_lt_of_isAsciiWord {c : Char} (h : isAsciiWord c = true) : c.toNat < 128 := by
  cases Bool.or_eq_true_iff.1 h with
  | inl halnum =>
    cases Bool.or_eq_true_iff.1 halnum with
    | inl halpha =>
      cases Bool.or_eq_true_iff.1 halpha with
      | inl hupper =>
        have hle := (of_decide_eq_true hupper).2
        exact Nat.lt_of_le_of_lt hle (by decide)
      | inr hlower =>
        have hle := of_decide_eq_true (Bool.and_eq_true_iff.1 hlower).2
        exact Nat.lt_of_le_of_lt hle (by decide)
    | inr hdigit =>
      have hle := of_decide_eq_true (Bool.and_eq_true_iff.1 hdigit).2
      exact Nat.lt_of_le_of_lt hle (by decide)
  | inr hunderscore =>
    obtain rfl := eq_of_beq hunderscore
    decide

theorem isAsciiWord_of_isPlain {c : Char} (h : isPlain c = true) : isAsciiWord c = true := by
  simp only [isPlain, Bool.or_eq_true] at h
  obtain (hletter | hdigit) | hunderscore := h
  · have halpha : c.isAlpha = true := Bool.or_eq_true_iff.2 (.inr hletter)
    simp [isAsciiWord, Char.isAlphanum, halpha]
  · simp [isAsciiWord, Char.isAlphanum, hdigit]
  · simp [isAsciiWord, hunderscore]

/-- Small letters, digits and underscores are the word characters that lower case keeps. -/
theorem isPlain_iff {c : Char} : isPlain c = true ↔ isAsciiWord c = true ∧ c.toLower = c := by
  have hascii : c.toNat < 128 → (isPlain c = true ↔ isAsciiWord c = true ∧ c.toLower = c) :=
    forall_ascii (P := fun c => isPlain c = true ↔ isAsciiWord c = true ∧ c.toLower = c) (by decide)
  constructor
  · intro h
    exact (hascii (toNat_lt_of_isAsciiWord (isAsciiWord_of_isPlain h))).1 h
  · intro h
    exact (hascii (toNat_lt_of_isAsciiWord h.1)).2 h

theorem isPlain_toLower {c : Char} (h : isAsciiWord c = true) : isPlain c.toLower = true :=
  forall_ascii (P := fun c => isAsciiWord c = true → isPlain c.toLower = true) (by decide)
    (toNat_lt_of_isAsciiWord h) h

/-- The word characters of ASCII are among those of all scripts. -/
theorem isWord_of_isAsciiWord {c : Char} (h : isAsciiWord c = true) : isWord c = true := by
  have hlt : c.val < 128 := toNat_lt_of_isAsciiWord h
  rw [isWord, if_pos hlt, h]

end HomePortal.Text
