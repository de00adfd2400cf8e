import HomePortal.Proofs.Config.Template
import HomePortal.Proofs.Draft.WellFormed
/-!
The expressions that drafts are compiled to: they read the trigger and the clock only.
-/

namespace HomePortal.Item

open HomePortal.Field

variable {attr : String}

theorem mem_attribute (h : isAttributeName attr.toList = true) {c : Char} (hc : c ∈ attr.toList) :
    Text.isPlain c = true ∨ c = '\n' := by
  obtain ⟨word, tail, hattr, hword, htail⟩ := isAttributeName_iff.1 h
  rw [hattr] at hc
  cases List.mem_append.1 hc with
  | inl hc => exact .inl (hword.plain c hc)
  | inr hc =>
    obtain rfl | rfl := htail
    · exact absurd hc List.not_mem_nil
    · exact .inr (List.mem_singleton.1 hc)

theorem not_mark_of_isPlain {c : Char} (h : Text.isPlain c = true) :
    (!Template.marks.contains c) = true := by
  have hascii := Text.toNat_lt_of_isAsciiWord (Text.isAsciiWord_of_isPlain h)
  exact Text.forall_ascii (P := fun c => Text.isPlain c = true →
    (!Template.marks.contains c) = true) (by decide) hascii h

theorem all_attribute (h : isAttributeName attr.toList = true) :
    (attr.toList.all fun c => !Template.marks.contains c) = true := by
  refine List.all_eq_true.2 fun c hc => ?_
  cases mem_attribute h hc with
  | inl hplain => exact not_mark_of_isPlain hplain
  | inr hbreak =>
    subst hbreak
    decide

theorem isTemplate_attribute (h : isAttributeName attr.toList = true) :
    Template.isTemplate attr = false := by
  refine Template.isTemplate_of_not_mem fun hbrace => ?_
  exact absurd (List.all_eq_true.1 (all_attribute h) _ hbrace) (by decide)

/-- After a dot, an attribute is no free name. -/
theorem freeNames_attribute (h : isAttributeName attr.toList = true) (rest : List Char) :
    Template.freeNames false (attr.toList ++ ' ' :: rest) = Template.freeNames true rest := by
  obtain ⟨word, tail, hattr, hword, htail⟩ := isAttributeName_iff.1 h
  have hisWord : ∀ c ∈ word, Text.isWord c = true := fun c hc =>
    Text.isWord_of_isAsciiWord (Text.isAsciiWord_of_isPlain (hword.plain c hc))
  have hblank : Text.isWord ' ' = false := by decide
  have hbreak : Text.isWord '\n' = false := by decide
  rw [hattr, List.append_assoc, Template.freeNames_word hisWord]
  obtain rfl | rfl := htail
  · exact Template.freeNames_gap hblank false
  · exact (Template.freeNames_gap hbreak false).trans (Template.freeNames_gap hblank true)

def changeBody (attr : String) (rising : Bool) : String :=
  "trigger.to_state.attributes." ++ attr ++ " | float(0) " ++ (if rising then ">" else "<") ++
    " trigger.from_state.attributes." ++ attr ++ " | float(0)"

def comparison (rising : Bool) : String :=
  "| float(0) " ++ (if rising then ">" else "<") ++ " trigger.from_state.attributes"

/-- The expression of a change reads the trigger only, whatever attribute it names. -/
theorem isContextOnly_changeBody (h : isAttributeName attr.toList = true) (rising : Bool) :
    Template.isContextOnly (expression (changeBody attr rising)) = true := by
  -- The attributes stand after dots, where no free name begins; the rest is fixed text.
  have hparts : ' ' :: ((changeBody attr rising).toList ++ [' ']) =
      " trigger.to_state.attributes".toList ++ '.' ::
      (attr.toList ++ ' ' :: ((comparison rising).toList ++ '.' ::
        (attr.toList ++ ' ' :: "| float(0) ".toList))) := by
    unfold changeBody comparison
    simp [String.toList_append]
  have hdot : Text.isWord '.' = false := by decide
  have hnames : Template.freeNames true (" trigger.to_state.attributes".toList ++ '.' ::
      (attr.toList ++ ' ' :: ((comparison rising).toList ++ '.' ::
        (attr.toList ++ ' ' :: "| float(0) ".toList)))) =
      Template.freeNames true " trigger.to_state.attributes".toList ++
        (Template.freeNames true (comparison rising).toList ++
          Template.freeNames true "| float(0) ".toList) := by
    rw [Template.freeNames_append hdot, bne_self_eq_false, freeNames_attribute h,
      Template.freeNames_append hdot, bne_self_eq_false, freeNames_attribute h]
  have hcontext : ((Template.freeNames true " trigger.to_state.attributes".toList ++
        (Template.freeNames true (comparison rising).toList ++
          Template.freeNames true "| float(0) ".toList)).all fun name =>
      Template.contextNames.contains (String.ofList name)) = true := by
    cases rising <;> decide
  have hmarks : ((changeBody attr rising).toList.all fun c => !Template.marks.contains c) =
      true := by
    unfold changeBody
    simp only [String.toList_append, List.all_append, all_attribute h, Bool.and_true]
    cases rising <;> decide
  rw [Template.isContextOnly_expression hmarks, hparts, hnames, hcontext]

theorem mem_toString_int {n : Int} {c : Char} (h : c ∈ (toString n).toList) :
    c.isDigit = true ∨ c = '-' := by
  have hnat {m : Nat} (hm : c ∈ (Nat.repr m).toList) : c.isDigit = true := by
    rw [Nat.toList_repr] at hm
    exact Nat.isDigit_of_mem_toDigits (by decide) (by decide) hm
  cases n with
  | ofNat m => exact .inl (hnat h)
  | negSucc m =>
    have hsign : c ∈ ("-" ++ Nat.repr (m + 1)).toList := h
    rw [String.toList_append] at hsign
    cases List.mem_append.1 hsign with
    | inl hminus => exact .inr (by simpa using hminus)
    | inr hdigit => exact .inl (hnat hdigit)

/-- The expression of a day of the month reads the clock only, whatever number it names. -/
theorem isContextOnly_onDay {day : String} (h : ∀ c ∈ day.toList, c.isDigit = true ∨ c = '-') :
    Template.isContextOnly (expression ("now().day == " ++ day)) = true := by
  have hparts : ' ' :: (("now().day == " ++ day).toList ++ [' ']) =
      " now().day ==".toList ++ ' ' :: (day.toList ++ [' ']) := by
    simp [String.toList_append]
  have hmarks : (day.toList.all fun c => !Template.marks.contains c) = true := by
    refine List.all_eq_true.2 fun c hc => ?_
    cases h c hc with
    | inl hdigit => exact not_mark_of_isPlain (by simp [Text.isPlain, hdigit])
    | inr hminus =>
      subst hminus
      decide
  have hstart : ∀ c ∈ day.toList ++ [' '], Template.isNameStart c = false := by
    intro c hc
    cases List.mem_append.1 hc with
    | inl hc =>
      cases h c hc with
      | inl hdigit => rw [Template.isNameStart, hdigit, Bool.not_true, Bool.and_false]
      | inr hminus =>
        subst hminus
        decide
    | inr hc =>
      rw [List.mem_singleton.1 hc]
      decide
  have hblank : Text.isWord ' ' = false := by decide
  have hbody : (("now().day == " ++ day).toList.all fun c => !Template.marks.contains c) =
      true := by
    simp only [String.toList_append, List.all_append, hmarks, Bool.and_true]
    decide
  rw [Template.isContextOnly_expression hbody, hparts, Template.freeNames_append hblank,
    Template.freeNames_eq_nil hstart, List.append_nil]
  decide

end HomePortal.Item
