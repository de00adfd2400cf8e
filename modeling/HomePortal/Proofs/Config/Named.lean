import HomePortal.Proofs.Config.Visits
import HomePortal.Proofs.Draft.EntityId
import HomePortal.Proofs.Text.Lower
import HomePortal.Proofs.Text.Parts
/-!
The names that configs can refer to. Whatever a config refers to is a name that stands for itself as
a reference: it is in lower case, without blanks around it, commas and templates.
-/

namespace HomePortal

/-! ### Marks and commas in lower case -/

namespace Template

variable {a b : Char} {before cs : List Char}

/-- Two characters in a row do not begin in a text without the first of them. -/
theorem pair_infix_of_append (h : [a, b] <:+: before ++ cs) (ha : a ∉ before) :
    [a, b] <:+: cs := by
  induction before with
  | nil => exact h
  | cons x rest ih =>
    obtain ⟨hx, hrest⟩ := not_or.1 (mt List.mem_cons.2 ha)
    obtain ⟨rfl, -⟩ | htail := pair_infix_cons.1 h
    · exact absurd rfl hx
    · exact ih htail hrest

/-- Lower case puts no two characters without a case in a row. -/
theorem pair_infix_of_lowerAfter (ha : Text.isUncased a = true) (hb : Text.isUncased b = true)
    (h : [a, b] <:+: Text.lowerAfter before cs) : [a, b] <:+: cs := by
  induction cs generalizing before with
  | nil => simp [Text.lowerAfter] at h
  | cons c rest ih =>
    obtain ⟨chunk, hchunk, heq⟩ := Text.lowerAfter_cons before c rest
    rw [heq] at h
    refine pair_infix_cons.2 ?_
    by_cases hmem : a ∈ chunk
    · obtain rfl := hchunk.uncased a hmem ha
      obtain rfl := List.mem_singleton.1 hmem
      obtain ⟨-, hhead⟩ | htail := pair_infix_cons.1 h
      · obtain ⟨d, hd, other, hother, hbmem⟩ := Text.head?_lowerAfter hhead
        rw [hother.uncased b hbmem hb, List.mem_singleton] at hbmem
        exact .inl ⟨rfl, hbmem ▸ hd⟩
      · exact .inr (ih htail)
    · exact .inr (ih (pair_infix_of_append h hmem))

end Template

namespace Finding

variable {e s : String} {cs part : List Char}

/-- Folding a piece of a text makes no template. -/
theorem isTemplate_of_folded (hpiece : part <:+: s.toList)
    (h : Template.isTemplate (folded part) = true) : Template.isTemplate s = true := by
  have hpair {b : Char} (hb : Text.isUncased b = true)
      (h : Template.hasPair '\x7b' b (folded part).toList = true) :
      Template.hasPair '\x7b' b s.toList = true := by
    rw [Template.hasPair_iff, folded, Text.lower, String.toList_ofList, String.toList_ofList] at h
    have htrimmed := Template.pair_infix_of_lowerAfter (by decide) hb h
    exact Template.hasPair_iff.2 ((htrimmed.trans (Text.stripChars_infix_self _ part)).trans hpiece)
  simp only [Template.isTemplate, Bool.or_eq_true] at h ⊢
  exact h.imp (Or.imp (hpair (by decide)) (hpair (by decide))) (hpair (by decide))

theorem mem_of_mem_folded {c : Char} (hc : Text.isUncased c = true) (h : c ∈ (folded cs).toList) :
    c ∈ cs := by
  rw [folded, Text.lower, String.toList_ofList, String.toList_ofList,
    Text.mem_lowerAfter_uncased hc] at h
  exact (Text.stripChars_infix_self Text.isBlank cs).subset h

/-! ### Names that stand for themselves -/

/-- A part of a reference that names anything stands for itself. -/
theorem namesItself_of_entity_mem (h : entity e ∈ ofReference s) : NamesItself e := by
  obtain ⟨hplain, part, hpart, rfl, hall, hempty, hnone⟩ := entity_mem_ofReference.1 h
  obtain ⟨first, rest, heq, -, hparts⟩ := Text.parts_splitOn ',' s.toList
  rw [heq] at hpart
  obtain ⟨hpiece, hcomma⟩ := hparts part hpart
  have hfolded : Template.isTemplate (folded part) = false := by
    refine Bool.eq_false_iff.2 fun ht => ?_
    have htemplate := isTemplate_of_folded hpiece ht
    rw [hplain] at htemplate
    cases htemplate
  have hsingle : (folded part).toList.splitOn ',' = [(folded part).toList] :=
    List.splitOn_eq_singleton fun hmem => hcomma (mem_of_mem_folded (by decide) hmem)
  simp [NamesItself, ofReference, hfolded, hsingle, ofPart, folded_folded, hall, hempty, hnone]

/-- A dotted name in lower case stands for itself. -/
theorem namesItself_of_isName (h : Text.IsName e.toList) : NamesItself e := by
  have hdot : '.' ∈ e.toList := by
    obtain ⟨first, second, -, -, -, -, heq⟩ := h
    rw [heq]
    exact List.mem_append_right _ (.head _)
  refine IsEntityId.namesItself ⟨hdot, fun c hc => ?_⟩
  obtain hplain | rfl := h.isPlain_of_mem hc
  · obtain ⟨hword, hlower⟩ := Text.isPlain_iff.1 hplain
    exact ⟨.inl (by simp [Field.isIdChar, hword]), hlower⟩
  · exact ⟨.inr rfl, by decide⟩

theorem NamesItself.lower_eq (h : NamesItself e) : Text.lower e = e := by
  have hmem : entity e ∈ ofReference e := by
    rw [show ofReference e = [entity e] from h]
    exact List.mem_singleton_self _
  obtain ⟨-, part, -, heq, -⟩ := entity_mem_ofReference.1 hmem
  rw [heq, folded, Text.lower_lower]

end Finding

/-- Whatever a config refers to stands for itself. -/
theorem Config.namesItself_of_mem {c : Config} {part : Part} {e : String}
    (h : e ∈ c.references.ofPart part) : Finding.NamesItself e := by
  obtain ⟨s, -, hplain, hs⟩ | ⟨role, key, fields, -, -, hnames⟩ := mem_ofPart_iff.1 h
  · exact Finding.namesItself_of_entity_mem (Finding.entity_mem_ofReference.2 ⟨hplain, hs⟩)
  · obtain ⟨w, s, -, -, -, hname⟩ := hnames
    exact Finding.namesItself_of_isName hname

end HomePortal
