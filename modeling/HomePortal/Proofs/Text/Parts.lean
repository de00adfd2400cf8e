/-!
Texts cut at a separator.
-/

namespace HomePortal.Text

/-- The parts of a text lie in it and hold no separator. -/
theorem parts_splitOn (c : Char) (cs : List Char) : ∃ first rest, cs.splitOn c = first :: rest ∧
    first <+: cs ∧ ∀ part ∈ first :: rest, part <:+: cs ∧ c ∉ part := by
  induction cs with
  | nil => exact ⟨[], [], rfl, List.nil_prefix, by simp⟩
  | cons x tail ih =>
    obtain ⟨first, rest, heq, hprefix, hparts⟩ := ih
    have htail : ∀ part ∈ first :: rest, part <:+: x :: tail ∧ c ∉ part := fun part hpart =>
      ⟨List.infix_cons (hparts part hpart).1, (hparts part hpart).2⟩
    rw [List.splitOn_cons_eq_if_modifyHead, heq]
    split
    · refine ⟨[], first :: rest, rfl, List.nil_prefix, List.forall_mem_cons.2 ⟨?_, htail⟩⟩
      exact ⟨List.nil_infix, List.not_mem_nil⟩
    · rename_i hne
      refine ⟨x :: first, rest, rfl, List.cons_prefix_cons.2 ⟨rfl, hprefix⟩,
        List.forall_mem_cons.2 ⟨⟨?_, ?_⟩, fun part hpart => htail part (.tail _ hpart)⟩⟩
      · exact (List.cons_prefix_cons.2 ⟨rfl, hprefix⟩).isInfix
      · refine fun hmem => (List.mem_cons.1 hmem).elim (fun heq => hne ?_) ?_
        · rw [heq, beq_self_eq_true]
        · exact (hparts first (.head _)).2

theorem not_mem_of_mem_splitOn {c : Char} {cs part : List Char} (h : part ∈ cs.splitOn c) :
    c ∉ part := by
  obtain ⟨first, rest, heq, -, hparts⟩ := parts_splitOn c cs
  rw [heq] at h
  exact (hparts part h).2

end HomePortal.Text
