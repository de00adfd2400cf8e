import HomePortal.Proofs.Value.Tree
import HomePortal.Value.Equality
/-!
What equal values share: texts are equal to themselves only, and each item and each entry of one
list or mapping has an equal one in the other.
-/

namespace HomePortal

/-- A value of the same meaning, or the value itself. -/
def Value.Matches (v w : Value) : Prop :=
  v = w ∨ v.same w = true

namespace Scalar

theorem eq_of_same_text {s : String} {a : Scalar} (h : Scalar.same (.text s) a = true) :
    a = .text s := by
  cases a with
  | text t =>
    obtain rfl : s = t := by simpa [Scalar.same] using h
    rfl
  | _ => simp [Scalar.same, quantity?] at h

theorem eq_of_text_same {s : String} {a : Scalar} (h : a.same (.text s) = true) :
    a = .text s := by
  cases a with
  | text t =>
    obtain rfl : t = s := by simpa [Scalar.same] using h
    rfl
  | _ => simp [Scalar.same, quantity?] at h

theorem eq_of_same_null {a : Scalar} (h : a.same .null = true) : a = .null := by
  cases a with
  | null => rfl
  | _ => simp [Scalar.same, quantity?] at h

end Scalar

theorem Entries.mem_of_lookup? {fields : Entries} {key : Scalar} {v : Value}
    (h : fields.lookup? key = some v) : ∃ key', (key', v) ∈ fields ∧ key'.same key = true := by
  obtain ⟨⟨key', w⟩, hfind, rfl⟩ := Option.map_eq_some_iff.1 h
  have hsame := List.find?_some hfind
  exact ⟨key', List.mem_of_find?_eq_some hfind, hsame⟩

namespace Value

theorem forall₂_of_sameItems {xs ys : List Value} (h : sameItems xs ys = true) :
    List.Forall₂ (fun x y => x.same y = true) xs ys := by
  induction xs generalizing ys with
  | nil =>
    cases ys with
    | nil => exact .nil
    | cons => cases h
  | cons first rest ih =>
    cases ys with
    | nil => cases h
    | cons second others =>
      obtain ⟨hfirst, hrest⟩ := Bool.and_eq_true_iff.1 h
      exact .cons hfirst (ih hrest)

theorem mem_of_sameEntries {xs : List (Scalar × Value)} {ys : Entries}
    (h : sameEntries xs ys = true) {key : Scalar} {x : Value} (hx : (key, x) ∈ xs) :
    ∃ key' y, (key', y) ∈ ys ∧ key'.same key = true ∧ x.same y = true := by
  induction xs with
  | nil => exact absurd hx List.not_mem_nil
  | cons first rest ih =>
    obtain ⟨k, v⟩ := first
    obtain ⟨hfirst, hrest⟩ := Bool.and_eq_true_iff.1 h
    obtain heq | hx := List.mem_cons.1 hx
    · obtain ⟨rfl, rfl⟩ := Prod.mk.inj heq
      cases hlookup : Entries.lookup? ys key with
      | none =>
        rw [hlookup] at hfirst
        cases hfirst
      | some y =>
        rw [hlookup] at hfirst
        obtain ⟨key', hmem, hkey⟩ := Entries.mem_of_lookup? hlookup
        exact ⟨key', y, hmem, hkey, hfirst⟩
    · exact ih hrest hx

variable {v w : Value}

theorem Matches.eq_of_text {s : String} (h : (text s).Matches w) : w = text s := by
  obtain rfl | h := h
  · rfl
  · cases w with
    | scalar a => exact congrArg scalar (Scalar.eq_of_same_text h)
    | _ => cases h

theorem Matches.list {xs : List Value} (h : (list xs).Matches w) :
    ∃ ys, w = .list ys ∧ ∀ x ∈ xs, ∃ y ∈ ys, x.Matches y := by
  obtain rfl | h := h
  · exact ⟨xs, rfl, fun x hx => ⟨x, hx, .inl rfl⟩⟩
  · cases w with
    | list ys =>
      refine ⟨ys, rfl, fun x hx => ?_⟩
      obtain ⟨y, hy, hsame⟩ := exists_of_forall₂ (forall₂_of_sameItems h) hx
      exact ⟨y, hy, .inr hsame⟩
    | _ => cases h

/-- An entry under a text key has an equal one under that key. -/
theorem Matches.mapping {fields : Entries} (h : (mapping fields).Matches w) :
    ∃ others : Entries, w = .mapping others ∧ ∀ key x, (key, x) ∈ fields → ∃ key' y,
      (key', y) ∈ others ∧ (∀ name, key = .text name → key' = .text name) ∧ x.Matches y := by
  obtain rfl | h := h
  · exact ⟨fields, rfl, fun key x hx => ⟨key, x, hx, fun _ heq => heq, .inl rfl⟩⟩
  · cases w with
    | mapping others =>
      refine ⟨others, rfl, fun key x hx => ?_⟩
      obtain ⟨key', y, hmem, hkey, hsame⟩ := mem_of_sameEntries (Bool.and_eq_true_iff.1 h).2 hx
      refine ⟨key', y, hmem, fun name heq => ?_, .inr hsame⟩
      subst heq
      exact Scalar.eq_of_text_same hkey
    | _ => cases h

theorem Matches.asList (h : v.Matches w) {x : Value} (hx : x ∈ v.asList) :
    ∃ y ∈ w.asList, x.Matches y := by
  obtain ⟨rfl, hsingle⟩ | ⟨items, rfl, hmem⟩ := mem_asList hx
  · refine ⟨w, ?_, h⟩
    obtain rfl | h := h
    · exact hx
    · cases w with
      | scalar b =>
        cases b with
        | null =>
          cases x with
          | scalar a =>
            obtain rfl := Scalar.eq_of_same_null h
            exact hx
          | _ => cases h
        | _ => exact List.mem_singleton_self _
      | list ys =>
        cases x with
        | list xs => exact absurd rfl (hsingle xs)
        | _ => cases h
      | _ => exact List.mem_singleton_self _
  · obtain ⟨ys, rfl, hys⟩ := h.list
    exact hys x hmem

end Value

end HomePortal
