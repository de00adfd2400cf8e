import HomePortal.Value.Basic
import Mathlib.Data.List.Forall2
/-!
Data as a tree: induction over what a value holds, and data whose mappings hold no text key twice.
-/

namespace HomePortal

/-- In lists that are related item by item, each item has its fellow. -/
theorem exists_of_forall₂ {α β : Type} {R : α → β → Prop} {xs : List α} {ys : List β}
    (h : List.Forall₂ R xs ys) {x : α} (hx : x ∈ xs) : ∃ y ∈ ys, R x y := by
  induction h with
  | nil => cases hx
  | @cons first second _ _ hR _ ih =>
    obtain rfl | hx := List.mem_cons.1 hx
    · exact ⟨second, List.mem_cons_self, hR⟩
    · obtain ⟨y, hy, hxy⟩ := ih hx
      exact ⟨y, List.mem_cons_of_mem second hy, hxy⟩

namespace Value

/-- Induction through the items of lists, the members of pairs and the values under keys. -/
@[elab_as_elim]
theorem treeInduction {motive : Value → Prop} (scalar : ∀ s, motive (.scalar s))
    (list : ∀ items, (∀ v ∈ items, motive v) → motive (.list items))
    (pair : ∀ a b, motive a → motive b → motive (.pair a b))
    (set : ∀ members, motive (.set members))
    (mapping : ∀ fields, (∀ key v, (key, v) ∈ fields → motive v) → motive (.mapping fields))
    (v : Value) : motive v :=
  match v with
  | .scalar s => scalar s
  | .list items => list items fun v _ => treeInduction scalar list pair set mapping v
  | .pair a b => pair a b (treeInduction scalar list pair set mapping a)
      (treeInduction scalar list pair set mapping b)
  | .set members => set members
  | .mapping fields => mapping fields fun _ v _ => treeInduction scalar list pair set mapping v
termination_by sizeOf v
decreasing_by
  · rename_i hv
    have := List.sizeOf_lt_of_mem hv
    simp only [Value.list.sizeOf_spec]
    omega
  · simp only [Value.pair.sizeOf_spec]
    omega
  · simp only [Value.pair.sizeOf_spec]
    omega
  · rename_i hv
    have := List.sizeOf_lt_of_mem hv
    simp only [Prod.mk.sizeOf_spec] at this
    simp only [Value.mapping.sizeOf_spec]
    omega

/-- A value in a place is the one that stands there, or an item of the list that does. -/
theorem mem_asList {v w : Value} (h : v ∈ w.asList) :
    (v = w ∧ ∀ items, w ≠ list items) ∨ ∃ items, w = list items ∧ v ∈ items := by
  unfold asList at h
  split at h
  · exact absurd h List.not_mem_nil
  · exact .inr ⟨_, rfl, h⟩
  · rename_i hlist
    exact .inl ⟨List.mem_singleton.1 h, hlist⟩

end Value

namespace Entries

def names (fields : Entries) : List String :=
  fields.filterMap fun
    | (.text s, _) => some s
    | _ => none

theorem mem_names {fields : Entries} {name : String} {v : Value} (h : (.text name, v) ∈ fields) :
    name ∈ fields.names :=
  List.mem_filterMap.2 ⟨_, h, rfl⟩

theorem mem_of_get? {fields : Entries} {name : String} {v : Value} (h : fields.get? name = some v) :
    (.text name, v) ∈ fields := by
  obtain ⟨⟨key, w⟩, hfind, hw⟩ := Option.map_eq_some_iff.1 h
  have hkey := List.find?_some hfind
  have hmem := List.mem_of_find?_eq_some hfind
  simp only [beq_iff_eq] at hkey hw
  rw [hkey, hw] at hmem
  exact hmem

/-- Where no text key stands twice, an entry is what is found under its key. -/
theorem get?_of_mem {fields : Entries} {name : String} {v : Value} (hd : fields.names.Nodup)
    (h : (.text name, v) ∈ fields) : fields.get? name = some v := by
  induction fields with
  | nil => exact absurd h List.not_mem_nil
  | cons entry rest ih =>
    obtain ⟨key, w⟩ := entry
    by_cases hkey : key = .text name
    · subst hkey
      have hnot : name ∉ names rest := (List.nodup_cons.1 hd).1
      cases List.mem_cons.1 h with
      | inl heq =>
        simp only [Prod.mk.injEq, true_and] at heq
        simp [get?, heq]
      | inr hrest => exact absurd (mem_names hrest) hnot
    · have hrest : (Scalar.text name, v) ∈ rest := by
        cases List.mem_cons.1 h with
        | inl heq => exact absurd (congrArg Prod.fst heq).symm hkey
        | inr hrest => exact hrest
      have hd' : (names rest).Nodup := by
        cases key with
        | text s => exact (List.nodup_cons.1 hd).2
        | _ => exact hd
      have := ih hd' hrest
      simpa [get?, hkey] using this

end Entries

mutual

def Value.isDistinct : Value → Bool
  | .scalar _ | .set _ => true
  | .list items => Value.allDistinct items
  | .pair a b => a.isDistinct && b.isDistinct
  | .mapping fields => decide (Entries.names fields).Nodup && Value.entriesDistinct fields

def Value.allDistinct : List Value → Bool
  | [] => true
  | item :: rest => item.isDistinct && Value.allDistinct rest

def Value.entriesDistinct : List (Scalar × Value) → Bool
  | [] => true
  | (_, value) :: rest => value.isDistinct && Value.entriesDistinct rest

end

namespace Value

theorem isDistinct_of_mem {items : List Value} {v : Value} (h : allDistinct items = true)
    (hv : v ∈ items) : v.isDistinct = true := by
  induction items with
  | nil => exact absurd hv List.not_mem_nil
  | cons item rest ih =>
    obtain ⟨hitem, hrest⟩ := Bool.and_eq_true_iff.1 h
    obtain rfl | hv := List.mem_cons.1 hv
    · exact hitem
    · exact ih hrest hv

theorem allDistinct_of_forall {items : List Value} (h : ∀ v ∈ items, v.isDistinct = true) :
    allDistinct items = true := by
  induction items with
  | nil => rfl
  | cons item rest ih =>
    have hrest := ih fun v hv => h v (List.mem_cons_of_mem item hv)
    exact Bool.and_eq_true_iff.2 ⟨h item List.mem_cons_self, hrest⟩

theorem isDistinct_of_mem_entries {fields : Entries} {key : Scalar} {v : Value}
    (h : entriesDistinct fields = true) (hv : (key, v) ∈ fields) : v.isDistinct = true := by
  induction fields with
  | nil => exact absurd hv List.not_mem_nil
  | cons entry rest ih =>
    obtain ⟨hentry, hrest⟩ := Bool.and_eq_true_iff.1 h
    obtain rfl | hv := List.mem_cons.1 hv
    · exact hentry
    · exact ih hrest hv

theorem isDistinct_of_mem_asList {v w : Value} (h : w.isDistinct = true) (hv : v ∈ w.asList) :
    v.isDistinct = true := by
  obtain ⟨rfl, -⟩ | ⟨items, rfl, hmem⟩ := mem_asList hv
  · exact h
  · exact isDistinct_of_mem h hmem

theorem nodup_names {fields : Entries} (h : (mapping fields).isDistinct = true) :
    (Entries.names fields).Nodup :=
  of_decide_eq_true (Bool.and_eq_true_iff.1 h).1

end Value

end HomePortal
