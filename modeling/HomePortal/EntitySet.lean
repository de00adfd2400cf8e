/-!
Finite sets of entity ids, kept in increasing order, so that equal sets are equal.
-/

namespace HomePortal

def placeInOrder (s : String) : List String → List String
  | [] => [s]
  | t :: rest =>
    if s < t then s :: t :: rest
    else if s = t then t :: rest
    else t :: placeInOrder s rest

theorem mem_placeInOrder {s x : String} {xs : List String} :
    x ∈ placeInOrder s xs ↔ x = s ∨ x ∈ xs := by
  induction xs with
  | nil => simp [placeInOrder]
  | cons t rest ih =>
    unfold placeInOrder
    split
    · simp
    · split
      · rename_i h
        subst h
        simp
      · simp only [List.mem_cons, ih]
        grind

theorem pairwise_placeInOrder {s : String} {xs : List String} (h : xs.Pairwise (· < ·)) :
    (placeInOrder s xs).Pairwise (· < ·) := by
  induction xs with
  | nil => simp [placeInOrder]
  | cons t rest ih =>
    obtain ⟨hfirst, hrest⟩ := List.pairwise_cons.1 h
    unfold placeInOrder
    split
    · rename_i hlt
      refine List.pairwise_cons.2 ⟨fun x hx => ?_, h⟩
      rcases List.mem_cons.1 hx with rfl | hx
      · exact hlt
      · exact String.lt_trans hlt (hfirst x hx)
    · split
      · exact h
      · rename_i hnlt hne
        refine List.pairwise_cons.2 ⟨fun x hx => ?_, ih hrest⟩
        rcases mem_placeInOrder.1 hx with rfl | hx
        · rcases String.le_total t x with hle | hle
          · exact Classical.byContradiction fun hge =>
              hne (String.le_antisymm (String.not_lt.1 hge) hle)
          · exact absurd (String.le_antisymm hle (String.not_lt.1 hnlt)) hne
        · exact hfirst x hx

structure EntitySet where
  toList : List String
  ordered : toList.Pairwise (· < ·)
  deriving DecidableEq

namespace EntitySet

def empty : EntitySet :=
  ⟨[], .nil⟩

def insert (s : String) (xs : EntitySet) : EntitySet :=
  ⟨placeInOrder s xs.toList, pairwise_placeInOrder xs.ordered⟩

def ofList (xs : List String) : EntitySet :=
  xs.foldr insert empty

def union (xs ys : EntitySet) : EntitySet :=
  xs.toList.foldr insert ys

instance : Membership String EntitySet where
  mem xs s := s ∈ xs.toList

instance (s : String) (xs : EntitySet) : Decidable (s ∈ xs) :=
  inferInstanceAs (Decidable (s ∈ xs.toList))

def isEmpty (xs : EntitySet) : Bool :=
  xs.toList.isEmpty

def within (xs ys : EntitySet) : Bool :=
  xs.toList.all fun s => decide (s ∈ ys)

@[simp] theorem not_mem_empty {s : String} : s ∉ empty :=
  List.not_mem_nil

@[simp] theorem mem_insert {s t : String} {xs : EntitySet} :
    s ∈ xs.insert t ↔ s = t ∨ s ∈ xs :=
  mem_placeInOrder

@[simp] theorem mem_ofList {s : String} {xs : List String} : s ∈ ofList xs ↔ s ∈ xs := by
  induction xs with
  | nil => simp [ofList]
  | cons x rest ih =>
    simp only [ofList, List.foldr_cons, mem_insert, List.mem_cons] at ih ⊢
    rw [ih]

@[simp] theorem mem_union {s : String} {xs ys : EntitySet} :
    s ∈ xs.union ys ↔ s ∈ xs ∨ s ∈ ys := by
  have h (l : List String) : s ∈ l.foldr insert ys ↔ s ∈ l ∨ s ∈ ys := by
    induction l with
    | nil => simp
    | cons x rest ih => simp only [List.foldr_cons, mem_insert, ih, List.mem_cons, or_assoc]
  exact h xs.toList

theorem within_iff {xs ys : EntitySet} : xs.within ys = true ↔ ∀ s ∈ xs, s ∈ ys := by
  simp only [within, List.all_eq_true, decide_eq_true_eq]
  exact Iff.rfl

end EntitySet

end HomePortal
