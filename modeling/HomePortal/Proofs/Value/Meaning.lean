import HomePortal.Proofs.Decimal.Rounding
import HomePortal.Proofs.Value.Equality
/-!
The meaning of a scalar: a place on the number line, a point in time, or the scalar itself. Scalars
are equal if they share it, and it tells whether they count as false. So in equal dictionaries, each
entry of either has an equal one in the other.
-/

namespace HomePortal

/-- A power of two, with or without a sign, is a multiple of nothing but zero. -/
theorem Double.toRat_eq_zero_iff {x : Double} : x.toRat = 0 ↔ x.significand = 0 := by
  obtain ⟨hden, hvalue⟩ := scaled_spec x.significand x.scale
  have hmagnitude : mkRat (scaled x.significand x.scale).1 (scaled x.significand x.scale).2 = 0 ↔
      x.significand = 0 := by
    rw [Rat.mkRat_eq_div, Int.cast_natCast, hvalue, mul_eq_zero, Nat.cast_eq_zero]
    have hpower : (2 : ℚ) ^ x.scale ≠ 0 := by positivity
    simp [hpower]
  unfold toRat
  dsimp only
  split
  · rw [neg_eq_zero, hmagnitude]
  · exact hmagnitude

namespace Scalar

inductive Meaning where
  | number (q : Quantity)
  | instant (i : Int)
  | itself (s : Scalar)

def Meaning.isTruthy : Meaning → Bool
  | number q => q != .finite 0
  | instant _ => true
  | itself s => s.isTruthy

def meaning? : Scalar → Option Meaning
  | null => some (.itself .null)
  | text s => some (.itself (.text s))
  | bytes data => some (.itself (.bytes data))
  | moment m =>
    match m.instant? with
    | some i => some (.instant i)
    | none => some (.itself (.moment m))
  | s => s.quantity?.map .number

variable {a b c : Scalar} {m : Meaning}

/-- Scalars are equal if they mean the same, and something. -/
theorem same_iff : a.same b = true ↔ a.meaning? = b.meaning? ∧ a.meaning? ≠ none := by
  cases a with
  | bool | int | float =>
    cases b with
    | bool | int | float =>
      simp only [same, meaning?]
      split
      · rename_i hp hq
        simp [hp, hq]
      · rename_i hnone
        simp only [Option.map_eq_none_iff, ne_eq, Bool.false_eq_true, false_iff, not_and, not_not]
        intro heq
        refine Classical.byContradiction fun hne => ?_
        obtain ⟨p, hp⟩ := Option.ne_none_iff_exists'.1 hne
        rw [hp, Option.map_some] at heq
        obtain ⟨q, hq, -⟩ := Option.map_eq_some_iff.1 heq.symm
        exact hnone p q hp hq
    | moment n => cases hn : n.instant? <;> simp [same, meaning?, quantity?, hn]
    | _ => simp [same, meaning?, quantity?]
  | moment m =>
    cases b with
    | moment n =>
      have hinstant (h : m.instant? ≠ n.instant?) : m ≠ n := fun heq => h (heq ▸ rfl)
      cases hm : m.instant? <;> cases hn : n.instant? <;>
        simp_all [same, Moment.same, meaning?]
    | _ => cases hm : m.instant? <;> simp [same, meaning?, quantity?, hm]
  | null | text | bytes =>
    cases b with
    | moment n => cases hn : n.instant? <;> simp [same, meaning?, quantity?, hn]
    | _ => simp [same, meaning?, quantity?]

/-- Scalars that equal one scalar are equal. -/
theorem same_of_same (h : a.same b = true) (h' : a.same c = true) : b.same c = true := by
  obtain ⟨hb, hne⟩ := same_iff.1 h
  obtain ⟨hc, -⟩ := same_iff.1 h'
  rw [same_iff, ← hb, ← hc]
  exact ⟨rfl, hne⟩

theorem isTruthy_of_meaning? (h : a.meaning? = some m) : a.isTruthy = m.isTruthy := by
  cases a with
  | null | text | bytes =>
    obtain rfl := Option.some.inj h
    rfl
  | moment t =>
    simp only [meaning?] at h
    split at h <;> obtain rfl := Option.some.inj h <;> rfl
  | bool b =>
    obtain rfl := Option.some.inj h
    cases b <;> rfl
  | int n =>
    obtain rfl := Option.some.inj h
    rw [Bool.eq_iff_iff]
    simp [isTruthy, Meaning.isTruthy]
  | float x =>
    obtain ⟨q, hq, rfl⟩ := Option.map_eq_some_iff.1 h
    by_cases hfinite : x.isFinite = true
    · simp only [quantity?, hfinite, if_true, Option.some.injEq] at hq
      subst hq
      rw [Bool.eq_iff_iff]
      simp [isTruthy, Meaning.isTruthy, hfinite, Double.toRat_eq_zero_iff]
    · simp only [quantity?, hfinite, if_false, Bool.false_eq_true] at hq
      split at hq
      · obtain rfl := Option.some.inj hq
        simp [isTruthy, Meaning.isTruthy, hfinite]
      · obtain ⟨-, hq⟩ := Option.ite_none_left_eq_some.1 hq
        obtain rfl := Option.some.inj hq
        simp [isTruthy, Meaning.isTruthy, hfinite]

theorem isTruthy_of_same (h : a.same b = true) : a.isTruthy = b.isTruthy := by
  obtain ⟨hmeaning, hne⟩ := same_iff.1 h
  obtain ⟨m, hm⟩ := Option.ne_none_iff_exists'.1 hne
  rw [isTruthy_of_meaning? hm, isTruthy_of_meaning? (hmeaning.symm.trans hm)]

end Scalar

/-- If no two values share a match, and there are no more to be matched, all are matches. -/
theorem exists_of_matches {α β : Type} {R : α → β → Prop} {xs : List α} {ys : List β}
    (hpairs : xs.Pairwise fun a b => ∀ y, R a y → ¬ R b y) (hmatch : ∀ x ∈ xs, ∃ y ∈ ys, R x y)
    (hlength : ys.length ≤ xs.length) : ∀ y ∈ ys, ∃ x ∈ xs, R x y := by
  induction xs generalizing ys with
  | nil =>
    obtain rfl := List.eq_nil_of_length_eq_zero (Nat.le_zero.1 hlength)
    exact nofun
  | cons first rest ih =>
    obtain ⟨hfirst, hrest⟩ := List.pairwise_cons.1 hpairs
    obtain ⟨z, hz, hR⟩ := hmatch first List.mem_cons_self
    obtain ⟨before, after, rfl⟩ := List.append_of_mem hz
    simp only [List.length_append, List.length_cons] at hlength
    -- What the first value matches is matched by no other, and so the others match what is left.
    have hothers : ∀ y ∈ before ++ after, ∃ x ∈ rest, R x y := by
      refine ih hrest (fun x hx => ?_) (by rw [List.length_append]; omega)
      obtain ⟨y, hy, hxy⟩ := hmatch x (List.mem_cons_of_mem first hx)
      obtain rfl | hy : y = z ∨ y ∈ before ++ after := by simpa [or_left_comm] using hy
      · exact absurd hxy (hfirst x hx y hR)
      · exact ⟨y, hy, hxy⟩
    intro y hy
    obtain rfl | hy : y = z ∨ y ∈ before ++ after := by simpa [or_left_comm] using hy
    · exact ⟨first, List.mem_cons_self, hR⟩
    · obtain ⟨x, hx, hxy⟩ := hothers y hy
      exact ⟨x, List.mem_cons_of_mem first hx, hxy⟩

namespace Entries

def KeysDiffer (fields : Entries) : Prop :=
  fields.Pairwise fun a b => a.1.same b.1 = false

variable {fields others : Entries}

theorem KeysDiffer.nodup_names (h : fields.KeysDiffer) : fields.names.Nodup := by
  refine List.Pairwise.filterMap _ (fun a b hab s hs t ht heq => ?_) h
  obtain ⟨key, v⟩ := a
  obtain ⟨key', w⟩ := b
  cases key <;> cases hs
  cases key' <;> cases ht
  simp [heq, Scalar.same] at hab

/-- In a mapping that equals one with different keys, no entry goes without an equal one there. -/
theorem KeysDiffer.exists_same (h : fields.KeysDiffer)
    (hsame : (Value.mapping fields).same (.mapping others) = true) {key : Scalar} {w : Value}
    (hmem : (key, w) ∈ others) :
    ∃ key' v, (key', v) ∈ fields ∧ key.same key' = true ∧ v.same w = true := by
  obtain ⟨hlength, hentries⟩ := Bool.and_eq_true_iff.1 hsame
  have hpairs : fields.Pairwise fun a b => ∀ y : Scalar × Value,
      y.1.same a.1 = true ∧ a.2.same y.2 = true →
        ¬ (y.1.same b.1 = true ∧ b.2.same y.2 = true) := by
    refine List.Pairwise.imp (fun {a b} hab y ha hb => ?_) h
    rw [Scalar.same_of_same ha.1 hb.1] at hab
    cases hab
  have hmatch : ∀ x ∈ fields, ∃ y ∈ others, y.1.same x.1 = true ∧ x.2.same y.2 = true := by
    intro x hx
    obtain ⟨key', w, hmem, hsame⟩ := Value.mem_of_sameEntries hentries hx
    exact ⟨(key', w), hmem, hsame⟩
  have hle : others.length ≤ fields.length := (beq_iff_eq.1 hlength).ge
  obtain ⟨x, hx, hsame⟩ := exists_of_matches hpairs hmatch hle _ hmem
  exact ⟨x.1, x.2, hx, hsame⟩

end Entries

namespace Value

inductive KeysDiffer : Value → Prop
  | scalar (s : Scalar) : KeysDiffer (scalar s)
  | list {items : List Value} (h : ∀ v ∈ items, KeysDiffer v) : KeysDiffer (list items)
  | pair {a b : Value} (ha : KeysDiffer a) (hb : KeysDiffer b) : KeysDiffer (pair a b)
  | set (members : List Scalar) : KeysDiffer (set members)
  | mapping {fields : Entries} (h : fields.KeysDiffer)
      (hvalues : ∀ key v, (key, v) ∈ fields → KeysDiffer v) : KeysDiffer (mapping fields)

namespace KeysDiffer

variable {v w : Value} {s : Scalar} {items : List Value} {fields : Entries}

@[simp] theorem scalar_iff : (Value.scalar s).KeysDiffer ↔ True :=
  iff_true_intro (.scalar s)

@[simp] theorem list_iff : (Value.list items).KeysDiffer ↔ ∀ v ∈ items, v.KeysDiffer := by
  constructor
  · intro h
    cases h with
    | list hitems => exact hitems
  · exact .list

@[simp] theorem mapping_iff : (Value.mapping fields).KeysDiffer ↔
    fields.KeysDiffer ∧ ∀ key v, (key, v) ∈ fields → v.KeysDiffer := by
  constructor
  · intro h
    cases h with
    | mapping hkeys hvalues => exact ⟨hkeys, hvalues⟩
  · exact fun h => .mapping h.1 h.2

theorem of_mem_asList (h : w.KeysDiffer) (hv : v ∈ w.asList) : v.KeysDiffer := by
  obtain ⟨rfl, -⟩ | ⟨items, rfl, hmem⟩ := mem_asList hv
  · exact h
  · exact list_iff.1 h v hmem

end KeysDiffer

end Value

end HomePortal
