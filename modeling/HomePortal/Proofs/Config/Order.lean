import HomePortal.Config.Item
import HomePortal.Proofs.Config.Union
import Mathlib.Logic.Relation
/-!
Neither joining configs nor the order in which they are written changes what is found in them.
Joined configs refer to what each of them refers to, and items and entries may stand in any order,
at any depth.
-/

namespace HomePortal

inductive Value.Reordered : Value → Value → Prop
  | items {xs ys : List Value} (h : xs.Perm ys) : Reordered (list xs) (.list ys)
  | entries {xs ys : Entries} (h : xs.Perm ys) (hd : xs.names.Nodup) :
      Reordered (mapping xs) (.mapping ys)
  | item {v w : Value} (before after : List Value) (h : Reordered v w) :
      Reordered (list (before ++ v :: after)) (.list (before ++ w :: after))
  | value {v w : Value} (before after : Entries) (key : Scalar) (h : Reordered v w) :
      Reordered (mapping (before ++ (key, v) :: after)) (.mapping (before ++ (key, w) :: after))
  | first {a b : Value} (c : Value) (h : Reordered a b) : Reordered (pair a c) (.pair b c)
  | second {a b : Value} (c : Value) (h : Reordered a b) : Reordered (pair c a) (.pair c b)

namespace Value.Reordered

variable {v w : Value}

/-- One change of order tells a walk nothing. -/
theorem alike (h : v.Reordered w) : v.Alike w := by
  induction h with
  | items h =>
    exact .list (fun x hx => ⟨x, h.mem_iff.1 hx, .refl x⟩) fun y hy => ⟨y, h.mem_iff.2 hy, .refl y⟩
  | @entries xs ys h hd =>
    have hd' : Entries.names ys |>.Nodup := (h.filterMap _).nodup_iff.1 hd
    exact .mapping (.of_matches hd hd'
      (fun key v hmem => ⟨key, v, h.mem_iff.1 hmem, fun _ _ => Iff.rfl, .refl v⟩)
      fun key v hmem => ⟨key, v, h.mem_iff.2 hmem, fun _ _ => Iff.rfl, .refl v⟩)
  | @item v w before after _ ih =>
    have hside {v w : Value} (hvw : v.Alike w) :
        ∀ x ∈ before ++ v :: after, ∃ y ∈ before ++ w :: after, x.Alike y := by
      intro x hx
      simp only [List.mem_append, List.mem_cons] at hx
      obtain hx | rfl | hx := hx
      · exact ⟨x, by simp [hx], .refl x⟩
      · exact ⟨w, by simp, hvw⟩
      · exact ⟨x, by simp [hx], .refl x⟩
    refine .list (hside ih) fun y hy => ?_
    obtain ⟨x, hx, hyx⟩ := hside ih.symm y hy
    exact ⟨x, hx, hyx.symm⟩
  | @value v w before after key _ ih =>
    have hsame (entries : Entries) : List.Forall₂
        (fun a b => a.1.KnownAlike b.1 ∧ a.2.Alike b.2) entries entries :=
      List.forall₂_same.2 fun entry _ => ⟨fun _ _ => Iff.rfl, .refl entry.2⟩
    have hentry : Scalar.KnownAlike key key ∧ v.Alike w := ⟨fun _ _ => Iff.rfl, ih⟩
    exact .mapping (.of_forall₂ (List.rel_append (hsame before) (.cons hentry (hsame after))))
  | first | second => exact .pair _ _ _ _

theorem alike_of_reorderings (h : Relation.ReflTransGen Reordered v w) : v.Alike w := by
  induction h with
  | refl => exact .refl v
  | tail _ hstep ih => exact ih.trans hstep.alike

end Value.Reordered

namespace Config

def append (c₁ c₂ : Config) : Config :=
  { c₁ with
    triggers := c₁.triggers ++ c₂.triggers
    conditions := c₁.conditions ++ c₂.conditions
    actions := c₁.actions ++ c₂.actions }

theorem items_append (c₁ c₂ : Config) (part : Part) :
    (c₁.append c₂).items part = c₁.items part ++ c₂.items part := by
  cases part <;> rfl

/-- The items of every part of a config may be put in another order, at any depth, to become those
of the other. -/
def Reorders (c c' : Config) : Prop :=
  ∀ part, Relation.ReflTransGen Value.Reordered (.list (c.items part)) (.list (c'.items part))

theorem references_append (c₁ c₂ : Config) :
    (c₁.append c₂).references = c₁.references.union c₂.references := by
  refine references_eq_union fun part f => ?_
  simp only [items_append, Value.mem_walkItems, List.mem_append, or_and_right, exists_or]

/-- Joined configs refer to what each of them refers to, and in whatever order a config is written,
at any depth, it refers to the same. -/
theorem references_joined_reordered (c₁ c₂ : Config) :
    (c₁.append c₂).references = c₁.references.union c₂.references ∧
      (c₁.Reorders c₂ → c₁.references = c₂.references) := by
  refine ⟨references_append c₁ c₂, fun h => ?_⟩
  exact references_eq_of_alike fun part => Value.Reordered.alike_of_reorderings (h part)

def hall (steps : List Value) : Config :=
  ⟨"hall", "Hall", none, "single", [], [], steps⟩

/-- A wait before a light is turned on, and the light turned on before the wait, with the service
named last. -/
theorem references_hall_reordered :
    let pause := Value.record [("delay", .int 5)]
    let before := hall [pause, .record [("action", .text "light.turn_on"),
      ("entity_id", .text "light.hall")]]
    let after := hall [.record [("entity_id", .text "light.hall"),
      ("action", .text "light.turn_on")], pause]
    before.Reorders after ∧ before.references = after.references ∧
      (before.append after).references = before.references.union after.references ∧
        "light.hall" ∈ before.references.actions := by
  intro pause before after
  have hreorders : before.Reorders after := by
    intro part
    cases part with
    | triggers | conditions => exact .refl
    | actions =>
      refine .tail (.single (.items (.swap _ _ _))) (.item [] [pause] (.entries (.swap _ _ _) ?_))
      decide
  exact ⟨hreorders, (references_joined_reordered before after).2 hreorders,
    (references_joined_reordered before after).1, by decide +kernel⟩

end Config

end HomePortal
