import HomePortal.Config.Item
import HomePortal.Proofs.Config.Union
import HomePortal.Scope
/-!
Keys of mappings. The walk looks for some keys and takes all others alike: under other names for
those it finds the same. So a template in a key is not seen.
-/

namespace HomePortal

/-! ### Other names for keys -/

mutual

def Value.renameKeys (ρ : Scalar → Scalar) : Value → Value
  | .scalar s => .scalar s
  | .list items => .list (Value.renameItems ρ items)
  | .pair a b => .pair (a.renameKeys ρ) (b.renameKeys ρ)
  | .set members => .set members
  | .mapping fields => .mapping (Value.renameEntries ρ fields)

def Value.renameItems (ρ : Scalar → Scalar) : List Value → List Value
  | [] => []
  | item :: rest => item.renameKeys ρ :: Value.renameItems ρ rest

def Value.renameEntries (ρ : Scalar → Scalar) : List (Scalar × Value) → Entries
  | [] => []
  | (key, value) :: rest => (ρ key, value.renameKeys ρ) :: Value.renameEntries ρ rest

end

namespace Value

variable {ρ : Scalar → Scalar}

theorem renameItems_eq_map (items : List Value) :
    renameItems ρ items = items.map (renameKeys ρ) := by
  induction items with
  | nil => rfl
  | cons item rest ih => rw [renameItems, ih, List.map_cons]

theorem renameEntries_eq_map (fields : Entries) :
    renameEntries ρ fields = fields.map fun entry => (ρ entry.1, entry.2.renameKeys ρ) := by
  induction fields with
  | nil => rfl
  | cons entry rest ih =>
    obtain ⟨key, value⟩ := entry
    rw [renameEntries, ih, List.map_cons]

theorem asList_renameKeys (v : Value) : (v.renameKeys ρ).asList = v.asList.map (renameKeys ρ) := by
  cases v with
  | scalar s => cases s <;> rfl
  | list items => exact renameItems_eq_map items
  | _ => rfl

end Value

/-- No walk tells data under other names for keys from what it was, if it does not look for them. -/
theorem Value.alike_renameKeys {ρ : Scalar → Scalar} (h : ∀ key, (ρ key).KnownAlike key)
    (v : Value) : (v.renameKeys ρ).Alike v := by
  induction v using Value.treeInduction with
  | scalar s => exact .refl _
  | list items ih =>
    rw [renameKeys, renameItems_eq_map]
    refine .list (fun x hx => ?_) fun v hv => ⟨_, List.mem_map_of_mem hv, ih v hv⟩
    obtain ⟨v, hv, rfl⟩ := List.mem_map.1 hx
    exact ⟨v, hv, ih v hv⟩
  | pair a b => exact .pair _ _ _ _
  | set members => exact .refl _
  | mapping fields ih =>
    rw [renameKeys, renameEntries_eq_map]
    refine .mapping (.of_forall₂ ?_)
    rw [List.forall₂_map_left_iff, List.forall₂_same]
    exact fun entry hmem => ⟨h entry.1, ih entry.1 entry.2 hmem⟩

/-! ### Templates in keys -/

def Scalar.isTemplate : Scalar → Bool
  | .text s => Template.isTemplate s
  | _ => false

def Scalar.plain (key : Scalar) : Scalar :=
  if key.isTemplate then .text "" else key

theorem Scalar.plain_knownAlike (key : Scalar) : key.plain.KnownAlike key := by
  intro name hname
  have hplain : Template.isTemplate name = false :=
    (by decide : ∀ name ∈ Finding.knownKeys, Template.isTemplate name = false) name hname
  have hempty : name ≠ "" := by
    rintro rfl
    exact absurd hname (by decide)
  unfold Scalar.plain
  split
  · rename_i htemplate
    constructor
    · intro heq
      exact absurd (Scalar.text.inj heq).symm hempty
    · intro heq
      rw [heq, Scalar.isTemplate, hplain] at htemplate
      cases htemplate
  · rfl

namespace Config

variable {c : Config} {ρ : Scalar → Scalar}

def renameKeys (c : Config) (ρ : Scalar → Scalar) : Config :=
  { c with
    triggers := Value.renameItems ρ c.triggers
    conditions := Value.renameItems ρ c.conditions
    actions := Value.renameItems ρ c.actions }

/-- A mapping, at any depth of the sections, has a template for a key. -/
def HasTemplateKey (c : Config) : Prop :=
  ∃ part pos, ∃ fields : Entries, c.Occurs part pos (.mapping fields) ∧
    ∃ key w, (key, w) ∈ fields ∧ key.isTemplate = true

theorem items_renameKeys (c : Config) (part : Part) :
    (c.renameKeys ρ).items part = (c.items part).map (Value.renameKeys ρ) := by
  cases part <;> exact Value.renameItems_eq_map _

/-- What a config refers to, and whether that is all, does not hang on keys that are not looked
for. -/
theorem references_renameKeys (h : ∀ key, (ρ key).KnownAlike key) (c : Config) :
    (c.renameKeys ρ).references = c.references := by
  refine references_eq_of_alike fun part => ?_
  rw [items_renameKeys, ← Value.renameItems_eq_map]
  exact Value.alike_renameKeys h (.list (c.items part))

end Config

namespace Value

variable {ρ : Scalar → Scalar} {v : Value}

theorem renameKeys_eq_list {items : List Value} (h : v.renameKeys ρ = .list items) :
    ∃ others : List Value, items = others.map (renameKeys ρ) := by
  cases v with
  | list others => exact ⟨others, (list.inj h).symm.trans (renameItems_eq_map others)⟩
  | _ => cases h

theorem renameKeys_eq_mapping {fields : Entries} (h : v.renameKeys ρ = .mapping fields) :
    ∃ others : Entries, fields = others.map fun entry => (ρ entry.1, entry.2.renameKeys ρ) := by
  cases v with
  | mapping others => exact ⟨others, (mapping.inj h).symm.trans (renameEntries_eq_map others)⟩
  | _ => cases h

theorem renameKeys_eq_pair {a b : Value} (h : v.renameKeys ρ = .pair a b) :
    ∃ x y : Value, a = x.renameKeys ρ ∧ b = y.renameKeys ρ := by
  cases v with
  | pair x y => exact ⟨x, y, (pair.inj h).1.symm, (pair.inj h).2.symm⟩
  | _ => cases h

end Value

/-- What stands in renamed items was renamed with them. -/
theorem Position.Occurs.exists_renamed {ρ : Scalar → Scalar} {start pos : Position}
    {items : List Value} {v : Value} (h : Occurs start (items.map (Value.renameKeys ρ)) pos v) :
    ∃ w : Value, v = w.renameKeys ρ := by
  induction h with
  | top hv =>
    obtain ⟨w, -, rfl⟩ := List.mem_map.1 hv
    exact ⟨w, rfl⟩
  | entry _ hkey hv ih =>
    obtain ⟨u, hu⟩ := ih
    obtain ⟨others, rfl⟩ := Value.renameKeys_eq_mapping hu.symm
    obtain ⟨entry, -, heq⟩ := List.mem_map.1 hkey
    rw [← (Prod.mk.inj heq).2, Value.asList_renameKeys] at hv
    obtain ⟨w, -, rfl⟩ := List.mem_map.1 hv
    exact ⟨w, rfl⟩
  | item _ hv ih =>
    obtain ⟨u, hu⟩ := ih
    obtain ⟨others, rfl⟩ := Value.renameKeys_eq_list hu.symm
    obtain ⟨w, -, rfl⟩ := List.mem_map.1 hv
    exact ⟨w, rfl⟩
  | first _ ih =>
    obtain ⟨u, hu⟩ := ih
    obtain ⟨x, -, hx, -⟩ := Value.renameKeys_eq_pair hu.symm
    exact ⟨x, hx⟩
  | second _ ih =>
    obtain ⟨u, hu⟩ := ih
    obtain ⟨-, y, -, hy⟩ := Value.renameKeys_eq_pair hu.symm
    exact ⟨y, hy⟩
  | @member _ _ s _ _ _ => exact ⟨.scalar s, rfl⟩

namespace Config

theorem isTemplate_plain (key : Scalar) : key.plain.isTemplate = false := by
  unfold Scalar.plain
  split
  · decide
  · rename_i hkey
    exact Bool.not_eq_true _ ▸ hkey

theorem not_hasTemplateKey_plain (c : Config) : ¬ (c.renameKeys .plain).HasTemplateKey := by
  intro h
  obtain ⟨part, pos, fields, hocc, key, w, hmem, hkey⟩ := h
  rw [Occurs, items_renameKeys] at hocc
  obtain ⟨u, hu⟩ := hocc.exists_renamed
  obtain ⟨others, rfl⟩ := Value.renameKeys_eq_mapping hu.symm
  obtain ⟨entry, -, heq⟩ := List.mem_map.1 hmem
  rw [← (Prod.mk.inj heq).1, isTemplate_plain] at hkey
  cases hkey

/-- Templates in keys are not seen: a config refers to the same, and is marked alike, when each of
them gives way to a key without one. So it is marked exactly if something else in it is. -/
theorem templateKeys_unseen (c : Config) : ¬ (c.renameKeys .plain).HasTemplateKey ∧
    (c.renameKeys .plain).references = c.references :=
  ⟨not_hasTemplateKey_plain c, references_renameKeys Scalar.plain_knownAlike c⟩

def masked : Config :=
  ⟨"evening", "Evening", none, "single", [], [],
    [.record [("variables", .record [("name", .text "entity_id")])],
      .record [("action", .text "light.turn_on"),
        ("target", .record [("\x7b\x7b name \x7d\x7d", .text "light.bedroom")])]]⟩

theorem hasTemplateKey_masked : masked.HasTemplateKey := by
  have hstep : masked.Occurs .actions .step (.record [("action", .text "light.turn_on"),
      ("target", .record [("\x7b\x7b name \x7d\x7d", .text "light.bedroom")])]) :=
    .top (.tail _ (.head _))
  exact ⟨.actions, .data, _, hstep.entry (.tail _ (.head _)) (List.mem_singleton_self _), _, _,
    List.mem_singleton_self _, by decide⟩

/-- A template in a key leaves a config unmarked, and everybody may edit it. -/
theorem not_seen_templateKey :
    (¬ ∀ c : Config, c.HasTemplateKey → c.references.hasTemplates = true) ∧
      ∀ scope : Scope, scope.canEdit masked.references = true := by
  constructor
  · intro hall
    have hmarked := hall masked hasTemplateKey_masked
    revert hmarked
    decide +kernel
  · intro scope
    rfl

end Config

end HomePortal
