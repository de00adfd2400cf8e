import HomePortal.Config.Item
import HomePortal.Proofs.Checked
import HomePortal.Proofs.Config.Mention
import HomePortal.Proofs.Value.Equality
import HomePortal.Scope
/-!
A stored payload as a whole. What stands under the keys of its three sections, the older keys
included, is accounted for where all is seen. What stands under other keys is not looked at.
-/

namespace HomePortal

namespace Position

variable {start pos : Position} {items others : List Value} {v : Value}

/-- A value among some items is matched by one among others that match them. -/
theorem Occurs.matches (h : Occurs start items pos v) (hpos : pos ≠ hidden)
    (hitems : ∀ x ∈ items, ∃ y ∈ others, x.Matches y) :
    ∃ pos' w, Occurs start others pos' w ∧ pos' ≠ hidden ∧ v.Matches w := by
  -- The positions may differ on the two ways, but only tuples and sets lead to hidden ones.
  induction h with
  | top hv =>
    obtain ⟨w, hw, hmatch⟩ := hitems _ hv
    exact ⟨start, w, .top hw, hpos, hmatch⟩
  | entry _ hkey hv ih =>
    obtain ⟨pos', w, hw, hpos', hmatch⟩ := ih fun hh => hpos (under_eq_hidden.2 hh)
    obtain ⟨fields, rfl, hfields⟩ := hmatch.mapping
    obtain ⟨key', y, hmem, -, hxy⟩ := hfields _ _ hkey
    obtain ⟨z, hz, hvz⟩ := hxy.asList hv
    exact ⟨_, z, .entry hw hmem hz, fun hh => hpos' (under_eq_hidden.1 hh), hvz⟩
  | item _ hv ih =>
    obtain ⟨pos', w, hw, hpos', hmatch⟩ := ih fun hh => hpos (inside_eq_hidden.2 hh)
    obtain ⟨ys, rfl, hys⟩ := hmatch.list
    obtain ⟨z, hz, hvz⟩ := hys _ hv
    exact ⟨_, z, .item hw hz, fun hh => hpos' (inside_eq_hidden.1 hh), hvz⟩
  | first | second | member => exact absurd rfl hpos

end Position

theorem Entries.RefersTo.matches {fields others : Entries} {e : String} (h : fields.RefersTo e)
    (hmatch : (Value.mapping fields).Matches (.mapping others)) : others.RefersTo e := by
  obtain ⟨name, hname, w, hmem, part, ⟨s, hs, hpart⟩, he⟩ := h
  obtain ⟨_, heq, hfields⟩ := hmatch.mapping
  obtain rfl := Value.mapping.inj heq
  obtain ⟨key', y, hmem', hkey, hwy⟩ := hfields _ w hmem
  obtain rfl := hkey name rfl
  obtain ⟨z, hz, hsz⟩ := hwy.asList hs
  obtain rfl := hsz.eq_of_text
  exact ⟨name, hname, y, hmem', part, ⟨s, hz, hpart⟩, he⟩

namespace References

theorem mem_all_of_ofPart {r : References} {part : Config.Part} {e : String}
    (h : e ∈ r.ofPart part) : e ∈ r.all := by
  cases part <;> simp_all [ofPart, all]

def Accounts (r : References) : Value → Prop
  | .text s => Template.isTemplate s = true → Template.isContextOnly s = true
  | .mapping fields => ∀ e, Entries.RefersTo fields e → e ∈ r.all
  | _ => True

def AccountsPlainly (r : References) : Value → Prop
  | .text s => Template.isTemplate s = false
  | .mapping fields => ∀ e, Entries.RefersTo fields e → e ∈ r.all
  | _ => True

end References

namespace Config

def Part.keys : Part → List String
  | triggers => ["triggers", "trigger"]
  | conditions => ["conditions", "condition"]
  | actions => ["actions", "action"]

def labelKeys : List String :=
  ["id", "alias", "description", "mode"]

def IsOtherKey (key : Scalar) : Prop :=
  ∀ name, key = .text name → name ∉ labelKeys ∧ ∀ part : Part, name ∉ part.keys

/-- All that a payload holds, at any depth, is accounted for. -/
structure AccountsFor (payload : Entries) (r : References) : Prop where
  sections : ∀ (part : Part) name w, name ∈ part.keys → (.text name, w) ∈ payload →
    ∀ pos v, Position.Occurs part.position w.asList pos v → pos ≠ .hidden → r.Accounts v
  others : ∀ key w, (key, w) ∈ payload → IsOtherKey key →
    ∀ pos v, Position.Occurs .data w.asList pos v → r.AccountsPlainly v

variable {payload other : Entries} {part : Part} {name : String} {w : Value}

def HasLabels (fields : Entries) : Prop :=
  ∀ name ∈ ["id", "alias"], ∀ n, fields.get? name = some (.int n) → (Scalar.int n).hasText = true

theorem checkLabel_eq_valid {v : Value} :
    checkLabel v = .valid () ↔ ∀ n, v = .int n → (Scalar.int n).hasText = true := by
  unfold checkLabel
  split
  · rename_i n
    by_cases h : (Scalar.int n).hasText = true
    · simp [h]
    · simp [h, Checked.refuse]
  · rename_i hint
    exact iff_of_true rfl fun n heq => absurd heq (hint n)

theorem optional_checkLabel {fields : Entries} {name : String} :
    fields.optional [name] () checkLabel = .valid () ↔
      ∀ n, fields.get? name = some (.int n) → (Scalar.int n).hasText = true := by
  unfold Entries.optional Entries.first?
  cases hget : fields.get? name with
  | none => simp [hget]
  | some v => simp [hget, Checked.under_eq_valid, checkLabel_eq_valid]

/-- What a mapping is read as, if it is read. -/
theorem read_eq_valid {fields : Entries} {c : Config} :
    read (.mapping fields) = .valid c ↔ HasLabels fields ∧ ofEntries fields = c := by
  change _ <$> _ <*> _ = _ ↔ _
  rw [Checked.seq_eq_valid]
  simp only [Checked.map_eq_valid]
  constructor
  · rintro ⟨_, _, ⟨_, hid, rfl⟩, halias, rfl⟩
    refine ⟨fun name hname => ?_, rfl⟩
    simp only [List.mem_cons, List.not_mem_nil, or_false] at hname
    obtain rfl | rfl := hname
    · exact optional_checkLabel.1 hid
    · exact optional_checkLabel.1 halias
  · rintro ⟨hlabels, rfl⟩
    exact ⟨_, (), ⟨(), optional_checkLabel.2 (hlabels "id" (by simp)), rfl⟩,
      optional_checkLabel.2 (hlabels "alias" (by simp)), rfl⟩

theorem read_ne_overflow {fields : Entries} : read (.mapping fields) ≠ .overflow := by
  have hlabel {name : String} : fields.optional [name] () checkLabel ≠ .overflow := by
    rw [Ne, Entries.optional_eq_overflow]
    rintro ⟨_, v, -, hv⟩
    unfold checkLabel at hv
    split at hv
    · split at hv <;> cases hv
    · cases hv
  change _ <$> _ <*> _ ≠ _
  rw [Ne, Checked.seq_eq_overflow, Checked.map_eq_overflow]
  exact fun h => h.elim hlabel hlabel

theorem items_ofEntries (payload : Entries) (part : Part) : ∃ plural singular,
    part.keys = [plural, singular] ∧
      (ofEntries payload).items part = sectionItems payload plural singular := by
  cases part <;> exact ⟨_, _, rfl, rfl⟩

/-- An item of a config stands under one of the keys of its section. -/
theorem exists_of_mem_items {x : Value} (hx : x ∈ (ofEntries payload).items part) :
    ∃ name ∈ part.keys, ∃ w, (.text name, w) ∈ payload ∧ x ∈ w.asList := by
  have hfield {name : String} (hx : x ∈ ((payload.get? name).getD .null).asList) :
      ∃ w, (.text name, w) ∈ payload ∧ x ∈ w.asList := by
    cases hget : payload.get? name with
    | none =>
      rw [hget] at hx
      exact absurd hx List.not_mem_nil
    | some w =>
      rw [hget, Option.getD_some] at hx
      exact ⟨w, Entries.mem_of_get? hget, hx⟩
  obtain ⟨plural, singular, hkeys, hitems⟩ := items_ofEntries payload part
  rw [hitems, sectionItems, List.mem_append, List.mem_filter] at hx
  rw [hkeys]
  obtain hx | ⟨hx, -⟩ := hx
  · exact ⟨plural, by simp, hfield hx⟩
  · exact ⟨singular, by simp, hfield hx⟩

/-- Each item under a key of a section is matched by an item of the config: an older one that is
left out has its equal there. -/
theorem matches_items (hd : (Value.mapping payload).isDistinct = true) (hname : name ∈ part.keys)
    (hmem : (.text name, w) ∈ payload) {x : Value} (hx : x ∈ w.asList) :
    ∃ y ∈ (ofEntries payload).items part, x.Matches y := by
  obtain ⟨plural, singular, hkeys, hitems⟩ := items_ofEntries payload part
  have hget := Entries.get?_of_mem (Value.nodup_names hd) hmem
  rw [hitems, sectionItems]
  rw [hkeys] at hname
  obtain rfl | hname := List.mem_cons.1 hname
  · refine ⟨x, List.mem_append.2 (.inl ?_), .inl rfl⟩
    rwa [hget, Option.getD_some]
  · obtain rfl := List.mem_singleton.1 hname
    rw [hget, Option.getD_some]
    generalize (((payload.get? plural).getD .null).asList) = current
    by_cases hany : current.any x.same = true
    · obtain ⟨y, hy, hsame⟩ := List.any_eq_true.1 hany
      exact ⟨y, List.mem_append.2 (.inl hy), .inr hsame⟩
    · refine ⟨x, List.mem_append.2 (.inr (List.mem_filter.2 ⟨hx, ?_⟩)), .inl rfl⟩
      simp [hany]

theorem isDistinct_ofEntries (hd : (Value.mapping payload).isDistinct = true) :
    (ofEntries payload).isDistinct = true := by
  have hpart (part : Part) : Value.allDistinct ((ofEntries payload).items part) = true := by
    refine Value.allDistinct_of_forall fun x hx => ?_
    obtain ⟨_, -, w, hmem, hx⟩ := exists_of_mem_items hx
    have hw := Value.isDistinct_of_mem_entries (Bool.and_eq_true_iff.1 hd).2 hmem
    exact Value.isDistinct_of_mem_asList hw hx
  exact Bool.and_eq_true_iff.2
    ⟨Bool.and_eq_true_iff.2 ⟨hpart .triggers, hpart .conditions⟩, hpart .actions⟩

theorem accounts_of_seen (hd : (Value.mapping payload).isDistinct = true)
    (h : (ofEntries payload).references.hasTemplates = false) (hname : name ∈ part.keys)
    (hmem : (.text name, w) ∈ payload) {pos : Position} {v : Value}
    (hv : Position.Occurs part.position w.asList pos v) (hpos : pos ≠ .hidden) :
    (ofEntries payload).references.Accounts v := by
  have hdc := isDistinct_ofEntries hd
  obtain ⟨pos', x, hx, hpos', hmatch⟩ :=
    hv.matches hpos fun _ hx => matches_items hd hname hmem hx
  cases v with
  | scalar s =>
    cases s with
    | text s =>
      obtain rfl := hmatch.eq_of_text
      intro htemplate
      exact (isAccounted_of_seen hdc h hx hpos' htemplate).1
    | _ => trivial
  | mapping fields =>
    obtain ⟨others, rfl, -⟩ := hmatch.mapping
    intro e he
    exact References.mem_all_of_ofPart (lists_of_seen hdc h hx hpos' e (he.matches hmatch))
  | _ => trivial

theorem references_eq_of_items {c c' : Config} (h : ∀ part, c.items part = c'.items part) :
    c.references = c'.references := by
  have htriggers : c.triggers = c'.triggers := h .triggers
  have hconditions : c.conditions = c'.conditions := h .conditions
  have hactions : c.actions = c'.actions := h .actions
  simp only [references, findings, htriggers, hconditions, hactions]

/-- The entities of a config come from what stands under the keys of its sections. -/
theorem references_congr
    (h : ∀ part : Part, ∀ name ∈ part.keys, other.get? name = payload.get? name) :
    (ofEntries other).references = (ofEntries payload).references := by
  apply references_eq_of_items
  intro part
  obtain ⟨plural, singular, hkeys, hpayload⟩ := items_ofEntries payload part
  obtain ⟨_, _, hkeys', hother⟩ := items_ofEntries other part
  rw [hkeys] at hkeys'
  obtain ⟨rfl, rfl, -⟩ : plural = _ ∧ singular = _ ∧ True := by simpa using hkeys'
  rw [hpayload, hother, sectionItems, sectionItems, h part plural (by simp [hkeys]),
    h part singular (by simp [hkeys])]

theorem sectionItems_of_get? {plural singular : String} {items : List Value}
    (hplural : payload.get? plural = some (.list items))
    (hsingular : payload.get? singular = none) :
    sectionItems payload plural singular = items := by
  rw [sectionItems, hplural, hsingular]
  exact List.append_nil items

theorem hasLabels_payload (c : Config) :
    HasLabels (c.payload.map fun field => (.text field.1, field.2)) := by
  intro name hname n hget
  simp only [List.mem_cons, List.not_mem_nil, or_false] at hname
  obtain rfl | rfl := hname
  · cases Option.some.inj hget
  · cases Option.some.inj hget

/-- What is stored for a config is read, and it refers to the same entities. -/
theorem references_payload (c : Config) : ∃ fields, Value.record c.payload = .mapping fields ∧
    Config.read (.mapping fields) = .valid (ofEntries fields) ∧
    (ofEntries fields).references = c.references := by
  refine ⟨_, rfl, read_eq_valid.2 ⟨hasLabels_payload c, rfl⟩, references_eq_of_items fun part => ?_⟩
  obtain ⟨id, title, description, mode, triggers, conditions, actions⟩ := c
  cases part with
  | triggers => cases description <;> exact sectionItems_of_get? rfl rfl
  | conditions => cases description <;> exact sectionItems_of_get? rfl rfl
  | actions => cases description <;> exact sectionItems_of_get? rfl rfl

/-- Where all is seen, a payload is accounted for exactly if what stands under its other keys is;
and whatever stands there, its config is taken to refer to the same entities. -/
theorem accountsFor_iff {payload : Entries} {c : Config}
    (hread : Config.read (.mapping payload) = .valid c) :
    ((Value.mapping payload).isDistinct = true → c.references.hasTemplates = false →
      (AccountsFor payload c.references ↔ ∀ key w, (key, w) ∈ payload → IsOtherKey key →
        ∀ pos v, Position.Occurs .data w.asList pos v → c.references.AccountsPlainly v)) ∧
    ∀ (other : Entries) (c' : Config),
      (∀ part : Part, ∀ name ∈ part.keys, other.get? name = payload.get? name) →
        Config.read (.mapping other) = .valid c' → c'.references = c.references := by
  obtain ⟨-, rfl⟩ := read_eq_valid.1 hread
  refine ⟨fun hd h => ⟨fun hall => hall.others, fun hothers => ?_⟩,
    fun other c' hother hread' => ?_⟩
  · exact ⟨fun part name w hname hmem pos v hv hpos =>
      accounts_of_seen hd h hname hmem hv hpos, hothers⟩
  · obtain ⟨-, rfl⟩ := read_eq_valid.1 hread'
    exact references_congr hother

def stairs : Entries :=
  [(.text "alias", .text "Stairs"), (.text "max", .int 10),
    (.text "actions", .list [Item.call "light" "turn_on" (.text "light.stairs") []]),
    (.text "action", Item.call "light" "turn_on" (.text "light.stairs") [])]

theorem accountsFor_stairs : Config.read (.mapping stairs) = .valid (ofEntries stairs) ∧
    (Value.mapping stairs).isDistinct = true ∧
    (ofEntries stairs).references.hasTemplates = false ∧
      AccountsFor stairs (ofEntries stairs).references := by
  have hread : Config.read (.mapping stairs) = .valid (ofEntries stairs) := rfl
  have hd : (Value.mapping stairs).isDistinct = true := by decide +kernel
  have h : (ofEntries stairs).references.hasTemplates = false := by decide +kernel
  refine ⟨hread, hd, h, ((accountsFor_iff hread).1 hd h).2 fun key w hmem hkey pos v hv => ?_⟩
  have hmax : key = .text "max" ∧ w = .int 10 := by
    simp only [stairs, List.mem_cons, List.not_mem_nil, or_false, Prod.mk.injEq] at hmem
    obtain ⟨rfl, rfl⟩ | hmax | ⟨rfl, rfl⟩ | ⟨rfl, rfl⟩ := hmem
    · exact absurd (by decide) (hkey _ rfl).1
    · exact hmax
    · exact absurd (by decide) ((hkey _ rfl).2 .actions)
    · exact absurd (by decide) ((hkey _ rfl).2 .actions)
  obtain ⟨rfl, rfl⟩ := hmax
  have hv' : v = .int 10 := by
    induction hv with
    | top hv => exact List.mem_singleton.1 hv
    | entry _ _ _ ih | item _ _ ih | first _ ih | second _ ih | member _ _ ih => cases ih
  subst hv'
  trivial

def porch : Entries :=
  [(.text "id", .text "porch"), (.text "alias", .text "Porch"),
    (.text "use_blueprint", .record [("path", .text "motion_light.yaml"),
      ("input", .record [("light_target", .record [("entity_id", .text "light.bedroom")])])])]

/-- What a blueprint refers to is not looked at, and everybody may edit what is made from it. -/
theorem not_accountsFor_porch : (¬ ∀ payload : Entries,
    (Value.mapping payload).isDistinct = true →
      (ofEntries payload).references.hasTemplates = false →
        ∀ key w, (key, w) ∈ payload → IsOtherKey key → ∀ pos v,
          Position.Occurs .data w.asList pos v →
            (ofEntries payload).references.AccountsPlainly v) ∧
    ∀ scope : Scope, scope.canEdit (ofEntries porch).references = true := by
  constructor
  · intro hall
    have hother : IsOtherKey (.text "use_blueprint") := by
      intro name heq
      obtain rfl := Scalar.text.inj heq
      exact ⟨by decide, fun part => by cases part <;> decide⟩
    have htop : Position.Occurs .data (Value.asList (.record [("path", .text "motion_light.yaml"),
        ("input", .record [("light_target", .record [("entity_id", .text "light.bedroom")])])]))
        .data _ := .top (List.mem_singleton_self _)
    have hinput : Position.Occurs .data _ .data _ :=
      htop.entry (.tail _ (.head _)) (List.mem_singleton_self _)
    have htarget : Position.Occurs .data _ .data (.record [("entity_id", .text "light.bedroom")]) :=
      hinput.entry (.head _) (List.mem_singleton_self _)
    have hrefers := hall porch (by decide +kernel) (by decide +kernel) (.text "use_blueprint") _
      (.tail _ (.tail _ (.head _))) hother _ _ htarget
    refine absurd (hrefers "light.bedroom" ?_) (by decide +kernel)
    refine ⟨"entity_id", by decide, _, List.mem_singleton_self _, "light.bedroom".toList, ?_⟩
    exact ⟨⟨_, List.mem_singleton_self _, by decide⟩, by decide +kernel, by decide, by decide⟩
  · intro scope
    rfl

end Config

end HomePortal
