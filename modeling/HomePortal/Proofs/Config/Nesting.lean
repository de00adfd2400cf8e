import HomePortal.Config.Item
import HomePortal.Proofs.Config.Coverage
import HomePortal.Proofs.Text.Folded
/-!
Steps and conditions under the keys of other steps and conditions, whatever else stands beside those
keys. The walk tells steps and conditions apart by their kind: it recognizes what stands under keys
of the kinds above it, and takes what stands under other keys for data.
-/

namespace HomePortal

open Finding Place

namespace Position

def guardNames : List String :=
  ["conditions", "and", "or", "not", "if", "while", "until"]

inductive Leads : Position → String → Position → Prop
  | steps {name : String} (h : name ∈ stepNames) : Leads step name step
  | options : Leads step "choose" option
  | loop : Leads step "repeat" loop
  | optionSteps : Leads option "sequence" step
  | loopSteps : Leads loop "sequence" step
  | guards {pos : Position} {name : String}
      (hpos : pos = condition ∨ pos = step ∨ pos = option ∨ pos = loop) (h : name ∈ guardNames) :
      Leads pos name condition

def role : Position → Role
  | trigger => .trigger
  | condition => .condition
  | step => .step
  | option => .option
  | loop => .loop
  | template | data | hidden => .data

def heeds (pos : Position) (fields : Entries) (name : String) : Bool :=
  (pos.role.places fields).any fun place => place.1 == name

inductive Nests (start : Position) (items : List Value) : Bool → Position → Value → Prop
  | top {v : Value} (h : v ∈ items) : Nests start items true start v
  | under {heeded : Bool} {pos next : Position} {fields : Entries} {name : String} {w v : Value}
      (h : Nests start items heeded pos (.mapping fields)) (hmem : (.text name, w) ∈ fields)
      (hnext : Leads pos name next) (hv : v ∈ w.asList) :
      Nests start items (heeded && pos.heeds fields name) next v

variable {pos next : Position} {name : String} {fields : Entries}

theorem role_eq_of_position? {r : Role} (h : r.position? = some pos) : r = pos.role := by
  cases r with
  | data | reference | read => cases h
  | _ =>
    obtain rfl := Option.some.inj h
    rfl

theorem Leads.position?_role (h : Leads pos name next) : pos.role.position? = some pos := by
  cases h with
  | guards hpos _ => obtain rfl | rfl | rfl | rfl := hpos <;> rfl
  | _ => rfl

/-- Beside other keys, what a key leads to may also be taken for data. -/
theorem Leads.underName (fields : Entries) (h : Leads pos name next) :
    pos.underName fields name = next ∨ pos.underName fields name = .data := by
  cases h with
  | steps hname => exact .inl (by simp [Position.underName, hname])
  | options | loop | optionSteps | loopSteps => exact .inl rfl
  | guards hpos hname =>
    simp only [guardNames, List.mem_cons, List.not_mem_nil, or_false] at hname
    obtain rfl | rfl | rfl | rfl := hpos
    all_goals
      obtain rfl | rfl | rfl | rfl | rfl | rfl | rfl := hname
      all_goals simp [Position.underName, stepNames, conditionNames]

/-- What stands under a key that is heeded has the role of the position that the key leads to. -/
theorem Leads.among (h : Leads pos name next) (hheeds : pos.heeds fields name = true) :
    (among (pos.role.places fields) (.text name)).role = next.role := by
  obtain ⟨⟨listed, q⟩, hlisted, heq⟩ := List.any_eq_true.1 hheeds
  obtain rfl : listed = name := eq_of_beq heq
  obtain ⟨q', hlookup⟩ : ∃ q', (pos.role.places fields).lookup listed = some q' := by
    rw [← Option.isSome_iff_exists, List.lookup_isSome_iff]
    exact ⟨_, hlisted, heq⟩
  have hmem : (listed, q') ∈ pos.role.places fields := by
    obtain ⟨before, after, hplaces, -⟩ := List.lookup_eq_some_iff.1 hlookup
    rw [hplaces]
    exact List.mem_append.2 (.inr List.mem_cons_self)
  have hamong : among (pos.role.places fields) (.text listed) = q' := by
    simp [Place.among, hlookup]
  rw [hamong]
  obtain hq | ⟨-, hname, -⟩ := Role.position_of_mem_places h.position?_role hmem
  · obtain hunder | hunder := h.underName fields
    · rw [hunder] at hq
      exact role_eq_of_position? hq
    · rw [hunder] at hq
      generalize q'.role = r at hq
      cases r <;> cases hq
  · cases h with
    | steps hstep =>
      subst hname
      exact absurd hstep (by decide)
    | guards _ hguard =>
      subst hname
      exact absurd hguard (by decide)
    | _ => exact absurd hname (by decide)

end Position

namespace Value

/-- The values in a place for steps, conditions or parts of them are walked as what they are. -/
theorem walk_subset_of_mem_asList {role : Role} {many : Bool} {v w : Value}
    (hrole : role.ofOther = [unseen]) (hseen : unseen ∉ w.walk ⟨role, many⟩) (hv : v ∈ w.asList) :
    v.walk (one role) ⊆ w.walk ⟨role, many⟩ := by
  obtain ⟨rfl, hsingle⟩ | ⟨items, rfl, hmem⟩ := mem_asList hv
  · cases v with
    | scalar s =>
      have hnull : s ≠ .null := by
        intro heq
        subst heq
        exact absurd hv List.not_mem_nil
      intro f hf
      simpa [walk, one, hnull] using hf
    | list items => exact absurd rfl (hsingle items)
    | pair | set | mapping =>
      simp only [walk, one]
      exact List.Subset.refl _
  · cases many with
    | true => exact walk_subset_of_mem_many hmem
    | false => exact absurd (by simp [walk, hrole]) hseen

end Value

namespace Position

variable {start pos : Position} {items : List Value} {v : Value}

theorem Leads.ofOther_role {next : Position} {name : String} (h : Leads pos name next) :
    next.role.ofOther = [unseen] := by
  cases h <;> rfl

/-- Where nothing unseen is found, the walk takes what is nested under heeded keys for what it is. -/
theorem Nests.walk_subset (h : Nests start items true pos v)
    (hseen : unseen ∉ Value.walkItems start.role items) :
    v.walk (one pos.role) ⊆ Value.walkItems start.role items := by
  -- On the way to the value: each mapping on it is walked in the role of its position.
  generalize hheeded : true = heeded at h
  induction h with
  | top hv => exact fun f hf => Value.mem_walkItems.2 ⟨_, hv, hf⟩
  | @under heeded pos next fields name w v _ hmem hnext hv ih =>
    obtain ⟨hbefore, hkey⟩ := Bool.and_eq_true_iff.1 hheeded.symm
    have hgo : pos.role.goesOn = true := by
      cases pos <;> rfl
    have hw : w.walk (among (pos.role.places fields) (.text name)) ⊆
        Value.walkItems start.role items :=
      fun f hf => ih hbefore.symm (Value.walk_subset_of_mem hgo hmem hf)
    have hrole := hnext.among hkey
    generalize among (pos.role.places fields) (.text name) = q at hw hrole
    obtain ⟨role, many⟩ := q
    obtain rfl : role = next.role := hrole
    have hunseen : unseen ∉ w.walk ⟨next.role, many⟩ := fun hf => hseen (hw hf)
    exact List.Subset.trans (Value.walk_subset_of_mem_asList hnext.ofOther_role hunseen hv) hw

end Position

namespace Entries

def Names (fields : Entries) (key e : String) : Prop :=
  ∃ w s, fields.get? key = some w ∧ .text s ∈ w.asList ∧ e = folded s.toList ∧ Text.IsName e.toList

def CallsTargeted (fields : Entries) : Prop :=
  fields.has "action" = true ∨ fields.has "service" = true →
    ∃ s, either fields "action" "service" = some (.text s) ∧
      Service.isTargeted (Text.trim s) = true

structure IsKnownCondition (fields : Entries) (listed : EntitySet) : Prop where
  known : ∀ kind, fields.get? "condition" = some kind → kind ≠ .null →
    ∃ name ∈ logicalKinds ++ plainKinds, kind = .text name
  time : fields.get? "condition" = some (.text "time") →
    ∀ key ∈ ["after", "before"], ∀ e, fields.Names key e → e ∈ listed
  zone : fields.get? "condition" = some (.text "zone") → ∀ e, fields.Names "zone" e → e ∈ listed

variable {fields : Entries} {found : List Finding}

theorem callsTargeted_of_seen (h : unseen ∉ ofStep fields) : fields.CallsTargeted := by
  intro hhas
  have hkind : stepKind fields = .service := by
    unfold stepKind
    rw [if_pos (Bool.or_eq_true_iff.2 hhas)]
  have hnot : unseen ∉ ofService fields := by
    simpa [ofStep, hkind] using h
  unfold ofService at hnot
  split at hnot
  · rename_i s hservice
    refine ⟨s, hservice, ?_⟩
    by_cases hs : Service.isTargeted (Text.trim s) = true
    · exact hs
    · simp [hs] at hnot
  · exact absurd (List.mem_singleton_self _) hnot

/-- A field that may name entities is found to name those whose names stand in it. -/
theorem entity_mem_ofField {key e : String} :
    entity e ∈ ofField fields key ↔ fields.Names key e := by
  constructor
  · intro h
    obtain ⟨v, hv, he⟩ := List.mem_flatMap.1 h
    cases hget : fields.get? key with
    | none =>
      rw [hget] at hv
      exact absurd hv List.not_mem_nil
    | some w =>
      rw [hget, Option.getD_some] at hv
      unfold ofLiteral at he
      split at he
      · rename_i s
        dsimp only at he
        split at he
        · rename_i hdotted
          obtain rfl := entity.inj (List.mem_singleton.1 he)
          exact ⟨w, s, hget, hv, rfl, isName_folded hdotted⟩
        · exact absurd he List.not_mem_nil
      · exact absurd he List.not_mem_nil
  · intro h
    obtain ⟨w, s, hget, hs, rfl, hname⟩ := h
    refine List.mem_flatMap.2 ⟨.text s, ?_, ?_⟩
    · rw [hget]
      exact hs
    · simp [ofLiteral, Text.isDotted_of_isName hname]

theorem isKnownCondition_of_seen {listed : EntitySet} (hseen : unseen ∉ ofCondition fields)
    (hlisted : ∀ e, entity e ∈ ofCondition fields → e ∈ listed) :
    fields.IsKnownCondition listed := by
  constructor
  case known =>
    intro kind hget hnull
    refine Classical.byContradiction fun hnot => ?_
    have hother (name : String) (heq : kind = .text name) : name ∉ logicalKinds ++ plainKinds :=
      fun hmem => hnot ⟨name, hmem, heq⟩
    have hunknown : conditionKind fields = .unknown := by
      unfold conditionKind
      rw [hget, Option.getD_some]
      split
      · exact absurd rfl hnull
      · rename_i name
        have hname := hother name rfl
        simp only [List.mem_append, not_or] at hname
        simp [hname.1, hname.2]
      · rfl
    exact hseen (by simp [ofCondition, hunknown])
  case time =>
    intro hget key hkey e hname
    have hfound : ofCondition fields = ofField fields "after" ++ ofField fields "before" := by
      simp [ofCondition, conditionKind, hget, logicalKinds, plainKinds]
    refine hlisted e ?_
    rw [hfound, List.mem_append]
    simp only [List.mem_cons, List.not_mem_nil, or_false] at hkey
    obtain rfl | rfl := hkey
    · exact .inl (entity_mem_ofField.2 hname)
    · exact .inr (entity_mem_ofField.2 hname)
  case zone =>
    intro hget e hname
    have hfound : ofCondition fields = ofField fields "zone" := by
      simp [ofCondition, conditionKind, hget, logicalKinds, plainKinds]
    exact hlisted e (hfound ▸ entity_mem_ofField.2 hname)

end Entries

/-- A step calls services that act on their targets only; a condition is of a known kind. -/
def Value.IsRecognized (listed : EntitySet) (pos : Position) (v : Value) : Prop :=
  match pos, v with
  | .step, .mapping fields => Entries.CallsTargeted fields
  | .condition, .mapping fields => Entries.IsKnownCondition fields listed
  | _, _ => True

namespace Config

/-- The steps and conditions of a part, by the keys that lead to them. -/
abbrev Nests (c : Config) (part : Part) : Bool → Position → Value → Prop :=
  Position.Nests part.position (c.items part)

theorem isRecognized_of_nests {c : Config} {part : Part} {pos : Position} {v : Value}
    (h : c.references.hasTemplates = false) (hv : c.Nests part true pos v) :
    v.IsRecognized (c.references.ofPart part) pos := by
  have hpart : part.position.role = part.role := by cases part <;> rfl
  have hseen := References.hasTemplates_eq_false.1 h part
  rw [← hpart] at hseen
  have hwalk := hv.walk_subset hseen
  have hlisted {e : String} (hf : .entity e ∈ v.walk (one pos.role)) :
      e ∈ c.references.ofPart part := by
    rw [References.mem_ofPart, ← hpart]
    exact hwalk hf
  cases v with
  | mapping fields =>
    have hown {f : Finding} (hf : f ∈ pos.role.ofFields fields) :
        f ∈ (Value.mapping fields).walk (one pos.role) := Value.ofFields_subset_walk hf
    cases pos with
    | step =>
      refine Entries.callsTargeted_of_seen fun hf => hseen (hwalk (hown ?_))
      exact List.mem_append.2 (.inl hf)
    | condition =>
      refine Entries.isKnownCondition_of_seen (fun hf => hseen (hwalk (hown ?_)))
        fun e hf => hlisted (hown ?_)
      all_goals exact List.mem_append.2 (.inl hf)
    | _ => trivial
  | _ => cases pos <;> trivial

/-- Where all is seen, every step and condition under heeded keys is recognized. So all are, exactly
if those are that stand under a key which the kind of a mapping above them has no place for. -/
theorem nested_recognized {c : Config} (h : c.references.hasTemplates = false) :
    (∀ part pos v, c.Nests part true pos v → v.IsRecognized (c.references.ofPart part) pos) ∧
      ((∀ part heeded pos v, c.Nests part heeded pos v →
          v.IsRecognized (c.references.ofPart part) pos) ↔
        ∀ part pos v, c.Nests part false pos v →
          v.IsRecognized (c.references.ofPart part) pos) := by
  have hheeded : ∀ part pos v, c.Nests part true pos v →
      v.IsRecognized (c.references.ofPart part) pos :=
    fun part pos v hv => isRecognized_of_nests h hv
  refine ⟨hheeded, fun hall part pos v hv => hall part false pos v hv, ?_⟩
  intro hpassed part heeded pos v hv
  cases heeded with
  | true => exact hheeded part pos v hv
  | false => exact hpassed part pos v hv

def afterDusk : Value :=
  .record [("condition", .text "time"), ("after", .text "input_datetime.dusk")]

def guarded : Config where
  id := "dusk"
  title := "Dusk"
  description := none
  mode := "single"
  triggers := []
  conditions := []
  actions := [.record [("choose", .list [.record [("conditions", .list [afterDusk]),
    ("sequence", .list [Item.call "light" "turn_on" (.text "light.kitchen") []])]])]]

theorem nested_recognized_guarded : guarded.references.hasTemplates = false ∧
    guarded.Nests .actions true .condition afterDusk ∧
      "input_datetime.dusk" ∈ guarded.references.actions := by
  have h : guarded.references.hasTemplates = false := by decide +kernel
  have hoption : guarded.Nests .actions true .option _ :=
    .under (.top (List.mem_singleton_self _)) (.head _) .options (List.mem_singleton_self _)
  have hv : guarded.Nests .actions true .condition afterDusk :=
    .under hoption (.head _) (.guards (by simp) (by decide)) (List.mem_singleton_self _)
  have hknown : Entries.IsKnownCondition _ (guarded.references.ofPart .actions) :=
    (nested_recognized h).1 .actions .condition afterDusk hv
  refine ⟨h, hv, hknown.time rfl "after" (by decide) _ ⟨_, "input_datetime.dusk", rfl, ?_⟩⟩
  exact ⟨List.mem_singleton_self _, by decide +kernel, "input_datetime".toList, "dusk".toList,
    by decide, by decide, List.all_eq_true.1 (by decide), List.all_eq_true.1 (by decide), rfl⟩

def grouped : Config where
  id := "evening"
  title := "Evening"
  description := none
  mode := "single"
  triggers := []
  conditions := []
  actions := [.record [
    ("parallel", .list [Item.call "light" "turn_on" (.text "light.kitchen") []]),
    ("sequence", .list [.record [("action", .text "script.unlock_everything")]])]]

/-- The steps beside those that a kind has a place for are looked at as data. -/
theorem not_recognized_grouped : ¬ ∀ c : Config, c.isDistinct = true →
    c.references.hasTemplates = false → ∀ part heeded pos v, c.Nests part heeded pos v →
      v.IsRecognized (c.references.ofPart part) pos := by
  intro hall
  have hv : grouped.Nests .actions false .step
      (.record [("action", .text "script.unlock_everything")]) :=
    .under (.top (List.mem_singleton_self _)) (.tail _ (.head _)) (.steps (by decide))
      (List.mem_singleton_self _)
  have hcalls : Entries.CallsTargeted _ :=
    hall grouped (by decide +kernel) (by decide +kernel) .actions false .step _ hv
  obtain ⟨s, hs, htargeted⟩ := hcalls (.inl rfl)
  cases (show some (Value.text "script.unlock_everything") = some (.text s) from hs)
  exact absurd htargeted (by decide +kernel)

end Config

end HomePortal
