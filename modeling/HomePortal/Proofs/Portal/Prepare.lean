import HomePortal.Proofs.Draft.Scoping
import HomePortal.Proofs.Portal.Run
/-!
Which requests are allowed: those whose draft names entities in scope only.
-/

namespace HomePortal

namespace Draft

/-- A scope allows the config of a draft exactly if the draft's entities are in it. -/
theorem allows_compile {d : Draft} (htrigger : ∀ name ∈ d.trigger.entity?, IsEntityId name)
    (haction : IsEntityId d.action.entity) (scope : Scope) (id : String) :
    scope.allows (d.compile id).references = true ↔ ∀ e ∈ d.entities, e ∈ scope.entities := by
  obtain ⟨htriggers, hconditions, hactions⟩ := references_compile htrigger haction id
  rw [Scope.allows, EntitySet.within_iff]
  refine forall_congr' fun e => imp_congr_left ?_
  simp [References.all, htriggers, hconditions, hactions, Draft.entities]

end Draft

namespace Portal

/-- The config of a draft refers to the entities of its trigger and its action; so without devices
a request is denied exactly if one of them is out of scope, and else succeeds. -/
theorem prepare_scoped {raw : Value} {d : Draft} (hread : Draft.read raw = .valid d)
    {existing : Option String} (hid : AutomationId.IsUsable existing) :
    (∀ mark token, ∃ c, d.compileAs? existing mark token = some c ∧
      c.references.triggers = EntitySet.ofList d.trigger.entity?.toList ∧
      c.references.conditions = EntitySet.empty ∧
      c.references.actions = EntitySet.ofList [d.action.entity]) ∧
    ∀ {σ : Type} (p : Portal) (scope : Scope) (s : Session σ),
      (((p.prepare raw scope existing none).run s).1 = .error (.denied .outOfScope) ↔
        ¬ ∀ e ∈ d.entities, e ∈ scope.entities) ∧
      ((∀ e ∈ d.entities, e ∈ scope.entities) → ∃ c,
        d.compileAs? existing p.mark s.token = some c ∧
          ((p.prepare raw scope existing none).run s).1 = .ok ⟨d, c⟩) := by
  obtain ⟨htrigger, haction⟩ := Draft.isEntityId_of_read hread
  constructor
  · intro mark token
    obtain ⟨id, hcompile⟩ := Draft.compileAs?_eq_some (d := d) hid mark token
    exact ⟨_, hcompile, Draft.references_compile htrigger haction id⟩
  · intro σ p scope s
    obtain ⟨id, hcompile⟩ := Draft.compileAs?_eq_some (d := d) hid p.mark s.token
    have hdraft : readDraft raw = .ok d := by rw [readDraft, hread, Checked.orFail]
    have hrun : ((p.prepare raw scope existing none).run s).1 =
        if scope.allows (d.compile id).references then .ok ⟨d, d.compile id⟩
        else .error (.denied .outOfScope) := by
      rw [run_prepare, hdraft]
      exact finish_none hcompile
    have hallows := Draft.allows_compile htrigger haction scope id
    rw [hrun]
    by_cases hin : ∀ e ∈ d.entities, e ∈ scope.entities
    · rw [if_pos (hallows.2 hin)]
      exact ⟨iff_of_false (by simp) (fun h => h hin), fun _ => ⟨_, hcompile, rfl⟩⟩
    · rw [if_neg fun h => hin (hallows.1 h)]
      exact ⟨iff_of_true rfl hin, fun h => absurd h hin⟩

def doorRequest : Value :=
  .record [("alias", .text "Door"),
    ("trigger", .record [("type", .text "state"), ("entityId", .text "Binary_Sensor.Door"),
      ("to", .text (Item.expression "states.light.attic"))]),
    ("action", .record [("type", .text "turn_on"), ("entityId", .text " light.kitchen")])]

def doorDraft : Draft where
  title := "Door"
  description := none
  mode := .single
  enabled := none
  trigger := .state ⟨"binary_sensor.door",
    some (.text (Item.expression "states.light.attic")), none, none⟩
  action := .power .turnOn "light.kitchen"

theorem prepare_scoped_door : Draft.read doorRequest = .valid doorDraft ∧
    AutomationId.IsUsable none ∧ ∀ (p : Portal) (s : Session Unit),
      ((p.prepare doorRequest ⟨.tenant, EntitySet.ofList ["light.kitchen"]⟩ none none).run s).1 =
        .error (.denied .outOfScope) :=
  have hread : Draft.read doorRequest = .valid doorDraft := rfl
  have hid : AutomationId.IsUsable none := fun _ hs => nomatch hs
  ⟨hread, hid, fun p s => (((prepare_scoped hread hid).2 p _ s).1).2 (by decide +kernel)⟩

end Portal

end HomePortal
