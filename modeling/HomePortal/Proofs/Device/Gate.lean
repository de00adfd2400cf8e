import HomePortal.Proofs.Device.Offer
/-!
The gate passes a draft exactly if its devices offer what it asks for. It looks at the last device
of the snapshot with an id, never lets a sensor or a device that is kept out be told anything, and
names each side that it refuses.
-/

namespace HomePortal

variable {domains labels : List String} {devices : List Device} {d : Device} {entity : String}

/-! ### Devices -/

def Device.IsLast (devices : List Device) (entity : String) (d : Device) : Prop :=
  d.entity = entity ∧
    ∃ before after, devices = before ++ d :: after ∧ ∀ other ∈ after, other.entity ≠ entity

inductive Device.IsKeptOut (domains labels : List String) (d : Device) : Prop
  | domain (h : d.domain ∈ domains)
  | label {label : String} (h : label ∈ labels)
      (hcase : Text.lower label = Text.lower d.primaryLabel)
  | diagnostic (h : d.attributes.get? "entity_category" = some (.text "diagnostic"))

namespace Registry

theorem device?_eq_some_iff : device? devices entity = some d ↔ d.IsLast devices entity := by
  rw [device?, List.find?_eq_some_iff_append, beq_iff_eq, Device.IsLast]
  refine and_congr_right fun _ => ?_
  -- The search runs over the snapshot backwards, so what it skips comes after what it finds.
  constructor
  · intro h
    obtain ⟨after, before, heq, hafter⟩ := h
    refine ⟨before.reverse, after.reverse, ?_, fun other hother => ?_⟩
    · rw [← List.reverse_reverse devices, heq]
      simp
    · simpa using hafter other (List.mem_reverse.1 hother)
  · intro h
    obtain ⟨before, after, rfl, hafter⟩ := h
    refine ⟨after.reverse, before.reverse, by simp, fun other hother => ?_⟩
    simpa using hafter other (List.mem_reverse.1 hother)

theorem excludes_iff :
    (excluding domains labels).excludes d = true ↔ d.IsKeptOut domains labels := by
  simp only [excludes, excluding, Bool.or_eq_true, List.contains_iff_mem, List.mem_map,
    Device.foldedLabel]
  constructor
  · intro h
    obtain (hdomain | ⟨label, hlabel, hcase⟩) | hdiagnostic := h
    · exact .domain hdomain
    · exact .label hlabel hcase
    · split at hdiagnostic
      · rename_i category hget
        rw [beq_iff_eq] at hdiagnostic
        exact .diagnostic (hdiagnostic ▸ hget)
      · cases hdiagnostic
  · intro h
    cases h with
    | domain h => exact .inl (.inl h)
    | label h hcase => exact .inl (.inr ⟨_, h, hcase⟩)
    | diagnostic h =>
      rw [h]
      exact .inr (beq_self_eq_true _)

end Registry

/-- Sensors alone offer no actions. -/
theorem Device.actions_eq_nil_iff : d.capability.actions = [] ↔ d.classify = .sensor := by
  rw [capability]
  cases d.classify with
  | cover => cases d.reportsPosition <;> simp [positionedCover, plainCover]
  | sensor => simp [sensor]
  | _ => simp [light, climate, media, switch, generic]

/-! ### What a device offers -/

/-- A change is one that a spec stands for: its mode, its attribute, and one of its states or
waypoints. -/
inductive TriggerSpec.Matches : TriggerSpec → Change → Prop
  | option {label : String} {options : List String} {after : Setting} {direction : Option Direction}
      {attr : Option String} (h : after.display ∈ options) :
      Matches (.stateEquals label options) (.stateEquals after direction attr)
  | delta {label attr : String} {direction : Direction} {after : Option Setting} :
      Matches (.attributeDelta label attr) (.attributeDelta attr direction after)
  | waypoint {label attr name : String} {waypoints : List (Int × String)} {n : Int}
      {after : Number} {direction : Option Direction} (h : (n, name) ∈ waypoints)
      (hafter : after.toRat = n) :
      Matches (.positionEquals label attr waypoints) (.positionEquals attr after direction)

theorem isWaypoint_iff {waypoints : List (Int × String)} {n : Number} :
    isWaypoint waypoints n = true ↔ ∃ m name, (m, name) ∈ waypoints ∧ n.toRat = m := by
  simp [isWaypoint]

theorem TriggerSpec.offers_iff {spec : TriggerSpec} {change : Change} :
    spec.offers change = true ↔ spec.Matches change := by
  constructor
  · intro h
    unfold offers at h
    split at h
    · exact .option (List.contains_iff_mem.1 h)
    · obtain rfl := eq_of_beq h
      exact .delta
    · obtain ⟨hattr, hwaypoint⟩ := Bool.and_eq_true_iff.1 h
      obtain rfl := eq_of_beq hattr
      obtain ⟨n, name, hmem, hafter⟩ := isWaypoint_iff.1 hwaypoint
      exact .waypoint hmem hafter
    · cases h
  · intro h
    cases h with
    | option h => exact List.contains_iff_mem.2 h
    | delta => exact beq_self_eq_true _
    | waypoint h hafter =>
      exact Bool.and_eq_true_iff.2 ⟨beq_self_eq_true _, isWaypoint_iff.2 ⟨_, _, h, hafter⟩⟩

inductive Action.Suits (d : Device) : Action → Prop
  | power {p : Power} {entity : String} : Suits d (.power p entity)
  | brightness {entity : String} {n : Number} (h : d.classify = .light) :
      Suits d (.level .brightness entity n)
  | temperature {entity : String} {n : Number} (h : d.classify = .climate) :
      Suits d (.level .temperature entity n)
  | position {entity : String} {n : Number} (h : d.classify = .cover) :
      Suits d (.level .position entity n)
  | command {c : Command} {entity : String} {spec : ActionSpec} (h : spec ∈ d.capability.actions)
      (hname : spec.id = c.name) : Suits d (.command c entity)

/-- The last device of the trigger is not kept out, and offers the change that it watches. A
schedule needs no device. -/
inductive Trigger.IsOffered (domains labels : List String) (devices : List Device) : Trigger → Prop
  | schedule {t : ScheduleTrigger} : IsOffered domains labels devices (.schedule t)
  | state {t : StateTrigger} {d : Device} (hlast : d.IsLast devices t.entity)
      (hkept : ¬ d.IsKeptOut domains labels) : IsOffered domains labels devices (.state t)
  | device {t : DeviceTrigger} {d : Device} {spec : TriggerSpec}
      (hlast : d.IsLast devices t.entity) (hkept : ¬ d.IsKeptOut domains labels)
      (hspec : spec ∈ d.capability.triggers) (hmatches : spec.Matches t.change) :
      IsOffered domains labels devices (.device t)

/-- The last device of the action is not kept out, is no sensor, and can be told the action. -/
inductive Action.IsOffered (domains labels : List String) (devices : List Device) (a : Action) :
    Prop
  | told {d : Device} (hlast : d.IsLast devices a.entity) (hkept : ¬ d.IsKeptOut domains labels)
      (hsensor : d.classify ≠ .sensor) (hsuits : a.Suits d)

namespace Registry

variable {t : Trigger} {a : Action}

theorem excludes_eq_false_iff :
    (excluding domains labels).excludes d = false ↔ ¬ d.IsKeptOut domains labels := by
  rw [← excludes_iff, Bool.not_eq_true]

theorem offers_triggers_iff {change : Change} :
    (∃ spec ∈ (excluding domains labels).triggers d .automation, spec.offers change = true) ↔
      ¬ d.IsKeptOut domains labels ∧ ∃ spec ∈ d.capability.triggers, spec.Matches change := by
  simp only [ mem_triggers, TriggerSpec.offers_iff, excludes_eq_false_iff,
    and_assoc, exists_and_left]

theorem supportsAction_eq_true_iff {r : Registry} : r.supportsAction d a = true ↔
    r.excludes d = false ∧ d.classify ≠ .sensor ∧ a.Suits d := by
  have hnonempty : (!(r.actions d .automation).isEmpty) = true ↔
      r.excludes d = false ∧ d.classify ≠ .sensor := by
    rw [ne_eq, ← Device.actions_eq_nil_iff, actions]
    cases r.excludes d <;> simp
  unfold supportsAction
  rw [Bool.and_eq_true, hnonempty, and_assoc]
  refine and_congr_right fun hkept => and_congr_right fun _ => ?_
  cases a with
  | power p entity => exact iff_of_true rfl .power
  | level l entity n =>
    rw [beq_iff_eq]
    constructor
    · intro h
      cases l with
      | brightness => exact .brightness h
      | temperature => exact .temperature h
      | position => exact .position h
    · intro h
      cases h with
      | brightness h | temperature h | position h => exact h
  | command c entity =>
    simp only [List.any_eq_true, mem_actions, beq_iff_eq]
    constructor
    · intro h
      obtain ⟨spec, ⟨-, hspec⟩, hname⟩ := h
      exact .command hspec hname
    · intro h
      cases h with
      | command hspec hname => exact ⟨_, ⟨hkept, hspec⟩, hname⟩

theorem supportsAction_iff : (excluding domains labels).supportsAction d a = true ↔
    ¬ d.IsKeptOut domains labels ∧ d.classify ≠ .sensor ∧ a.Suits d := by
  rw [supportsAction_eq_true_iff, excludes_eq_false_iff]

theorem passesTrigger_iff : (excluding domains labels).passesTrigger devices t = true ↔
    t.IsOffered domains labels devices := by
  cases t with
  | schedule t => exact iff_of_true rfl .schedule
  | state t =>
    simp only [passesTrigger, Trigger.entity?, Option.any_eq_true, device?_eq_some_iff,
      supportsTrigger, Bool.not_eq_true', excludes_eq_false_iff]
    constructor
    · intro h
      obtain ⟨d, hlast, hkept⟩ := h
      exact .state hlast hkept
    · intro h
      cases h with
      | state hlast hkept => exact ⟨_, hlast, hkept⟩
  | device t =>
    simp only [passesTrigger, Trigger.entity?, Option.any_eq_true, device?_eq_some_iff,
      supportsTrigger, Bool.and_eq_true, Bool.not_eq_true', excludes_eq_false_iff,
      List.any_eq_true, offers_triggers_iff]
    constructor
    · intro h
      obtain ⟨d, hlast, hkept, -, spec, hspec, hmatches⟩ := h
      exact .device hlast hkept hspec hmatches
    · intro h
      cases h with
      | device hlast hkept hspec hmatches => exact ⟨_, hlast, hkept, hkept, _, hspec, hmatches⟩

theorem passesAction_iff : (excluding domains labels).passesAction devices a = true ↔
    a.IsOffered domains labels devices := by
  simp only [passesAction, Option.any_eq_true, device?_eq_some_iff, supportsAction_iff]
  constructor
  · intro h
    obtain ⟨d, hlast, hkept, hsensor, hsuits⟩ := h
    exact .told hlast hkept hsensor hsuits
  · intro h
    obtain ⟨hlast, hkept, hsensor, hsuits⟩ := h
    exact ⟨_, hlast, hkept, hsensor, hsuits⟩

/-- What a refusal says: a text for each side that is not offered, the trigger's first. -/
inductive Refuses (domains labels : List String) (devices : List Device) (d : Draft) :
    List String → Prop
  | trigger (ht : ¬ d.trigger.IsOffered domains labels devices)
      (ha : d.action.IsOffered domains labels devices) :
      Refuses domains labels devices d ["trigger: not offered by the selected device"]
  | action (ht : d.trigger.IsOffered domains labels devices)
      (ha : ¬ d.action.IsOffered domains labels devices) :
      Refuses domains labels devices d ["action: not offered by the selected device"]
  | both (ht : ¬ d.trigger.IsOffered domains labels devices)
      (ha : ¬ d.action.IsOffered domains labels devices) :
      Refuses domains labels devices d ["trigger: not offered by the selected device",
        "action: not offered by the selected device"]

theorem check_eq_ok_iff_passes {r : Registry} {d : Draft} : r.check devices d = .ok () ↔
    r.passesTrigger devices d.trigger = true ∧ r.passesAction devices d.action = true := by
  unfold check
  cases r.passesTrigger devices d.trigger <;> cases r.passesAction devices d.action <;> simp

theorem check_eq_ok_iff (d : Draft) : (excluding domains labels).check devices d = .ok () ↔
    d.trigger.IsOffered domains labels devices ∧ d.action.IsOffered domains labels devices := by
  rw [check_eq_ok_iff_passes, passesTrigger_iff, passesAction_iff]

theorem refuses_of_check {d : Draft} {e : DraftError}
    (h : (excluding domains labels).check devices d = .error e) :
    e.message = "Automation is not supported by the selected devices" ∧
      Refuses domains labels devices d e.texts := by
  have htrigger : (excluding domains labels).passesTrigger devices d.trigger = true ↔
      d.trigger.IsOffered domains labels devices := passesTrigger_iff
  have haction : (excluding domains labels).passesAction devices d.action = true ↔
      d.action.IsOffered domains labels devices := passesAction_iff
  unfold check at h
  -- One case for each pair of answers; the first one is no refusal.
  cases ht : (excluding domains labels).passesTrigger devices d.trigger with
  | true =>
    cases ha : (excluding domains labels).passesAction devices d.action with
    | true =>
      rw [ht, ha] at h
      cases h
    | false =>
      rw [ht, ha] at h
      obtain rfl := Except.error.inj h
      exact ⟨rfl, .action (htrigger.1 ht) (mt haction.2 (by simp [ha]))⟩
  | false =>
    have hnot := mt htrigger.2 (by simp [ht])
    cases ha : (excluding domains labels).passesAction devices d.action with
    | true =>
      rw [ht, ha] at h
      obtain rfl := Except.error.inj h
      exact ⟨rfl, .trigger hnot (haction.1 ha)⟩
    | false =>
      rw [ht, ha] at h
      obtain rfl := Except.error.inj h
      exact ⟨rfl, .both hnot (mt haction.2 (by simp [ha]))⟩

/-- The gate passes exactly the drafts whose trigger and action are offered, and tells of every
other draft which of its sides are not. No draft that passes commands a sensor, or a device that is
kept out. -/
theorem check_passes_offered (domains labels : List String) (devices : List Device) (d : Draft) :
    ((excluding domains labels).check devices d = .ok () ↔
      d.trigger.IsOffered domains labels devices ∧ d.action.IsOffered domains labels devices) ∧
    (∀ e, (excluding domains labels).check devices d = .error e →
      e.message = "Automation is not supported by the selected devices" ∧
        Refuses domains labels devices d e.texts) ∧
    ((excluding domains labels).check devices d = .ok () →
      ∀ x : Device, x.IsLast devices d.action.entity →
        ¬ x.IsKeptOut domains labels ∧ x.classify ≠ .sensor) := by
  refine ⟨check_eq_ok_iff d, fun e => refuses_of_check, fun hpasses x hlast => ?_⟩
  obtain ⟨-, hlast', hkept, hsensor, -⟩ := (check_eq_ok_iff d).1 hpasses
  have hx := device?_eq_some_iff.2 hlast
  rw [device?_eq_some_iff.2 hlast'] at hx
  obtain rfl := Option.some.inj hx
  exact ⟨hkept, hsensor⟩

end Registry

end HomePortal
