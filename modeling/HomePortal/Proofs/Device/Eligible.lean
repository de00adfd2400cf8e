import HomePortal.Proofs.Device.Level
/-!
The list of eligible devices against the gate. A device that passes the gate is in the list, unless
it is a sensor that offers nothing: its state can be watched all the same.
-/

namespace HomePortal

def Device.IsSilent (d : Device) : Prop :=
  d.domain = "sensor" ∧ Device.sensorLabel? d.foldedLabel = none

namespace Device

variable {d : Device}

theorem classify_eq_sensor_iff (hlabel : sensorLabel? d.foldedLabel = none) :
    d.classify = .sensor ↔ d.domain = "binary_sensor" ∨ d.domain = "sensor" := by
  constructor
  · intro h
    have hdomain := d.mem_domains_classify
    rw [h, hlabel] at hdomain
    obtain hmem | ⟨-, hsome⟩ | hgeneric := hdomain
    · simpa [DeviceClass.domains] using hmem
    · cases hsome
    · cases hgeneric
  · intro h
    exact classify_of_mem (by simpa [DeviceClass.domains] using h)

/-- The devices that offer nothing are the silent sensors. -/
theorem offers_nothing_iff :
    d.capability.triggers = [] ∧ d.capability.actions = [] ↔ d.IsSilent := by
  rw [actions_eq_nil_iff, IsSilent]
  constructor
  · rintro ⟨htriggers, hclass⟩
    rw [capability, hclass] at htriggers
    cases hlabel : sensorLabel? d.foldedLabel with
    | some label => simp [sensor, hlabel] at htriggers
    | none =>
      have hbinary : d.domain ≠ "binary_sensor" := by
        rintro hdomain
        simp [sensor, hlabel, hdomain] at htriggers
      exact ⟨((classify_eq_sensor_iff hlabel).1 hclass).resolve_left hbinary, rfl⟩
  · rintro ⟨hdomain, hlabel⟩
    have hclass : d.classify = .sensor := (classify_eq_sensor_iff hlabel).2 (.inr hdomain)
    refine ⟨?_, hclass⟩
    rw [capability, hclass]
    simp [sensor, hlabel, hdomain]

end Device

namespace Registry

variable {r : Registry} {devices : List Device} {x : Device} {t : Trigger} {a : Action}

theorem isEligible_iff : r.isEligible x = true ↔ r.excludes x = false ∧ ¬ x.IsSilent := by
  rw [← Device.offers_nothing_iff, isEligible, triggers, actions]
  cases r.excludes x <;> simp [Classical.or_iff_not_imp_left]

/-- A device whose change a supported trigger watches is not kept out. -/
theorem excludes_of_supportsTrigger {entity : String} (hentity : t.entity? = some entity)
    (h : r.supportsTrigger x t = true) : r.excludes x = false := by
  cases t with
  | state t => simpa [supportsTrigger] using h
  | device t =>
    simp only [supportsTrigger, Bool.and_eq_true, Bool.not_eq_true'] at h
    exact h.1
  | schedule t => cases hentity

/-- Of a silent sensor the gate passes triggers on its state and nothing else. -/
theorem state_of_supportsTrigger {entity : String} (hentity : t.entity? = some entity)
    (h : r.supportsTrigger x t = true) (hsilent : x.IsSilent) :
    ∃ s : StateTrigger, t = .state s ∧ s.entity = entity := by
  cases t with
  | state t => exact ⟨t, rfl, Option.some.inj hentity⟩
  | device t =>
    simp only [supportsTrigger, Bool.and_eq_true, List.any_eq_true, mem_triggers] at h
    obtain ⟨-, spec, ⟨-, hspec⟩, -⟩ := h
    rw [(Device.offers_nothing_iff.2 hsilent).1] at hspec
    cases hspec
  | schedule t => cases hentity

theorem not_isSilent_of_supportsAction (h : r.supportsAction x a = true) : ¬ x.IsSilent := by
  intro hsilent
  exact (supportsAction_eq_true_iff.1 h).2.1
    (Device.actions_eq_nil_iff.1 (Device.offers_nothing_iff.2 hsilent).2)

theorem passesTrigger_eq_true_iff {entity : String} (hentity : t.entity? = some entity) :
    r.passesTrigger devices t = true ↔
      ∃ x, device? devices entity = some x ∧ r.supportsTrigger x t = true := by
  rw [passesTrigger, hentity]
  exact Option.any_eq_true _ _

theorem passesAction_eq_true_iff : r.passesAction devices a = true ↔
    ∃ x, device? devices a.entity = some x ∧ r.supportsAction x a = true :=
  Option.any_eq_true _ _

/-- Every entity of a draft that passes has a device in the snapshot. -/
theorem exists_mem_of_check {d : Draft} {entity : String} (hcheck : r.check devices d = .ok ())
    (hentity : entity ∈ d.entities) : ∃ x ∈ devices, x.entity = entity := by
  obtain ⟨htrigger, haction⟩ := check_eq_ok_iff_passes.1 hcheck
  have hfound : ∃ x, device? devices entity = some x := by
    obtain htriggers | hactions := List.mem_append.1 hentity
    · obtain ⟨x, hx, -⟩ := (passesTrigger_eq_true_iff (Option.mem_toList.1 htriggers)).1 htrigger
      exact ⟨x, hx⟩
    · obtain rfl := List.mem_singleton.1 hactions
      obtain ⟨x, hx, -⟩ := passesAction_eq_true_iff.1 haction
      exact ⟨x, hx⟩
  obtain ⟨x, hx⟩ := hfound
  obtain ⟨hid, before, after, rfl, -⟩ := device?_eq_some_iff.1 hx
  exact ⟨x, by simp, hid⟩

/-- A device that a passing draft names in its trigger or in its action supports it. -/
theorem supports_of_check {d : Draft} (hdistinct : (devices.map (·.entity)).Nodup)
    (hcheck : r.check devices d = .ok ()) (hx : x ∈ devices) :
    (d.trigger.entity? = some x.entity → r.supportsTrigger x d.trigger = true) ∧
      (d.action.entity = x.entity → r.supportsAction x d.action = true) := by
  obtain ⟨htrigger, haction⟩ := check_eq_ok_iff_passes.1 hcheck
  have hfound {y : Device} (hy : device? devices x.entity = some y) : x = y := by
    rw [device?_of_mem hdistinct hx] at hy
    exact Option.some.inj hy
  constructor
  · intro hentity
    obtain ⟨y, hy, hsupports⟩ := (passesTrigger_eq_true_iff hentity).1 htrigger
    rwa [hfound hy]
  · intro hentity
    obtain ⟨y, hy, hsupports⟩ := passesAction_eq_true_iff.1 haction
    rw [hentity] at hy
    rwa [hfound hy]

/-- Every device of a draft that passes is in the snapshot, and among the eligible ones unless it is
a silent sensor. Of such a sensor the draft watches the state, and it is never told anything. -/
theorem mem_eligible_of_check (r : Registry) {devices : List Device} {d : Draft}
    (hdistinct : (devices.map (·.entity)).Nodup) (hcheck : r.check devices d = .ok ()) :
    (∀ entity ∈ d.entities, ∃ x ∈ devices, x.entity = entity) ∧
      ∀ x ∈ devices, x.entity ∈ d.entities →
        (x ∈ r.eligible devices ↔ ¬ x.IsSilent) ∧
        (x.IsSilent → d.action.entity ≠ x.entity ∧
          ∃ t : StateTrigger, d.trigger = .state t ∧ t.entity = x.entity) := by
  refine ⟨fun entity => exists_mem_of_check hcheck, fun x hx hentity => ?_⟩
  obtain ⟨htrigger, haction⟩ := supports_of_check hdistinct hcheck hx
  have hused : d.trigger.entity? = some x.entity ∨ d.action.entity = x.entity := by
    obtain htriggers | hactions := List.mem_append.1 hentity
    · exact .inl (Option.mem_toList.1 htriggers)
    · exact .inr (List.mem_singleton.1 hactions).symm
  have hkept : r.excludes x = false := by
    obtain hwatched | htold := hused
    · exact excludes_of_supportsTrigger hwatched (htrigger hwatched)
    · exact (supportsAction_eq_true_iff.1 (haction htold)).1
  refine ⟨?_, fun hsilent => ?_⟩
  · simp [eligible, hx, isEligible_iff, hkept]
  · have htold : d.action.entity ≠ x.entity := fun htold =>
      not_isSilent_of_supportsAction (haction htold) hsilent
    have hwatched := hused.resolve_right htold
    exact ⟨htold, state_of_supportsTrigger hwatched (htrigger hwatched) hsilent⟩

def watchRequest (entity : String) : Value :=
  Draft.request "Watch" (.record [("type", .text "state"), ("entityId", .text entity)])
    (.record [("type", .text "turn_on"), ("entityId", .text "light.hall")])

def watchDraft (entity : String) : Draft where
  title := "Watch"
  description := none
  mode := .single
  enabled := none
  trigger := .state ⟨entity, none, none, none⟩
  action := .power .turnOn "light.hall"

theorem mem_eligible_of_check_door :
    standard.check [.bare "binary_sensor.door", .bare "light.hall"]
        (watchDraft "binary_sensor.door") = .ok () ∧
      ∀ x ∈ [Device.bare "binary_sensor.door", .bare "light.hall"],
        x ∈ standard.eligible [.bare "binary_sensor.door", .bare "light.hall"] := by
  have hcheck : standard.check [.bare "binary_sensor.door", .bare "light.hall"]
      (watchDraft "binary_sensor.door") = .ok () :=
    check_eq_ok_iff_passes.2 ⟨by decide +kernel, by decide +kernel⟩
  obtain ⟨-, hmem⟩ := mem_eligible_of_check standard (by decide) hcheck
  have hspeaking : ∀ entity ∈ ["binary_sensor.door", "light.hall"],
      (Device.bare entity).domain ≠ "sensor" := by decide +kernel
  refine ⟨hcheck, List.forall_mem_cons.2 ⟨?_, List.forall_mem_singleton.2 ?_⟩⟩
  · refine (hmem (.bare "binary_sensor.door") (.head _) (by decide)).1.2 fun hsilent => ?_
    exact hspeaking _ (.head _) hsilent.1
  · refine (hmem (.bare "light.hall") (.tail _ (.head _)) (by decide)).1.2 fun hsilent => ?_
    exact hspeaking _ (.tail _ (.head _)) hsilent.1

/-- A sensor that offers nothing starts an automation. -/
theorem not_mem_eligible_temperature : ¬ ∀ (r : Registry) (devices : List Device) (raw : Value)
    (d : Draft), (devices.map (·.entity)).Nodup → Draft.read raw = .valid d →
      r.check devices d = .ok () →
        ∀ x ∈ devices, x.entity ∈ d.entities → x ∈ r.eligible devices := by
  intro hall
  have hread : Draft.read (watchRequest "sensor.temperature") =
      .valid (watchDraft "sensor.temperature") := by rfl
  have hcheck : standard.check [.bare "sensor.temperature", .bare "light.hall"]
      (watchDraft "sensor.temperature") = .ok () :=
    check_eq_ok_iff_passes.2 ⟨by decide +kernel, by decide +kernel⟩
  have hmem := hall standard _ _ _ (by decide) hread hcheck (.bare "sensor.temperature") (.head _)
    (by decide)
  have hsilent : (Device.bare "sensor.temperature").IsSilent :=
    ⟨by decide +kernel, by decide +kernel⟩
  exact (isEligible_iff.1 (List.mem_filter.1 hmem).2).2 hsilent

end Registry

end HomePortal
