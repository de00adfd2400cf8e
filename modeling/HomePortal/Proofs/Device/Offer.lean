import HomePortal.Device.Gate
import HomePortal.Proofs.Draft.Compile
import HomePortal.Proofs.Draft.Dump
import HomePortal.Proofs.Draft.Templates
import Mathlib.Data.List.Nodup
/-!
Whatever the registry offers can be asked for: a draft of an offered trigger and an offered action
is read, passes the gate, and compiles to a config of its two devices.
-/

namespace HomePortal

open Entries HomePortal.Field

/-- The triggers that a spec offers on an entity: each of its states, each direction of its
attribute, or each of its waypoints. -/
inductive TriggerSpec.Choice (entity : String) : TriggerSpec → Value → Prop
  | option {label : String} {options : List String} {option : String} (h : option ∈ options) :
    Choice entity (.stateEquals label options) (.record [("type", .text "device"),
      ("entityId", .text entity), ("mode", .text "state_equals"), ("to", .text option)])
  | direction {label attr : String} (direction : Direction) :
    Choice entity (.attributeDelta label attr) (.record [("type", .text "device"),
      ("entityId", .text entity), ("mode", .text "attribute_delta"), ("attribute", .text attr),
      ("direction", .text direction.name)])
  | waypoint {label attr : String} {waypoints : List (Int × String)} {n : Int} {name : String}
    (h : (n, name) ∈ waypoints) :
    Choice entity (.positionEquals label attr waypoints) (.record [("type", .text "device"),
      ("entityId", .text entity), ("mode", .text "position_equals"), ("attribute", .text attr),
      ("to", .int n)])

/-- The actions that a spec offers on an entity: its command, every number of its slider, or each of
its positions. Toggling is an action of its own, all other commands are device commands. -/
inductive ActionSpec.Choice (entity : String) : ActionSpec → Value → Prop
  | toggle {label : String} :
    Choice entity (.command "toggle" label) (.record [("type", .text "toggle"),
      ("entityId", .text entity)])
  | command {id label : String} (h : id ≠ "toggle") :
    Choice entity (.command id label) (.record [("type", .text "device_command"),
      ("entityId", .text entity), ("command", .text id)])
  | slider {id label : String} {low high : Int} {step : Rat} {n : Number}
    (h : n.IsIn low high) :
    Choice entity (.slider id label low high step) (.record [("type", .text "device_command"),
      ("entityId", .text entity), ("command", .text id), ("value", n.toValue)])
  | position {id label : String} {positions : List (Int × String)} {n : Int} {name : String}
    (h : (n, name) ∈ positions) :
    Choice entity (.fixedPosition id label positions) (.record [("type", .text "device_command"),
      ("entityId", .text entity), ("command", .text id), ("value", .int n)])

theorem Number.isBounded_of_percent {n : Int} (h : 0 ≤ n ∧ n ≤ 100) : (Number.int n).IsBounded :=
  Nat.lt_of_le_of_lt (by omega : n.natAbs ≤ 100) lt_integerLimit

theorem Number.isBounded_of_isIn {low high : Int} {n : Number} (hrange : 0 ≤ low ∧ high ≤ 100)
    (h : n.IsIn low high) : n.IsBounded := by
  cases n with
  | int n =>
    have hbounds : low ≤ n ∧ n ≤ high := ⟨Int.cast_le.1 h.2.1, Int.cast_le.1 h.2.2⟩
    exact isBounded_of_percent (by omega)
  | real x => exact h.1

def TriggerSpec.IsSound : TriggerSpec → Prop
  | stateEquals _ options => ∀ option ∈ options, Template.isTemplate option = false
  | attributeDelta _ attr => isAttributeName attr.toList = true
  | positionEquals _ attr waypoints =>
    isAttributeName attr.toList = true ∧ ∀ point ∈ waypoints, 0 ≤ point.1 ∧ point.1 ≤ 100

instance : (spec : TriggerSpec) → Decidable spec.IsSound
  | .stateEquals _ options =>
    inferInstanceAs (Decidable (∀ option ∈ options, Template.isTemplate option = false))
  | .attributeDelta _ attr => inferInstanceAs (Decidable (isAttributeName attr.toList = true))
  | .positionEquals _ attr waypoints => inferInstanceAs (Decidable
      (isAttributeName attr.toList = true ∧ ∀ point ∈ waypoints, 0 ≤ point.1 ∧ point.1 ≤ 100))

def ActionSpec.IsSound : ActionSpec → Prop
  | command id _ => id = "toggle" ∨ ∃ c : PlainCommand, id = c.name
  | slider id _ low high _ => (∃ c : LevelCommand, id = c.name) ∧ 0 ≤ low ∧ high ≤ 100
  | fixedPosition id _ positions =>
    (∃ c : LevelCommand, id = c.name) ∧ ∀ point ∈ positions, 0 ≤ point.1 ∧ point.1 ≤ 100

namespace Device

theorem isSound_triggers (d : Device) : ∀ spec ∈ d.capability.triggers, spec.IsSound := by
  have honOff (label : String) : ∀ spec ∈ [TriggerSpec.stateEquals label onOff], spec.IsSound :=
    List.forall_mem_singleton.2 (by decide : ∀ option ∈ onOff, Template.isTemplate option = false)
  unfold capability
  split
  · decide
  · split <;> decide
  · decide
  · exact List.forall_mem_singleton.2 (by decide)
  · exact honOff "Power"
  · unfold sensor
    dsimp only
    split
    · exact honOff _
    · split
      · exact honOff "State"
      · exact nofun
  · exact nofun

theorem isSound_actions (d : Device) : ∀ spec ∈ d.capability.actions, spec.IsSound := by
  have htoggle : ∀ spec ∈ [ActionSpec.command "toggle" "On / Off"], spec.IsSound :=
    List.forall_mem_singleton.2 (.inl rfl)
  unfold capability
  split
  · exact List.forall_mem_cons.2 ⟨.inr ⟨.lightToggle, rfl⟩,
      List.forall_mem_singleton.2 ⟨⟨.brightness, rfl⟩, by decide⟩⟩
  · split
    · exact List.forall_mem_singleton.2 ⟨⟨.position, rfl⟩, by decide⟩
    · exact List.forall_mem_singleton.2 ⟨⟨.position, rfl⟩, by decide⟩
  · exact List.forall_mem_singleton.2 ⟨⟨.temperature, rfl⟩, by decide⟩
  · exact List.forall_mem_cons.2 ⟨.inr ⟨_, rfl⟩, List.forall_mem_cons.2 ⟨.inr ⟨.playPause, rfl⟩,
      List.forall_mem_singleton.2 ⟨⟨.volume, rfl⟩, by decide⟩⟩⟩
  · exact htoggle
  · exact nofun
  · exact htoggle

end Device

variable {entity : String} {v : Value}

theorem Field.orNull_attributeName {attr : String} (h : isAttributeName attr.toList = true) :
    orNull attributeName (.text attr) = .valid (some attr) :=
  (orNull_eq_some (v := .text attr) nofun).2 (Checked.andThen_eq_valid.2 ⟨attr, rfl, if_pos h⟩)

theorem Field.orNull_setting_int {n : Int} (h : (Number.int n).IsBounded) :
    orNull setting (.int n) = .valid (some (.number (.int n))) :=
  (orNull_eq_some (v := .int n) nofun).2 (setting_number (n := .int n) h)

theorem TriggerSpec.Choice.read {spec : TriggerSpec} (h : spec.Choice entity v)
    (hspec : spec.IsSound) (hentity : entityId (.text entity) = .valid entity) :
    ∃ change, tagged Trigger.kinds v = .valid (.device ⟨entity, change, none⟩) ∧
      spec.offers change = true ∧ (Trigger.device ⟨entity, change, none⟩).isTemplated = false := by
  cases h with
  | @option label options option hoption =>
    refine ⟨.stateEquals (.text option) none none, ?_, List.contains_iff_mem.2 hoption,
      hspec option hoption⟩
    exact tagged_of_lookup (s := "device") rfl rfl (Trigger.ofDeviceFields_eq_valid.2
      ⟨_, rfl, required_of_first? ⟨_, rfl⟩ hentity, rfl, .stateEquals, _, none, none,
        rfl, rfl, rfl, rfl, rfl⟩)
  | @direction label attr direction =>
    refine ⟨.attributeDelta attr direction none, ?_, beq_self_eq_true attr, rfl⟩
    exact tagged_of_lookup (s := "device") rfl rfl (Trigger.ofDeviceFields_eq_valid.2
      ⟨_, rfl, required_of_first? ⟨_, rfl⟩ hentity, rfl, .attributeDelta, none, some direction,
        some attr, rfl, rfl, by cases direction <;> rfl,
        optional_of_first? ⟨_, rfl⟩ (orNull_attributeName hspec), rfl⟩)
  | @waypoint label attr waypoints n name hpoint =>
    obtain ⟨hname, hpoints⟩ := hspec
    have hafter := orNull_setting_int (Number.isBounded_of_percent (hpoints _ hpoint))
    refine ⟨.positionEquals attr (.int n) none, ?_, ?_, rfl⟩
    · exact tagged_of_lookup (s := "device") rfl rfl (Trigger.ofDeviceFields_eq_valid.2
        ⟨_, rfl, required_of_first? ⟨_, rfl⟩ hentity, rfl, .positionEquals, some (.number (.int n)),
          none, some attr, rfl, optional_of_first? ⟨_, rfl⟩ hafter, rfl,
          optional_of_first? ⟨_, rfl⟩ (orNull_attributeName hname), rfl⟩)
    · have hany : isWaypoint waypoints (.int n) = true :=
        List.any_eq_true.2 ⟨(n, name), hpoint, beq_self_eq_true _⟩
      simp [TriggerSpec.offers, hany]

theorem Action.read_number (c : LevelCommand) {n : Number} (h : n.IsBounded)
    (hentity : entityId (.text entity) = .valid entity) :
    tagged Action.kinds (.record [("type", .text "device_command"), ("entityId", .text entity),
      ("command", .text c.name), ("value", n.toValue)]) =
      .valid (.command (.level c n) entity) :=
  tagged_of_lookup (s := "device_command") rfl rfl (Action.ofCommandFields_eq_valid.2
    ⟨entity, .level c, some (.number n), required_of_first? ⟨_, rfl⟩ hentity,
      required_of_first? ⟨_, rfl⟩ (commandId_name (.level c)),
      optional_of_first? ⟨_, rfl⟩ (commandValue_toValue h (.level c)), rfl⟩)

theorem ActionSpec.Choice.read {spec : ActionSpec} (h : spec.Choice entity v)
    (hspec : spec.IsSound) (hentity : entityId (.text entity) = .valid entity) :
    ∃ a, tagged Action.kinds v = .valid a ∧ a.entity = entity ∧
      ((∃ p, a = .power p entity) ∨ ∃ c, a = .command c entity ∧ spec.id = c.name) := by
  cases h with
  | toggle =>
    refine ⟨.power .toggle entity, ?_, rfl, .inl ⟨_, rfl⟩⟩
    exact tagged_of_lookup (s := "toggle") (r := Action.ofPowerFields .toggle) rfl rfl
      (Action.ofPowerFields_eq_valid.2 ⟨entity, rfl, required_of_first? ⟨_, rfl⟩ hentity⟩)
  | @command id label hne =>
    obtain rfl | ⟨c, rfl⟩ := hspec
    · exact absurd rfl hne
    · refine ⟨.command (.plain c none) entity, ?_, rfl, .inr ⟨_, rfl, rfl⟩⟩
      exact tagged_of_lookup (s := "device_command") rfl rfl (Action.ofCommandFields_eq_valid.2
        ⟨entity, .plain c, none, required_of_first? ⟨_, rfl⟩ hentity,
          required_of_first? ⟨_, rfl⟩ (commandId_name (.plain c)), rfl, rfl⟩)
  | @slider id label low high step n hn =>
    obtain ⟨⟨c, rfl⟩, hrange⟩ := hspec
    exact ⟨_, Action.read_number c (Number.isBounded_of_isIn hrange hn) hentity, rfl,
      .inr ⟨_, rfl, rfl⟩⟩
  | @position id label positions n name hpoint =>
    obtain ⟨⟨c, rfl⟩, hpoints⟩ := hspec
    have hbounded : (Number.int n).IsBounded := Number.isBounded_of_percent (hpoints _ hpoint)
    exact ⟨_, Action.read_number c (n := .int n) hbounded hentity, rfl, .inr ⟨_, rfl, rfl⟩⟩

namespace Registry

variable {r : Registry} {devices : List Device} {d : Device}

/-- A snapshot with one device for each entity finds each device under its own. -/
theorem device?_of_mem (hdistinct : (devices.map (·.entity)).Nodup) (h : d ∈ devices) :
    device? devices d.entity = some d := by
  have hsome : (device? devices d.entity).isSome = true :=
    List.find?_isSome.2 ⟨d, List.mem_reverse.2 h, beq_self_eq_true d.entity⟩
  obtain ⟨found, hfound⟩ := Option.isSome_iff_exists.1 hsome
  have hmem : found ∈ devices := List.mem_reverse.1 (List.mem_of_find?_eq_some hfound)
  have hentity : found.entity = d.entity :=
    eq_of_beq (List.find?_some (p := fun x : Device => x.entity == d.entity) hfound)
  rw [hfound, List.inj_on_of_nodup_map hdistinct hmem h hentity]

/-- What is offered to the editor comes from a device that is not kept out. -/
theorem mem_triggers {spec : TriggerSpec} : spec ∈ r.triggers d .automation ↔
    r.excludes d = false ∧ spec ∈ d.capability.triggers := by
  cases h : r.excludes d <;> simp [triggers, h]

theorem mem_actions {spec : ActionSpec} : spec ∈ r.actions d .automation ↔
    r.excludes d = false ∧ spec ∈ d.capability.actions := by
  cases h : r.excludes d <;> simp [actions, h]

theorem supportsTrigger_of_offers {spec : TriggerSpec} {change : Change}
    (hspec : spec ∈ r.triggers d .automation) (hoffers : spec.offers change = true)
    (entity : String) (weekdays : Option (List Weekday)) :
    r.supportsTrigger d (.device ⟨entity, change, weekdays⟩) = true := by
  have hany : ((r.triggers d .automation).any fun spec => spec.offers change) = true :=
    List.any_eq_true.2 ⟨spec, hspec, hoffers⟩
  simp [supportsTrigger, hany, (mem_triggers.1 hspec).1]

theorem supportsAction_of_choice {spec : ActionSpec} {a : Action}
    (hspec : spec ∈ r.actions d .automation)
    (h : (∃ p, a = .power p a.entity) ∨ ∃ c, a = .command c a.entity ∧ spec.id = c.name) :
    r.supportsAction d a = true := by
  have hne : r.actions d .automation ≠ [] := List.ne_nil_of_mem hspec
  obtain ⟨p, ha⟩ | ⟨c, ha, hid⟩ := h
  · rw [ha]
    simp [supportsAction, hne]
  · have hany : ((r.actions d .automation).any fun spec => spec.id == c.name) = true :=
      List.any_eq_true.2 ⟨spec, hspec, beq_iff_eq.2 hid⟩
    rw [ha]
    simp [supportsAction, hne, hany]

theorem check_of_supports {x y : Device} {d : Draft}
    (hdistinct : (devices.map (·.entity)).Nodup) (hx : x ∈ devices) (hy : y ∈ devices)
    (htrigger : d.trigger.entity? = some x.entity) (haction : d.action.entity = y.entity)
    (hx' : r.supportsTrigger x d.trigger = true) (hy' : r.supportsAction y d.action = true) :
    r.check devices d = .ok () := by
  have hpassesTrigger : r.passesTrigger devices d.trigger = true := by
    rw [passesTrigger, htrigger]
    dsimp only
    rw [device?_of_mem hdistinct hx, Option.any_some, hx']
  have hpassesAction : r.passesAction devices d.action = true := by
    rw [passesAction, haction, device?_of_mem hdistinct hy, Option.any_some, hy']
  rw [check, hpassesTrigger, hpassesAction]

end Registry

namespace Draft

def request (title : String) (trigger action : Value) : Value :=
  .record [("alias", .text title), ("trigger", trigger), ("action", action)]

theorem read_request {title : String} {trigger action : Value} {t : Trigger} {a : Action}
    (htitle : Text.trim title ≠ "") (ht : tagged Trigger.kinds trigger = .valid t)
    (ha : tagged Action.kinds action = .valid a) :
    Draft.read (request title trigger action) =
      .valid ⟨Text.trim title, none, .single, none, t, a⟩ := by
  have hread : Field.title (.text title) = .valid (Text.trim title) :=
    Checked.andThen_eq_valid.2 ⟨title, rfl, if_neg (by simpa using htitle)⟩
  exact Draft.read_eq_valid.2 ⟨_, rfl, required_of_first? ⟨_, rfl⟩ hread, rfl, rfl, rfl,
    required_of_first? ⟨_, rfl⟩ ht, required_of_first? ⟨_, rfl⟩ ha⟩

/-- The entities of a config are those of the draft that it was compiled from. -/
theorem all_references_compile {raw : Value} {d : Draft} (h : Draft.read raw = .valid d)
    (id : String) : (d.compile id).references.all = EntitySet.ofList d.entities := by
  obtain ⟨htrigger, haction⟩ := isEntityId_of_read h
  obtain ⟨htriggers, hconditions, hactions⟩ := references_compile htrigger haction id
  refine EntitySet.ext fun e => ?_
  rw [References.all, htriggers, hconditions, hactions]
  simp [entities]

end Draft

namespace Registry

/-- Of the devices of a snapshot, every offered trigger and every offered action make a draft that
is read, passes the gate and compiles to a config of just their two entities. -/
theorem compile_of_offered {r : Registry} {devices : List Device}
    (hdistinct : (devices.map (·.entity)).Nodup)
    (hids : ∀ d ∈ devices, entityId (.text d.entity) = .valid d.entity)
    {x y : Device} (hx : x ∈ devices) (hy : y ∈ devices)
    {offered : TriggerSpec} (hoffered : offered ∈ r.triggers x .automation)
    {trigger : Value} (htrigger : offered.Choice x.entity trigger)
    {told : ActionSpec} (htold : told ∈ r.actions y .automation)
    {action : Value} (haction : told.Choice y.entity action)
    {title : String} (htitle : Text.trim title ≠ "")
    {existing : Option String} (hexisting : AutomationId.IsUsable existing) (mark : String)
    (token : Nat) : ∃ d c,
      Draft.read (Draft.request title trigger action) = .valid d ∧
      r.check devices d = .ok () ∧
      Amended.compile d (.sheet d.trigger.sheet) (.sheet d.action.sheet) existing mark token =
        .ok c ∧
      d.compileAs? existing mark token = some c ∧
      c.references.all = EntitySet.ofList [x.entity, y.entity] ∧
      c.references.hasTemplates = false := by
  obtain ⟨change, hchange, hoffers, hplain⟩ := htrigger.read
    (x.isSound_triggers _ (mem_triggers.1 hoffered).2) (hids x hx)
  obtain ⟨a, ha, hentity, hform⟩ := haction.read
    (y.isSound_actions _ (mem_actions.1 htold).2) (hids y hy)
  obtain ⟨d, hread, hdTrigger, hdAction⟩ : ∃ d,
      Draft.read (Draft.request title trigger action) = .valid d ∧
        d.trigger = .device ⟨x.entity, change, none⟩ ∧ d.action = a :=
    ⟨_, Draft.read_request htitle hchange ha, rfl, rfl⟩
  obtain ⟨id, hcompile⟩ := Draft.compileAs?_eq_some (d := d) hexisting mark token
  refine ⟨d, d.compile id, hread, ?_, ?_, hcompile, ?_, ?_⟩
  · refine check_of_supports hdistinct hx hy (by rw [hdTrigger]; rfl) (by rw [hdAction, hentity])
      ?_ ?_
    · rw [hdTrigger]
      exact supportsTrigger_of_offers hoffered hoffers _ _
    · rw [hdAction]
      exact supportsAction_of_choice htold (by rwa [hentity])
  · rw [Amended.compile_unchanged hread, hcompile]
  · rw [Draft.all_references_compile hread, Draft.entities, hdTrigger, hdAction, hentity]
    rfl
  · rw [Draft.hasTemplates_compile hread, Draft.isTemplated, hdTrigger, hplain]

def hallCover : Device :=
  ⟨"cover.hall", "cover", none, [(.text "current_position", .int 40)], none, []⟩

def denLight : Device :=
  ⟨"light.den", "light", none, [], none, []⟩

theorem compile_of_offered_hall : ∃ d c,
    Draft.read (Draft.request "Evening"
        (.record [("type", .text "device"), ("entityId", .text "cover.hall"),
          ("mode", .text "position_equals"), ("attribute", .text "current_position"),
          ("to", .int 50)])
        (.record [("type", .text "device_command"), ("entityId", .text "light.den"),
          ("command", .text "light/set_brightness"), ("value", .int 30)])) = .valid d ∧
      standard.check [hallCover, denLight] d = .ok () ∧
      Amended.compile d (.sheet d.trigger.sheet) (.sheet d.action.sheet) none "portal" 0 = .ok c ∧
      d.compileAs? none "portal" 0 = some c ∧
      c.references.all = EntitySet.ofList ["cover.hall", "light.den"] ∧
      c.references.hasTemplates = false := by
  have hids : ∀ d ∈ [hallCover, denLight], entityId (.text d.entity) = .valid d.entity :=
    List.forall_mem_cons.2 ⟨rfl, List.forall_mem_singleton.2 rfl⟩
  have htrigger : TriggerSpec.positionEquals "Position" "current_position"
      [(0, "Closed"), (50, "Half"), (100, "Open")] ∈ standard.triggers hallCover .automation := by
    decide +kernel
  have haction : ActionSpec.slider "light/set_brightness" "Brightness" 0 100 1 ∈
      standard.actions denLight .automation := by
    decide +kernel
  have hhalf : (50, "Half") ∈ [((0 : Int), "Closed"), (50, "Half"), (100, "Open")] := by decide
  exact compile_of_offered (by decide) hids (.head _) (.tail _ (.head _)) htrigger
    (.waypoint hhalf) haction
    (.slider (n := .int 30) ⟨rfl, by decide, by decide⟩) (by decide +kernel)
    (fun s hs => absurd hs (Option.not_mem_none s)) "portal" 0

end Registry

end HomePortal
