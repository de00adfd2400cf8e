import HomePortal.Proofs.Device.Gate
import HomePortal.Proofs.Draft.Entered
/-!
The service that a supported action is compiled to. It is one for every domain, or one of the class
of the device. Every class but one is a domain of its own: water heaters are told as climate devices
are, with a service of that domain.
-/

namespace HomePortal

open Entries HomePortal.Field

def Service.anyDomain : String :=
  "homeassistant"

def Item.call? (item : Value) : Option (String × String) :=
  (Config.text? (item.field? "action")).bind fun service =>
    (Config.text? ((item.field? "target").bind fun target => target.field? "entity_id")).map
      fun entity => (service, entity)

def Config.action? (c : Config) : Option Value :=
  match c.actions with
  | [item] => some item
  | _ => none

theorem Item.call?_call {domain service entity : String} {data : List (String × Value)} :
    Item.call? (Item.call domain service (.text entity) data) =
      some (domain ++ "." ++ service, entity) :=
  rfl

theorem Device.domainOf_dotted {domain service : String} (h : '.' ∉ domain.toList) :
    Device.domainOf (domain ++ "." ++ service) = domain := by
  have hchars : (domain ++ "." ++ service).toList = domain.toList ++ '.' :: service.toList := by
    simp
  have htake : (domain.toList ++ '.' :: service.toList).takeWhile (· != '.') = domain.toList := by
    rw [List.takeWhile_append_of_pos]
    · simp
    · intro c hc
      simpa using ne_of_mem_of_not_mem hc h
  rw [domainOf, hchars, if_pos (by simp), htake, String.ofList_toList]

/-! ### Classes -/

def PlainCommand.deviceClass : PlainCommand → DeviceClass
  | lightToggle => .light
  | _ => .media

def LevelCommand.deviceClass : LevelCommand → DeviceClass
  | brightness => .light
  | position => .cover
  | volume => .media
  | temperature => .climate

def Field.CommandId.deviceClass : CommandId → DeviceClass
  | plain c => c.deviceClass
  | level c => c.deviceClass

def Action.deviceClass? : Action → Option DeviceClass
  | power .. => none
  | level l _ _ => some l.deviceClass
  | command (.plain c _) _ => some c.deviceClass
  | command (.level c _) _ => some c.deviceClass

def DeviceClass.serviceDomain : DeviceClass → String
  | light => "light"
  | cover => "cover"
  | climate => "climate"
  | media => "media_player"
  | switch | sensor | generic => Service.anyDomain

variable {d : Device} {cls : DeviceClass}

def DeviceClass.all : List DeviceClass :=
  [light, cover, climate, media, switch, sensor, generic]

theorem DeviceClass.mem_all (cls : DeviceClass) : cls ∈ all := by
  cases cls <;> decide

def DeviceClass.domains : DeviceClass → List String
  | light => ["light"]
  | cover => ["cover"]
  | climate => ["climate", "water_heater"]
  | media => ["media_player"]
  | switch => ["switch", "input_boolean"]
  | sensor => ["binary_sensor", "sensor"]
  | generic => []

theorem DeviceClass.ofDomain?_eq_some_iff {domain : String} :
    ofDomain? domain = some cls ↔ domain ∈ cls.domains := by
  constructor
  · intro h
    have htable : ∀ entry ∈ [("light", light), ("cover", cover), ("climate", climate),
        ("water_heater", climate), ("media_player", media), ("switch", switch),
        ("input_boolean", switch), ("binary_sensor", sensor), ("sensor", sensor)],
        entry.1 ∈ entry.2.domains := by
      decide
    exact htable _ (mem_of_lookup h)
  · intro h
    have hknown : ∀ cls ∈ all, ∀ domain ∈ cls.domains, ofDomain? domain = some cls := by decide
    exact hknown cls cls.mem_all domain h

def DeviceClass.actionIds : DeviceClass → List String
  | light => [PlainCommand.lightToggle.name, LevelCommand.brightness.name]
  | cover => [LevelCommand.position.name]
  | climate => [LevelCommand.temperature.name]
  | media => [PlainCommand.tvPower.name, PlainCommand.speakerPower.name,
      PlainCommand.playPause.name, LevelCommand.volume.name]
  | switch | generic => ["toggle"]
  | sensor => []

theorem Field.mem_commands (c : CommandId) : c ∈ commands := by
  rcases c with c | c <;> cases c <;> decide

/-- Each command is of one class only. -/
theorem DeviceClass.eq_of_mem_actionIds {c : CommandId} (h : c.name ∈ cls.actionIds) :
    cls = c.deviceClass := by
  have htable : ∀ c ∈ commands, ∀ cls ∈ all, c.name ∈ cls.actionIds → cls = c.deviceClass := by
    decide
  exact htable c (mem_commands c) cls cls.mem_all h

namespace Device

/-- The class of a device is that of its domain. An unknown domain is generic, or a sensor by its
label. -/
theorem mem_domains_classify (d : Device) : d.domain ∈ d.classify.domains ∨
    d.classify = .sensor ∧ (sensorLabel? d.foldedLabel).isSome = true ∨ d.classify = .generic := by
  rw [classify]
  split
  · rename_i known hknown
    exact .inl (DeviceClass.ofDomain?_eq_some_iff.1 hknown)
  · split
    · rename_i hlabel
      exact .inr (.inl ⟨rfl, hlabel⟩)
    · exact .inr (.inr rfl)

theorem classify_of_mem (h : d.domain ∈ cls.domains) : d.classify = cls := by
  rw [classify, DeviceClass.ofDomain?_eq_some_iff.2 h]

/-- A class with services of its own is that of their domain; climate devices may be water heaters
too. -/
theorem domain_of_classify (h : d.classify = cls) (hown : cls.serviceDomain ≠ Service.anyDomain) :
    d.domain = cls.serviceDomain ∨ cls = .climate ∧ d.domain = "water_heater" := by
  have hdomain := d.mem_domains_classify
  rw [h] at hdomain
  obtain hmem | ⟨rfl, -⟩ | rfl := hdomain
  · cases cls with
    | light | cover | media => exact .inl (List.mem_singleton.1 hmem)
    | climate =>
      simp only [DeviceClass.domains, List.mem_cons, List.not_mem_nil, or_false] at hmem
      exact hmem.imp_right fun heater => ⟨rfl, heater⟩
    | switch | sensor | generic => exact absurd rfl hown
  · exact absurd rfl hown
  · exact absurd rfl hown

/-- The actions of a device are among those of its class. -/
theorem id_mem_actionIds {spec : ActionSpec} (h : spec ∈ d.capability.actions) :
    spec.id ∈ d.classify.actionIds := by
  have hids : ∀ id ∈ d.capability.actions.map ActionSpec.id, id ∈ d.classify.actionIds := by
    rw [capability]
    cases d.classify with
    | light | climate | switch | sensor | generic => exact fun id hid => hid
    | cover =>
      cases d.reportsPosition with
      | false | true => exact fun id hid => hid
    | media =>
      have hpowers : ∀ power ∈ [PlainCommand.tvPower, .speakerPower],
          ∀ id ∈ [power.name, PlainCommand.playPause.name, LevelCommand.volume.name],
            id ∈ DeviceClass.media.actionIds := by
        decide
      refine hpowers (if d.foldedLabel == "tv" then .tvPower else .speakerPower) ?_
      split
      · exact .head _
      · exact .tail _ (.head _)
  exact hids _ (List.mem_map_of_mem h)

/-- The commands that a device offers are those of its class. -/
theorem classify_of_command {spec : ActionSpec} {c : CommandId} (h : spec ∈ d.capability.actions)
    (hname : spec.id = c.name) : d.classify = c.deviceClass :=
  DeviceClass.eq_of_mem_actionIds (hname ▸ id_mem_actionIds h)

end Device

namespace Action

variable {a : Action}

theorem Suits.classify_eq (h : a.Suits d) (hclass : a.deviceClass? = some cls) :
    d.classify = cls := by
  cases h with
  | power => cases hclass
  | brightness h | temperature h | position h =>
    obtain rfl := Option.some.inj hclass
    exact h
  | @command c _ _ hspec hname =>
    cases c with
    | plain c value =>
      obtain rfl := Option.some.inj hclass
      exact Device.classify_of_command (c := .plain c) hspec hname
    | level c value =>
      obtain rfl := Option.some.inj hclass
      exact Device.classify_of_command (c := .level c) hspec hname

theorem serviceDomain_ne (hclass : a.deviceClass? = some cls) :
    cls.serviceDomain ≠ Service.anyDomain := by
  cases a with
  | power => cases hclass
  | level l =>
    obtain rfl := Option.some.inj hclass
    cases l <;> decide
  | command c =>
    cases c with
    | plain c =>
      obtain rfl := Option.some.inj hclass
      cases c <;> decide
    | level c =>
      obtain rfl := Option.some.inj hclass
      cases c <;> decide

/-- An action calls a service of its class on its entity. -/
theorem call?_item (a : Action) : ∃ service, Item.call? a.item = some (service, a.entity) ∧
    Device.domainOf service = (a.deviceClass?.map DeviceClass.serviceDomain).getD
      Service.anyDomain := by
  have hdomain {domain service : String} (hdots : '.' ∉ domain.toList) :
      Device.domainOf (domain ++ "." ++ service) = domain := Device.domainOf_dotted hdots
  cases a with
  | power p entity => exact ⟨_, Item.call?_call, hdomain (by decide)⟩
  | level l entity n =>
    refine ⟨_, Item.call?_call, ?_⟩
    cases l <;> exact hdomain (by decide)
  | command c entity =>
    cases c with
    | plain c value =>
      refine ⟨_, Item.call?_call, ?_⟩
      cases c <;> exact hdomain (by decide)
    | level c n =>
      refine ⟨_, Item.call?_call, ?_⟩
      cases c <;> exact hdomain (by decide)

end Action

namespace Registry

/-- What a device supports is compiled to a call on it, of a service for every domain or for its
own. Only of a water heater it is neither when the action is one for climate devices. -/
theorem call?_compile_of_supports (r : Registry) {d : Device} {draft : Draft}
    (hdomain : d.domain = Device.domainOf d.entity) (hentity : draft.action.entity = d.entity)
    (hsupports : r.supportsAction d draft.action = true) (id : String) :
    ∃ service, (draft.compile id).action?.bind Item.call? = some (service, d.entity) ∧
      (Device.domainOf service ∈ [Service.anyDomain, Device.domainOf d.entity] ↔
        ¬ (Device.domainOf d.entity = "water_heater" ∧
          draft.action.deviceClass? = some .climate)) := by
  obtain ⟨service, hcall, hservice⟩ := draft.action.call?_item
  obtain ⟨-, -, hsuits⟩ := supportsAction_eq_true_iff.1 hsupports
  refine ⟨service, hentity ▸ hcall, ?_⟩
  rw [hservice, ← hdomain]
  cases hclass : draft.action.deviceClass? with
  | none => simp
  | some cls =>
    have hown := Action.serviceDomain_ne hclass
    obtain hdomain | ⟨rfl, hdomain⟩ :=
      Device.domain_of_classify (hsuits.classify_eq hclass) hown
    · have hheater : cls.serviceDomain ≠ "water_heater" := by cases cls <;> decide
      simp [hdomain, hheater]
    · rw [hdomain]
      decide

end Registry

/-! ### Requests that set a level -/

def Draft.levelRequest (l : Level) (entity : String) (n : Int) : Value :=
  request "Morning" (.record [("type", .text "schedule"), ("scheduleType", .text "daily"),
      ("at", .text "06:00")])
    (.record [("type", .text l.name), ("entityId", .text entity), ("value", .int n)])

def Draft.ofLevel (l : Level) (entity : String) (n : Int) : Draft where
  title := "Morning"
  description := none
  mode := .single
  enabled := none
  trigger := .schedule ⟨.daily none none, ⟨['0', '6'], ['0', '0'], none⟩⟩
  action := .level l entity (.int n)

theorem Draft.read_levelRequest (l : Level) (entity : String) (n : Int)
    (hentity : entityId (.text entity) = .valid entity) (hpercent : 0 ≤ n ∧ n ≤ 100) :
    Draft.read (levelRequest l entity n) = .valid (ofLevel l entity n) := by
  have hvalue : number (.int n) = .valid (.int n) :=
    (number_toValue (n := .int n)).2 (Number.isBounded_of_percent hpercent)
  have haction : tagged Action.kinds (.record [("type", .text l.name),
      ("entityId", .text entity), ("value", .int n)]) = .valid (.level l entity (.int n)) :=
    tagged_of_lookup (s := l.name) (r := Action.ofLevelFields l) rfl (by cases l <;> rfl)
      (Action.ofLevelFields_eq_valid.2 ⟨entity, .int n, rfl, required_of_first? ⟨_, rfl⟩ hentity,
        required_of_first? ⟨_, rfl⟩ hvalue⟩)
  exact Draft.read_request (by decide +kernel) (by rfl) haction

def Device.bare (entity : String) : Device :=
  ⟨entity, domainOf entity, none, [], none, []⟩

namespace Registry

theorem call?_compile_of_supports_den : ∃ service,
    ((Draft.ofLevel .temperature "climate.den" 30).compile "warm").action?.bind Item.call? =
        some (service, "climate.den") ∧
      Device.domainOf service ∈ [Service.anyDomain, "climate"] := by
  have hsupports : standard.supportsAction (.bare "climate.den")
      (Draft.ofLevel .temperature "climate.den" 30).action = true := by decide +kernel
  obtain ⟨service, hcall, hiff⟩ :=
    call?_compile_of_supports standard (d := .bare "climate.den") rfl rfl hsupports "warm"
  have hdomain : Device.domainOf (Device.bare "climate.den").entity = "climate" := by decide +kernel
  rw [hdomain] at hiff
  exact ⟨service, hcall, hiff.2 (by decide)⟩

/-- A tank of hot water is told to be warm with a service for climate devices. -/
theorem not_call?_ownDomain_tank : ¬ ∀ (r : Registry) (d : Device) (raw : Value) (draft : Draft)
    (id : String), Draft.read raw = .valid draft → d.domain = Device.domainOf d.entity →
      draft.action.entity = d.entity → r.supportsAction d draft.action = true →
        ∃ service, (draft.compile id).action?.bind Item.call? = some (service, d.entity) ∧
          Device.domainOf service ∈ [Service.anyDomain, Device.domainOf d.entity] := by
  intro hall
  have hread := Draft.read_levelRequest .temperature "water_heater.tank" 30 rfl (by decide)
  have hsupports : standard.supportsAction (.bare "water_heater.tank")
      (Draft.ofLevel .temperature "water_heater.tank" 30).action = true := by decide +kernel
  obtain ⟨service, hcall, hservice⟩ :=
    hall standard (.bare "water_heater.tank") _ _ "warm" hread rfl rfl hsupports
  have hclimate : ((Draft.ofLevel .temperature "water_heater.tank" 30).compile
      "warm").action?.bind Item.call? = some ("climate.set_temperature", "water_heater.tank") := by
    rfl
  rw [hclimate] at hcall
  obtain ⟨rfl, -⟩ := Prod.mk.inj (Option.some.inj hcall)
  exact absurd hservice (by decide +kernel)

end Registry

end HomePortal
