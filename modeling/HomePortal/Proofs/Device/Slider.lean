import HomePortal.Proofs.Device.Level
import HomePortal.Proofs.Value.Entries
/-!
The two ways to set a level: by an action of its own and by a device command. They are read from
different fields and compiled by different tables, to the same config. The number that it sends is
held in the bounds of the command's sliders.
-/

namespace HomePortal

open Entries HomePortal.Field

/-! ### Numbers -/

namespace Number

variable {low high : Int} {n m p q : Number}

inductive Nearest (low high : Int) (n : Number) : Number → Prop
  | inside (hlow : low ≤ n.toRat) (hhigh : n.toRat ≤ high) : Nearest low high n n
  | below (h : n.toRat < low) : Nearest low high n (.int low)
  | above (h : high < n.toRat) : Nearest low high n (.int high)

theorem nearest_clamp (low high : Int) (n : Number) : Nearest low high n (n.clamp low high) := by
  unfold clamp
  split
  · exact .below ‹_›
  · split
    · exact .above ‹_›
    · exact .inside (not_lt.1 ‹_›) (not_lt.1 ‹_›)

/-- The greater of two numbers has no smaller nearest number. -/
theorem Nearest.mono (hle : low ≤ high) (hn : Nearest low high n p) (hm : Nearest low high m q)
    (h : n.toRat ≤ m.toRat) : p.toRat ≤ q.toRat := by
  have hbounds : (low : ℚ) ≤ high := Int.cast_le.2 hle
  have hlow : (Number.int low).toRat = low := rfl
  have hhigh : (Number.int high).toRat = high := rfl
  cases hn with
  | inside =>
    cases hm with
    | inside => exact h
    | below => linarith
    | above => linarith
  | below =>
    cases hm with
    | inside => linarith
    | below => exact le_refl _
    | above => linarith
  | above =>
    cases hm with
    | inside => linarith
    | below => linarith
    | above => exact le_refl _

theorem toValue_injective (h : n.toValue = m.toValue) : n = m := by
  cases n <;> cases m <;> simp_all [toValue]

end Number

/-! ### What is sent -/

def Item.parameter? (item : Value) : Option Value :=
  match item.field? "data" with
  | some (.mapping [(_, v)]) => some v
  | _ => none

def Config.sent? (c : Config) : Option Value :=
  c.action?.bind Item.parameter?

def Level.command : Level → LevelCommand
  | brightness => .brightness
  | temperature => .temperature
  | position => .position

namespace Draft

variable {d : Draft} {l : Level} {entity : String} {n : Number} {id : String}

def acting (d : Draft) (a : Action) : Draft :=
  { d with action := a }

theorem compile_acting (d : Draft) (a : Action) (id : String) :
    (d.acting a).compile id = { d.compile id with actions := [a.item] } :=
  rfl

/-- Whatever the number is, the command is compiled as the level action is. -/
theorem compile_command (d : Draft) (l : Level) (entity : String) (n : Number) (id : String) :
    (d.acting (.command (.level l.command n) entity)).compile id =
      (d.acting (.level l entity n)).compile id := by
  have hitem : (Action.command (.level l.command n) entity).item =
      (Action.level l entity n).item := by
    cases l <;> rfl
  rw [compile_acting, compile_acting, hitem]

theorem sent?_level : ((d.acting (.level l entity n)).compile id).sent? =
    some (n.clamp l.setter.low l.setter.high).toValue :=
  rfl

end Draft

/-! ### Sliders -/

def ActionSpec.IsOfCommand : ActionSpec → Prop
  | slider id _ low high _ => ∃ c : LevelCommand, id = c.name ∧ (low, high) = c.bounds
  | _ => True

theorem Device.isOfCommand_actions (d : Device) :
    ∀ spec ∈ d.capability.actions, spec.IsOfCommand := by
  unfold capability
  split
  · exact List.forall_mem_cons.2 ⟨trivial, List.forall_mem_singleton.2 ⟨.brightness, rfl, rfl⟩⟩
  · split
    · exact List.forall_mem_singleton.2 ⟨.position, rfl, rfl⟩
    · exact List.forall_mem_singleton.2 trivial
  · exact List.forall_mem_singleton.2 ⟨.temperature, rfl, rfl⟩
  · exact List.forall_mem_cons.2 ⟨trivial, List.forall_mem_cons.2 ⟨trivial,
      List.forall_mem_singleton.2 ⟨.volume, rfl, rfl⟩⟩⟩
  · exact List.forall_mem_singleton.2 trivial
  · exact nofun
  · exact List.forall_mem_singleton.2 trivial

namespace LevelCommand

structure HasSlider (c : LevelCommand) (low high : Int) : Prop where
  exists_slider : ∃ (d : Device) (label : String) (step : Rat),
    .slider c.name label low high step ∈ d.capability.actions
  bounds_eq : ∀ (d : Device) (label : String) (low' high' : Int) (step : Rat),
    .slider c.name label low' high' step ∈ d.capability.actions → low' = low ∧ high' = high

theorem name_injective {c c' : LevelCommand} (h : c.name = c'.name) : c = c' := by
  cases c <;> cases c' <;> first | rfl | exact absurd h (by decide)

theorem hasSlider (c : LevelCommand) : c.HasSlider c.bounds.1 c.bounds.2 where
  exists_slider := by
    -- A cover must report its position, and other devices may.
    let d : Device := ⟨"", c.deviceClass.serviceDomain, none,
      [(.text "current_position", .int 0)], none, []⟩
    have hdomain : d.domain ∈ c.deviceClass.domains := by
      cases c <;> exact .head _
    obtain ⟨label, step, hslider⟩ := Device.exists_slider (d := d) (Device.classify_of_mem hdomain)
      fun hplain => Bool.noConfusion hplain.2
    exact ⟨d, label, step, hslider⟩
  bounds_eq := by
    intro d label low high step hslider
    obtain ⟨c', hname, hbounds⟩ := d.isOfCommand_actions _ hslider
    obtain rfl := name_injective hname
    exact Prod.mk.inj hbounds

end LevelCommand

theorem Level.setter_bounds (l : Level) : (l.setter.low, l.setter.high) = l.command.bounds := by
  cases l <;> rfl

/-! ### Requests -/

namespace Field

variable {n m : Number}

theorem number_eq_valid : number n.toValue = .valid m ↔ m = n ∧ n.IsBounded := by
  constructor
  · intro h
    have heq : m = n := by
      cases n with
      | int k =>
        simp only [Number.toValue, number] at h
        split at h
        · cases h
        · exact (Checked.valid.inj h).symm
      | real x =>
        simp only [Number.toValue, number] at h
        split at h
        · exact (Checked.valid.inj h).symm
        · cases h
    exact ⟨heq, number_toValue.1 (heq ▸ h)⟩
  · rintro ⟨rfl, h⟩
    exact number_toValue.2 h

/-- A command reads its number as a level action does. -/
theorem commandValue_number (c : LevelCommand) (n : Number) :
    commandValue (.valid (.level c)) n.toValue =
      (fun m => some (.number m)) <$> number n.toValue := by
  have hsetting : orNull setting n.toValue = (fun m => some (.number m)) <$> number n.toValue := by
    cases n <;> (simp only [Number.toValue, orNull, setting, number]; split <;> rfl)
  rw [commandValue, hsetting]
  cases number n.toValue <;> rfl

/-- A text is read as the number that it denotes. -/
theorem commandValue_text {s : String} {x : Double} (c : LevelCommand)
    (h : Double.ofText? s = some x) :
    commandValue (.valid (.level c)) (.text s) = commandValue (.valid (.level c)) (.float x) := by
  have htext : commandValue (.valid (.level c)) (.text s) =
      (fun m => some (.number m)) <$> number (.float x) := by
    have hfound : orNull setting (.text s) = .valid (some (.text s)) := rfl
    rw [commandValue, hfound]
    simp only [Checked.andThen, h]
  exact htext.trans (commandValue_number c (.real x)).symm

end Field

def Level.fieldsWith (l : Level) (fields : Entries) (v : Value) : Entries :=
  (fields.set "type" (.text l.name)).set "value" v

def LevelCommand.fieldsWith (c : LevelCommand) (fields : Entries) (v : Value) : Entries :=
  ((fields.set "type" (.text "device_command")).set "command" (.text c.name)).set "value" v

namespace Action

variable {l : Level} {c : LevelCommand} {fields : Entries} {v : Value} {n : Number} {a : Action}

def entityOf (fields : Entries) : Checked String :=
  required fields "entityId" ["entity_id"] entityId

theorem tagged_level : tagged kinds (.mapping (l.fieldsWith fields v)) =
    (level l <$> entityOf fields <*> (number v).under "value").under l.name := by
  have hget : (l.fieldsWith fields v).get? "type" = some (.text l.name) := by
    rw [Level.fieldsWith, get?_set_of_ne (by decide), get?_set_self]
  rw [tagged_eq_under (r := ofLevelFields l) hget (by cases l <;> rfl), ofLevelFields,
    Level.fieldsWith, required_set_self, required_set_of_not_mem (by decide),
    required_set_of_not_mem (by decide)]
  rfl

theorem tagged_command : tagged kinds (.mapping (c.fieldsWith fields v)) =
    ((commandWith <$> entityOf fields <*> .valid (.level c) <*>
      (commandValue (.valid (.level c)) v).under "value").andThen id).under "device_command" := by
  have hget : (c.fieldsWith fields v).get? "type" = some (.text "device_command") := by
    rw [LevelCommand.fieldsWith, get?_set_of_ne (by decide), get?_set_of_ne (by decide),
      get?_set_self]
  have hcommand : (c.fieldsWith fields v).required "command" [] commandId = .valid (.level c) := by
    rw [LevelCommand.fieldsWith, required_set_of_not_mem (by decide), required_set_self]
    exact Checked.under_eq_valid.2 (commandId_name (.level c))
  rw [tagged_eq_under (r := ofCommandFields) hget rfl, ofCommandFields, hcommand,
    LevelCommand.fieldsWith, optional_set_self, required_set_of_not_mem (by decide),
    required_set_of_not_mem (by decide), required_set_of_not_mem (by decide)]
  rfl

theorem tagged_level_eq_valid : tagged kinds (.mapping (l.fieldsWith fields n.toValue)) = .valid a ↔
    n.IsBounded ∧ ∃ entity, entityOf fields = .valid entity ∧ a = .level l entity n := by
  simp only [tagged_level, Checked.under_eq_valid, Checked.seq_eq_valid, Checked.map_eq_valid,
    number_eq_valid]
  constructor
  · intro h
    obtain ⟨_, m, ⟨entity, hentity, rfl⟩, ⟨rfl, hn⟩, rfl⟩ := h
    exact ⟨hn, entity, hentity, rfl⟩
  · intro h
    obtain ⟨hn, entity, hentity, rfl⟩ := h
    exact ⟨_, n, ⟨entity, hentity, rfl⟩, ⟨rfl, hn⟩, rfl⟩

theorem tagged_command_eq_valid :
    tagged kinds (.mapping (c.fieldsWith fields n.toValue)) = .valid a ↔
      n.IsBounded ∧ ∃ entity, entityOf fields = .valid entity ∧
        a = .command (.level c n) entity := by
  simp only [tagged_command, commandValue_number, Checked.under_eq_valid, Checked.andThen_eq_valid,
    Checked.seq_eq_valid, Checked.map_eq_valid, number_eq_valid, id_eq]
  constructor
  · intro h
    obtain ⟨_, ⟨_, _, ⟨_, _, ⟨entity, hentity, rfl⟩, hc, rfl⟩, ⟨m, ⟨rfl, hn⟩, rfl⟩, rfl⟩, ha⟩ := h
    obtain rfl := Checked.valid.inj hc
    exact ⟨hn, entity, hentity, (Checked.valid.inj ha).symm⟩
  · intro h
    obtain ⟨hn, entity, hentity, rfl⟩ := h
    exact ⟨_, ⟨_, _, ⟨_, _, ⟨entity, hentity, rfl⟩, rfl, rfl⟩, ⟨n, ⟨rfl, hn⟩, rfl⟩, rfl⟩, rfl⟩

end Action

namespace Draft

variable {request action fields : Entries} {d : Draft} {n : Number} {l : Level}
  {existing : Option String} {mark : String} {token : Nat} {c : Config}

def requestWith (request action : Entries) : Value :=
  .mapping (request.set "action" (.mapping action))

def readAside (request : Entries) : Checked (Action → Draft) :=
  Draft.mk
    <$> required request "alias" [] Field.title
    <*> optional request ["description"] none (orNull text)
    <*> optional request ["mode"] .single (choice modes)
    <*> optional request ["enabled"] none (orNull boolean)
    <*> required request "trigger" [] (tagged Trigger.kinds)

theorem read_requestWith : Draft.read (requestWith request action) =
    (readAside request <*> (tagged Action.kinds (.mapping action)).under "action") := by
  simp only [Draft.read, requestWith, record, Checked.andThen, required_set_self]
  rw [required_set_of_not_mem (by decide), required_set_of_not_mem (by decide),
    optional_set_of_not_mem (by decide), optional_set_of_not_mem (by decide),
    optional_set_of_not_mem (by decide)]
  rfl

theorem exists_acting {f : Action → Draft} (h : readAside request = .valid f) :
    ∃ d : Draft, f = d.acting := by
  simp only [readAside, Checked.seq_eq_valid, Checked.map_eq_valid] at h
  obtain ⟨_, trigger, ⟨_, enabled, ⟨_, mode, ⟨_, description, ⟨title, -, rfl⟩, -, rfl⟩, -, rfl⟩, -,
    rfl⟩, -, rfl⟩ := h
  exact ⟨⟨title, description, mode, enabled, trigger, .power .toggle ""⟩, rfl⟩

def CompilesTo (raw : Value) (existing : Option String) (mark : String) (token : Nat)
    (c : Config) : Prop :=
  ∃ d, Draft.read raw = .valid d ∧ d.compileAs? existing mark token = some c

/-- What a request is compiled to that sets a level to a number, be it with a level action or with a
command. -/
theorem compilesTo_requestWith {setting : String → Action}
    (haction : ∀ a, tagged Action.kinds (.mapping action) = .valid a ↔
      n.IsBounded ∧ ∃ entity, Action.entityOf fields = .valid entity ∧ a = setting entity) :
    CompilesTo (requestWith request action) existing mark token c ↔
      n.IsBounded ∧ ∃ (d : Draft) (entity id : String), readAside request = .valid d.acting ∧
        Action.entityOf fields = .valid entity ∧
        AutomationId.choose? existing mark token = some id ∧
        c = (d.acting (setting entity)).compile id := by
  simp only [CompilesTo, read_requestWith, Checked.seq_eq_valid, Checked.under_eq_valid, haction]
  constructor
  · rintro ⟨_, ⟨f, a, haside, ⟨hn, entity, hentity, rfl⟩, rfl⟩, hcompile⟩
    obtain ⟨d, rfl⟩ := exists_acting haside
    obtain ⟨id, hid, rfl⟩ := Option.map_eq_some_iff.1 hcompile
    exact ⟨hn, d, entity, id, haside, hentity, hid, rfl⟩
  · rintro ⟨hn, d, entity, id, haside, hentity, hid, rfl⟩
    refine ⟨_, ⟨d.acting, _, haside, ⟨hn, entity, hentity, rfl⟩, rfl⟩, ?_⟩
    rw [compileAs?, hid]
    rfl

theorem compilesTo_level :
    CompilesTo (requestWith request (l.fieldsWith fields n.toValue)) existing mark token c ↔
      n.IsBounded ∧ ∃ (d : Draft) (entity id : String), readAside request = .valid d.acting ∧
        Action.entityOf fields = .valid entity ∧
        AutomationId.choose? existing mark token = some id ∧
        c = (d.acting (.level l entity n)).compile id :=
  compilesTo_requestWith fun _ => Action.tagged_level_eq_valid

theorem compilesTo_command :
    CompilesTo (requestWith request (l.command.fieldsWith fields n.toValue)) existing mark token c ↔
      CompilesTo (requestWith request (l.fieldsWith fields n.toValue)) existing mark token c := by
  rw [compilesTo_level, compilesTo_requestWith fun _ => Action.tagged_command_eq_valid]
  simp only [compile_command]

end Draft

open Draft (requestWith CompilesTo)

/-- The level action and the command that sets the same level mean the same, and send numbers
between two bounds. -/
structure Level.Agrees (l : Level) (low high : Int) : Prop where
  /-- Drafts that differ in the action alone have one config. -/
  compile_eq (d : Draft) (entity : String) (n : Number) (id : String) :
    (d.acting (.command (.level l.command n) entity)).compile id =
      (d.acting (.level l entity n)).compile id
  /-- Their config sends the number itself, or the nearer bound. -/
  sends (d : Draft) (entity : String) (n : Number) (id : String) : n.isFinite = true →
    ∃ p : Number, ((d.acting (.level l entity n)).compile id).sent? = some p.toValue ∧
      n.Nearest low high p
  /-- For a greater number no smaller one is sent. -/
  monotone (d d' : Draft) (entity entity' : String) (n n' p p' : Number) (id id' : String) :
    n.isFinite = true → n'.isFinite = true → n.toRat ≤ n'.toRat →
    ((d.acting (.level l entity n)).compile id).sent? = some p.toValue →
    ((d'.acting (.level l entity' n')).compile id').sent? = some p'.toValue →
    p.toRat ≤ p'.toRat
  /-- Requests that differ in the action alone are compiled to one config, or both to none. -/
  compilesTo_iff (request fields : Entries) (n : Number) (existing : Option String) (mark : String)
    (token : Nat) (c : Config) :
    CompilesTo (requestWith request (l.command.fieldsWith fields n.toValue)) existing mark token c ↔
      CompilesTo (requestWith request (l.fieldsWith fields n.toValue)) existing mark token c
  /-- What is sent for a request is its number, or the nearer bound. -/
  requested (request fields : Entries) (n : Number) (existing : Option String) (mark : String)
    (token : Nat) (c : Config) :
    CompilesTo (requestWith request (l.fieldsWith fields n.toValue)) existing mark token c →
      ∃ p : Number, c.sent? = some p.toValue ∧ n.Nearest low high p
  /-- A request that is compiled with one number is compiled with each that a draft may hold. -/
  compiles_all (request fields : Entries) (n n' : Number) (existing : Option String)
    (mark : String) (token : Nat) (c : Config) :
    CompilesTo (requestWith request (l.fieldsWith fields n.toValue)) existing mark token c →
      n'.IsBounded →
      ∃ c', CompilesTo (requestWith request (l.fieldsWith fields n'.toValue)) existing mark token c'
  /-- A command with a text is read as the one with the number that the text denotes. -/
  read_text (request fields : Entries) (s : String) (x : Double) : Double.ofText? s = some x →
    Draft.read (requestWith request (l.command.fieldsWith fields (.text s))) =
      Draft.read (requestWith request (l.command.fieldsWith fields (.float x)))

/-- The two ways to set a level agree, in the bounds of the sliders for it. -/
theorem Level.agrees (l : Level) :
    ∃ low high, l.command.HasSlider low high ∧ l.Agrees low high := by
  have hslider : l.command.HasSlider l.setter.low l.setter.high := by
    obtain ⟨hlow, hhigh⟩ := Prod.mk.inj l.setter_bounds
    rw [hlow, hhigh]
    exact l.command.hasSlider
  have hordered : l.setter.low ≤ l.setter.high := l.isRanged_setter.ordered
  refine ⟨_, _, hslider, ?_⟩
  constructor
  case compile_eq => exact fun d entity n id => d.compile_command l entity n id
  case sends => exact fun d entity n id _ => ⟨_, Draft.sent?_level, n.nearest_clamp _ _⟩
  case monotone =>
    intro d d' entity entity' n n' p p' id id' _ _ hle hp hp'
    obtain rfl := Number.toValue_injective (Option.some.inj (Draft.sent?_level.symm.trans hp))
    obtain rfl := Number.toValue_injective (Option.some.inj (Draft.sent?_level.symm.trans hp'))
    exact (n.nearest_clamp _ _).mono hordered (n'.nearest_clamp _ _) hle
  case compilesTo_iff => exact fun _ _ _ _ _ _ _ => Draft.compilesTo_command
  case requested =>
    intro request fields n existing mark token c hcompiles
    obtain ⟨-, d, entity, id, -, -, -, rfl⟩ := Draft.compilesTo_level.1 hcompiles
    exact ⟨_, Draft.sent?_level, n.nearest_clamp _ _⟩
  case compiles_all =>
    intro request fields n n' existing mark token c hcompiles hn'
    obtain ⟨-, d, entity, id, haside, hentity, hid, -⟩ := Draft.compilesTo_level.1 hcompiles
    exact ⟨_, Draft.compilesTo_level.2 ⟨hn', d, entity, id, haside, hentity, hid, rfl⟩⟩
  case read_text =>
    intro request fields s x hs
    rw [Draft.read_requestWith, Draft.read_requestWith, Action.tagged_command, Action.tagged_command,
      commandValue_text l.command hs]

def Draft.morning : Entries :=
  [(.text "alias", .text "Morning"), (.text "trigger", .record [("type", .text "schedule"),
    ("scheduleType", .text "daily"), ("at", .text "06:00")])]

def Action.onDenLight : Entries :=
  [(.text "entityId", .text "light.den")]

/-- Both ways the light is told to be brighter than it can be. -/
theorem Level.agrees_morning :
    ∃ c, CompilesTo (requestWith Draft.morning
          (Level.brightness.fieldsWith Action.onDenLight (.int 140))) (some "lamp") "portal" 0 c ∧
      CompilesTo (requestWith Draft.morning
          (LevelCommand.brightness.fieldsWith Action.onDenLight (.int 140)))
        (some "lamp") "portal" 0 c ∧
      c.sent? = some (.int 100) := by
  obtain ⟨low, high, hslider, hagrees⟩ := Level.brightness.agrees
  obtain ⟨rfl, rfl⟩ : (0 : Int) = low ∧ (100 : Int) = high :=
    hslider.bounds_eq Registry.denLight "Brightness" 0 100 1 (by decide +kernel)
  have hbounded : (140 : Int).natAbs < integerLimit := by decide +kernel
  have hread : Draft.readAside Draft.morning =
      .valid (Draft.ofLevel .brightness "light.den" 140).acting := by
    rfl
  have hlevel : CompilesTo (requestWith Draft.morning
      (Level.brightness.fieldsWith Action.onDenLight (.int 140))) (some "lamp") "portal" 0
        ((Draft.ofLevel .brightness "light.den" 140).compile "lamp") :=
    Draft.compilesTo_level (n := .int 140).2 ⟨hbounded, _, "light.den", "lamp", hread, rfl,
      by decide +kernel, rfl⟩
  obtain ⟨p, hsent, hnearest⟩ := hagrees.requested _ _ (.int 140) _ _ _ _ hlevel
  obtain rfl : p = .int 100 := by
    cases hnearest with
    | inside _ hhigh => exact absurd hhigh (by decide +kernel)
    | below hlow => exact absurd hlow (by decide +kernel)
    | above => rfl
  exact ⟨_, hlevel, (hagrees.compilesTo_iff _ _ (.int 140) _ _ _ _).2 hlevel, hsent⟩

end HomePortal
