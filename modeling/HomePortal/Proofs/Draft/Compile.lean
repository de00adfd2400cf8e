import HomePortal.Config.Finding
import HomePortal.Proofs.Config.Id
import HomePortal.Proofs.Draft.Amended
/-!
Every draft that was read has a config, which the compiler of changed drafts reaches too: one
trigger and one action of kinds that the hub knows, with numbers in their ranges.
-/

namespace HomePortal

open Entries HomePortal.Field

namespace Number

variable {n : Number} {low high : Int}

def IsIn (low high : Int) (n : Number) : Prop :=
  n.isFinite = true ∧ low ≤ n.toRat ∧ n.toRat ≤ high

theorem isIn_clamp (hle : low ≤ high) (h : n.isFinite = true) : (n.clamp low high).IsIn low high := by
  have hbounds : (low : ℚ) ≤ high := Int.cast_le.2 hle
  unfold clamp
  split
  · exact ⟨rfl, le_refl _, hbounds⟩
  · rename_i hlow
    split
    · exact ⟨rfl, hbounds, le_refl _⟩
    · rename_i hhigh
      exact ⟨h, not_lt.1 hlow, not_lt.1 hhigh⟩

end Number

def Config.numberRanges : List (String × Int × Int) :=
  [("brightness_pct", 0, 100), ("position", 0, 100), ("temperature", 5, 35), ("volume_level", 0, 1)]

def Item.IsTrigger (item : Value) : Prop :=
  ∃ platform rest, item = .record (("trigger", .text platform) :: rest) ∧
    platform ∈ Finding.platforms

def Item.IsCallOn (entity : String) (item : Value) : Prop :=
  ∃ (domain service : String) (data : List (String × Number)),
    item = Item.call domain service (.text entity) (data.map fun field => (field.1, field.2.toValue)) ∧
    Service.isTargeted (domain ++ "." ++ service) = true ∧
    ∀ field ∈ data, ∃ low high, (field.1, low, high) ∈ Config.numberRanges ∧
      field.2.IsIn low high

/-- A config with one trigger and one action that the hub can run on the given entity. -/
structure Config.IsRunnable (c : Config) (entity : String) : Prop where
  trigger : ∃ item, c.triggers = [item] ∧ Item.IsTrigger item
  action : ∃ item, c.actions = [item] ∧ Item.IsCallOn entity item

theorem Trigger.isTrigger_item (t : Trigger) : Item.IsTrigger t.item := by
  cases t with
  | state t => exact ⟨"state", _, rfl, by decide⟩
  | device t =>
    obtain ⟨entity, change, weekdays⟩ := t
    cases change <;> exact ⟨"state", _, rfl, by decide⟩
  | schedule t => exact ⟨"time", _, rfl, by decide⟩

structure Setter.IsRanged (s : Setter) : Prop where
  targeted : Service.isTargeted (s.domain ++ "." ++ s.service) = true
  range : (s.field, s.low, s.high) ∈ Config.numberRanges
  ordered : s.low ≤ s.high

theorem Level.isRanged_setter (l : Level) : l.setter.IsRanged := by
  cases l <;> exact ⟨by decide +kernel, by decide, by decide⟩

theorem LevelCommand.isRanged_setter (c : LevelCommand) : c.setter.IsRanged := by
  cases c <;> exact ⟨by decide +kernel, by decide, by decide⟩

namespace Action

theorem isCallOn_of_targeted {domain service entity : String}
    (h : Service.isTargeted (domain ++ "." ++ service) = true) :
    Item.IsCallOn entity (Item.call domain service (.text entity) []) :=
  ⟨domain, service, [], rfl, h, nofun⟩

theorem isCallOn_setter {s : Setter} (hs : s.IsRanged) {entity : String} {n : Number}
    (h : n.isFinite = true) : Item.IsCallOn entity (s.call entity n) := by
  refine ⟨s.domain, s.service, [(s.field, n.clamp s.low s.high)], rfl, hs.targeted, ?_⟩
  intro field hfield
  obtain rfl := List.mem_singleton.1 hfield
  exact ⟨s.low, s.high, hs.range, Number.isIn_clamp hs.ordered h⟩

theorem isCallOn_item {a : Action} (h : ∀ n ∈ a.number?, n.IsBounded) :
    Item.IsCallOn a.entity a.item := by
  cases a with
  | power p entity =>
    refine isCallOn_of_targeted ?_
    cases p <;> decide +kernel
  | level l entity value => exact isCallOn_setter l.isRanged_setter (h value rfl).isFinite
  | command c entity =>
    cases c with
    | plain c value =>
      refine isCallOn_of_targeted ?_
      cases c <;> decide +kernel
    | level c value =>
      refine isCallOn_setter c.isRanged_setter ?_
      cases c with
      | volume => exact (h value rfl).isFinite_hundredth
      | brightness | position | temperature => exact (h value rfl).isFinite

end Action

namespace Draft

theorem isBounded_of_read {raw : Value} {d : Draft} (h : Draft.read raw = .valid d) :
    ∀ n ∈ d.action.number?, n.IsBounded := by
  obtain ⟨fields, -, -, -, -, -, -, haction⟩ := Draft.read_eq_valid.1 h
  obtain ⟨_, w, -, hw⟩ := required_eq_valid.1 haction
  exact Action.isBounded_of_read hw

theorem isRunnable_compile {raw : Value} {d : Draft} (h : Draft.read raw = .valid d) (id : String) :
    (d.compile id).IsRunnable d.action.entity :=
  ⟨⟨_, rfl, d.trigger.isTrigger_item⟩, ⟨_, rfl, Action.isCallOn_item (isBounded_of_read h)⟩⟩

/-- Whatever was read compiles under every id that can be kept, to a config that the hub can run;
its own id is kept from then on. -/
theorem compile_of_read {raw : Value} {d : Draft} (h : Draft.read raw = .valid d)
    {existing : Option String} (hexisting : AutomationId.IsUsable existing) (mark : String)
    (token : Nat) : ∃ c,
      Amended.compile d (.sheet d.trigger.sheet) (.sheet d.action.sheet) existing mark token =
        .ok c ∧
      d.compileAs? existing mark token = some c ∧
      c.IsRunnable d.action.entity ∧
      c.id ≠ "" ∧ (∀ x ∈ c.id.toList, Text.isPlain x = true) ∧
      ∀ (e : Draft) (mark' : String) (token' : Nat),
        (e.compileAs? (some c.id) mark' token').map Config.id = some c.id := by
  obtain ⟨id, hid⟩ := Option.isSome_iff_exists.1 (AutomationId.isSome_choose? hexisting mark token)
  have hcompile : d.compileAs? existing mark token = some (d.compile id) := by
    rw [compileAs?, hid, Option.map_some]
  have hne : id ≠ "" := (AutomationId.reduce?_eq_some.1 hid).1
  refine ⟨d.compile id, ?_, hcompile, isRunnable_compile h id, hne,
    AutomationId.isPlain_of_reduce? hid, fun e mark' token' => ?_⟩
  · rw [Amended.compile_unchanged h, hcompile]
  · have hagain : AutomationId.choose? (some id) mark' token' = some id := by
      rw [AutomationId.choose?, AutomationId.kept?_of_ne hne]
      exact AutomationId.reduce?_of_reduce? hid
    change (e.compileAs? (some id) mark' token').map Config.id = some id
    rw [compileAs?, hagain]
    rfl

def volumeRequest : Value :=
  .record [("alias", .text "Quiet"),
    ("trigger", .record [("type", .text "schedule"), ("schedule_type", .text "daily"),
      ("at", .text "22:00")]),
    ("action", .record [("type", .text "device_command"), ("entity_id", .text "media_player.den"),
      ("command", .text "media/volume_set"), ("value", .text "50")])]

def volumeDraft : Draft where
  title := "Quiet"
  description := none
  mode := .single
  enabled := none
  trigger := .schedule ⟨.daily none none, ⟨['2', '2'], ['0', '0'], none⟩⟩
  action := .command (.level .volume (.real ⟨0x4049000000000000⟩)) "media_player.den"

theorem compile_volume : Draft.read volumeRequest = .valid volumeDraft ∧
    AutomationId.IsUsable (some "Den-1") ∧ ∃ c,
      Amended.compile volumeDraft (.sheet volumeDraft.trigger.sheet)
        (.sheet volumeDraft.action.sheet) (some "Den-1") "portal" 0 = .ok c ∧
      volumeDraft.compileAs? (some "Den-1") "portal" 0 = some c ∧
      c.IsRunnable "media_player.den" ∧
      c.id ≠ "" ∧ (∀ x ∈ c.id.toList, Text.isPlain x = true) ∧
      ∀ (e : Draft) (mark' : String) (token' : Nat),
        (e.compileAs? (some c.id) mark' token').map Config.id = some c.id :=
  have hread : Draft.read volumeRequest = .valid volumeDraft := by rfl
  have husable : AutomationId.IsUsable (some "Den-1") := by
    rintro s ⟨⟩
    exact .inr ⟨'D', by decide, by decide⟩
  ⟨hread, husable, compile_of_read hread husable "portal" 0⟩

end Draft

end HomePortal
