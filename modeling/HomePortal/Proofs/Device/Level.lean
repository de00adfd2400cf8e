import HomePortal.Proofs.Device.Call
import Mathlib.Tactic.Linarith
/-!
The number that a supported action sends. A slider of the device offers it, except on covers that
report no position: they offer two positions, and are sent any.
-/

namespace HomePortal

open Entries HomePortal.Field

def Item.level? (item : Value) : Option Rat :=
  match item.field? "data" with
  | some (.mapping [(.text name, .scalar s)]) =>
    match s.quantity? with
    | some (.finite q) => some (if name = "volume_level" then 100 * q else q)
    | _ => none
  | _ => none

inductive ActionSpec.Offers (q : Rat) : ActionSpec → Prop
  | slider {id label : String} {low high : Int} {step : Rat} (hlow : low ≤ q) (hhigh : q ≤ high) :
    Offers q (.slider id label low high step)
  | position {id label name : String} {positions : List (Int × String)} {n : Int}
    (h : (n, name) ∈ positions) (heq : q = n) : Offers q (.fixedPosition id label positions)

/-! ### What is sent -/

def LevelCommand.bounds : LevelCommand → Int × Int
  | temperature => (5, 35)
  | _ => (0, 100)

variable {d : Device} {n : Number} {a : Action} {c : LevelCommand} {q : Rat}

theorem Number.quantity?_toValue (h : n.isFinite = true) :
    ∃ s, n.toValue = .scalar s ∧ s.quantity? = some (.finite n.toRat) := by
  cases n with
  | int n => exact ⟨_, rfl, rfl⟩
  | real x => exact ⟨_, rfl, if_pos h⟩

theorem Item.level?_call {domain service field : String} {entity : Value} (h : n.isFinite = true) :
    level? (call domain service entity [(field, n.toValue)]) =
      some (if field = "volume_level" then 100 * n.toRat else n.toRat) := by
  obtain ⟨s, hs, hquantity⟩ := Number.quantity?_toValue h
  have hdata : (call domain service entity [(field, n.toValue)]).field? "data" =
      some (.mapping [(.text field, .scalar s)]) := by
    rw [hs]
    rfl
  rw [level?, hdata]
  dsimp only
  rw [hquantity]

/-- What a command sends is held in its bounds. -/
theorem LevelCommand.level?_setter (entity : String) (h : (c.scaled n).isFinite = true) :
    ∃ q, Item.level? (c.setter.call entity (c.scaled n)) = some q ∧
      (c.bounds.1 : Rat) ≤ q ∧ q ≤ c.bounds.2 := by
  have hin : ((c.scaled n).clamp c.setter.low c.setter.high).IsIn c.setter.low c.setter.high :=
    Number.isIn_clamp c.isRanged_setter.ordered h
  refine ⟨_, Item.level?_call hin.1, ?_⟩
  obtain ⟨-, hlow, hhigh⟩ := hin
  cases c with
  | volume =>
    rw [if_pos (by decide)]
    simp only [setter, Setter.volume, bounds] at hlow hhigh ⊢
    push_cast at hlow hhigh ⊢
    constructor
    · linarith
    · linarith
  | brightness | position | temperature =>
    rw [if_neg (by decide)]
    exact ⟨hlow, hhigh⟩

/-- An action with a number is one of the commands that set it. -/
theorem Action.exists_levelCommand (h : a.number? = some n) :
    ∃ c : LevelCommand, a.deviceClass? = some c.deviceClass ∧
      a.item = c.setter.call a.entity (c.scaled n) := by
  cases a with
  | power => cases h
  | level l entity value =>
    obtain rfl := Option.some.inj h
    cases l with
    | brightness => exact ⟨.brightness, rfl, rfl⟩
    | temperature => exact ⟨.temperature, rfl, rfl⟩
    | position => exact ⟨.position, rfl, rfl⟩
  | command command entity =>
    cases command with
    | plain => cases h
    | level c value =>
      obtain rfl := Option.some.inj h
      exact ⟨c, rfl, rfl⟩

theorem LevelCommand.isFinite_scaled (h : n.IsBounded) : (c.scaled n).isFinite = true := by
  cases c with
  | volume => exact h.isFinite_hundredth
  | brightness | position | temperature => exact h.isFinite

/-! ### What is offered -/

namespace Device

def IsPlainCover (d : Device) : Prop :=
  d.classify = .cover ∧ d.reportsPosition = false

/-- Each command that sets a number has a slider on the devices of its class. -/
theorem exists_slider (hclass : d.classify = c.deviceClass) (hplain : ¬ d.IsPlainCover) :
    ∃ label step, .slider c.name label c.bounds.1 c.bounds.2 step ∈ d.capability.actions := by
  cases c with
  | brightness =>
    rw [capability, hclass]
    exact ⟨_, _, .tail _ (.head _)⟩
  | position =>
    have hreports : d.reportsPosition = true := by
      simpa using fun hfalse => hplain ⟨hclass, hfalse⟩
    rw [capability, hclass, hreports]
    exact ⟨_, _, .head _⟩
  | volume =>
    rw [capability, hclass]
    exact ⟨_, _, .tail _ (.tail _ (.head _))⟩
  | temperature =>
    rw [capability, hclass]
    exact ⟨_, _, .head _⟩

theorem offers_plainCover_iff (h : d.IsPlainCover) :
    (∃ spec ∈ d.capability.actions, spec.Offers q) ↔ q = 0 ∨ q = 100 := by
  obtain ⟨hclass, hreports⟩ := h
  have hspecs : d.capability.actions =
      [.fixedPosition LevelCommand.position.name "Position" [(100, "Open"), (0, "Close")]] := by
    rw [capability, hclass, hreports]
    rfl
  rw [hspecs]
  constructor
  · rintro ⟨spec, hspec, hoffers⟩
    obtain rfl := List.mem_singleton.1 hspec
    obtain _ | ⟨hpoint, rfl⟩ := hoffers
    simp only [List.mem_cons, Prod.mk.injEq, List.not_mem_nil, or_false] at hpoint
    obtain ⟨rfl, -⟩ | ⟨rfl, -⟩ := hpoint
    · exact .inr rfl
    · exact .inl rfl
  · rintro (rfl | rfl)
    · exact ⟨_, .head _, .position (.tail _ (.head _)) rfl⟩
    · exact ⟨_, .head _, .position (.head _) rfl⟩

end Device

namespace Registry

/-- The number that a supported action sends is offered by the device. Only to a cover that reports
no position numbers are sent that are none of the two it offers. -/
theorem level?_compile_of_supports (r : Registry) {d : Device} {raw : Value} {draft : Draft}
    (hread : Draft.read raw = .valid draft) (hnumber : draft.action.number?.isSome = true)
    (hsupports : r.supportsAction d draft.action = true) (id : String) :
    ∃ q, (draft.compile id).action?.bind Item.level? = some q ∧
      ((∃ spec ∈ r.actions d .automation, spec.Offers q) ↔
        ¬ (d.classify = .cover ∧ d.reportsPosition = false ∧ q ≠ 0 ∧ q ≠ 100)) := by
  obtain ⟨n, hn⟩ := Option.isSome_iff_exists.1 hnumber
  obtain ⟨c, hclass, hitem⟩ := Action.exists_levelCommand hn
  obtain ⟨hkept, -, hsuits⟩ := supportsAction_eq_true_iff.1 hsupports
  have hfinite : (c.scaled n).isFinite = true :=
    LevelCommand.isFinite_scaled (Draft.isBounded_of_read hread n hn)
  obtain ⟨q, hq, hlow, hhigh⟩ := LevelCommand.level?_setter draft.action.entity hfinite
  refine ⟨q, ?_, ?_⟩
  · rw [← hq, ← hitem]
    rfl
  simp only [mem_actions, hkept, true_and]
  by_cases hplain : d.IsPlainCover
  · rw [Device.offers_plainCover_iff hplain]
    simp only [hplain.1, hplain.2, true_and]
    tauto
  · obtain ⟨label, step, hslider⟩ := Device.exists_slider (hsuits.classify_eq hclass) hplain
    refine iff_of_true ⟨_, hslider, .slider hlow hhigh⟩ ?_
    rintro ⟨hcover, hreports, -⟩
    exact hplain ⟨hcover, hreports⟩

theorem level?_compile_of_supports_hall :
    Draft.read (Draft.levelRequest .position "cover.hall" 42) =
        .valid (Draft.ofLevel .position "cover.hall" 42) ∧
      ∃ q, ((Draft.ofLevel .position "cover.hall" 42).compile "half").action?.bind Item.level? =
          some q ∧
        ∃ spec ∈ standard.actions hallCover .automation, spec.Offers q := by
  have hread := Draft.read_levelRequest .position "cover.hall" 42 rfl (by decide)
  have hsupports : standard.supportsAction hallCover
      (Draft.ofLevel .position "cover.hall" 42).action = true := by decide +kernel
  obtain ⟨q, hq, hiff⟩ := level?_compile_of_supports standard hread rfl hsupports "half"
  refine ⟨hread, q, hq, hiff.2 ?_⟩
  rintro ⟨-, hreports, -⟩
  exact absurd hreports (by decide)

/-- A garage door that can be opened and closed is sent to a position between. -/
theorem not_level?_offered_garage : ¬ ∀ (r : Registry) (d : Device) (raw : Value) (draft : Draft)
    (id : String), Draft.read raw = .valid draft → draft.action.number?.isSome = true →
      r.supportsAction d draft.action = true →
        ∃ q, (draft.compile id).action?.bind Item.level? = some q ∧
          ∃ spec ∈ r.actions d .automation, spec.Offers q := by
  intro hall
  have hread := Draft.read_levelRequest .position "cover.garage" 42 rfl (by decide)
  have hsupports : standard.supportsAction (.bare "cover.garage")
      (Draft.ofLevel .position "cover.garage" 42).action = true := by decide +kernel
  obtain ⟨q, hq, spec, hspec, hoffers⟩ :=
    hall standard (.bare "cover.garage") _ _ "half" hread rfl hsupports
  have hlevel : ((Draft.ofLevel .position "cover.garage" 42).compile "half").action?.bind
      Item.level? = some 42 := by
    decide +kernel
  rw [hlevel] at hq
  obtain rfl := Option.some.inj hq
  have hplain : (Device.bare "cover.garage").IsPlainCover := ⟨by decide +kernel, by decide +kernel⟩
  obtain h | h := (Device.offers_plainCover_iff hplain).1 ⟨spec, (mem_actions.1 hspec).2, hoffers⟩
  · exact absurd h (by decide)
  · exact absurd h (by decide)

end Registry

end HomePortal
