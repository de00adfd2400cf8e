import HomePortal.Proofs.Portal.Effects
import HomePortal.Proofs.Portal.Prepare
/-!
Scope safety over a hub in memory: no call of a run changes an automation that its caller may not
edit, or stores a config that refers to an entity outside the caller's scope.
-/

namespace HomePortal

namespace Memory

inductive Edit (scope : Scope) (minted : Option String) (m m' : Memory) : Prop
  | kept (h : m' = m)
  | added (id : String) (a : Automation) (hid : minted = some id)
      (hothers : ∀ key, key ≠ id → m'.find? key = m.find? key) (ha : m'.find? id = some a)
      (hallows : scope.allows a.config.references = true)
  | changed (id : String) (a : Automation) (ha : m.find? id = some a)
      (hedit : scope.canEdit a.config.references = true)
      (hothers : ∀ key, key ≠ id → m'.find? key = m.find? key)
      (hnew : ∀ b, m'.find? id = some b →
        b.config = a.config ∨ scope.allows b.config.references = true)

/-- A step is safe for the scope of its caller. -/
structure Safe (scope : Scope) (m m' : Memory) : Prop where
  unchanged : ∀ key a, m.find? key = some a → scope.canEdit a.config.references = false →
    m'.find? key = some a
  inScope : ∀ key b, m'.find? key = some b → (∃ a, m.find? key = some a ∧ a.config = b.config) ∨
    ∀ e ∈ b.config.references.all, e ∈ scope.entities

variable {m m' : Memory} {scope : Scope} {minted : Option String}

theorem Edit.safe (h : Edit scope minted m m')
    (hfresh : ∀ id, minted = some id → m.find? id = none) : Safe scope m m' := by
  cases h with
  | kept h =>
    subst h
    exact ⟨fun _ _ ha _ => ha, fun _ b hb => .inl ⟨b, hb, rfl⟩⟩
  | added id a hid hothers ha hallows =>
    constructor
    · intro key b hb _
      -- Only a fresh id keeps what is stored from being written over.
      have hkey : key ≠ id := by
        intro heq
        subst heq
        rw [hfresh key hid] at hb
        cases hb
      rw [hothers key hkey, hb]
    · intro key b hb
      by_cases hkey : key = id
      · subst hkey
        obtain rfl : a = b := Option.some.inj (ha.symm.trans hb)
        exact .inr (EntitySet.within_iff.1 hallows)
      · rw [hothers key hkey] at hb
        exact .inl ⟨b, hb, rfl⟩
  | changed id a ha hedit hothers hnew =>
    constructor
    · intro key b hb hnot
      have hkey : key ≠ id := by
        intro heq
        subst heq
        obtain rfl : a = b := Option.some.inj (ha.symm.trans hb)
        rw [hedit] at hnot
        cases hnot
      rw [hothers key hkey, hb]
    · intro key b hb
      by_cases hkey : key = id
      · subst hkey
        cases hnew b hb with
        | inl heq => exact .inl ⟨a, ha, heq.symm⟩
        | inr hallows => exact .inr (EntitySet.within_iff.1 hallows)
      · rw [hothers key hkey] at hb
        exact .inl ⟨b, hb, rfl⟩

theorem Effect.edit (h : Effect scope minted m m') : Edit scope minted m m' := by
  cases h with
  | kept h => exact .kept h
  | added id a hid hcompiles h =>
    rw [h]
    refine .added id a hid (fun key hkey => ?_) ?_ hcompiles.allowed
    · rw [find?_put, if_neg hkey]
    · rw [find?_put, if_pos rfl]
  | replaced id a b ha hedit hcompiles h =>
    rw [h]
    refine .changed id a ha hedit (fun key hkey => ?_) fun c hc => .inr ?_
    · rw [find?_put, if_neg hkey]
    · rw [find?_put, if_pos rfl] at hc
      rw [← Option.some.inj hc]
      exact hcompiles.allowed
  | switched id a flag ha hedit h =>
    rw [h]
    refine .changed id a ha hedit (fun key hkey => ?_) fun c hc => .inl ?_
    · rw [find?_put, if_neg hkey]
    · rw [find?_put, if_pos rfl] at hc
      rw [← Option.some.inj hc]
  | removed id a ha hedit h =>
    rw [h]
    refine .changed id a ha hedit (fun key hkey => ?_) fun c hc => ?_
    · rw [find?_remove, if_neg hkey]
    · rw [find?_remove, if_pos rfl] at hc
      cases hc

end Memory

namespace Portal

def standard : Portal :=
  ⟨AutomationId.defaultMark, .standard⟩

end Portal

structure Call where
  scope : Scope
  request : Request
  token : Nat

namespace Memory

def after (p : Portal) (m : Memory) (call : Call) : Memory :=
  ((p.answer hub call.scope call.request).run ⟨m, call.token⟩).2.hub

/-- What holds of each step of a run: of what is stored before it, the call, and what is stored
after it. -/
def EachStep (p : Portal) (P : Memory → Call → Memory → Prop) : Memory → List Call → Prop
  | _, [] => True
  | m, call :: rest => P m call (after p m call) ∧ EachStep p P (after p m call) rest

def IsFresh (p : Portal) (m : Memory) (call : Call) : Prop :=
  ∀ id, p.minted call.token call.request = some id → m.find? id = none

theorem safe_after {p : Portal} {m : Memory} {call : Call} (hfresh : IsFresh p m call) :
    Safe call.scope m (after p m call) :=
  (Portal.effect_answer p call.scope ⟨m, call.token⟩ call.request).edit.safe hfresh

/-- In every run of fresh ids, each step is safe for the scope of its caller. -/
theorem eachStep_safe {p : Portal} {m : Memory} {calls : List Call}
    (hfresh : EachStep p (fun m call _ => IsFresh p m call) m calls) :
    EachStep p (fun m call m' => Safe call.scope m m') m calls := by
  induction calls generalizing m with
  | nil => trivial
  | cons call rest ih => exact ⟨safe_after hfresh.1, ih hfresh.2⟩

/-- What no caller of a run may edit is there after it as it was before. -/
theorem find?_foldl_after {p : Portal} {m : Memory} {calls : List Call} {key : String}
    {a : Automation} (hfresh : EachStep p (fun m call _ => IsFresh p m call) m calls)
    (ha : m.find? key = some a)
    (hnot : ∀ call ∈ calls, call.scope.canEdit a.config.references = false) :
    (calls.foldl (after p) m).find? key = some a := by
  induction calls generalizing m with
  | nil => exact ha
  | cons call rest ih =>
    have hstep := (safe_after hfresh.1).unchanged key a ha (hnot call List.mem_cons_self)
    exact ih hfresh.2 hstep fun later hlater => hnot later (List.mem_cons_of_mem call hlater)

def kitchen : Memory :=
  [("monthly", ⟨none, true, Config.monthly⟩)]

def kitchenCalls : List Call :=
  [⟨⟨.tenant, EntitySet.ofList ["binary_sensor.door", "light.kitchen"]⟩,
      .create Portal.doorRequest none, 0⟩,
    ⟨⟨.tenant, EntitySet.ofList ["light.hall"]⟩, .delete "monthly", 0⟩]

theorem eachStep_safe_kitchen :
    EachStep .standard (fun m call _ => IsFresh .standard m call) kitchen kitchenCalls ∧
      EachStep .standard (fun m call m' => Safe call.scope m m') kitchen kitchenCalls := by
  have hfresh : EachStep .standard (fun m call _ => IsFresh .standard m call)
      kitchen kitchenCalls := by
    refine ⟨fun id hid => ?_, nofun, trivial⟩
    have hminted : Portal.standard.minted 0 (.create Portal.doorRequest none) =
      some "portal_00000000000000000000000000000000" := by decide +kernel
    obtain rfl := Option.some.inj (hminted.symm.trans hid)
    decide +kernel
  exact ⟨hfresh, eachStep_safe hfresh⟩

end Memory

end HomePortal
