import HomePortal.Proofs.Portal.Editable
import HomePortal.Proofs.Portal.Effects
import HomePortal.Proofs.Portal.Listing
/-!
Tenants whose scopes have no entity in common. Whatever one of them asks for, the other sees the
same automations in the same order, apart from those that name nothing: no entity and nothing
unseen. Both may change these.
-/

namespace HomePortal

/-- No entity is named, and there is nothing that may reach one unseen. -/
def References.NamesNothing (r : References) : Prop :=
  (∀ e, e ∉ r.all) ∧ r.hasTemplates = false

namespace Memory

/-- The automations that are shown, before and after the calls of another caller. -/
inductive Spares : List Automation → List Automation → Prop
  | nil : Spares [] []
  | kept (a : Automation) {xs ys : List Automation} (h : Spares xs ys) : Spares (a :: xs) (a :: ys)
  | switched (a : Automation) (flag : Bool) {xs ys : List Automation}
      (ha : a.config.references.NamesNothing) (h : Spares xs ys) :
      Spares (a :: xs) ({ a with enabled := flag } :: ys)
  | lost (a : Automation) {xs ys : List Automation} (ha : a.config.references.NamesNothing)
      (h : Spares xs ys) : Spares (a :: xs) ys

namespace Spares

variable {xs ys zs : List Automation}

theorem refl (xs : List Automation) : Spares xs xs := by
  induction xs with
  | nil => exact .nil
  | cons a rest ih => exact .kept a ih

theorem trans (h : Spares xs ys) (h' : Spares ys zs) : Spares xs zs := by
  induction h generalizing zs with
  | nil => exact h'
  | kept a _ ih =>
    cases h' with
    | kept _ h' => exact .kept a (ih h')
    | switched _ flag ha h' => exact .switched a flag ha (ih h')
    | lost _ ha h' => exact .lost a ha (ih h')
  | switched a flag ha _ ih =>
    cases h' with
    | kept _ h' => exact .switched a flag ha (ih h')
    | switched _ flag' _ h' => exact .switched a flag' ha (ih h')
    | lost _ _ h' => exact .lost a ha (ih h')
  | lost a ha _ ih => exact .lost a ha (ih h')

/-- A change in one place. -/
theorem between (before after : List Automation) (h : Spares xs ys) :
    Spares (before ++ xs ++ after) (before ++ ys ++ after) := by
  induction before with
  | cons a rest ih => exact .kept a ih
  | nil =>
    induction h with
    | nil => exact refl after
    | kept a _ ih => exact .kept a ih
    | switched a flag ha _ ih => exact .switched a flag ha ih
    | lost a ha _ ih => exact .lost a ha ih

theorem eq_of_forall (h : Spares xs ys)
    (hxs : ∀ a ∈ xs, ¬ a.config.references.NamesNothing) : ys = xs := by
  induction h with
  | nil => rfl
  | kept a _ ih => rw [ih fun b hb => hxs b (List.mem_cons_of_mem a hb)]
  | switched a _ ha | lost a ha => exact absurd ha (hxs a List.mem_cons_self)

end Spares

variable {p : Portal} {A B : Scope} {m m' : Memory} {minted : Option String}
  {calls : List Call}

/-- What one caller compiles names an entity that the other does not have. -/
theorem not_sees_of_compiles {c : Config} (hA : A.role = .tenant)
    (hdisjoint : ∀ e ∈ A.entities, e ∉ B.entities) (h : B.Compiles c) :
    A.sees c.references = false := by
  obtain ⟨e, hmem, hB⟩ := h.exists_mem
  have hnot : A.allows c.references = false := by
    rw [← Bool.not_eq_true]
    intro hallows
    exact hdisjoint e (EntitySet.within_iff.1 hallows e hmem) hB
  rw [Scope.sees, Scope.isAdmin, hA, hnot]
  rfl

/-- What one caller sees and the other may change names nothing. -/
theorem namesNothing_of_sees {r : References} (hA : A.role = .tenant)
    (hdisjoint : ∀ e ∈ A.entities, e ∉ B.entities) (hsees : A.sees r = true)
    (hedit : B.canEdit r = true) : r.NamesNothing := by
  have hallows : A.allows r = true := by
    rw [Scope.sees, Scope.isAdmin, hA] at hsees
    simpa using hsees
  rw [Scope.canEdit, Bool.and_eq_true, Bool.not_eq_true'] at hedit
  refine ⟨fun e he => ?_, hedit.2⟩
  exact hdisjoint e (EntitySet.within_iff.1 hallows e he) (EntitySet.within_iff.1 hedit.1 e he)

theorem spares_put {id : String} {a b : Automation} {entity : Option String}
    (hkeys : (m.map (·.1)).Nodup) (ha : m.find? id = some a)
    (h : Spares (shown [(id, a)] A entity) (shown [(id, b)] A entity)) :
    Spares (m.shown A entity) ((m.put id b).shown A entity) := by
  obtain ⟨before, after, hm, hput, -⟩ := exists_split hkeys ha
  have hsplit (c : Automation) : shown (before ++ (id, c) :: after) A entity =
      before.shown A entity ++ shown [(id, c)] A entity ++ after.shown A entity := by
    rw [← shown_append, ← shown_append, List.append_assoc]
    rfl
  rw [hput, hm, hsplit, hsplit]
  exact h.between _ _

theorem spares_remove {id : String} {a : Automation} {entity : Option String}
    (hkeys : (m.map (·.1)).Nodup) (ha : m.find? id = some a)
    (h : Spares (shown [(id, a)] A entity) []) :
    Spares (m.shown A entity) ((m.remove id).shown A entity) := by
  obtain ⟨before, after, hm, -, hremove⟩ := exists_split hkeys ha
  have hbetween := h.between (before.shown A entity) (after.shown A entity)
  rw [List.append_nil, ← shown_append, ← shown_append, ← shown_append, List.append_assoc]
    at hbetween
  rw [hremove, hm]
  exact hbetween

/-- Each call of the other caller spares what is shown. -/
theorem Effect.spares (h : Effect B minted m m') (hA : A.role = .tenant)
    (hdisjoint : ∀ e ∈ A.entities, e ∉ B.entities) (hkeys : (m.map (·.1)).Nodup)
    (hfresh : ∀ id, minted = some id → m.find? id = none) (entity : Option String) :
    Spares (m.shown A entity) (m'.shown A entity) := by
  have hhidden (id : String) {b : Automation} (hb : B.Compiles b.config) :
      shown [(id, b)] A entity = [] := by
    simp [shown, not_sees_of_compiles hA hdisjoint hb]
  have hlost (id : String) {a : Automation} (hedit : B.canEdit a.config.references = true) :
      Spares (shown [(id, a)] A entity) [] := by
    cases shown_single_cases id a A entity with
    | inl hnone =>
      rw [hnone]
      exact .nil
    | inr hshown =>
      rw [hshown.1]
      exact .lost a (namesNothing_of_sees hA hdisjoint hshown.2 hedit) .nil
  cases h with
  | kept h =>
    rw [h]
    exact .refl _
  | added id a hid hcompiles h =>
    rw [h, put_of_none (hfresh id hid), shown_append, hhidden id hcompiles, List.append_nil]
    exact .refl _
  | replaced id a b ha hedit hcompiles h =>
    rw [h]
    apply spares_put hkeys ha
    rw [hhidden id hcompiles]
    exact hlost id hedit
  | switched id a flag ha hedit h =>
    rw [h]
    apply spares_put hkeys ha
    cases shown_single_cases id a A entity with
    | inl hnone =>
      have hnone' : shown [(id, { a with enabled := flag })] A entity = [] := by
        simpa [shown] using hnone
      rw [hnone, hnone']
      exact .nil
    | inr hshown =>
      have hshown' : shown [(id, { a with enabled := flag })] A entity =
          [{ a with enabled := flag }] := by
        simpa [shown] using hshown.1
      rw [hshown.1, hshown']
      exact .switched a flag (namesNothing_of_sees hA hdisjoint hshown.2 hedit) .nil
  | removed id a ha hedit h =>
    rw [h]
    exact spares_remove hkeys ha (hlost id hedit)

theorem Effect.nodup (h : Effect B minted m m') (hkeys : (m.map (·.1)).Nodup) :
    (m'.map (·.1)).Nodup := by
  cases h with
  | kept h =>
    rw [h]
    exact hkeys
  | added id a _ _ h | replaced id _ a _ _ _ h =>
    rw [h]
    exact nodup_put hkeys
  | switched id a flag _ _ h =>
    rw [h]
    exact nodup_put hkeys
  | removed id _ _ _ h =>
    rw [h]
    exact nodup_remove hkeys id

/-- So does every run of such calls. -/
theorem spares_foldl_after (hA : A.role = .tenant)
    (hdisjoint : ∀ e ∈ A.entities, e ∉ B.entities) (hkeys : (m.map (·.1)).Nodup)
    (hB : ∀ call ∈ calls, call.scope = B)
    (hfresh : EachStep p (fun m call _ => IsFresh p m call) m calls) (entity : Option String) :
    Spares (m.shown A entity) ((calls.foldl (after p) m).shown A entity) := by
  induction calls generalizing m with
  | nil => exact .refl _
  | cons call rest ih =>
    have heffect : Effect B (p.minted call.token call.request) m (after p m call) := by
      rw [← hB call List.mem_cons_self]
      exact Portal.effect_answer p call.scope ⟨m, call.token⟩ call.request
    have hstep := heffect.spares hA hdisjoint hkeys hfresh.1 entity
    exact hstep.trans (ih (heffect.nodup hkeys)
      (fun later hlater => hB later (List.mem_cons_of_mem call hlater)) hfresh.2)

end Memory

namespace Portal

open Memory (EachStep IsFresh Spares after)

variable {p : Portal} {A B : Scope} {m : Memory} {calls : List Call}

/-- A tenant sees the same before and after any calls of a caller who has none of the tenant's
entities, and nothing new. Only what names nothing may be switched or lost on the way. -/
theorem list_spared (hA : A.role = .tenant) (hdisjoint : ∀ e ∈ A.entities, e ∉ B.entities)
    (hkeys : (m.map (·.1)).Nodup) (hB : ∀ call ∈ calls, call.scope = B)
    (hfresh : EachStep p (fun m call _ => IsFresh p m call) m calls) (entity : Option String)
    (token token' : Nat) :
    (list Memory.hub A entity).run ⟨m, token⟩ =
        (.ok ((m.shown A entity).map (·.row A)), ⟨m, token⟩) ∧
      (list Memory.hub A entity).run ⟨calls.foldl (after p) m, token'⟩ =
        (.ok (((calls.foldl (after p) m).shown A entity).map (·.row A)),
          ⟨calls.foldl (after p) m, token'⟩) ∧
      Spares (m.shown A entity) ((calls.foldl (after p) m).shown A entity) ∧
      ((∀ a ∈ m.shown A entity, ¬ a.config.references.NamesNothing) →
        (calls.foldl (after p) m).shown A entity = m.shown A entity) := by
  have hspares := Memory.spares_foldl_after hA hdisjoint hkeys hB hfresh entity
  exact ⟨run_list A entity ⟨m, token⟩, run_list A entity ⟨_, token'⟩, hspares,
    hspares.eq_of_forall⟩

def hallTenant : Scope :=
  ⟨.tenant, EntitySet.ofList ["light.hall", "binary_sensor.door"]⟩

theorem disjoint_hall : ∀ e ∈ kitchenTenant.entities, e ∉ hallTenant.entities := by
  change ∀ e ∈ ["light.kitchen"], e ∉ hallTenant.entities
  decide

def hallRequest : Value :=
  .record [("alias", .text "Hall"),
    ("trigger", .record [("type", .text "state"), ("entityId", .text "binary_sensor.door")]),
    ("action", .record [("type", .text "turn_on"), ("entityId", .text "light.hall")])]

def hallCalls : List Call :=
  [⟨hallTenant, .create hallRequest none, 0⟩, ⟨hallTenant, .delete "evening", 0⟩,
    ⟨hallTenant, .delete "morning", 0⟩]

theorem isFresh_hallCalls (m : Memory) (hm : m.find? firstId = none) :
    EachStep standard (fun m call _ => IsFresh standard m call) m hallCalls := by
  refine ⟨fun id hid => ?_, nofun, nofun, trivial⟩
  have hminted : AutomationId.choose? none standard.mark 0 = some firstId := by decide +kernel
  obtain rfl := Option.some.inj (hminted.symm.trans hid)
  exact hm

theorem list_spared_hall : kitchenTenant.role = .tenant ∧
    (∀ e ∈ kitchenTenant.entities, e ∉ hallTenant.entities) ∧
    ((evenings ++ morning).map (·.1)).Nodup ∧ (∀ call ∈ hallCalls, call.scope = hallTenant) ∧
    EachStep standard (fun m call _ => IsFresh standard m call) (evenings ++ morning) hallCalls ∧
    Spares ((evenings ++ morning).shown kitchenTenant none)
      ((hallCalls.foldl (after standard) (evenings ++ morning)).shown kitchenTenant none) := by
  have hkeys : ((evenings ++ morning).map (·.1)).Nodup := by decide
  have hB : ∀ call ∈ hallCalls, call.scope = hallTenant := by simp [hallCalls]
  have hfresh := isFresh_hallCalls (evenings ++ morning) (by decide +kernel)
  exact ⟨rfl, disjoint_hall, hkeys, hB, hfresh,
    (list_spared rfl disjoint_hall hkeys hB hfresh none 0 0).2.2.1⟩

/-- A tenant loses from sight what another one removes. -/
theorem not_list_isolated_morning : ¬ ∀ (m : Memory) (A B : Scope) (calls : List Call)
    (entity : Option String), m.IsKeyed → A.role = .tenant → B.role = .tenant →
    (∃ e, e ∈ A.entities) → (∃ e, e ∈ B.entities) → (∀ e ∈ A.entities, e ∉ B.entities) →
    (∀ call ∈ calls, call.scope = B) →
    EachStep standard (fun m call _ => IsFresh standard m call) m calls →
    ((list Memory.hub A entity).run ⟨calls.foldl (after standard) m, 0⟩).1 =
      ((list Memory.hub A entity).run ⟨m, 0⟩).1 := by
  intro hall
  have hsame := hall morning kitchenTenant hallTenant [⟨hallTenant, .delete "morning", 0⟩] none
    isKeyed_morning rfl rfl ⟨"light.kitchen", by decide⟩ ⟨"light.hall", by decide⟩
    disjoint_hall (by simp) ⟨nofun, trivial⟩
  have hlength := congrArg (fun outcome => outcome.toOption.map List.length) hsame
  exact absurd hlength (by decide +kernel)

end Portal

end HomePortal
