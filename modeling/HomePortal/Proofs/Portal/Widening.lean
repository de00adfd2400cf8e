import HomePortal.Proofs.Portal.Addressing
import HomePortal.Proofs.Scope
import Mathlib.Data.List.Forall2
/-!
Wider scopes. A call that succeeds for a caller succeeds in the same way for one who holds more
entities, or who is an administrator in a tenant's place. A listing shows such a caller the same
rows and maybe others between them.
-/

namespace HomePortal

/-- A scope holds what another one holds, and its role is the same or the wider one. -/
structure Scope.Within (A B : Scope) : Prop where
  role : A.role = B.role ∨ A.role = .tenant ∧ B.role = .admin
  entities : ∀ e ∈ A.entities, e ∈ B.entities

namespace Scope.Within

variable {A B : Scope} {r : References}

theorem isAdmin (h : A.Within B) (hA : A.isAdmin = true) : B.isAdmin = true := by
  rw [Scope.isAdmin, beq_iff_eq] at hA ⊢
  cases h.role with
  | inl heq => rw [← heq, hA]
  | inr hroles => exact hroles.2

theorem allows (h : A.Within B) (hA : A.allows r = true) : B.allows r = true := by
  rw [Scope.allows, EntitySet.within_iff] at hA ⊢
  exact fun e he => h.entities e (hA e he)

theorem canEdit (h : A.Within B) (hA : A.canEdit r = true) : B.canEdit r = true := by
  rw [Scope.canEdit, Bool.and_eq_true] at hA ⊢
  exact ⟨h.allows hA.1, hA.2⟩

theorem sees (h : A.Within B) (hA : A.sees r = true) : B.sees r = true := by
  rw [Scope.sees, Bool.or_eq_true] at hA ⊢
  exact hA.imp h.isAdmin h.allows

theorem authorizeEdit (h : A.Within B) (hA : A.authorizeEdit r = .ok ()) :
    B.authorizeEdit r = .ok () :=
  Portal.authorizeEdit_eq_ok.2 (h.canEdit (Portal.authorizeEdit_eq_ok.1 hA))

/-- A wider scope holds something if the other one does, so it manages what the other one does. -/
theorem authorizeManage (h : A.Within B) (hA : A.authorizeManage = .ok ()) :
    B.authorizeManage = .ok () := by
  apply authorizeManage_of_not
  intro hB
  have hAnothing : A.HoldsNothing := by
    refine ⟨?_, fun e he => hB.2 e (h.entities e he)⟩
    cases h.role with
    | inl heq => rw [heq, hB.1]
    | inr hroles => exact hroles.1
  rw [authorizeManage_of_holdsNothing hAnothing] at hA
  cases hA

end Scope.Within

/-! ### Rows -/

structure ListItem.Widens (a b : ListItem) : Prop where
  same : b = { a with canEdit := b.canEdit }
  canEdit : a.canEdit = true → b.canEdit = true

def ListItem.Shown (rows others : List ListItem) : Prop :=
  ∃ picked, picked.Sublist others ∧ List.Forall₂ ListItem.Widens rows picked

theorem Automation.row_widens {A B : Scope} (h : A.Within B) (a : Automation) :
    (a.row A).Widens (a.row B) :=
  ⟨rfl, h.canEdit⟩

theorem shown_listing {A B : Scope} (h : A.Within B) (entity : Option String)
    (automations : List Automation) :
    ListItem.Shown (listing A entity automations) (listing B entity automations) := by
  let isShown (scope : Scope) (a : Automation) : Bool :=
    scope.sees a.config.references && entity.all a.config.references.mayActOn
  have hkept : ∀ a, isShown A a = true → isShown B a = true := by
    intro a ha
    rw [Bool.and_eq_true] at ha ⊢
    exact ⟨h.sees ha.1, ha.2⟩
  refine ⟨(automations.filter (isShown A)).map (·.row B), ?_, ?_⟩
  · exact (List.monotone_filter_right automations hkept).map (·.row B)
  · rw [listing, List.forall₂_map_left_iff, List.forall₂_map_right_iff, List.forall₂_same]
    exact fun a _ => a.row_widens h

/-- What a call answers in a wider scope: the rows and maybe others, or just the same. -/
inductive Reply.Widens : Reply → Reply → Prop
  | items {rows others : List ListItem} (h : ListItem.Shown rows others) :
    Widens (.items rows) (.items others)
  | id (id : String) : Widens (.id id) (.id id)
  | done : Widens .done .done
  | prepared (r : Prepared) : Widens (.prepared r) (.prepared r)

/-! ### Calls -/

namespace Portal

variable {σ α β : Type} {h : Hub σ} {p : Portal} {A B : Scope} {s t : Session σ}

def Follows (x y : PortalM σ α) : Prop :=
  ∀ s a t, x.run s = (.ok a, t) → y.run s = (.ok a, t)

namespace Follows

theorem refl (x : PortalM σ α) : Follows x x :=
  fun _ _ _ hx => hx

theorem bind {x y : PortalM σ α} {f g : α → PortalM σ β} (hxy : Follows x y)
    (hfg : ∀ a, Follows (f a) (g a)) : Follows (x >>= f) (y >>= g) := by
  intro s b t hrun
  obtain ⟨a, u, hx, hf⟩ := run_bind_eq_ok.1 hrun
  exact run_bind_eq_ok.2 ⟨a, u, hxy s a u hx, hfg a u b t hf⟩

theorem denied {check check' : Except Denial Unit} (hcheck : check = .ok () → check' = .ok ()) :
    Follows (denied check : PortalM σ Unit) (denied check') := by
  intro s u t hrun
  obtain ⟨hok, hsame⟩ := run_denied_eq_ok.1 hrun
  exact run_denied_eq_ok.2 ⟨hcheck hok, hsame⟩

end Follows

theorem follows_prepare (p : Portal) (hAB : A.Within B) (raw : Value) (existing : Option String)
    (devices : Option (List Device)) :
    Follows (p.prepare raw A existing devices : PortalM σ Prepared)
      (p.prepare raw B existing devices) := by
  intro s r t hrun
  rw [run_prepare] at hrun ⊢
  cases hread : readDraft raw with
  | error e =>
    rw [hread] at hrun
    cases (Prod.mk.inj hrun).1
  | ok d =>
    rw [hread] at hrun
    obtain ⟨hfinish, rfl⟩ := Prod.mk.inj hrun
    obtain ⟨hcompile, hallows, hchecked, hdraft⟩ := finish_eq_ok.1 hfinish
    have hwider := finish_eq_ok.2 ⟨hcompile, hAB.allows hallows, hchecked, hdraft⟩
    exact congrArg (fun outcome => (outcome, _)) hwider

theorem follows_authorizeStored (h : Hub σ) (hAB : A.Within B) (id : String) :
    Follows (authorizeStored h id A) (authorizeStored h id B) := by
  apply (Follows.refl _).bind
  intro a
  exact Follows.denied hAB.authorizeEdit

theorem follows_create (p : Portal) (h : Hub σ) (hAB : A.Within B) (raw : Value)
    (devices : Option (List Device)) :
    Follows (p.create h raw A devices) (p.create h raw B devices) := by
  apply (follows_prepare p hAB raw none devices).bind
  intro r
  exact .refl _

theorem follows_update (p : Portal) (h : Hub σ) (hAB : A.Within B) (id : String) (raw : Value)
    (devices : Option (List Device)) :
    Follows (p.update h id raw A devices) (p.update h id raw B devices) := by
  apply (Follows.refl _).bind
  intro _
  apply (follows_prepare p hAB raw (some id) devices).bind
  intro r
  apply (follows_authorizeStored h hAB r.config.id).bind
  intro _
  exact .refl _

theorem follows_guarded (h : Hub σ) (hAB : A.Within B) (id : String) (rest : PortalM σ Unit) :
    Follows (denied A.authorizeManage >>= fun _ => authorizeStored h id A >>= fun _ => rest)
      (denied B.authorizeManage >>= fun _ => authorizeStored h id B >>= fun _ => rest) := by
  apply (Follows.denied hAB.authorizeManage).bind
  intro _
  apply (follows_authorizeStored h hAB id).bind
  intro _
  exact .refl _

theorem follows_delete (h : Hub σ) (hAB : A.Within B) (id : String) :
    Follows (delete h id A) (delete h id B) := by
  apply (Follows.refl _).bind
  intro _
  exact follows_guarded h hAB id _

theorem follows_setEnabled (h : Hub σ) (hAB : A.Within B) (id : String) (enabled : Value) :
    Follows (setEnabled h id enabled A) (setEnabled h id enabled B) := by
  apply (Follows.refl _).bind
  intro _
  split
  · exact follows_guarded h hAB id _
  · exact .refl _

/-- What succeeds for a caller succeeds in a wider scope, over any hub: the hub receives the same
calls and is left in the same state, and the answer is the same. A listing shows the same rows
and maybe others between them; a row may only come to be one that can be changed. -/
theorem answer_widens {σ : Type} {h : Hub σ} {s t : Session (Recorded σ)} (hAB : A.Within B)
    {request : Request} {reply : Reply}
    (hrun : (p.answer h.recorded A request).run s = (.ok reply, t)) :
    ∃ other, (p.answer h.recorded B request).run s = (.ok other, t) ∧ reply.Widens other := by
  cases request with
  | list entity =>
    obtain ⟨rows, hlist, rfl⟩ := run_map_eq_ok.1 hrun
    obtain ⟨automations, u, hhub, hpure⟩ := run_bind_eq_ok.1 hlist
    obtain ⟨hrows, rfl⟩ := Prod.mk.inj hpure
    obtain rfl := Except.ok.inj hrows
    have hother : (list h.recorded B entity).run s = (.ok (listing B entity automations), u) :=
      run_bind_eq_ok.2 ⟨automations, u, hhub, rfl⟩
    exact ⟨_, run_map_eq_ok.2 ⟨_, hother, rfl⟩, .items (shown_listing hAB entity automations)⟩
  | create raw devices =>
    obtain ⟨id, hcreate, rfl⟩ := run_map_eq_ok.1 hrun
    have hother := follows_create p h.recorded hAB raw devices s id t hcreate
    exact ⟨_, run_map_eq_ok.2 ⟨id, hother, rfl⟩, .id id⟩
  | update id raw devices =>
    obtain ⟨i, hupdate, rfl⟩ := run_map_eq_ok.1 hrun
    have hother := follows_update p h.recorded hAB id raw devices s i t hupdate
    exact ⟨_, run_map_eq_ok.2 ⟨i, hother, rfl⟩, .id i⟩
  | delete id =>
    obtain ⟨u, hdelete, rfl⟩ := run_map_eq_ok.1 hrun
    have hother := follows_delete h.recorded hAB id s u t hdelete
    exact ⟨_, run_map_eq_ok.2 ⟨u, hother, rfl⟩, .done⟩
  | setEnabled id enabled =>
    obtain ⟨u, hset, rfl⟩ := run_map_eq_ok.1 hrun
    have hother := follows_setEnabled h.recorded hAB id enabled s u t hset
    exact ⟨_, run_map_eq_ok.2 ⟨u, hother, rfl⟩, .done⟩
  | prepare raw existing devices =>
    obtain ⟨r, hprepare, rfl⟩ := run_map_eq_ok.1 hrun
    have hother := follows_prepare p hAB raw existing devices s r t hprepare
    exact ⟨_, run_map_eq_ok.2 ⟨r, hother, rfl⟩, .prepared r⟩

def houseAdmin : Scope :=
  ⟨.admin, EntitySet.ofList ["light.kitchen", "light.hall"]⟩

theorem kitchenTenant_within_houseAdmin : kitchenTenant.Within houseAdmin := by
  refine ⟨.inr ⟨rfl, rfl⟩, ?_⟩
  change ∀ e ∈ ["light.kitchen"], e ∈ houseAdmin.entities
  decide

theorem answer_widens_evenings : kitchenTenant.Within houseAdmin ∧ ∃ reply t other,
    (standard.answer Memory.hub.recorded kitchenTenant (.setEnabled "Evening" (.bool false))).run
      ⟨⟨evenings, []⟩, 0⟩ = (.ok reply, t) ∧
    (standard.answer Memory.hub.recorded houseAdmin (.setEnabled "Evening" (.bool false))).run
      ⟨⟨evenings, []⟩, 0⟩ = (.ok other, t) ∧ reply.Widens other := by
  have hrun : ∃ reply t, (standard.answer Memory.hub.recorded kitchenTenant
      (.setEnabled "Evening" (.bool false))).run ⟨⟨evenings, []⟩, 0⟩ = (.ok reply, t) :=
    ⟨_, _, rfl⟩
  obtain ⟨reply, t, hrun⟩ := hrun
  obtain ⟨other, hother, hwidens⟩ := answer_widens kitchenTenant_within_houseAdmin hrun
  exact ⟨kitchenTenant_within_houseAdmin, reply, t, other, hrun, hother, hwidens⟩

end Portal

end HomePortal
