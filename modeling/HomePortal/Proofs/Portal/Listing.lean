import HomePortal.Proofs.Portal.Addressing
import HomePortal.Proofs.Scope
/-!
What a listing over a hub in memory shows, and what its `canEdit` says: the calls that remove and
switch an automation succeed where it is true and the caller holds any entity, and else are denied.
-/

namespace HomePortal

namespace Memory

def shown (m : Memory) (scope : Scope) (entity : Option String) : List Automation :=
  (m.map (·.2)).filter fun a =>
    scope.sees a.config.references && entity.all a.config.references.mayActOn

variable {m : Memory} {scope : Scope} {entity : Option String} {a : Automation}

theorem mem_shown (h : a ∈ m.shown scope entity) : ∃ key, (key, a) ∈ m := by
  have hmem := (List.mem_filter.1 h).1
  obtain ⟨⟨key, b⟩, hb, rfl⟩ := List.mem_map.1 hmem
  exact ⟨key, hb⟩

theorem shown_append (m m' : Memory) (scope : Scope) (entity : Option String) :
    shown (m ++ m') scope entity = m.shown scope entity ++ m'.shown scope entity := by
  simp [shown]

theorem shown_single_cases (id : String) (a : Automation) (scope : Scope)
    (entity : Option String) : shown [(id, a)] scope entity = [] ∨
      shown [(id, a)] scope entity = [a] ∧ scope.sees a.config.references = true := by
  by_cases h : (scope.sees a.config.references && entity.all a.config.references.mayActOn) = true
  · exact .inr ⟨List.filter_cons_of_pos h, (Bool.and_eq_true_iff.1 h).1⟩
  · exact .inl (List.filter_cons_of_neg h)

end Memory

namespace Portal

variable {id : String} {scope : Scope} {s : Session Memory} {a : Automation} {d : Denial}

theorem run_list (scope : Scope) (entity : Option String) (s : Session Memory) :
    (list Memory.hub scope entity).run s =
      (.ok ((s.hub.shown scope entity).map (·.row scope)), s) :=
  rfl

/-- The checks before a stored automation is removed or switched, and what follows them. -/
theorem run_guarded_denied {x : PortalM Memory Unit} (hne : id ≠ "")
    (ha : s.hub.find? id = some a)
    (h : scope.canEdit a.config.references = false ∨ scope.HoldsNothing) :
    ∃ d, (requireId id >>= fun _ => denied scope.authorizeManage >>= fun _ =>
      authorizeStored Memory.hub id scope >>= fun _ => x).run s = (.error (.denied d), s) := by
  have hrequire : (requireId id : PortalM Memory Unit).run s = (.ok (), s) :=
    run_requireId_eq_ok.2 ⟨hne, rfl⟩
  rw [run_bind_of_ok hrequire]
  by_cases hnothing : scope.HoldsNothing
  · have hmanage : (denied scope.authorizeManage : PortalM Memory Unit).run s =
        (.error (.denied .noAccess), s) := by
      rw [run_denied, Scope.authorizeManage_of_holdsNothing hnothing]
      rfl
    exact ⟨.noAccess, run_bind_of_error hmanage _⟩
  · have hmanage : (denied scope.authorizeManage : PortalM Memory Unit).run s = (.ok (), s) :=
      run_denied_eq_ok.2 ⟨Scope.authorizeManage_of_not hnothing, rfl⟩
    have hedit : scope.canEdit a.config.references = false := h.resolve_right hnothing
    have hstored : (authorizeStored Memory.hub id scope).run s =
        (.error (.denied .outOfScope), s) := by
      rw [run_authorizeStored, ha]
      simp only [Scope.authorizeEdit, hedit]
      rfl
    rw [run_bind_of_ok hmanage]
    exact ⟨.outOfScope, run_bind_of_error hstored _⟩

theorem delete_denied (hne : id ≠ "") (ha : s.hub.find? id = some a)
    (h : scope.canEdit a.config.references = false ∨ scope.HoldsNothing) :
    ∃ d, (delete Memory.hub id scope).run s = (.error (.denied d), s) :=
  run_guarded_denied hne ha h

theorem setEnabled_denied (hne : id ≠ "") (ha : s.hub.find? id = some a)
    (h : scope.canEdit a.config.references = false ∨ scope.HoldsNothing) (flag : Bool) :
    ∃ d, (setEnabled Memory.hub id (.bool flag) scope).run s = (.error (.denied d), s) :=
  run_guarded_denied hne ha h

/-- Over automations with ids of their own, `canEdit` of a listed item says what its caller may do
with it. Only a tenant with no entity at all is denied both calls whatever it says. -/
theorem calls_follow_listing (hkeyed : s.hub.IsKeyed) (hids : ∀ key ∈ s.hub.map (·.1), key ≠ "")
    (scope : Scope) (entity : Option String) :
    ∃ items, (list Memory.hub scope entity).run s = (.ok items, s) ∧
      ∀ item ∈ items, ∀ flag,
        (item.canEdit = true ∧ ¬ scope.HoldsNothing →
          (∃ t, (delete Memory.hub item.id scope).run s = (.ok (), t)) ∧
          ∃ t, (setEnabled Memory.hub item.id (.bool flag) scope).run s = (.ok (), t)) ∧
        (item.canEdit = false ∨ scope.HoldsNothing →
          (∃ d, (delete Memory.hub item.id scope).run s = (.error (.denied d), s)) ∧
          ∃ d, (setEnabled Memory.hub item.id (.bool flag) scope).run s =
            (.error (.denied d), s)) := by
  refine ⟨_, run_list scope entity s, fun item hitem flag => ?_⟩
  obtain ⟨a, hshown, rfl⟩ := List.mem_map.1 hitem
  obtain ⟨key, hmem⟩ := Memory.mem_shown hshown
  have hkey : a.config.id = key := hkeyed.own key a hmem
  have hne : (a.row scope).id ≠ "" := by
    change a.config.id ≠ ""
    rw [hkey]
    exact hids key (List.mem_map.2 ⟨_, hmem, rfl⟩)
  have hfind : s.hub.find? (a.row scope).id = some a := by
    change s.hub.find? a.config.id = some a
    rw [hkey]
    exact Memory.find?_of_mem hkeyed.distinct hmem
  constructor
  · intro h
    obtain ⟨hedit, hholds⟩ := h
    have hmanage := Scope.authorizeManage_of_not hholds
    exact ⟨(delete_succeeds_iff hne hmanage hfind).2 hedit,
      (setEnabled_succeeds_iff hne hmanage hfind flag).2 hedit⟩
  · intro h
    exact ⟨delete_denied hne hfind h, setEnabled_denied hne hfind h flag⟩

theorem calls_follow_listing_evenings : evenings.IsKeyed ∧
    (∀ key ∈ evenings.map (·.1), key ≠ "") ∧
    ∃ t, (delete Memory.hub "Evening" kitchenTenant).run ⟨evenings, 0⟩ = (.ok (), t) := by
  have hids : ∀ key ∈ evenings.map (·.1), key ≠ "" := by decide
  obtain ⟨items, hlist, hcalls⟩ := calls_follow_listing (s := ⟨evenings, 0⟩) isKeyed_evenings
    hids kitchenTenant none
  rw [run_list] at hlist
  obtain ⟨hitems, -⟩ := Prod.mk.inj hlist
  obtain rfl := Except.ok.inj hitems
  have hholds : ¬ kitchenTenant.HoldsNothing := fun h => h.2 "light.kitchen" (by decide)
  have hfirst := (hcalls _ List.mem_cons_self true).1 ⟨by decide +kernel, hholds⟩
  exact ⟨isKeyed_evenings, hids, hfirst.1⟩

def morning : Memory :=
  [("morning", ⟨none, true, ⟨"morning", "Morning", none, "single", [Item.time "07:00:00"], [],
    [.record [("action", .text "notify.family"),
      ("data", .record [("message", .text "Good morning")])]]⟩⟩)]

theorem isKeyed_morning : morning.IsKeyed := by
  refine ⟨by decide, fun key a h => ?_⟩
  obtain ⟨rfl, rfl⟩ := Prod.mk.inj (List.mem_singleton.1 h)
  rfl

/-- An item is shown as one that its caller may change, and the caller may not remove it. -/
theorem not_follow_listing_morning : ¬ ∀ (s : Session Memory) (scope : Scope)
    (items : List ListItem), s.hub.IsKeyed → (∀ key ∈ s.hub.map (·.1), key ≠ "") →
    (list Memory.hub scope none).run s = (.ok items, s) → ∀ item ∈ items, item.canEdit = true →
      ∃ t, (delete Memory.hub item.id scope).run s = (.ok (), t) := by
  intro hall
  obtain ⟨t, ht⟩ := hall ⟨morning, 0⟩ ⟨.tenant, .empty⟩ _ isKeyed_morning (by decide)
    (run_list _ _ _) _ List.mem_cons_self (by decide +kernel)
  have hnothing : Scope.HoldsNothing ⟨.tenant, .empty⟩ := ⟨rfl, fun _ => EntitySet.not_mem_empty⟩
  have hdenied : ∃ d, (delete Memory.hub "morning" ⟨.tenant, .empty⟩).run ⟨morning, 0⟩ =
      (.error (.denied d), ⟨morning, 0⟩) := delete_denied (by decide) rfl (.inr hnothing)
  obtain ⟨d, hd⟩ := hdenied
  cases (Prod.mk.inj (ht.symm.trans hd)).1

end Portal

end HomePortal
