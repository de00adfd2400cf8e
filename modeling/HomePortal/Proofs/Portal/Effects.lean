import HomePortal.Proofs.Draft.Scoping
import HomePortal.Proofs.Portal.Writes
/-!
What is stored after any call over a hub in memory, whether it succeeds or fails: as it was, or with
one automation put or removed. A call that fails leaves all as it was.
-/

namespace HomePortal

def Scope.Compiles (scope : Scope) (c : Config) : Prop :=
  ∃ raw d id, Draft.read raw = .valid d ∧ c = d.compile id ∧ scope.allows c.references = true

theorem Scope.Compiles.allowed {scope : Scope} {c : Config} (h : scope.Compiles c) :
    scope.allows c.references = true := by
  obtain ⟨raw, d, id, hread, rfl, hallows⟩ := h
  exact hallows

theorem Scope.Compiles.exists_mem {scope : Scope} {c : Config} (h : scope.Compiles c) :
    ∃ e, e ∈ c.references.all ∧ e ∈ scope.entities := by
  obtain ⟨raw, d, id, hread, rfl, hallows⟩ := h
  obtain ⟨htrigger, haction⟩ := Draft.isEntityId_of_read hread
  have hmem : d.action.entity ∈ (d.compile id).references.all := by
    have hactions := (Draft.references_compile htrigger haction id).2.2
    simp [References.all, hactions]
  exact ⟨d.action.entity, hmem, EntitySet.within_iff.1 hallows _ hmem⟩

namespace Memory

inductive Effect (scope : Scope) (minted : Option String) (m m' : Memory) : Prop
  | kept (h : m' = m)
  | added (id : String) (a : Automation) (hid : minted = some id)
      (hcompiles : scope.Compiles a.config) (h : m' = m.put id a)
  | replaced (id : String) (a b : Automation) (ha : m.find? id = some a)
      (hedit : scope.canEdit a.config.references = true) (hcompiles : scope.Compiles b.config)
      (h : m' = m.put id b)
  | switched (id : String) (a : Automation) (flag : Bool) (ha : m.find? id = some a)
      (hedit : scope.canEdit a.config.references = true)
      (h : m' = m.put id { a with enabled := flag })
  | removed (id : String) (a : Automation) (ha : m.find? id = some a)
      (hedit : scope.canEdit a.config.references = true) (h : m' = m.remove id)

end Memory

namespace Portal

open Memory (Effect)

def minted (p : Portal) (token : Nat) : Request → Option String
  | .create .. => AutomationId.choose? none p.mark token
  | _ => none

variable {p : Portal} {id : String} {raw : Value} {scope : Scope} {minted : Option String}
  {devices : Option (List Device)} {s t : Session Memory} {e : Failure}

theorem Accepts.compiles {existing : Option String} {token : Nat} {d : Draft}
    (h : p.Accepts raw scope existing devices token d id) : scope.Compiles (d.compile id) :=
  ⟨raw, d, id, readDraft_eq_ok.1 h.read, rfl, h.allowed⟩

theorem hub_of_create_error (h : (p.create Memory.hub raw scope devices).run s = (.error e, t)) :
    t.hub = s.hub := by
  obtain ⟨_, hprepare, -⟩ | ⟨r, u, hprepare, hwrite⟩ := run_bind_cases h
  · exact (run_prepare_cases hprepare).1
  · -- Once a request is prepared, nothing can fail.
    obtain ⟨d, i, haccepts, -, rfl⟩ := run_prepare_eq_ok.1 hprepare
    have hcreate := run_create_eq_ok.2 ⟨d, haccepts, rfl⟩
    cases (Prod.mk.inj (h.symm.trans hcreate)).1

theorem hub_of_update_error
    (h : (p.update Memory.hub id raw scope devices).run s = (.error e, t)) : t.hub = s.hub := by
  obtain ⟨_, hrequire, -⟩ | ⟨_, u, hrequire, hwrite⟩ := run_bind_cases h
  · rw [run_requireId hrequire]
  have hne : id ≠ "" := (run_requireId_eq_ok.1 hrequire).1
  obtain rfl := run_requireId hrequire
  obtain ⟨_, hprepare, -⟩ | ⟨r, v, hprepare, hguard⟩ := run_bind_cases hwrite
  · exact (run_prepare_cases hprepare).1
  have hv := (run_prepare_cases hprepare).1
  obtain ⟨_, hauthorize, -⟩ | ⟨_, w, hauthorize, -⟩ := run_bind_cases hguard
  · rw [authorizeStored_same hauthorize, hv]
  obtain ⟨⟨a, ha, hedit⟩, -⟩ := run_authorizeStored_eq_ok.1 hauthorize
  obtain ⟨d, i, haccepts, rfl, rfl⟩ := run_prepare_eq_ok.1 hprepare
  have hupdate := run_update_eq_ok.2 ⟨hne, d, a, haccepts, ha, hedit, rfl⟩
  cases (Prod.mk.inj (h.symm.trans hupdate)).1

/-- What comes after the checks cannot fail once they pass. -/
theorem hub_of_guarded_error {x : PortalM Memory Unit} (hx : ∀ a, s.hub.find? id = some a →
      scope.canEdit a.config.references = true → ∃ u, x.run s = (.ok (), u))
    (h : (authorizeStored Memory.hub id scope >>= fun _ => x).run s = (.error e, t)) :
    t.hub = s.hub := by
  obtain ⟨_, hauthorize, -⟩ | ⟨_, u, hauthorize, hrest⟩ := run_bind_cases h
  · rw [authorizeStored_same hauthorize]
  obtain ⟨⟨a, ha, hedit⟩, rfl⟩ := run_authorizeStored_eq_ok.1 hauthorize
  obtain ⟨v, hv⟩ := hx a ha hedit
  cases (Prod.mk.inj (hrest.symm.trans hv)).1

theorem hub_of_delete_error (h : (delete Memory.hub id scope).run s = (.error e, t)) :
    t.hub = s.hub := by
  obtain ⟨_, hrequire, -⟩ | ⟨_, u, hrequire, hwrite⟩ := run_bind_cases h
  · rw [run_requireId hrequire]
  obtain rfl := run_requireId hrequire
  obtain ⟨_, hmanage, -⟩ | ⟨_, v, hmanage, hguard⟩ := run_bind_cases hwrite
  · rw [(Prod.mk.inj hmanage).2]
  obtain rfl : u = v := (Prod.mk.inj hmanage).2
  exact hub_of_guarded_error (fun a ha _ => ⟨_, run_change_of_find? ha⟩) hguard

theorem hub_of_setEnabled_error {enabled : Value}
    (h : (setEnabled Memory.hub id enabled scope).run s = (.error e, t)) : t.hub = s.hub := by
  obtain ⟨_, hrequire, -⟩ | ⟨_, u, hrequire, hwrite⟩ := run_bind_cases h
  · rw [run_requireId hrequire]
  obtain rfl := run_requireId hrequire
  split at hwrite
  · obtain ⟨_, hmanage, -⟩ | ⟨_, v, hmanage, hguard⟩ := run_bind_cases hwrite
    · rw [(Prod.mk.inj hmanage).2]
    obtain rfl : u = v := (Prod.mk.inj hmanage).2
    exact hub_of_guarded_error (fun a ha _ => ⟨_, run_change_of_find? ha⟩) hguard
  · rw [(Prod.mk.inj hwrite).2]

theorem effect_create {outcome : Except Failure String}
    (h : (p.create Memory.hub raw scope devices).run s = (outcome, t)) :
    Effect scope (AutomationId.choose? none p.mark s.token) s.hub t.hub := by
  cases outcome with
  | error e => exact .kept (hub_of_create_error h)
  | ok i =>
    obtain ⟨d, haccepts, rfl⟩ := run_create_eq_ok.1 h
    exact .added i _ haccepts.chosen haccepts.compiles rfl

theorem effect_update {outcome : Except Failure String}
    (h : (p.update Memory.hub id raw scope devices).run s = (outcome, t)) :
    Effect scope minted s.hub t.hub := by
  cases outcome with
  | error e => exact .kept (hub_of_update_error h)
  | ok i =>
    obtain ⟨-, d, a, haccepts, ha, hedit, rfl⟩ := run_update_eq_ok.1 h
    exact .replaced i a _ ha hedit haccepts.compiles rfl

theorem effect_delete {outcome : Except Failure Unit}
    (h : (delete Memory.hub id scope).run s = (outcome, t)) :
    Effect scope minted s.hub t.hub := by
  cases outcome with
  | error e => exact .kept (hub_of_delete_error h)
  | ok u =>
    obtain ⟨-, -, a, ha, hedit, rfl⟩ := run_delete_eq_ok.1 h
    exact .removed id a ha hedit rfl

theorem effect_setEnabled {enabled : Value} {outcome : Except Failure Unit}
    (h : (setEnabled Memory.hub id enabled scope).run s = (outcome, t)) :
    Effect scope minted s.hub t.hub := by
  cases outcome with
  | error e => exact .kept (hub_of_setEnabled_error h)
  | ok u =>
    obtain ⟨-, -, flag, a, -, ha, hedit, rfl⟩ := run_setEnabled_eq_ok.1 h
    exact .switched id a flag ha hedit rfl

theorem effect_answer (p : Portal) (scope : Scope) (s : Session Memory) (request : Request) :
    Effect scope (p.minted s.token request) s.hub
      ((p.answer Memory.hub scope request).run s).2.hub := by
  cases request with
  | list entity => exact .kept rfl
  | create raw devices =>
    rw [answer, run_map]
    exact effect_create rfl
  | update id raw devices =>
    rw [answer, run_map]
    exact effect_update rfl
  | delete id =>
    rw [answer, run_map]
    exact effect_delete rfl
  | setEnabled id enabled =>
    rw [answer, run_map]
    exact effect_setEnabled rfl
  | prepare raw existing devices =>
    rw [answer, run_map]
    exact .kept (run_prepare_cases rfl).1

end Portal

end HomePortal
