import HomePortal.Proofs.Hub.Asking
import HomePortal.Proofs.Hub.Failure
import HomePortal.Proofs.Portal.Addressing
import HomePortal.Proofs.Portal.Effects
import HomePortal.Proofs.Scope
/-!
Calls that are refused. Whatever hub there is, a request that is no draft reaches it not at all, and
one for which the caller has no right reaches it as a question at most.
-/

namespace HomePortal

def Request.isWrite : Request → Bool
  | list _ | prepare .. => false
  | create .. | update .. | delete _ | setEnabled .. => true

def Request.checked? : Request → Option String
  | update id _ _ => AutomationId.reduce? id
  | delete id | setEnabled id _ => some id
  | list _ | create .. | prepare .. => none

def Failure.IsUnfit : Failure → Prop
  | draft _ | noRule _ => True
  | _ => False

theorem Failure.IsOfHub.fit {e : Failure} (h : e.IsOfHub) : ¬ e.IsUnfit := by
  intro hunfit
  cases e with
  | hub | data | fault => exact hunfit
  | _ => exact h

namespace Recorded

variable {σ α : Type} {same : σ → σ → Prop}

theorem run_note (call : HubCall) (act : HubM σ α) (r : Recorded σ) :
    (note call act).run r = ((act.run r.state).1, ⟨(act.run r.state).2, call :: r.calls⟩) :=
  rfl

theorem failsAsHub_note (call : HubCall) {act : HubM σ α} (hact : HubM.FailsAsHub act) :
    HubM.FailsAsHub (note call act) := by
  intro r e r' hrun
  rw [run_note] at hrun
  exact hact r.state e _ (Prod.ext (Prod.mk.inj hrun).1 rfl)

structure OnlyAsked (same : σ → σ → Prop) (a b : Recorded σ) : Prop where
  calls : ∃ calls, b.calls = calls ++ a.calls ∧ ∀ c ∈ calls, c.isWrite = false
  state : same a.state b.state

theorem OnlyAsked.of_eq [Std.Refl same] {a b : Recorded σ} (h : b = a) : OnlyAsked same a b := by
  subst h
  exact ⟨⟨[], rfl, nofun⟩, Std.Refl.refl _⟩

end Recorded

theorem Hub.FailsAsHub.recorded {σ : Type} {h : Hub σ} (hfails : h.FailsAsHub) :
    h.recorded.FailsAsHub where
  get id := Recorded.failsAsHub_note _ (hfails.get id)
  create c := Recorded.failsAsHub_note _ (hfails.create c)
  update id c := Recorded.failsAsHub_note _ (hfails.update id c)
  delete id := Recorded.failsAsHub_note _ (hfails.delete id)
  setEnabled id flag := Recorded.failsAsHub_note _ (hfails.setEnabled id flag)

namespace Portal

open HubM (FailsAsHub)

variable {σ τ α β : Type} {h : Hub σ} {p : Portal} {scope : Scope} {id : String}
  {s t u : Session (Recorded σ)} {checked : Option String} {outcome : Except Failure α}

theorem failsAsHub_onHub {act : HubM τ α} (hact : FailsAsHub act) : FailsAsHub (onHub act) := by
  intro s e t hrun
  rw [run_onHub] at hrun
  exact hact s.hub e _ (Prod.ext (Prod.mk.inj hrun).1 rfl)

theorem failsAsHub_setAsDrafted {h : Hub τ} (hfails : h.FailsAsHub) (id : String) (d : Draft) :
    FailsAsHub (setAsDrafted h id d) := by
  unfold setAsDrafted
  split
  · exact failsAsHub_onHub (hfails.setEnabled id _)
  · exact .pure _

inductive Stage (h : Hub σ) (checked : Option String) (s t : Session (Recorded σ)) :
    Except Failure α → Prop
  | refused (e : Failure) (hhub : t.hub = s.hub) : Stage h checked s t (.error e)
  | asked (e : Failure) (id : String) (hid : checked = some id) (hfit : ¬ e.IsUnfit)
      (hhub : t.hub = ⟨((h.get id).run s.hub.state).2, .get id :: s.hub.calls⟩) :
      Stage h checked s t (.error e)
  | passed (outcome : Except Failure α)
      (hfound : ∀ id, checked = some id → ∃ a, ((h.get id).run s.hub.state).1 = .ok a)
      (hfails : ∀ e, outcome = .error e → e.IsOfHub) : Stage h checked s t outcome

namespace Stage

theorem of_hub_eq (hu : u.hub = s.hub) (hstage : Stage h checked u t outcome) :
    Stage h checked s t outcome := by
  cases hstage with
  | refused e hhub => exact .refused e (hhub.trans hu)
  | asked e id hid hfit hhub => exact .asked e id hid hfit (hu ▸ hhub)
  | passed _ hfound hfails => exact .passed _ (hu ▸ hfound) hfails

theorem map (hstage : Stage h checked s t outcome) (f : α → β) :
    Stage h checked s t (outcome.map f) := by
  cases hstage with
  | refused e hhub => exact .refused e hhub
  | asked e id hid hfit hhub => exact .asked e id hid hfit hhub
  | passed _ hfound hfails =>
    refine .passed _ hfound fun e he => ?_
    cases outcome with
    | error e' =>
      obtain rfl := Except.error.inj he
      exact hfails e' rfl
    | ok a => cases he

/-- A step that asks the hub nothing may come first. -/
theorem bind {x : PortalM (Recorded σ) β} {f : β → PortalM (Recorded σ) α}
    (hx : ∀ o u, x.run s = (o, u) → u.hub = s.hub)
    (hf : ∀ b u, x.run s = (.ok b, u) → (f b).run u = (outcome, t) → Stage h checked u t outcome)
    (hrun : (x >>= f).run s = (outcome, t)) : Stage h checked s t outcome := by
  obtain ⟨e, hfirst, rfl⟩ | ⟨b, u, hfirst, hrest⟩ := run_bind_cases hrun
  · exact .refused e (hx _ t hfirst)
  · exact (hf b u hfirst hrest).of_hub_eq (hx _ u hfirst)

theorem authorizeStored (hfails : h.FailsAsHub) {rest : PortalM (Recorded σ) α}
    (hrest : FailsAsHub rest)
    (hrun : (Portal.authorizeStored h.recorded id scope >>= fun _ => rest).run s = (outcome, t)) :
    Stage h (some id) s t outcome := by
  obtain ⟨e, hcheck, rfl⟩ | ⟨_, u, hcheck, hafter⟩ := run_bind_cases hrun
  · obtain ⟨e', hget, heq⟩ | ⟨a, v, hget, hdenied⟩ := run_bind_cases hcheck
    · obtain rfl := Except.error.inj heq
      have hfit := (failsAsHub_onHub (hfails.recorded.get id) s e t hget).fit
      exact .asked e id rfl hfit (congrArg Session.hub (Prod.mk.inj hget).2).symm
    · obtain ⟨hdenial, rfl⟩ := Prod.mk.inj hdenied
      refine .asked e id rfl ?_ (congrArg Session.hub (Prod.mk.inj hget).2).symm
      intro hunfit
      cases hedit : scope.authorizeEdit a.config.references with
      | ok _ =>
        rw [hedit] at hdenial
        cases hdenial
      | error d =>
        rw [hedit] at hdenial
        cases hdenial
        exact hunfit
  · obtain ⟨a, v, hget, -⟩ := run_bind_eq_ok.1 hcheck
    refine .passed outcome ?_ ?_
    · intro i hi
      obtain rfl := Option.some.inj hi
      exact ⟨a, (Prod.mk.inj hget).1⟩
    · rintro e rfl
      exact hrest u e t hafter

end Stage

/-! ### Each call -/

variable {raw : Value} {devices : Option (List Device)}

theorem stage_create (hfails : h.FailsAsHub) {outcome : Except Failure String}
    (hrun : (p.create h.recorded raw scope devices).run s = (outcome, t)) :
    Stage h none s t outcome := by
  refine Stage.bind (fun o u hprepare => (run_prepare_cases hprepare).1) ?_ hrun
  intro r u _ hrest
  refine .passed outcome nofun ?_
  rintro e rfl
  refine FailsAsHub.bind (failsAsHub_onHub (hfails.recorded.create _)) (fun id => ?_) u e t hrest
  exact .bind (failsAsHub_setAsDrafted hfails.recorded id _) fun _ => .pure _

theorem stage_update (hfails : h.FailsAsHub) {outcome : Except Failure String}
    (hrun : (p.update h.recorded id raw scope devices).run s = (outcome, t)) :
    Stage h (AutomationId.reduce? id) s t outcome := by
  refine Stage.bind (fun o u hrequire => by rw [run_requireId hrequire]) ?_ hrun
  intro _ u hrequire hrest
  have hne := (run_requireId_eq_ok.1 hrequire).1
  refine Stage.bind (fun o v hprepare => (run_prepare_cases hprepare).1) ?_ hrest
  intro r v hprepare hguarded
  have hchosen := (run_prepare_ok hprepare).2
  rw [AutomationId.choose?, AutomationId.kept?_of_ne hne] at hchosen
  refine (show AutomationId.reduce? id = some r.config.id from hchosen) ▸ ?_
  refine Stage.authorizeStored hfails ?_ hguarded
  refine .bind (failsAsHub_onHub (hfails.recorded.update _ _)) fun _ => ?_
  exact .bind (failsAsHub_setAsDrafted hfails.recorded _ _) fun _ => .pure _

theorem stage_guarded (hfails : h.FailsAsHub) {act : HubM (Recorded σ) Unit}
    (hact : FailsAsHub act) {outcome : Except Failure Unit}
    (hrun : (denied scope.authorizeManage >>= fun _ =>
      Portal.authorizeStored h.recorded id scope >>= fun _ => onHub act).run s = (outcome, t)) :
    Stage h (some id) s t outcome := by
  refine Stage.bind (fun o u hmanage => ?_) ?_ hrun
  · rw [run_denied] at hmanage
    rw [(Prod.mk.inj hmanage).2]
  · intro _ u _ hrest
    exact Stage.authorizeStored hfails (failsAsHub_onHub hact) hrest

theorem stage_delete (hfails : h.FailsAsHub) {outcome : Except Failure Unit}
    (hrun : (delete h.recorded id scope).run s = (outcome, t)) :
    Stage h (some id) s t outcome := by
  refine Stage.bind (fun o u hrequire => by rw [run_requireId hrequire]) ?_ hrun
  intro _ u _ hrest
  exact stage_guarded hfails (hfails.recorded.delete id) hrest

theorem stage_setEnabled (hfails : h.FailsAsHub) {enabled : Value} {outcome : Except Failure Unit}
    (hrun : (setEnabled h.recorded id enabled scope).run s = (outcome, t)) :
    Stage h (some id) s t outcome := by
  refine Stage.bind (fun o u hrequire => by rw [run_requireId hrequire]) ?_ hrun
  intro _ u _ hrest
  split at hrest
  · exact stage_guarded hfails (hfails.recorded.setEnabled id _) hrest
  · obtain ⟨rfl, rfl⟩ := Prod.mk.inj hrest
    exact .refused _ rfl

theorem stage_answer (hfails : h.FailsAsHub) {request : Request} {outcome : Except Failure Reply}
    (hwrite : request.isWrite = true)
    (hrun : (p.answer h.recorded scope request).run s = (outcome, t)) :
    Stage h request.checked? s t outcome := by
  cases request with
  | list entity => cases hwrite
  | prepare raw existing devices => cases hwrite
  | create raw devices =>
    rw [answer, run_map] at hrun
    obtain ⟨rfl, rfl⟩ := Prod.mk.inj hrun
    exact (stage_create hfails rfl).map _
  | update id raw devices =>
    rw [answer, run_map] at hrun
    obtain ⟨rfl, rfl⟩ := Prod.mk.inj hrun
    exact (stage_update hfails rfl).map _
  | delete id =>
    rw [answer, run_map] at hrun
    obtain ⟨rfl, rfl⟩ := Prod.mk.inj hrun
    exact (stage_delete hfails rfl).map _
  | setEnabled id enabled =>
    rw [answer, run_map] at hrun
    obtain ⟨rfl, rfl⟩ := Prod.mk.inj hrun
    exact (stage_setEnabled hfails rfl).map _

/-! ### A tenant with no entity -/

/-- What is prepared names an entity of the caller's. -/
theorem compiles_of_prepare {existing : Option String} {s t : Session τ} {r : Prepared}
    (hrun : (p.prepare raw scope existing devices).run s = (.ok r, t)) :
    scope.Compiles r.config := by
  obtain ⟨hread, hconfig⟩ := draft_of_prepare hrun
  exact ⟨raw, r.draft, r.config.id, hread, hconfig, (run_prepare_ok hrun).1⟩

/-- A call that fails with its first step, having left the hub alone. -/
theorem refused_of_first {x : PortalM τ β} {f : β → PortalM τ α} {s t : Session τ}
    (hx : ∀ o u, x.run s = (o, u) → (∃ e, o = .error e) ∧ u.hub = s.hub)
    (hrun : (x >>= f).run s = (outcome, t)) : (∃ e, outcome = .error e) ∧ t.hub = s.hub := by
  obtain ⟨e, hfirst, rfl⟩ | ⟨b, u, hfirst, -⟩ := run_bind_cases hrun
  · exact ⟨⟨e, rfl⟩, (hx _ t hfirst).2⟩
  · obtain ⟨⟨e, he⟩, -⟩ := hx _ u hfirst
    cases he

/-- A call that fails after its id is found to be one. -/
theorem refused_of_requireId {f : Unit → PortalM τ α} {s t : Session τ}
    (hf : ∀ o u, (f ()).run s = (o, u) → (∃ e, o = .error e) ∧ u.hub = s.hub)
    (hrun : (requireId id >>= f).run s = (outcome, t)) :
    (∃ e, outcome = .error e) ∧ t.hub = s.hub := by
  obtain ⟨e, hrequire, rfl⟩ | ⟨_, u, hrequire, hrest⟩ := run_bind_cases hrun
  · exact ⟨⟨e, rfl⟩, by rw [run_requireId hrequire]⟩
  · obtain rfl := run_requireId hrequire
    exact hf outcome t hrest

variable {hub : Hub τ}

theorem refused_of_holdsNothing (hnothing : scope.HoldsNothing) {s t : Session τ}
    {request : Request} (hwrite : request.isWrite = true) {outcome : Except Failure Reply}
    (hrun : (p.answer hub scope request).run s = (outcome, t)) :
    (∃ e, outcome = .error e) ∧ t.hub = s.hub := by
  have hprepare {raw existing devices} (o : Except Failure Prepared) (u : Session τ)
      (hfirst : (p.prepare raw scope existing devices).run s = (o, u)) :
      (∃ e, o = .error e) ∧ u.hub = s.hub := by
    refine ⟨?_, (run_prepare_cases hfirst).1⟩
    cases o with
    | error e => exact ⟨e, rfl⟩
    | ok r =>
      obtain ⟨e, -, he⟩ := (compiles_of_prepare hfirst).exists_mem
      exact absurd he (hnothing.2 e)
  have hmanage (o : Except Failure Unit) (u : Session τ)
      (hfirst : (denied scope.authorizeManage : PortalM τ Unit).run s = (o, u)) :
      (∃ e, o = .error e) ∧ u.hub = s.hub := by
    rw [Scope.authorizeManage_of_holdsNothing hnothing] at hfirst
    obtain ⟨rfl, rfl⟩ := Prod.mk.inj hfirst
    exact ⟨⟨_, rfl⟩, rfl⟩
  cases request with
  | list entity => cases hwrite
  | prepare raw existing devices => cases hwrite
  | create raw devices =>
    rw [answer, map_eq_pure_bind] at hrun
    exact refused_of_first (fun o u h => refused_of_first hprepare h) hrun
  | update id raw devices =>
    rw [answer, map_eq_pure_bind] at hrun
    refine refused_of_first (fun o u h => refused_of_requireId (fun o u h => ?_) h) hrun
    exact refused_of_first hprepare h
  | delete id =>
    rw [answer, map_eq_pure_bind] at hrun
    refine refused_of_first (fun o u h => refused_of_requireId (fun o u h => ?_) h) hrun
    exact refused_of_first hmanage h
  | setEnabled id enabled =>
    rw [answer, map_eq_pure_bind] at hrun
    refine refused_of_first (fun o u h => refused_of_requireId (fun o u h => ?_) h) hrun
    split at h
    · exact refused_of_first hmanage h
    · obtain ⟨rfl, rfl⟩ := Prod.mk.inj h
      exact ⟨⟨_, rfl⟩, rfl⟩

/-! ### All hubs -/

structure Refusal (h : Hub σ) (same : σ → σ → Prop) (scope : Scope) (request : Request)
    (s t : Session (Recorded σ)) (outcome : Except Failure Reply) : Prop where
  unfit : ∀ e, outcome = .error e → e.IsUnfit → t.hub = s.hub
  denied : ∀ d, outcome = .error (.denied d) → Recorded.OnlyAsked same s.hub t.hub
  unfound : ∀ id e, request.checked? = some id → ((h.get id).run s.hub.state).1 = .error e →
    (∃ e', outcome = .error e') ∧ Recorded.OnlyAsked same s.hub t.hub
  nothing : scope.HoldsNothing → (∃ e, outcome = .error e) ∧ t.hub = s.hub

/-- Every call for a change that is refused is refused before the hub is asked for the change. -/
def RefusesFirst (p : Portal) (h : Hub σ) (same : σ → σ → Prop) : Prop :=
  ∀ (scope : Scope) (request : Request) (s t : Session (Recorded σ))
    (outcome : Except Failure Reply), request.isWrite = true →
      (p.answer h.recorded scope request).run s = (outcome, t) →
        Refusal h same scope request s t outcome

theorem refusesFirst_of_failsAsHub (p : Portal) {same : σ → σ → Prop} [Std.Refl same]
    (hfails : h.FailsAsHub) (hget : ∀ id, HubM.Leaves same (h.get id)) :
    p.RefusesFirst h same := by
  intro scope request s t outcome hwrite hrun
  have hasked {id : String}
      (hhub : t.hub = ⟨((h.get id).run s.hub.state).2, .get id :: s.hub.calls⟩) :
      Recorded.OnlyAsked same s.hub t.hub := by
    rw [hhub]
    refine ⟨⟨[.get id], rfl, fun c hc => ?_⟩, hget id s.hub.state⟩
    rw [List.mem_singleton.1 hc]
    rfl
  have hstage := stage_answer hfails hwrite hrun
  refine ⟨?_, ?_, ?_, fun hnothing => refused_of_holdsNothing hnothing hwrite hrun⟩
  · rintro e rfl hunfit
    cases hstage with
    | refused _ hhub => exact hhub
    | asked _ id hid hfit hhub => exact absurd hunfit hfit
    | passed _ hfound hfails => exact absurd hunfit (hfails e rfl).fit
  · rintro d rfl
    cases hstage with
    | refused _ hhub => exact .of_eq hhub
    | asked _ id hid hfit hhub => exact hasked hhub
    | passed _ hfound hfails => exact (hfails _ rfl).elim
  · intro id e hid hmissing
    cases hstage with
    | refused _ hhub => exact ⟨⟨_, rfl⟩, .of_eq hhub⟩
    | asked _ id' hid' hfit hhub => exact ⟨⟨_, rfl⟩, hasked hhub⟩
    | passed _ hfound hfails =>
      obtain ⟨a, ha⟩ := hfound id hid
      rw [hmissing] at ha
      cases ha

/-- Over every hub, whatever it stores or replies: a call that is refused as no draft has not
reached it, and one that is denied or whose automation cannot be read has reached it with a question
at most. A tenant with no entity never reaches it. -/
theorem refuses_first (p : Portal) : p.RefusesFirst Memory.hub Eq ∧
    (∀ path, p.RefusesFirst (FileHub.hub ⟨.yaml, path⟩) Eq) ∧
    ∀ {σ : Type} (h : RestHub) (server : Http.Server σ),
      p.RefusesFirst (h.hub server) server.OnlyRead :=
  ⟨refusesFirst_of_failsAsHub p Memory.failsAsHub Memory.leaves_get,
    fun path => refusesFirst_of_failsAsHub p
      (FileHub.failsAsHub (h := ⟨.yaml, path⟩) FileHub.readsAsText_yaml)
      (FileHub.leaves_get ⟨.yaml, path⟩),
    fun h server => refusesFirst_of_failsAsHub p (h.failsAsHub server) (h.leaves_get server)⟩

/-- A tenant of the hall asks for the evening automation of the kitchen to be removed. -/
example : (standard.answer Memory.hub.recorded ⟨.tenant, EntitySet.ofList ["light.hall"]⟩
    (.delete "Evening")).run ⟨⟨evenings, []⟩, 0⟩ =
      (.error (.denied .outOfScope), ⟨⟨evenings, [.get "Evening"]⟩, 0⟩) :=
  rfl

end Portal

end HomePortal
