import HomePortal.Proofs.Hub.Storing
import HomePortal.Proofs.Portal.Editable
import HomePortal.Proofs.Portal.Requests
import HomePortal.Proofs.Portal.Switching
/-!
Calls that create or replace an automation at a hub behind a server, and fail. None of them has
stored a config, except where the reply to it was of no use, or where the flag that the draft asks
for could not be set after it.
-/

namespace HomePortal

open Http (Exchange IsGet Line Server)
open HubM (Sends)

def Request.raw? : Request → Option Value
  | create raw _ | update _ raw _ => some raw
  | list _ | delete _ | setEnabled .. | prepare .. => none

inductive RestHub.HalfDone {σ : Type} (h : RestHub) (server : Server σ) (d : Draft) (c : Config)
    (e : Failure) (s t : Line σ) (sent : List Exchange) : Prop
  | unread (x : Exchange) (older : List Exchange) (hsent : sent = x :: older)
      (hstores : h.Stores c x) (hunread : Unread x e)
      (hothers : ∀ y ∈ older, ∀ c', ¬ h.Stores c' y)
  | unswitched (x : Exchange) (newer older : List Exchange) (hsent : sent = newer ++ x :: older)
      (hstores : h.Stores c x) (flag : Bool) (hflag : d.enabled = some flag) (u : Line σ)
      (hlog : u.log = x :: older ++ s.log)
      (hset : (h.setEnabled server c.id flag).run u = (.error e, t))
      (hothers : ∀ y ∈ newer ++ older, ∀ c', ¬ h.Stores c' y)

namespace RestHub.HalfDone

variable {σ : Type} {h : RestHub} {server : Server σ} {d : Draft} {c : Config} {e : Failure}
  {s t u : Line σ} {sent : List Exchange}

/-- Requests for data may come first. -/
theorem after_gets (hhalf : h.HalfDone server d c e u t sent) {first : List Exchange}
    (hlog : u.log = first ++ s.log) (hfirst : ∀ y ∈ first, IsGet y) :
    h.HalfDone server d c e s t (sent ++ first) := by
  have hno : ∀ y ∈ first, ∀ c', ¬ h.Stores c' y :=
    fun y hy c' => not_stores_of_isGet (hfirst y hy)
  cases hhalf with
  | unread x older hsent hstores hunread hothers =>
    refine .unread x (older ++ first) (by rw [hsent]; rfl) hstores hunread fun y hy => ?_
    exact (List.mem_append.1 hy).elim (hothers y) (hno y)
  | unswitched x newer older hsent hstores flag hflag v hv hset hothers =>
    refine .unswitched x newer (older ++ first) (by simp [hsent]) hstores flag hflag v
      (by simp [hv, hlog]) hset fun y hy => ?_
    rw [← List.append_assoc] at hy
    exact (List.mem_append.1 hy).elim (hothers y) (hno y)

end RestHub.HalfDone

namespace Portal

variable {σ : Type} {h : RestHub} {server : Server σ} {p : Portal} {scope : Scope}
  {id : String} {raw : Value} {devices : Option (List Device)} {s t : Session (Line σ)}
  {e : Failure} {d : Draft} {c : Config}

/-- A config is stored and the flag set that the draft asks for. -/
theorem halfDone_of_store (hrun : (onHub (h.put server c.id c) >>= fun _ =>
      setAsDrafted (h.hub server) c.id d >>= fun _ => pure c.id).run s = (.error e, t)) :
    ∃ sent, t.hub.log = sent ++ s.hub.log ∧ ((∀ y ∈ sent, ∀ c', ¬ h.Stores c' y) ∨
      h.HalfDone server d c e s.hub t.hub sent) := by
  obtain ⟨e', hput, heq⟩ | ⟨_, u, hput, hrest⟩ := run_bind_cases hrun
  · obtain rfl := Except.error.inj heq
    rw [run_onHub] at hput
    obtain ⟨houtcome, rfl⟩ := Prod.mk.inj hput
    obtain ⟨sent, hlog, hsent⟩ := RestHub.put_eq_error (Prod.ext houtcome rfl)
    refine ⟨sent, hlog, hsent.imp_right fun hstored => ?_⟩
    obtain ⟨x, rfl, hstores, hunread⟩ := hstored
    exact .unread x [] rfl hstores hunread fun _ hy => absurd hy List.not_mem_nil
  rw [run_onHub] at hput
  obtain ⟨houtcome, rfl⟩ := Prod.mk.inj hput
  obtain ⟨x, hlog, hstores⟩ := RestHub.put_eq_ok (Prod.ext houtcome rfl)
  obtain ⟨e', hset, heq⟩ | ⟨_, v, -, hlast⟩ := run_bind_cases hrest
  · obtain rfl := Except.error.inj heq
    unfold setAsDrafted at hset
    split at hset
    · rename_i flag hflag
      rw [run_onHub] at hset
      obtain ⟨hfails, rfl⟩ := Prod.mk.inj hset
      obtain ⟨newer, hnewer, hcalls⟩ := RestHub.sends_setEnabled h server c.id flag _
      refine ⟨newer ++ [x], ?_, .inr (.unswitched x newer [] rfl hstores flag hflag _ hlog
        (Prod.ext hfails rfl) fun y hy c' => ?_)⟩
      · refine hnewer.trans ?_
        rw [hlog, List.append_assoc]
        rfl
      · rw [List.append_nil] at hy
        obtain hget | ⟨entity, hswitches⟩ := hcalls y hy
        · exact RestHub.not_stores_of_isGet hget
        · exact RestHub.not_stores_of_switches hswitches
    · cases (Prod.mk.inj hset).1
  · cases (Prod.mk.inj hlast).1

theorem onHub_create (h : RestHub) (server : Server σ) (c : Config) :
    onHub ((h.hub server).create c) =
      (onHub (h.put server c.id c) >>= fun _ => pure c.id : PortalM (Line σ) String) := by
  apply ExceptT.ext
  funext s
  change (onHub (h.put server c.id c >>= fun _ => pure c.id)).run s = _
  rw [run_onHub, run_bind, run_bind, run_onHub]
  cases (h.put server c.id c).run s.hub with
  | mk outcome u =>
    cases outcome with
    | error e => rfl
    | ok _ => rfl

/-- What a call that failed left at the hub: no config, or the one of its draft. -/
def AllOrNothing (h : RestHub) (server : Server σ) (scope : Scope) (raw : Value)
    (target : Option String) (e : Failure) (s t : Line σ) : Prop :=
  ∃ sent, t.log = sent ++ s.log ∧ ((∀ y ∈ sent, ∀ c', ¬ h.Stores c' y) ∨
    ∃ d i, Draft.read raw = .valid d ∧ target = some i ∧
      scope.allows (d.compile i).references = true ∧
      h.HalfDone server d (d.compile i) e s t sent)

theorem allOrNothing_of_same {target : Option String} {s t : Line σ} (hlog : t.log = s.log) :
    AllOrNothing h server scope raw target e s t :=
  ⟨[], hlog, .inl fun _ hy => absurd hy List.not_mem_nil⟩

theorem allOrNothing_create
    (hrun : (p.create (h.hub server) raw scope devices).run s = (.error e, t)) :
    AllOrNothing h server scope raw (AutomationId.choose? none p.mark s.token) e s.hub t.hub := by
  obtain ⟨e', hprepare, heq⟩ | ⟨r, u, hprepare, hrest⟩ := run_bind_cases hrun
  · exact allOrNothing_of_same (log_of_prepare hprepare)
  obtain ⟨hread, hconfig⟩ := draft_of_prepare hprepare
  obtain ⟨hallows, hchosen⟩ := run_prepare_ok hprepare
  rw [onHub_create, bind_assoc] at hrest
  simp only [pure_bind] at hrest
  obtain ⟨sent, hlog, hleft⟩ := halfDone_of_store hrest
  rw [← (run_prepare_cases hprepare).1]
  refine ⟨sent, hlog, hleft.imp_right fun hhalf => ⟨r.draft, r.config.id, hread, hchosen, ?_⟩⟩
  rw [← hconfig]
  exact ⟨hallows, hhalf⟩

theorem allOrNothing_update
    (hrun : (p.update (h.hub server) id raw scope devices).run s = (.error e, t)) :
    AllOrNothing h server scope raw (AutomationId.reduce? id) e s.hub t.hub := by
  obtain ⟨e', hrequire, heq⟩ | ⟨_, u, hrequire, hrest⟩ := run_bind_cases hrun
  · exact allOrNothing_of_same (by rw [run_requireId hrequire])
  obtain ⟨hne, rfl⟩ := run_requireId_eq_ok.1 hrequire
  obtain ⟨e', hprepare, heq⟩ | ⟨r, v, hprepare, hguarded⟩ := run_bind_cases hrest
  · exact allOrNothing_of_same (log_of_prepare hprepare)
  obtain ⟨hread, hconfig⟩ := draft_of_prepare hprepare
  obtain ⟨hallows, hchosen⟩ := run_prepare_ok hprepare
  rw [AutomationId.choose?, AutomationId.kept?_of_ne hne] at hchosen
  rw [← (run_prepare_cases hprepare).1]
  have hgets := sends_authorizeStored h server r.config.id scope v
  obtain ⟨e', hcheck, heq⟩ | ⟨_, w, hcheck, hstore⟩ := run_bind_cases hguarded
  · obtain ⟨first, hlog, hfirst⟩ := hgets.log_eq hcheck
    exact ⟨first, hlog, .inl fun y hy c' => RestHub.not_stores_of_isGet (hfirst y hy)⟩
  obtain ⟨first, hfirstlog, hfirst⟩ := hgets.log_eq hcheck
  obtain ⟨sent, hlog, hleft⟩ := halfDone_of_store hstore
  refine ⟨sent ++ first, ?_, ?_⟩
  · rw [hlog, List.append_assoc]
    exact congrArg (sent ++ ·) hfirstlog
  cases hleft with
  | inl hno =>
    refine .inl fun y hy c' => ?_
    exact (List.mem_append.1 hy).elim (hno y · c')
      fun hy => RestHub.not_stores_of_isGet (hfirst y hy)
  | inr hhalf =>
    refine .inr ⟨r.draft, r.config.id, hread, hchosen, ?_⟩
    rw [← hconfig]
    exact ⟨hallows, hhalf.after_gets hfirstlog hfirst⟩

/-- A call that fails has stored nothing, or all of the config that its caller may have stored.
Then the reply was of no use, or the draft asks for a flag that could not be set. -/
theorem allOrNothing_of_error {request : Request} (hraw : request.raw? = some raw)
    (hrun : (p.answer (h.hub server) scope request).run s = (.error e, t)) :
    AllOrNothing h server scope raw (p.target? s.token request) e s.hub t.hub := by
  cases request with
  | create raw' devices =>
    obtain rfl := Option.some.inj hraw
    exact allOrNothing_create (run_map_eq_error.1 hrun)
  | update id raw' devices =>
    obtain rfl := Option.some.inj hraw
    exact allOrNothing_update (run_map_eq_error.1 hrun)
  | list _ | delete _ | setEnabled _ _ | prepare _ _ _ => cases hraw

/-! ### A hub that stores configs and lists no states -/

def mutedRequest : Value :=
  .record [("alias", .text "Evening light"),
    ("trigger", .record [("type", .text "schedule"), ("scheduleType", .text "daily"),
      ("at", .text "20:00")]),
    ("action", .record [("type", .text "turn_on"), ("entityId", .text "light.kitchen")]),
    ("enabled", .bool false)]

def mutedDraft : Draft :=
  { eveningDraft with enabled := some false }

theorem accepts_first {raw : Value} {d : Draft} (hread : readDraft raw = .ok d)
    (hallows : kitchenTenant.allows (d.compile firstId).references = true) :
    standard.Accepts raw kitchenTenant none none 0 d firstId :=
  ⟨hread, by decide +kernel, hallows, nofun⟩

def storingScript (root : String) (body : Http.Body) : Http.Script :=
  [("POST " ++ root ++ "/api/config/automation/config/" ++ firstId, [.response 200 body]),
    ("GET /api/states", [.response 500 .empty])]

def storing (h : RestHub) (root : String) (body : Http.Body) (raw : Value) :
    Except Failure Reply × Session (Line Http.Script) :=
  (standard.answer (h.hub Http.Script.server) kitchenTenant (.create raw none)).run
    ⟨⟨storingScript root body, [], true⟩, 0⟩

def StoresNothing (h : RestHub) (root : String) (body : Http.Body) (raw : Value) : Prop :=
  ∀ e t, storing h root body raw = (.error e, t) → ∀ x ∈ t.hub.log, ∀ c, ¬ h.Stores c x

theorem not_storesNothing {h : RestHub} {root : String} {body : Http.Body} {raw : Value}
    (hstored : ∃ e t newer x c, storing h root body raw = (.error e, t) ∧
      t.hub.log = newer ++ [x] ∧ h.Stores c x) : ¬ StoresNothing h root body raw := by
  obtain ⟨e, t, newer, x, c, hrun, hlog, hstores⟩ := hstored
  exact fun hnothing => hnothing e t hrun x (by simp [hlog]) c hstores

theorem stored_muted : ∃ e t newer x c, storing home "" .empty mutedRequest = (.error e, t) ∧
    t.hub.log = newer ++ [x] ∧ home.Stores c x := by
  have haccepts : standard.Accepts mutedRequest kitchenTenant none none 0 mutedDraft firstId :=
    accepts_first rfl (by decide +kernel)
  have hrun := run_create_of_accepts (s := ⟨⟨storingScript "" .empty, [], true⟩, 0⟩)
    (home.hub Http.Script.server) haccepts
  exact ⟨_, _, [_], _, mutedDraft.compile firstId, run_map_eq_error.2 (hrun.trans rfl), rfl,
    rfl, 200, _, rfl, by decide, by decide⟩

def nowhere : RestHub :=
  .ofAddress "hub" "secret" 6 true

set_option maxRecDepth 2000 in
/-- A config stays stored where its flag cannot be set after it, where the reply to it cannot be
read, and where the address names no server. -/
theorem not_storesNothing_evening : ¬ StoresNothing home "" .empty mutedRequest ∧
    ¬ StoresNothing home "" (.flawed .malformed) eveningRequest ∧
    ¬ StoresNothing nowhere "/hub" .empty eveningRequest := by
  have haccepts : standard.Accepts eveningRequest kitchenTenant none none 0 eveningDraft firstId :=
    accepts_first readDraft_eveningRequest (by decide +kernel)
  refine ⟨not_storesNothing stored_muted, not_storesNothing ?_, not_storesNothing ?_⟩
  · have hrun := run_create_of_accepts
      (s := ⟨⟨storingScript "" (.flawed .malformed), [], true⟩, 0⟩)
      (home.hub Http.Script.server) haccepts
    exact ⟨_, _, [], _, eveningDraft.compile firstId, run_map_eq_error.2 (hrun.trans rfl), rfl,
      rfl, 200, _, rfl, by decide, by decide⟩
  · have hrun := run_create_of_accepts (s := ⟨⟨storingScript "/hub" .empty, [], true⟩, 0⟩)
      (nowhere.hub Http.Script.server) haccepts
    exact ⟨_, _, [], _, eveningDraft.compile firstId, run_map_eq_error.2 (hrun.trans rfl), rfl,
      rfl, 200, _, rfl, by decide, by decide⟩

theorem allOrNothing_muted : Request.raw? (.create mutedRequest none) = some mutedRequest ∧
    ∃ e t, storing home "" .empty mutedRequest = (.error e, t) ∧
      AllOrNothing home Http.Script.server kitchenTenant mutedRequest
        (standard.target? 0 (.create mutedRequest none)) e ⟨storingScript "" .empty, [], true⟩
        t.hub := by
  obtain ⟨e, t, newer, x, c, hrun, -⟩ := stored_muted
  have hraw : Request.raw? (.create mutedRequest none) = some mutedRequest := rfl
  exact ⟨hraw, e, t, hrun, allOrNothing_of_error
    (s := ⟨⟨storingScript "" .empty, [], true⟩, 0⟩) hraw hrun⟩

end Portal

end HomePortal
