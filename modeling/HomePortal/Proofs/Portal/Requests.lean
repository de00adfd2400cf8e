import HomePortal.Proofs.Config.Id
import HomePortal.Proofs.Config.Payload
import HomePortal.Proofs.Hub.Rest
import HomePortal.Proofs.Portal.Run
/-!
What a portal sends to a hub behind a server, whatever the server replies: it reads, and for a
caller it changes only what the hub has just reported as the caller's to edit.
-/

namespace HomePortal

open Http (Exchange IsGet Line Server)
open HubM (Sends Obeys)

inductive RestHub.Change (h : RestHub) (scope : Scope) (id : String) (r : Http.Request) : Prop
  | stored (fields : Entries)
      (hr : h.request .post (configPath id) (some (.mapping fields)) = .ok r)
      (hin : ∀ e ∈ (Config.ofEntries fields).references.all, e ∈ scope.entities)
  | removed (hr : h.request .delete (configPath id) none = .ok r)
  | switched (flag : Bool) (entity : String) (hr : h.Switches flag entity r)

def RestHub.Approved (h : RestHub) (scope : Scope) (target : Option String) (older : List Exchange)
    (e : Exchange) : Prop :=
  ∃ id, target = some id ∧ h.Change scope id e.request ∧ ∃ g ∈ older, h.Approves scope id g

theorem RestHub.Change.address_eq {h : RestHub} {scope : Scope} {id : String} {r : Http.Request}
    {g : Exchange} (hchange : h.Change scope id r) (happroves : h.Approves scope id g) :
    r.address = g.request.address ∨ ∃ flag entity, h.Switches flag entity r := by
  cases hchange with
  | stored fields hr _ => exact .inl (RestHub.address_eq hr happroves.asked)
  | removed hr => exact .inl (RestHub.address_eq hr happroves.asked)
  | switched flag entity hr => exact .inr ⟨flag, entity, hr⟩

namespace Portal

variable {σ α : Type} {h : RestHub} {server : Server σ} {p : Portal} {scope : Scope}
  {id : String} {raw : Value} {devices : Option (List Device)} {s t : Session (Line σ)}
  {P : Exchange → Prop}

def log (s : Session (Line σ)) : List Exchange :=
  s.hub.log

theorem sends_onHub {act : HubM (Line σ) α} (hact : Sends Line.log P act s.hub) :
    Sends log P (onHub act) s :=
  hact

theorem log_of_prepare {existing : Option String} {outcome : Except Failure Prepared}
    (hrun : (p.prepare raw scope existing devices).run s = (outcome, t)) : log t = log s :=
  congrArg Line.log (run_prepare_cases hrun).1

/-- Switching is no change of a config, so it may go with any id. -/
theorem sends_switch (other : String) (flag : Bool) (line : Line σ) :
    Sends Line.log (fun e => IsGet e ∨ h.Change scope id e.request)
      (h.setEnabled server other flag) line := by
  apply (RestHub.sends_setEnabled h server other flag line).mono
  intro e he
  exact he.imp_right fun hswitch => .switched flag hswitch.choose hswitch.choose_spec

theorem sends_setAsDrafted (other : String) (d : Draft) (s : Session (Line σ)) :
    Sends log (fun e => IsGet e ∨ h.Change scope id e.request)
      (setAsDrafted (h.hub server) other d) s := by
  unfold setAsDrafted
  split
  · exact sends_onHub (sends_switch other _ s.hub)
  · exact Sends.of_same rfl

theorem sends_put {c : Config} (hallows : scope.allows c.references = true) (line : Line σ) :
    Sends Line.log (fun e => h.Change scope id e.request) (h.put server id c) line := by
  apply (RestHub.sends_put h server id c line).mono
  intro e he
  obtain ⟨fields, hpayload, -, hreferences⟩ := Config.references_payload { c with id }
  rw [hpayload] at he
  refine .stored fields he ?_
  rw [hreferences]
  exact EntitySet.within_iff.1 hallows

theorem sends_authorizeStored (h : RestHub) (server : Server σ) (id : String) (scope : Scope)
    (s : Session (Line σ)) : Sends log IsGet (authorizeStored (h.hub server) id scope) s := by
  apply (sends_onHub (RestHub.sends_get h server id s.hub)).bind
  intro a t _
  exact Sends.of_same rfl

theorem authorizeStored_eq_ok {u : Unit}
    (hrun : (authorizeStored (h.hub server) id scope).run s = (.ok u, t)) :
    ∃ sent, log t = sent ++ log s ∧ (∀ e ∈ sent, IsGet e) ∧
      ∃ g ∈ sent, h.Approves scope id g := by
  obtain ⟨a, v, hget, hdenied⟩ := run_bind_eq_ok.1 hrun
  obtain ⟨hedit, rfl⟩ := run_denied_eq_ok.1 hdenied
  rw [run_onHub] at hget
  obtain ⟨ha, rfl⟩ := Prod.mk.inj hget
  obtain ⟨sent, hlog, hsent, happroved⟩ := RestHub.get_eq_ok (Prod.ext ha rfl)
  exact ⟨sent, hlog, hsent, happroved scope (authorizeEdit_eq_ok.1 hedit)⟩

/-- What comes after the check of a stored config obeys its own law, and comes after the hub has
reported that config. -/
theorem obeys_authorizeStored {law : List Exchange → Exchange → Prop} {rest : PortalM (Line σ) α}
    (hlaw : ∀ gap first e, law gap e → law (gap ++ first) e) (hrest : ∀ t, Obeys log law rest t) :
    Obeys log (fun older e => law older e ∧ ∃ g ∈ older, h.Approves scope id g)
      (authorizeStored (h.hub server) id scope >>= fun _ => rest) s := by
  apply Obeys.bind_of_gets (sends_authorizeStored h server id scope s)
  · intro _ t hrun
    exact authorizeStored_eq_ok hrun
  · intro _ t _
    exact hrest t
  · intro _ first gap e happroved hlater
    obtain ⟨g, hg, happroves⟩ := happroved
    exact ⟨hlaw gap first e hlater, g, List.mem_append_right gap hg, happroves⟩

theorem obeys_setEnabled {law : List Exchange → Exchange → Prop} {enabled : Value}
    (hlaw : ∀ gap first e, law gap e → law (gap ++ first) e)
    (hset : ∀ flag line, enabled = .bool flag →
      Obeys Line.log law (h.setEnabled server id flag) line) :
    Obeys log (fun older e => law older e ∧ ∃ g ∈ older, h.Approves scope id g)
      (setEnabled (h.hub server) id enabled scope) s := by
  apply Obeys.bind_of_same (congrArg log (run_requireId rfl))
  intro _ t _
  split
  · rename_i flag
    apply Obeys.bind_of_same rfl
    intro _ u _
    apply obeys_authorizeStored hlaw
    intro v
    exact hset flag v.hub rfl
  · exact Obeys.of_same rfl

/-! ### The calls -/

theorem approved_of_obeys {x : PortalM (Line σ) α} (hx : Obeys log (fun older e =>
      h.Change scope id e.request ∧ ∃ g ∈ older, h.Approves scope id g) x s) :
    Obeys log (h.Approved scope (some id)) x s :=
  hx.mono fun _ _ happroved => ⟨id, rfl, happroved⟩

theorem approved_authorizeStored {rest : PortalM (Line σ) α}
    (hrest : ∀ t, Sends log (fun e => IsGet e ∨ h.Change scope id e.request) rest t) :
    Obeys log (h.Approved scope (some id))
      (authorizeStored (h.hub server) id scope >>= fun _ => rest) s :=
  approved_of_obeys (obeys_authorizeStored (fun _ _ _ hchange => hchange) fun t =>
    Obeys.of_sends (hrest t))

theorem approved_delete (h : RestHub) (server : Server σ) (id : String) (scope : Scope)
    (s : Session (Line σ)) :
    Obeys log (h.Approved scope (some id)) (delete (h.hub server) id scope) s := by
  apply Obeys.bind_of_same (congrArg log (run_requireId rfl))
  intro _ t _
  apply Obeys.bind_of_same rfl
  intro _ u _
  apply approved_authorizeStored
  intro v
  apply sends_onHub
  exact (RestHub.sends_delete h server id v.hub).mono fun e he => .inr (.removed he)

theorem approved_setEnabled (h : RestHub) (server : Server σ) (id : String) (enabled : Value)
    (scope : Scope) (s : Session (Line σ)) :
    Obeys log (h.Approved scope (some id)) (setEnabled (h.hub server) id enabled scope) s := by
  apply approved_of_obeys
  apply obeys_setEnabled fun _ _ _ hchange => hchange
  intro flag line _
  exact Obeys.of_sends (sends_switch id flag line)

/-- What is replaced and checked goes by the reduced id. -/
theorem approved_update (h : RestHub) (server : Server σ) (p : Portal) (id : String) (raw : Value)
    (scope : Scope) (devices : Option (List Device)) (s : Session (Line σ)) :
    Obeys log (h.Approved scope (AutomationId.reduce? id))
      (p.update (h.hub server) id raw scope devices) s := by
  apply Obeys.bind_of_same (congrArg log (run_requireId rfl))
  intro _ t hrequire
  have hne : id ≠ "" := (run_requireId_eq_ok.1 hrequire).1
  apply Obeys.bind_of_same (log_of_prepare rfl)
  intro r u hprepare
  obtain ⟨hallows, hchosen⟩ := run_prepare_ok hprepare
  rw [AutomationId.choose?, AutomationId.kept?_of_ne hne, Option.getD_some] at hchosen
  rw [hchosen]
  apply approved_authorizeStored
  intro v
  apply ((sends_onHub (sends_put hallows v.hub)).mono fun _ => .inr).bind
  intro _ w _
  apply (sends_setAsDrafted r.config.id r.draft w).bind
  intro _ x _
  exact Sends.of_same rfl

theorem obeys_create (h : RestHub) (server : Server σ) (p : Portal) (raw : Value) (scope : Scope)
    (devices : Option (List Device)) (s : Session (Line σ)) :
    Obeys log (fun _ e => ∃ id, AutomationId.choose? none p.mark s.token = some id ∧
      h.Change scope id e.request) (p.create (h.hub server) raw scope devices) s := by
  apply Obeys.bind_of_same (log_of_prepare rfl)
  intro r t hprepare
  obtain ⟨hallows, hchosen⟩ := run_prepare_ok hprepare
  have hcreate : Sends Line.log (fun e => IsGet e ∨ h.Change scope r.config.id e.request)
      (h.create server r.config) t.hub := by
    apply ((sends_put hallows t.hub).mono fun _ => .inr).bind
    intro _ line _
    exact Sends.of_same rfl
  have hwrite : Sends log (fun e => IsGet e ∨ h.Change scope r.config.id e.request)
      (onHub ((h.hub server).create r.config) >>= fun id =>
        setAsDrafted (h.hub server) id r.draft >>= fun _ => pure id) t := by
    apply (sends_onHub hcreate).bind
    intro id u _
    apply (sends_setAsDrafted id r.draft u).bind
    intro _ v _
    exact Sends.of_same rfl
  exact (Obeys.of_sends hwrite).mono fun _ e hchange => ⟨r.config.id, hchosen, hchange⟩

/-! ### All calls -/

def target? (p : Portal) (token : Nat) : Request → Option String
  | .create _ _ => AutomationId.choose? none p.mark token
  | .update id _ _ => AutomationId.reduce? id
  | .delete id | .setEnabled id _ => some id
  | .list _ | .prepare _ _ _ => none

theorem approved_answer (h : RestHub) (server : Server σ) (p : Portal) (scope : Scope)
    (s : Session (Line σ)) {request : Request}
    (hold : ∀ raw devices, request ≠ .create raw devices) :
    Obeys log (h.Approved scope (p.target? s.token request))
      (p.answer (h.hub server) scope request) s := by
  cases request with
  | list entity =>
    apply Obeys.map
    apply Obeys.of_gets
    apply (sends_onHub (RestHub.sends_list h server s.hub)).bind
    intro automations t _
    exact Sends.of_same rfl
  | create raw devices => exact absurd rfl (hold raw devices)
  | update id raw devices => exact (approved_update h server p id raw scope devices s).map _
  | delete id => exact (approved_delete h server id scope s).map _
  | setEnabled id enabled => exact (approved_setEnabled h server id enabled scope s).map _
  | prepare raw existing devices => exact (Obeys.of_same (log_of_prepare rfl)).map _

/-- Whatever a server replies, a call changes nothing at the hub but under the id that it acts on. A
config that it stores refers to entities of the caller only. Unless the call makes the automation,
each change comes after the hub has replied, in the same call, that what is under that id is the
caller's to edit. -/
theorem changes_authorized (h : RestHub) (server : Server σ) (p : Portal) (scope : Scope)
    (request : Request) (s : Session (Line σ)) :
    ∃ sent, ((p.answer (h.hub server) scope request).run s).2.hub.log = sent ++ s.hub.log ∧
      ∀ newer e older, sent = newer ++ e :: older → e.request.method ≠ .get →
        ∃ id, p.target? s.token request = some id ∧ h.Change scope id e.request ∧
          ((∀ raw devices, request ≠ .create raw devices) → ∃ g ∈ older, h.Approves scope id g ∧
            (e.request.address = g.request.address ∨
              ∃ flag entity, h.Switches flag entity e.request)) := by
  by_cases hnew : ∃ raw devices, request = .create raw devices
  · obtain ⟨raw, devices, rfl⟩ := hnew
    apply Obeys.mono ((obeys_create h server p raw scope devices s).map Reply.id)
    intro older e hchange
    obtain ⟨id, hchosen, hchange⟩ := hchange
    exact ⟨id, hchosen, hchange, fun hold => absurd rfl (hold raw devices)⟩
  · have hold : ∀ raw devices, request ≠ .create raw devices :=
      fun raw devices heq => hnew ⟨raw, devices, heq⟩
    apply Obeys.mono (approved_answer h server p scope s hold)
    intro older e happroved
    obtain ⟨id, htarget, hchange, g, hg, happroves⟩ := happroved
    exact ⟨id, htarget, hchange, fun _ => ⟨g, hg, happroves, hchange.address_eq happroves⟩⟩

end Portal

end HomePortal
