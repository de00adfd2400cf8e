import HomePortal.Hub.Rest
import HomePortal.Proofs.Hub.Sends
import HomePortal.Scope
/-!
A hub behind a server: which requests each of its operations sends, whatever is replied, and what a
reply was like where an operation succeeds.
-/

namespace HomePortal

open Http (Exchange IsGet Line Method Server)

namespace RestHub

open HubM (Sends run_bind_of_ok run_bind_eq_ok run_ofExcept)

variable {σ : Type} {h : RestHub} {server : Server σ} {method : Method} {path id : String}
  {body : Option Value} {line t : Line σ}

theorem request_eq_ok {r : Http.Request} (hr : h.request method path body = .ok r) :
    r.method = method ∧ r.body = body ∧ Address.ofText (h.base ++ path) = .ok r.address := by
  unfold request at hr
  cases haddress : Address.ofText (h.base ++ path) with
  | error e =>
    rw [haddress] at hr
    cases hr
  | ok address =>
    rw [haddress] at hr
    by_cases htoken : h.token.toList.all (fun c => c.val < 128) = true
    · by_cases hbody : body.all isSendable = true
      · simp only [htoken, hbody] at hr
        obtain rfl := Except.ok.inj hr
        exact ⟨rfl, rfl, rfl⟩
      · simp only [htoken, hbody] at hr
        cases hr
    · simp only [htoken] at hr
      cases hr

/-- A request that cannot be made fails before the hub is asked. -/
theorem request_eq_error {e : Failure} (he : h.request method path body = .error e) :
    ∃ fault, e = .fault fault := by
  unfold request Address.ofText at he
  cases haddress : Address.read? (h.base ++ path).toList with
  | none =>
    rw [haddress] at he
    exact ⟨_, (Except.error.inj he).symm⟩
  | some a =>
    rw [haddress] at he
    by_cases htoken : h.token.toList.all (fun c => c.val < 128) = true
    · by_cases hbody : body.all isSendable = true
      · simp only [htoken, hbody] at he
        cases he
      · simp only [htoken, hbody] at he
        exact ⟨_, (Except.error.inj he).symm⟩
    · simp only [htoken] at he
      exact ⟨_, (Except.error.inj he).symm⟩

/-- Requests for one path go to one address. -/
theorem address_eq {method' : Method} {body' : Option Value} {r r' : Http.Request}
    (hr : h.request method path body = .ok r) (hr' : h.request method' path body' = .ok r') :
    r.address = r'.address := by
  have haddress := (request_eq_ok hr).2.2
  rw [(request_eq_ok hr').2.2] at haddress
  exact (Except.ok.inj haddress).symm

/-- A request that can be made goes out over an open line, whatever becomes of the reply. -/
theorem run_ask {r : Http.Request} (hr : h.request method path body = .ok r)
    (hopen : line.isOpen = true) : (h.ask server method path body).run line =
      (usable r (send server r line).1 >>= replyData path, (send server r line).2) := by
  have hsend : (ExceptT.lift (send server r) : HubM (Line σ) Http.Reply).run line =
      (.ok (send server r line).1, (send server r line).2) := rfl
  rw [ask, hr]
  change (if (!line.isOpen) = true then _ else _ : HubM (Line σ) Value).run line = _
  rw [hopen]
  change (ExceptT.lift (send server r) >>= fun reply => ofExcept (usable r reply) >>= fun reply =>
    ofExcept (replyData path reply) : HubM (Line σ) Value).run line = _
  rw [run_bind_of_ok hsend]
  cases usable r (send server r line).1 with
  | error e => rfl
  | ok reply => exact run_ofExcept _ _

theorem run_ask_of_error {e : Failure} (hr : h.request method path body = .error e) :
    (h.ask server method path body).run line = (.error e, line) := by
  rw [ask, hr]
  rfl

theorem run_ask_of_closed {r : Http.Request} (hr : h.request method path body = .ok r)
    (hclosed : line.isOpen = false) :
    (h.ask server method path body).run line = (.error (.fault .closed), line) := by
  rw [ask, hr]
  change (if (!line.isOpen) = true then _ else _ : HubM (Line σ) Value).run line = _
  rw [hclosed]
  rfl

theorem run_ask_cases (h : RestHub) (server : Server σ) (method : Method) (path : String)
    (body : Option Value) (line : Line σ) :
    (∃ e, (h.ask server method path body).run line = (.error e, line)) ∨
      ∃ r, h.request method path body = .ok r ∧ line.isOpen = true := by
  cases hr : h.request method path body with
  | error e => exact .inl ⟨e, run_ask_of_error hr⟩
  | ok r =>
    cases hopen : line.isOpen with
    | true => exact .inr ⟨r, rfl, rfl⟩
    | false => exact .inl ⟨.fault .closed, run_ask_of_closed hr hopen⟩

theorem sends_ask (h : RestHub) (server : Server σ) (method : Method) (path : String)
    (body : Option Value) (line : Line σ) :
    Sends Line.log (fun e => h.request method path body = .ok e.request)
      (h.ask server method path body) line := by
  obtain ⟨e, he⟩ | ⟨r, hr, hopen⟩ := run_ask_cases h server method path body line
  · apply Sends.of_same
    rw [he]
  · refine ⟨[⟨r, (send server r line).1⟩], ?_, ?_⟩
    · rw [run_ask hr hopen]
      rfl
    · simp [hr]

/-- What was asked for was replied with success. -/
theorem ask_eq_ok {v : Value} (hv : (h.ask server method path body).run line = (.ok v, t)) :
    ∃ e : Exchange, h.request method path body = .ok e.request ∧ t.log = e :: line.log ∧
      replyData path e.reply = .ok v := by
  obtain ⟨e, he⟩ | ⟨r, hr, hopen⟩ := run_ask_cases h server method path body line
  · rw [he] at hv
    cases hv
  · rw [run_ask hr hopen] at hv
    obtain ⟨hdata, rfl⟩ := Prod.mk.inj hv
    refine ⟨⟨r, (send server r line).1⟩, hr, rfl, ?_⟩
    cases hreply : (send server r line).1 with
    | unreachable reason =>
      rw [hreply] at hdata
      cases hdata
    | response status body =>
      rw [hreply, usable] at hdata
      split at hdata
      · exact hdata
      · cases hdata

theorem replyData_eq_ok {reply : Http.Reply} {v : Value} (hv : replyData path reply = .ok v) :
    ∃ status body, reply = .response status body ∧ 200 ≤ status ∧ status < 300 ∧
      (body = .value v ∨ v = .null) := by
  cases reply with
  | unreachable reason => cases hv
  | response status body =>
    simp only [replyData.eq_def] at hv
    split at hv
    · cases hv
    · split at hv
      · cases hv
      · rename_i hstatus
        refine ⟨status, body, rfl, by omega, by omega, ?_⟩
        cases body with
        | empty => exact .inr (Except.ok.inj hv).symm
        | value w => exact .inl (congrArg Http.Body.value (Except.ok.inj hv))
        | flawed f => cases f <;> cases hv

/-- A config is read from a mapping, and refers to what stands there. -/
theorem readConfig_eq_ok {v : Value} {c : Config} (hc : readConfig id v = .ok c) :
    ∃ fields, v = .mapping fields ∧ c.references = (Config.ofEntries fields).references := by
  unfold readConfig at hc
  split at hc
  · rename_i fields
    refine ⟨fields, rfl, ?_⟩
    rw [← Except.ok.inj hc]
    split <;> rfl
  · cases hc

theorem config_ofState (state : Option EntityState) (c : Config) :
    (Automation.ofState state c).config = c := by
  cases state <;> rfl

/-! What each operation sends. -/

def Switches (h : RestHub) (flag : Bool) (entity : String) (r : Http.Request) : Prop :=
  h.request .post (servicePath flag) (some (.record [("entity_id", .text entity)])) = .ok r

theorem isGet_of_request {e : Exchange} (hr : h.request .get path body = .ok e.request) :
    IsGet e :=
  (request_eq_ok hr).1

theorem asks_states (h : RestHub) (server : Server σ) (line : Line σ) :
    Sends Line.log (fun e => h.request .get statesPath none = .ok e.request)
      (h.states server) line := by
  apply (sends_ask h server .get statesPath none line).bind
  intro v t _
  split
  · exact Sends.of_same rfl
  · exact Sends.of_same rfl

theorem sends_states (h : RestHub) (server : Server σ) (line : Line σ) :
    Sends Line.log IsGet (h.states server) line :=
  (asks_states h server line).mono fun _ => isGet_of_request

theorem asks_fetch (h : RestHub) (server : Server σ) (id : String) (line : Line σ) :
    Sends Line.log (fun e => h.request .get (configPath id) none = .ok e.request)
      (h.fetch server id) line := by
  apply (sends_ask h server .get (configPath id) none line).bind
  intro v t _
  exact Sends.ofExcept _ t

theorem sends_fetch (h : RestHub) (server : Server σ) (id : String) (line : Line σ) :
    Sends Line.log IsGet (h.fetch server id) line :=
  (asks_fetch h server id line).mono fun _ => isGet_of_request

theorem sends_fetchFor (h : RestHub) (server : Server σ) (s : EntityState) (line : Line σ) :
    Sends Line.log IsGet (h.fetchFor server s) line := by
  unfold fetchFor
  split
  · exact Sends.of_same rfl
  · rename_i id _
    apply (sends_fetch h server id line).observing.bind
    intro outcome t _
    split <;> exact Sends.of_same rfl

theorem sends_list (h : RestHub) (server : Server σ) (line : Line σ) :
    Sends Line.log IsGet (h.list server) line := by
  apply (sends_states h server line).bind
  intro states t _
  apply (Sends.mapM (fun s u => (sends_fetchFor h server s u).observing) _ t).bind
  intro outcomes u _
  apply (Sends.ofExcept _ u).bind
  intro _ v _
  apply (Sends.ofExcept _ v).bind
  intro found w _
  exact Sends.of_same rfl

theorem sends_get (h : RestHub) (server : Server σ) (id : String) (line : Line σ) :
    Sends Line.log IsGet (h.get server id) line := by
  apply (sends_fetch h server id line).bind
  intro c t _
  apply (sends_states h server t).bind
  intro states u _
  exact Sends.of_same rfl

/-- What is stored is the payload of the config, under the id. -/
theorem sends_put (h : RestHub) (server : Server σ) (id : String) (c : Config) (line : Line σ) :
    Sends Line.log (fun e => h.request .post (configPath id)
      (some (.record ({ c with id } : Config).payload)) = .ok e.request)
      (h.put server id c) line := by
  apply (sends_ask h server .post (configPath id) _ line).bind
  intro v t _
  exact Sends.of_same rfl

theorem sends_delete (h : RestHub) (server : Server σ) (id : String) (line : Line σ) :
    Sends Line.log (fun e => h.request .delete (configPath id) none = .ok e.request)
      (h.delete server id) line := by
  apply (sends_ask h server .delete (configPath id) none line).bind
  intro v t _
  exact Sends.of_same rfl

theorem sends_entityFor (h : RestHub) (server : Server σ) (id : String) (line : Line σ) :
    Sends Line.log IsGet (h.entityFor server id) line := by
  unfold entityFor
  split
  · exact Sends.of_same rfl
  · apply (sends_states h server line).bind
    intro states t _
    exact Sends.of_same rfl

theorem sends_call (h : RestHub) (server : Server σ) (flag : Bool) (entity : String)
    (line : Line σ) : Sends Line.log (fun e => h.Switches flag entity e.request)
      (h.ask server .post (servicePath flag) (some (.record [("entity_id", .text entity)])) >>=
        fun _ => pure ()) line := by
  apply (sends_ask h server .post (servicePath flag) _ line).bind
  intro v t _
  exact Sends.of_same rfl

theorem sends_setEnabled (h : RestHub) (server : Server σ) (id : String) (flag : Bool)
    (line : Line σ) : Sends Line.log (fun e => IsGet e ∨ ∃ entity, h.Switches flag entity e.request)
      (h.setEnabled server id flag) line := by
  apply ((sends_entityFor h server id line).mono fun _ => .inl).bind
  intro entity t _
  exact (sends_call h server flag entity t).mono fun e he => .inr ⟨entity, he⟩

/-- An exchange in which the hub replied with a config that a caller may edit. -/
structure Approves (h : RestHub) (scope : Scope) (id : String) (e : Exchange) : Prop where
  asked : h.request .get (configPath id) none = .ok e.request
  answered : ∃ status fields, 200 ≤ status ∧ status < 300 ∧
    e.reply = .response status (.value (.mapping fields)) ∧
    scope.canEdit (Config.ofEntries fields).references = true

theorem fetch_eq_ok {c : Config} (hc : (h.fetch server id).run line = (.ok c, t)) :
    ∃ e : Exchange, t.log = e :: line.log ∧ IsGet e ∧
      ∀ scope : Scope, scope.canEdit c.references = true → h.Approves scope id e := by
  obtain ⟨v, u, hask, hread⟩ := run_bind_eq_ok.1 hc
  rw [run_ofExcept] at hread
  obtain ⟨hconfig, rfl⟩ := Prod.mk.inj hread
  obtain ⟨e, hasked, hlog, hdata⟩ := ask_eq_ok hask
  refine ⟨e, hlog, isGet_of_request hasked, fun scope hedit => ⟨hasked, ?_⟩⟩
  obtain ⟨status, body, hreply, hlow, hhigh, hbody⟩ := replyData_eq_ok hdata
  obtain ⟨fields, rfl, hreferences⟩ := readConfig_eq_ok hconfig
  have hvalue : body = .value (.mapping fields) := hbody.resolve_right nofun
  rw [hvalue] at hreply
  rw [hreferences] at hedit
  exact ⟨status, fields, hlow, hhigh, hreply, hedit⟩

/-- An automation was read from what the hub replied for its id. -/
theorem get_eq_ok {a : Automation} (ha : (h.get server id).run line = (.ok a, t)) :
    ∃ sent, t.log = sent ++ line.log ∧ (∀ e ∈ sent, IsGet e) ∧
      ∀ scope : Scope, scope.canEdit a.config.references = true →
        ∃ e ∈ sent, h.Approves scope id e := by
  obtain ⟨c, u, hfetch, hrest⟩ := run_bind_eq_ok.1 ha
  obtain ⟨states, w, hstates, hpure⟩ := run_bind_eq_ok.1 hrest
  obtain ⟨hstate, rfl⟩ := Prod.mk.inj hpure
  obtain rfl := Except.ok.inj hstate
  obtain ⟨e, he, hget, happroves⟩ := fetch_eq_ok hfetch
  obtain ⟨more, hmore, hgets⟩ := (sends_states h server u).log_eq hstates
  refine ⟨more ++ [e], ?_, ?_, fun scope hedit => ⟨e, by simp, happroves scope ?_⟩⟩
  · rw [hmore, he, List.append_assoc, List.singleton_append]
  · intro x hx
    cases List.mem_append.1 hx with
    | inl hx => exact hgets x hx
    | inr hx =>
      rw [List.mem_singleton.1 hx]
      exact hget
  · rwa [config_ofState] at hedit

structure ListsStates (h : RestHub) (listed : List EntityState) (e : Exchange) : Prop where
  asked : h.request .get statesPath none = .ok e.request
  answered : ∃ status items, 200 ≤ status ∧ status < 300 ∧
    e.reply = .response status (.value (.list items)) ∧
    items.filterMap EntityState.ofValue? = listed

theorem states_eq_ok {listed : List EntityState}
    (hstates : (h.states server).run line = (.ok listed, t)) :
    ∃ e : Exchange, t.log = e :: line.log ∧ h.ListsStates listed e := by
  obtain ⟨v, u, hask, hrest⟩ := run_bind_eq_ok.1 hstates
  obtain ⟨e, hasked, hlog, hdata⟩ := ask_eq_ok hask
  obtain ⟨status, body, hreply, hlow, hhigh, hbody⟩ := replyData_eq_ok hdata
  split at hrest
  · rename_i items
    obtain ⟨hlisted, rfl⟩ := Prod.mk.inj hrest
    have hvalue : body = .value (.list items) := hbody.resolve_right nofun
    rw [hvalue] at hreply
    exact ⟨e, hlog, hasked, status, items, hlow, hhigh, hreply, Except.ok.inj hlisted⟩
  · cases (Prod.mk.inj hrest).1

end RestHub

end HomePortal
