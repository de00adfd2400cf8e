import HomePortal.Proofs.Hub.Rest
/-!
Storing a config at a hub behind a server: which exchange stored it, and how the request for it may
fail although the server replied with success.
-/

namespace HomePortal

namespace Http

def Exchange.Succeeded (x : Exchange) : Prop :=
  ∃ status body, x.reply = .response status body ∧ 200 ≤ status ∧ status < 300

end Http

namespace RestHub

open Http (Exchange IsGet Line Method Server)
open HubM (run_bind_cases run_bind_eq_ok)

variable {σ : Type} {h : RestHub} {server : Server σ} {method : Method} {path id : String}
  {body : Option Value} {line t : Line σ} {e : Failure} {c : Config} {x : Exchange}

structure Stores (h : RestHub) (c : Config) (x : Exchange) : Prop where
  asked : h.request .post (configPath c.id) (some (.record c.payload)) = .ok x.request
  answered : x.Succeeded

inductive Unread (x : Exchange) : Failure → Prop
  | malformed (status : Nat) (h : x.reply = .response status (.flawed .malformed)) :
      Unread x (.hub (.notJson status))
  | tooDeep (status : Nat) (h : x.reply = .response status (.flawed .tooDeep)) :
      Unread x (.fault .tooDeep)
  | nowhere (h : x.request.address.isComplete = false) : Unread x (.fault .badValue)

theorem unread_of_error (hx : x.Succeeded)
    (he : (usable x.request x.reply >>= replyData path) = .error e) : Unread x e := by
  obtain ⟨status, body, hreply, hlow, hhigh⟩ := hx
  rw [hreply, usable] at he
  by_cases hcomplete : x.request.address.isComplete = true
  · rw [if_pos hcomplete] at he
    change replyData path (.response status body) = .error e at he
    have hfound : ¬ (status = 404 ∧ configRoot.toList.isPrefixOf path.toList = true) := by omega
    have hsuccess : ¬ (status < 200 ∨ 300 ≤ status) := by omega
    simp only [replyData, if_neg hfound, if_neg hsuccess] at he
    cases body with
    | empty => cases he
    | value v => cases he
    | flawed f =>
      cases f with
      | malformed =>
        obtain rfl := Except.error.inj he
        exact .malformed status hreply
      | tooDeep =>
        obtain rfl := Except.error.inj he
        exact .tooDeep status hreply
  · rw [if_neg hcomplete] at he
    obtain rfl := Except.error.inj he
    exact .nowhere (by simpa using hcomplete)

/-- A request that fails was not made, or not replied to with success, or its reply is of no use. -/
theorem ask_eq_error (he : (h.ask server method path body).run line = (.error e, t)) :
    t.log = line.log ∨ ∃ x : Exchange, h.request method path body = .ok x.request ∧
      t.log = x :: line.log ∧ (x.Succeeded → Unread x e) := by
  obtain ⟨e', he'⟩ | ⟨r, hr, hopen⟩ := run_ask_cases h server method path body line
  · rw [he'] at he
    exact .inl (congrArg Line.log (Prod.mk.inj he).2).symm
  · rw [run_ask hr hopen] at he
    obtain ⟨hdata, rfl⟩ := Prod.mk.inj he
    exact .inr ⟨⟨r, (send server r line).1⟩, hr, rfl, fun hx => unread_of_error hx hdata⟩

theorem put_eq_error (he : (h.put server c.id c).run line = (.error e, t)) :
    ∃ sent, t.log = sent ++ line.log ∧ ((∀ y ∈ sent, ∀ c', ¬ h.Stores c' y) ∨
      ∃ x, sent = [x] ∧ h.Stores c x ∧ Unread x e) := by
  obtain ⟨e', hask, heq⟩ | ⟨v, u, -, hpure⟩ := run_bind_cases he
  · obtain rfl := Except.error.inj heq
    obtain hsame | ⟨x, hx, hlog, hunread⟩ := ask_eq_error hask
    · exact ⟨[], hsame, .inl nofun⟩
    · refine ⟨[x], hlog, ?_⟩
      by_cases hsuccess : x.Succeeded
      · exact .inr ⟨x, rfl, ⟨hx, hsuccess⟩, hunread hsuccess⟩
      · refine .inl fun y hy c' hstores => hsuccess ?_
        rw [← List.mem_singleton.1 hy]
        exact hstores.answered
  · cases (Prod.mk.inj hpure).1

theorem put_eq_ok {u : Unit} (hu : (h.put server c.id c).run line = (.ok u, t)) :
    ∃ x, t.log = x :: line.log ∧ h.Stores c x := by
  obtain ⟨v, w, hask, hpure⟩ := run_bind_eq_ok.1 hu
  obtain ⟨-, rfl⟩ := Prod.mk.inj hpure
  obtain ⟨x, hx, hlog, hdata⟩ := ask_eq_ok hask
  obtain ⟨status, body, hreply, hlow, hhigh, -⟩ := replyData_eq_ok hdata
  exact ⟨x, hlog, hx, status, body, hreply, hlow, hhigh⟩

theorem not_stores_of_isGet (hx : IsGet x) : ¬ h.Stores c x := by
  intro hstores
  have hmethod := (request_eq_ok hstores.asked).1
  rw [IsGet] at hx
  rw [hx] at hmethod
  cases hmethod

/-- The call of a service has another body than the request that stores a config. -/
theorem not_stores_of_switches {flag : Bool} {entity : String}
    (hx : h.Switches flag entity x.request) : ¬ h.Stores c x := by
  intro hstores
  have hbody := (request_eq_ok hstores.asked).2.1.symm.trans (request_eq_ok hx).2.1
  simp [Value.record, Config.payload] at hbody

end RestHub

end HomePortal
