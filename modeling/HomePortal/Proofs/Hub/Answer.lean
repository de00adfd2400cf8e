import HomePortal.Proofs.Hub.Rest
/-!
What asking a hub's server comes to: which replies fail the request and how, which of them say that
a config is missing, and which bring data.
-/

namespace HomePortal.RestHub

open Http (Line Server)

variable {σ : Type} {h : RestHub} {server : Server σ} {line t : Line σ} {r : Http.Request}
  {reply : Http.Reply} {e : Failure}

inductive Target where
  | states
  | config (id : String)
  deriving DecidableEq

def Target.path : Target → String
  | states => statesPath
  | config id => configPath id

inductive Answer where
  | failed (e : Failure)
  | missing
  | data (v : Value)

inductive Brings (status : Nat) : Http.Body → Answer → Prop
  | empty : Brings status .empty (.data .null)
  | value (v : Value) : Brings status (.value v) (.data v)
  | malformed : Brings status (.flawed .malformed) (.failed (.hub (.notJson status)))
  | tooDeep : Brings status (.flawed .tooDeep) (.failed (.fault .tooDeep))

/-- What a reply means. Only a config can be missing. -/
inductive Means (target : Target) (r : Http.Request) : Http.Reply → Answer → Prop
  | unreachable {reason : String} :
    Means target r (.unreachable reason) (.failed (.hub (.unreachable reason)))
  | nowhere {status : Nat} {body : Http.Body} (haddress : r.address.isComplete = false) :
    Means target r (.response status body) (.failed (.fault .badValue))
  | missing {body : Http.Body} (haddress : r.address.isComplete = true)
    (htarget : target ≠ .states) : Means target r (.response 404 body) .missing
  | refused {status : Nat} {body : Http.Body} (haddress : r.address.isComplete = true)
    (hstatus : status < 200 ∨ 300 ≤ status) (hnot : status ≠ 404 ∨ target = .states) :
    Means target r (.response status body) (.failed (.hub (.failed status)))
  | success {status : Nat} {body : Http.Body} {answer : Answer}
    (haddress : r.address.isComplete = true) (hlow : 200 ≤ status) (hhigh : status < 300)
    (hbrings : Brings status body answer) : Means target r (.response status body) answer

inductive Asks (h : RestHub) (server : Server σ) (target : Target) (line : Line σ) :
    Answer → Line σ → Prop
  | unsent {e : Failure} (hrequest : h.request .get target.path none = .error e) :
    Asks h server target line (.failed e) line
  | closed {r : Http.Request} (hrequest : h.request .get target.path none = .ok r)
    (hclosed : line.isOpen = false) : Asks h server target line (.failed (.fault .closed)) line
  | replied {r : Http.Request} {answer : Answer}
    (hrequest : h.request .get target.path none = .ok r) (hopen : line.isOpen = true)
    (hmeans : Means target r (send server r line).1 answer) :
    Asks h server target line answer (send server r line).2

variable {target : Target} {answer : Answer}

def Answer.outcome (target : Target) : Answer → Except Failure Value
  | failed e => .error e
  | missing => .error (.hub (.noConfig target.path))
  | data v => .ok v

theorem configRoot_isPrefixOf_iff :
    configRoot.toList.isPrefixOf target.path.toList = true ↔ target ≠ .states := by
  cases target with
  | states => exact iff_of_false (by decide) (fun h => h rfl)
  | config id =>
    refine iff_of_true ?_ nofun
    rw [Target.path, configPath, String.toList_append]
    exact List.isPrefixOf_iff_prefix.2 (List.prefix_append _ _)

theorem outcome_of_complete {status : Nat} {body : Http.Body}
    (haddress : r.address.isComplete = true) :
    (usable r (.response status body) >>= replyData target.path) =
      replyData target.path (.response status body) := by
  rw [usable, if_pos haddress]
  rfl

theorem outcome_of_means (hmeans : Means target r reply answer) :
    (usable r reply >>= replyData target.path) = answer.outcome target := by
  cases hmeans with
  | unreachable => rfl
  | nowhere haddress =>
    rw [usable, if_neg (by simp [haddress])]
    rfl
  | missing haddress htarget =>
    rw [outcome_of_complete haddress, replyData.eq_def]
    exact if_pos ⟨rfl, configRoot_isPrefixOf_iff.2 htarget⟩
  | refused haddress hstatus hnot =>
    rw [outcome_of_complete haddress, replyData.eq_def]
    refine (if_neg fun hmissing => ?_).trans (if_pos hstatus)
    exact hnot.elim (fun hne => hne hmissing.1) (configRoot_isPrefixOf_iff.1 hmissing.2)
  | success haddress hlow hhigh hbrings =>
    rw [outcome_of_complete haddress, replyData.eq_def]
    refine (if_neg fun hmissing => ?_).trans ((if_neg (by omega)).trans ?_)
    · omega
    · cases hbrings with
      | empty => rfl
      | value v => rfl
      | malformed => rfl
      | tooDeep => rfl

theorem exists_brings (status : Nat) (body : Http.Body) : ∃ answer, Brings status body answer := by
  cases body with
  | empty => exact ⟨_, .empty⟩
  | value v => exact ⟨_, .value v⟩
  | flawed f =>
    cases f with
    | malformed => exact ⟨_, .malformed⟩
    | tooDeep => exact ⟨_, .tooDeep⟩

theorem exists_means (target : Target) (r : Http.Request) (reply : Http.Reply) :
    ∃ answer, Means target r reply answer := by
  cases reply with
  | unreachable reason => exact ⟨_, .unreachable⟩
  | response status body =>
    by_cases haddress : r.address.isComplete = true
    · by_cases hsuccess : status < 200 ∨ 300 ≤ status
      · by_cases hmissing : status = 404 ∧ target ≠ .states
        · obtain ⟨rfl, htarget⟩ := hmissing
          exact ⟨_, .missing haddress htarget⟩
        · refine ⟨_, .refused haddress hsuccess ?_⟩
          rwa [Decidable.not_and_iff_or_not, Decidable.not_not] at hmissing
      · obtain ⟨answer, hbrings⟩ := exists_brings status body
        exact ⟨answer, .success haddress (by omega) (by omega) hbrings⟩
    · exact ⟨_, .nowhere (by simpa using haddress)⟩

theorem run_of_asks (hasks : Asks h server target line answer t) :
    (h.ask server .get target.path none).run line = (answer.outcome target, t) := by
  cases hasks with
  | unsent hrequest => exact run_ask_of_error hrequest
  | closed hrequest hclosed => exact run_ask_of_closed hrequest hclosed
  | replied hrequest hopen hmeans => rw [run_ask hrequest hopen, outcome_of_means hmeans]

theorem exists_asks (h : RestHub) (server : Server σ) (target : Target) (line : Line σ) :
    ∃ answer t, Asks h server target line answer t := by
  cases hrequest : h.request .get target.path none with
  | error e => exact ⟨_, _, .unsent hrequest⟩
  | ok r =>
    cases hopen : line.isOpen with
    | false => exact ⟨_, _, .closed hrequest hopen⟩
    | true =>
      obtain ⟨answer, hmeans⟩ := exists_means target r (send server r line).1
      exact ⟨answer, _, .replied hrequest hopen hmeans⟩

theorem Means.ne_noConfig (hmeans : Means target r reply (.failed e)) (path : String) :
    e ≠ .hub (.noConfig path) := by
  cases hmeans with
  | unreachable => nofun
  | nowhere haddress => nofun
  | refused haddress hstatus hnot => nofun
  | success haddress hlow hhigh hbrings =>
    cases hbrings with
    | malformed => nofun
    | tooDeep => nofun

/-- Nothing fails because a config is missing: that is an answer of its own. -/
theorem Asks.ne_noConfig (hasks : Asks h server target line (.failed e) t) (path : String) :
    e ≠ .hub (.noConfig path) := by
  cases hasks with
  | unsent hrequest =>
    obtain ⟨fault, rfl⟩ := request_eq_error hrequest
    nofun
  | closed hrequest hclosed => nofun
  | replied hrequest hopen hmeans => exact hmeans.ne_noConfig path

theorem Means.ne_states (hmeans : Means target r reply .missing) : target ≠ .states := by
  cases hmeans with
  | missing haddress htarget => exact htarget
  | success haddress hlow hhigh hbrings => cases hbrings

theorem Asks.ne_states (hasks : Asks h server target line .missing t) : target ≠ .states := by
  cases hasks with
  | replied hrequest hopen hmeans => exact hmeans.ne_states

end HomePortal.RestHub
