import HomePortal.Portal
import HomePortal.Proofs.Hub.Run
/-!
Runs of the portal: how a call's outcome and the session after it come from those of its steps.
-/

namespace HomePortal.Portal

export HubM (run_bind run_bind_of_ok run_bind_of_error run_bind_cases run_bind_eq_ok run_map
  run_map_eq_ok run_map_eq_error)

variable {σ α β : Type}

theorem run_onHub (act : HubM σ α) (s : Session σ) :
    (onHub act).run s = ((act.run s.hub).1, { s with hub := (act.run s.hub).2 }) :=
  rfl

theorem run_denied (e : Except Denial Unit) (s : Session σ) :
    (denied e : PortalM σ Unit).run s = (e.mapError Failure.denied, s) :=
  rfl

theorem run_denied_eq_ok {e : Except Denial Unit} {u : Unit} {s t : Session σ} :
    (denied e : PortalM σ Unit).run s = (.ok u, t) ↔ e = .ok () ∧ t = s := by
  rw [run_denied]
  cases e with
  | error e => exact iff_of_false nofun fun h => nomatch h.1
  | ok u => exact ⟨fun h => ⟨rfl, (Prod.mk.inj h).2.symm⟩, fun h => by rw [h.2]; rfl⟩

theorem run_requireId {id : String} {s t : Session σ} {outcome : Except Failure Unit}
    (h : (requireId id : PortalM σ Unit).run s = (outcome, t)) : t = s := by
  unfold requireId at h
  split at h
  · exact (Prod.mk.inj h).2.symm
  · exact (Prod.mk.inj h).2.symm

theorem run_requireId_eq_ok {id : String} {u : Unit} {s t : Session σ} :
    (requireId id : PortalM σ Unit).run s = (.ok u, t) ↔ id ≠ "" ∧ t = s := by
  unfold requireId
  by_cases h : id = ""
  · rw [if_pos (beq_iff_eq.2 h)]
    exact iff_of_false nofun fun hne => hne.1 h
  · rw [if_neg (mt beq_iff_eq.1 h)]
    constructor
    · intro hrun
      exact ⟨h, (Prod.mk.inj hrun).2.symm⟩
    · intro hrun
      rw [hrun.2]
      rfl

theorem readDraft_eq_ok {raw : Value} {d : Draft} : readDraft raw = .ok d ↔ Draft.read raw = .valid d := by
  unfold readDraft
  cases Draft.read raw with
  | valid d' => simp [Checked.orFail]
  | refused first more => simp [Checked.orFail]
  | overflow => simp [Checked.orFail]

/-- A request for a write is prepared in one step, which uses up a token or none. -/
theorem run_prepare (p : Portal) (raw : Value) (scope : Scope) (existing : Option String)
    (devices : Option (List Device)) (s : Session σ) :
    (p.prepare raw scope existing devices).run s = match readDraft raw with
      | .error e => (.error e, s)
      | .ok d => (p.finish d scope existing devices s.token,
          { s with token := AutomationId.nextToken existing s.token }) := by
  unfold prepare
  rw [run_bind]
  cases readDraft raw with
  | error e => rfl
  | ok d => rfl

/-- What comes after a check succeeds if the check passes. -/
theorem check_bind_eq_ok {ε ε' : Type} {check : Except ε Unit} {f : ε → ε'} {rest : Except ε' α}
    {a : α} : (check.mapError f >>= fun _ => rest) = .ok a ↔ check = .ok () ∧ rest = .ok a := by
  cases check with
  | error e => exact iff_of_false nofun fun h => nomatch h.1
  | ok u => exact ⟨fun h => ⟨rfl, h⟩, fun h => h.2⟩

theorem authorizeWrite_eq_ok {scope : Scope} {r : References} :
    scope.authorizeWrite r = .ok () ↔ scope.allows r = true := by
  unfold Scope.authorizeWrite
  split <;> simp_all

theorem authorizeEdit_eq_ok {scope : Scope} {r : References} :
    scope.authorizeEdit r = .ok () ↔ scope.canEdit r = true := by
  unfold Scope.authorizeEdit
  split <;> simp_all

/-- What is prepared is the compiled draft; the caller may act on all it refers to, and it suits the
devices if there are any. -/
theorem finish_eq_ok {p : Portal} {d : Draft} {scope : Scope} {existing : Option String}
    {devices : Option (List Device)} {token : Nat} {r : Prepared} :
    p.finish d scope existing devices token = .ok r ↔
      d.compileAs? existing p.mark token = some r.config ∧
      scope.allows r.config.references = true ∧
      (∀ known ∈ devices, p.registry.check known d = .ok ()) ∧ r.draft = d := by
  obtain ⟨draft, config⟩ := r
  unfold finish
  cases hcompile : d.compileAs? existing p.mark token with
  | none => exact iff_of_false nofun fun h => nomatch h.1
  | some c =>
    have hprepared : (Except.ok ⟨d, c⟩ : Except Failure Prepared) = .ok ⟨draft, config⟩ ↔
        some c = some config ∧ draft = d := by
      simp [and_comm, eq_comm]
    cases devices with
    | none =>
      refine (check_bind_eq_ok.trans (and_congr authorizeWrite_eq_ok hprepared)).trans ?_
      constructor
      · intro h
        obtain ⟨hallows, hc, hd⟩ := h
        obtain rfl := Option.some.inj hc
        exact ⟨rfl, hallows, nofun, hd⟩
      · intro h
        obtain ⟨hc, hallows, -, hd⟩ := h
        obtain rfl := Option.some.inj hc
        exact ⟨hallows, rfl, hd⟩
    | some devices =>
      refine (check_bind_eq_ok.trans (and_congr authorizeWrite_eq_ok
        (check_bind_eq_ok.trans (and_congr_right fun _ => hprepared)))).trans ?_
      constructor
      · intro h
        obtain ⟨hallows, hcheck, hc, hd⟩ := h
        obtain rfl := Option.some.inj hc
        refine ⟨rfl, hallows, fun known hknown => ?_, hd⟩
        obtain rfl := Option.some.inj hknown
        exact hcheck
      · intro h
        obtain ⟨hc, hallows, hcheck, hd⟩ := h
        obtain rfl := Option.some.inj hc
        exact ⟨hallows, hcheck devices rfl, rfl, hd⟩

/-- Without devices, only the scope decides on a draft with an id. -/
theorem finish_none {p : Portal} {d : Draft} {scope : Scope} {existing : Option String}
    {token : Nat} {c : Config} (hc : d.compileAs? existing p.mark token = some c) :
    p.finish d scope existing none token =
      if scope.allows c.references then .ok ⟨d, c⟩ else .error (.denied .outOfScope) := by
  unfold finish Scope.authorizeWrite
  rw [hc]
  by_cases hallows : scope.allows c.references = true
  · simp only [hallows, if_true]
    rfl
  · simp only [hallows]
    rfl

/-- Preparing a request changes nothing that the hub stores. -/
theorem run_prepare_cases {p : Portal} {raw : Value} {scope : Scope} {existing : Option String}
    {devices : Option (List Device)} {s t : Session σ} {outcome : Except Failure Prepared}
    (h : (p.prepare raw scope existing devices).run s = (outcome, t)) :
    t.hub = s.hub ∧ ∀ r, outcome = .ok r → scope.allows r.config.references = true ∧
      r.draft.compileAs? existing p.mark s.token = some r.config := by
  rw [run_prepare] at h
  cases hd : readDraft raw with
  | error e =>
    simp only [hd] at h
    obtain ⟨rfl, rfl⟩ := Prod.mk.inj h
    exact ⟨rfl, fun r hr => nomatch hr⟩
  | ok d =>
    simp only [hd] at h
    obtain ⟨rfl, rfl⟩ := Prod.mk.inj h
    refine ⟨rfl, fun r hr => ?_⟩
    obtain ⟨hc, hallows, -, rfl⟩ := finish_eq_ok.1 hr
    exact ⟨hallows, hc⟩

theorem run_prepare_ok {p : Portal} {raw : Value} {scope : Scope} {existing : Option String}
    {devices : Option (List Device)} {s t : Session σ} {r : Prepared}
    (h : (p.prepare raw scope existing devices).run s = (.ok r, t)) :
    scope.allows r.config.references = true ∧
      AutomationId.choose? existing p.mark s.token = some r.config.id := by
  obtain ⟨hallows, hcompile⟩ := (run_prepare_cases h).2 r rfl
  obtain ⟨id, hchosen, hconfig⟩ := Option.map_eq_some_iff.1 hcompile
  have hid : r.config.id = id := by rw [← hconfig, Draft.compile]
  exact ⟨hallows, hid ▸ hchosen⟩

/-- What is prepared is the draft of the request and its config. -/
theorem draft_of_prepare {p : Portal} {raw : Value} {scope : Scope} {existing : Option String}
    {devices : Option (List Device)} {s t : Session σ} {r : Prepared}
    (h : (p.prepare raw scope existing devices).run s = (.ok r, t)) :
    Draft.read raw = .valid r.draft ∧ r.config = r.draft.compile r.config.id := by
  obtain ⟨id, -, hconfig⟩ := Option.map_eq_some_iff.1 ((run_prepare_cases h).2 r rfl).2
  have hid : r.config.id = id := by rw [← hconfig, Draft.compile]
  rw [run_prepare] at h
  cases hread : readDraft raw with
  | error e =>
    rw [hread] at h
    cases (Prod.mk.inj h).1
  | ok d =>
    rw [hread] at h
    obtain ⟨-, -, -, rfl⟩ := finish_eq_ok.1 (Prod.mk.inj h).1
    exact ⟨readDraft_eq_ok.1 hread, by rw [hid, hconfig]⟩

end HomePortal.Portal
