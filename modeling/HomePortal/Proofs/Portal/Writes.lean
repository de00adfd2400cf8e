import HomePortal.Proofs.Config.Id
import HomePortal.Proofs.Hub.Memory
import HomePortal.Proofs.Portal.Run
/-!
Calls that succeed over a hub in memory: when they do, and what is stored then.
-/

namespace HomePortal.Portal

variable {p : Portal} {id : String} {raw : Value} {scope : Scope}
  {devices : Option (List Device)} {s t : Session Memory}

structure Accepts (p : Portal) (raw : Value) (scope : Scope) (existing : Option String)
    (devices : Option (List Device)) (token : Nat) (d : Draft) (id : String) : Prop where
  read : readDraft raw = .ok d
  chosen : AutomationId.choose? existing p.mark token = some id
  allowed : scope.allows (d.compile id).references = true
  checked : ∀ known ∈ devices, p.registry.check known d = .ok ()

theorem run_prepare_eq_ok {σ : Type} {s t : Session σ} {existing : Option String} {r : Prepared} :
    (p.prepare raw scope existing devices).run s = (.ok r, t) ↔
      ∃ d id, p.Accepts raw scope existing devices s.token d id ∧ r = ⟨d, d.compile id⟩ ∧
        t = ⟨s.hub, AutomationId.nextToken existing s.token⟩ := by
  rw [run_prepare]
  cases hread : readDraft raw with
  | error e =>
    refine iff_of_false nofun fun h => ?_
    obtain ⟨d, id, haccepts, -⟩ := h
    rw [haccepts.read] at hread
    cases hread
  | ok d =>
    constructor
    · intro h
      obtain ⟨hfinish, rfl⟩ := Prod.mk.inj h
      obtain ⟨hcompile, hallows, hchecked, rfl⟩ := finish_eq_ok.1 hfinish
      obtain ⟨id, hid, hconfig⟩ := Option.map_eq_some_iff.1 hcompile
      rw [← hconfig] at hallows
      refine ⟨r.draft, id, ⟨hread, hid, hallows, hchecked⟩, ?_, rfl⟩
      rw [hconfig]
    · intro h
      obtain ⟨d', id, haccepts, rfl, rfl⟩ := h
      obtain rfl := Except.ok.inj (hread.symm.trans haccepts.read)
      have hcompile : d.compileAs? existing p.mark s.token = some (d.compile id) := by
        rw [Draft.compileAs?, haccepts.chosen, Option.map_some]
      have hfinish := finish_eq_ok.2
        (show _ = some (Prepared.mk d (d.compile id)).config ∧ _ from
          ⟨hcompile, haccepts.allowed, haccepts.checked, rfl⟩)
      exact congrArg (fun outcome => (outcome, _)) hfinish

/-- A request for a new automation that passes is stored under its id, whatever hub there is. -/
theorem run_create_of_accepts {σ : Type} {s : Session σ} {d : Draft} (hub : Hub σ)
    (haccepts : p.Accepts raw scope none devices s.token d id) :
    (p.create hub raw scope devices).run s =
      (onHub (hub.create (d.compile id)) >>= fun i => setAsDrafted hub i d >>= fun _ =>
        pure i).run ⟨s.hub, s.token + 1⟩ := by
  unfold create
  rw [run_bind_of_ok (run_prepare_eq_ok.2 ⟨d, id, haccepts, rfl, rfl⟩)]
  rfl

/-- The check of what is stored changes nothing. -/
theorem run_authorizeStored (id : String) (scope : Scope) (s : Session Memory) :
    (authorizeStored Memory.hub id scope).run s = match s.hub.find? id with
      | some a => ((scope.authorizeEdit a.config.references).mapError Failure.denied, s)
      | none => (.error (.hub (.noAutomation id)), s) := by
  rw [authorizeStored, run_bind, run_onHub, Memory.run_get]
  cases s.hub.find? id with
  | none => rfl
  | some a => rfl

theorem authorizeStored_same {outcome : Except Failure Unit}
    (h : (authorizeStored Memory.hub id scope).run s = (outcome, t)) : t = s := by
  rw [run_authorizeStored] at h
  split at h
  · exact (Prod.mk.inj h).2.symm
  · exact (Prod.mk.inj h).2.symm

theorem run_authorizeStored_eq_ok {u : Unit} :
    (authorizeStored Memory.hub id scope).run s = (.ok u, t) ↔
      (∃ a, s.hub.find? id = some a ∧ scope.canEdit a.config.references = true) ∧ t = s := by
  rw [run_authorizeStored]
  cases s.hub.find? id with
  | none => exact iff_of_false nofun fun h => nomatch h.1.choose_spec.1
  | some a =>
    have hchecked := run_denied_eq_ok (e := scope.authorizeEdit a.config.references) (u := u)
      (s := s) (t := t)
    rw [run_denied, authorizeEdit_eq_ok] at hchecked
    simp [hchecked]

theorem run_change_of_find? {a : Automation} {f : Memory → Automation → Memory}
    (ha : s.hub.find? id = some a) :
    (onHub (Memory.change id f)).run s = (.ok (), ⟨f s.hub a, s.token⟩) := by
  rw [run_onHub, Memory.run_change_of_find? ha]

/-- After a write, the flag that the draft asks for is set. -/
theorem run_setAsDrafted_put (m : Memory) (token : Nat) (a : Automation) (d : Draft) :
    (setAsDrafted Memory.hub id d).run ⟨m.put id a, token⟩ =
      (.ok (), ⟨m.put id { a with enabled := d.enabled.getD a.enabled }, token⟩) := by
  unfold setAsDrafted
  cases d.enabled with
  | none => rfl
  | some b =>
    have hput : (m.put id a).find? id = some a := by rw [Memory.find?_put, if_pos rfl]
    refine (run_change_of_find? hput).trans ?_
    rw [Memory.put_put]
    rfl

theorem run_create_eq_ok : (p.create Memory.hub raw scope devices).run s = (.ok id, t) ↔
    ∃ d, p.Accepts raw scope none devices s.token d id ∧
      t = ⟨s.hub.put id ⟨some ("automation." ++ id), d.enabled.getD true, d.compile id⟩,
        s.token + 1⟩ := by
  unfold create
  simp only [run_bind_eq_ok, run_prepare_eq_ok]
  constructor
  · intro h
    obtain ⟨r, u, ⟨d, i, haccepts, rfl, rfl⟩, j, v, hcreate, w, x, hflag, hpure⟩ := h
    rw [run_onHub, Memory.run_create] at hcreate
    obtain ⟨hj, rfl⟩ := Prod.mk.inj hcreate
    obtain rfl : i = j := Except.ok.inj hj
    rw [show (d.compile i).id = i from rfl, run_setAsDrafted_put] at hflag
    obtain ⟨-, rfl⟩ := Prod.mk.inj hflag
    obtain ⟨hid, rfl⟩ := Prod.mk.inj hpure
    obtain rfl := Except.ok.inj hid
    exact ⟨d, haccepts, rfl⟩
  · intro h
    obtain ⟨d, haccepts, rfl⟩ := h
    have hcreate : (onHub (Memory.hub.create (d.compile id))).run ⟨s.hub, s.token + 1⟩ =
        (.ok id, ⟨s.hub.put id ⟨some ("automation." ++ id), true, d.compile id⟩, s.token + 1⟩) := by
      rw [run_onHub, Memory.run_create]
      rfl
    exact ⟨_, _, ⟨d, id, haccepts, rfl, rfl⟩, id, _, hcreate, (), _,
      run_setAsDrafted_put s.hub (s.token + 1) _ d, rfl⟩

/-- What is replaced is what the reduced id names. Its entity stays, and its flag unless the draft
asks for one. -/
theorem run_update_eq_ok {i : String} :
    (p.update Memory.hub id raw scope devices).run s = (.ok i, t) ↔
      id ≠ "" ∧ ∃ d a, p.Accepts raw scope (some id) devices s.token d i ∧
        s.hub.find? i = some a ∧ scope.canEdit a.config.references = true ∧
        t = ⟨s.hub.put i ⟨a.entity, d.enabled.getD a.enabled, d.compile i⟩, s.token⟩ := by
  have hupdate {d : Draft} {a : Automation} (ha : s.hub.find? i = some a) :
      (onHub (Memory.hub.update i (d.compile i))).run s =
        (.ok (), ⟨s.hub.put i { a with config := d.compile i }, s.token⟩) :=
    run_change_of_find? ha
  -- Only an id that is made anew takes a token, so `prepare` leaves the session as it is.
  have hsame (hne : id ≠ "") :
      (⟨s.hub, AutomationId.nextToken (some id) s.token⟩ : Session Memory) = s := by
    rw [AutomationId.nextToken, AutomationId.kept?_of_ne hne]
    rfl
  unfold update
  simp only [run_bind_eq_ok, run_requireId_eq_ok, run_prepare_eq_ok, run_authorizeStored_eq_ok]
  constructor
  · intro h
    obtain ⟨_, _, ⟨hne, rfl⟩, r, u, ⟨d, j, haccepts, rfl, rfl⟩, _, _, ⟨⟨a, ha, hedit⟩, rfl⟩, _, v,
      hput, _, w, hflag, hpure⟩ := h
    obtain ⟨hi, rfl⟩ := Prod.mk.inj hpure
    obtain rfl : j = i := Except.ok.inj hi
    rw [hsame hne] at hput
    obtain ⟨-, rfl⟩ := Prod.mk.inj ((hupdate ha).symm.trans hput)
    rw [show (d.compile j).id = j from rfl, run_setAsDrafted_put] at hflag
    obtain ⟨-, rfl⟩ := Prod.mk.inj hflag
    exact ⟨hne, d, a, haccepts, ha, hedit, rfl⟩
  · intro h
    obtain ⟨hne, d, a, haccepts, ha, hedit, rfl⟩ := h
    refine ⟨(), s, ⟨hne, rfl⟩, ⟨d, d.compile i⟩, s, ⟨d, i, haccepts, rfl, (hsame hne).symm⟩, (), s,
      ⟨⟨a, ha, hedit⟩, rfl⟩, (), _, hupdate ha, (), _, ?_, rfl⟩
    exact run_setAsDrafted_put s.hub s.token _ d

theorem run_delete_eq_ok {u : Unit} : (delete Memory.hub id scope).run s = (.ok u, t) ↔
    id ≠ "" ∧ scope.authorizeManage = .ok () ∧ ∃ a, s.hub.find? id = some a ∧
      scope.canEdit a.config.references = true ∧ t = ⟨s.hub.remove id, s.token⟩ := by
  have hremove {a : Automation} (ha : s.hub.find? id = some a) :
      (onHub (Memory.hub.delete id)).run s = (.ok (), ⟨s.hub.remove id, s.token⟩) :=
    run_change_of_find? ha
  unfold delete
  simp only [run_bind_eq_ok, run_requireId_eq_ok, run_denied_eq_ok, run_authorizeStored_eq_ok]
  constructor
  · intro h
    obtain ⟨_, _, ⟨hne, rfl⟩, _, _, ⟨hmanage, rfl⟩, _, _, ⟨⟨a, ha, hedit⟩, rfl⟩, hrest⟩ := h
    obtain ⟨-, rfl⟩ := Prod.mk.inj ((hremove ha).symm.trans hrest)
    exact ⟨hne, hmanage, a, ha, hedit, rfl⟩
  · intro h
    obtain ⟨hne, hmanage, a, ha, hedit, rfl⟩ := h
    exact ⟨(), s, ⟨hne, rfl⟩, (), s, ⟨hmanage, rfl⟩, (), s, ⟨⟨a, ha, hedit⟩, rfl⟩, hremove ha⟩

theorem run_setEnabled_eq_ok {enabled : Value} {u : Unit} :
    (setEnabled Memory.hub id enabled scope).run s = (.ok u, t) ↔
      id ≠ "" ∧ scope.authorizeManage = .ok () ∧ ∃ b a, enabled = .bool b ∧
        s.hub.find? id = some a ∧ scope.canEdit a.config.references = true ∧
        t = ⟨s.hub.put id { a with enabled := b }, s.token⟩ := by
  have hput {a : Automation} (b : Bool) (ha : s.hub.find? id = some a) :
      (onHub (Memory.hub.setEnabled id b)).run s =
        (.ok (), ⟨s.hub.put id { a with enabled := b }, s.token⟩) :=
    run_change_of_find? ha
  unfold setEnabled
  rw [run_bind_eq_ok]
  simp only [run_requireId_eq_ok]
  constructor
  · intro h
    obtain ⟨_, _, ⟨hne, rfl⟩, hrest⟩ := h
    split at hrest
    · rename_i b
      simp only [run_bind_eq_ok, run_denied_eq_ok, run_authorizeStored_eq_ok] at hrest
      obtain ⟨_, _, ⟨hmanage, rfl⟩, _, _, ⟨⟨a, ha, hedit⟩, rfl⟩, hset⟩ := hrest
      obtain ⟨-, rfl⟩ := Prod.mk.inj ((hput b ha).symm.trans hset)
      exact ⟨hne, hmanage, b, a, rfl, ha, hedit, rfl⟩
    · cases (Prod.mk.inj hrest).1
  · intro h
    obtain ⟨hne, hmanage, b, a, rfl, ha, hedit, rfl⟩ := h
    refine ⟨(), s, ⟨hne, rfl⟩, ?_⟩
    simp only [run_bind_eq_ok, run_denied_eq_ok, run_authorizeStored_eq_ok]
    exact ⟨(), s, ⟨hmanage, rfl⟩, (), s, ⟨⟨a, ha, hedit⟩, rfl⟩, hput b ha⟩

/-! Once the caller and the request pass, only what is stored decides. -/

variable {a : Automation}

theorem delete_succeeds_iff (hne : id ≠ "") (hmanage : scope.authorizeManage = .ok ())
    (ha : s.hub.find? id = some a) : (∃ t, (delete Memory.hub id scope).run s = (.ok (), t)) ↔
      scope.canEdit a.config.references = true := by
  constructor
  · intro h
    obtain ⟨t, hrun⟩ := h
    obtain ⟨-, -, b, hb, hedit, -⟩ := run_delete_eq_ok.1 hrun
    obtain rfl := Option.some.inj (ha.symm.trans hb)
    exact hedit
  · intro hedit
    exact ⟨_, run_delete_eq_ok.2 ⟨hne, hmanage, a, ha, hedit, rfl⟩⟩

theorem setEnabled_succeeds_iff (hne : id ≠ "") (hmanage : scope.authorizeManage = .ok ())
    (ha : s.hub.find? id = some a) (flag : Bool) :
    (∃ t, (setEnabled Memory.hub id (.bool flag) scope).run s = (.ok (), t)) ↔
      scope.canEdit a.config.references = true := by
  constructor
  · intro h
    obtain ⟨t, hrun⟩ := h
    obtain ⟨-, -, _, b, -, hb, hedit, -⟩ := run_setEnabled_eq_ok.1 hrun
    obtain rfl := Option.some.inj (ha.symm.trans hb)
    exact hedit
  · intro hedit
    exact ⟨_, run_setEnabled_eq_ok.2 ⟨hne, hmanage, flag, a, rfl, ha, hedit, rfl⟩⟩

theorem update_succeeds_iff {i : String} {d : Draft} (hne : id ≠ "")
    (haccepts : p.Accepts raw scope (some id) devices s.token d i) (ha : s.hub.find? i = some a) :
    (∃ t, (p.update Memory.hub id raw scope devices).run s = (.ok i, t)) ↔
      scope.canEdit a.config.references = true := by
  constructor
  · intro h
    obtain ⟨t, hrun⟩ := h
    obtain ⟨-, _, b, -, hb, hedit, -⟩ := run_update_eq_ok.1 hrun
    obtain rfl := Option.some.inj (ha.symm.trans hb)
    exact hedit
  · intro hedit
    exact ⟨_, run_update_eq_ok.2 ⟨hne, d, a, haccepts, ha, hedit, rfl⟩⟩

end HomePortal.Portal
