import HomePortal.Proofs.Hub.Mirror
import HomePortal.Proofs.Portal.Editable
import HomePortal.Proofs.Portal.ScopeSafety
/-!
The portal over a file beside the portal over a hub in memory that holds the same automations: call
by call, both answer alike, and the file lists what the hub in memory holds.
-/

namespace HomePortal

open HubM (Agree)

/-- The entity that is not known in the file is the one that is shown for it. -/
theorem Mirrors.row {entry : String × Automation} {k : Kept} (hk : Mirrors entry k)
    (scope : Scope) : entry.2.row scope = k.automation.row scope := by
  obtain ⟨key, entity, enabled, config⟩ := entry
  obtain ⟨-, rfl, rfl, -, -, hentity⟩ := hk
  cases hentity with
  | inl hnone =>
    obtain rfl : entity = none := hnone
    rfl
  | inr hsome =>
    obtain ⟨rfl, htitle⟩ : entity = _ ∧ k.config.title ≠ "" := hsome
    have hname : "automation." ++ k.config.id ≠ "" := by
      intro heq
      simpa using congrArg String.toList heq
    simp [Automation.row, Kept.automation, Option.filter_some, hname, htitle]

theorem listing_eq {m : Memory} {ks : List Kept} (hall : List.Forall₂ Mirrors m ks) (scope : Scope)
    (entity : Option String) :
    listing scope entity (m.map (·.2)) = listing scope entity (ks.map Kept.automation) := by
  unfold listing
  induction hall with
  | nil => rfl
  | @cons entry k _ _ hk _ ih =>
    have hconfig : k.automation.config = entry.2.config := hk.config.symm
    simp only [List.map_cons, List.filter_cons, hconfig]
    split
    · rw [List.map_cons, List.map_cons, ih, hk.row]
    · exact ih

/-! ### Sessions -/

namespace Portal

variable {h : FileHub} {p : Portal} {scope : Scope} {s : Session Memory} {t : Session Folder}
  {α : Type} {raw : Value} {devices : Option (List Device)} {id : String}

structure MirrorsSession (h : FileHub) (s : Session Memory) (t : Session Folder) : Prop where
  token : s.token = t.token
  hub : h.MirrorsHub s.hub t.hub

theorem agree_onHub {x : HubM Memory α} {y : HubM Folder α} (hst : s.token = t.token)
    (hxy : Agree h.MirrorsHub x y s.hub t.hub) :
    Agree (MirrorsSession h) (onHub x) (onHub y) s t := by
  obtain ⟨outcome, m, f, hx, hy, hmirrors⟩ := hxy
  refine ⟨outcome, ⟨m, s.token⟩, ⟨f, t.token⟩, ?_, ?_, hst, hmirrors⟩
  · rw [run_onHub, hx]
  · rw [run_onHub, hy]

theorem agree_denied (hst : MirrorsSession h s t) (check : Except Denial Unit) :
    Agree (MirrorsSession h) (denied check) (denied check) s t :=
  ⟨_, s, t, run_denied check s, run_denied check t, hst⟩

theorem agree_requireId (hst : MirrorsSession h s t) (id : String) :
    Agree (MirrorsSession h) (requireId id) (requireId id) s t := by
  unfold requireId
  split
  · exact .throw _ hst
  · exact .pure _ hst

theorem agree_prepare (hst : MirrorsSession h s t) (p : Portal) (raw : Value) (scope : Scope)
    (existing : Option String) (devices : Option (List Device)) :
    Agree (MirrorsSession h) (p.prepare raw scope existing devices)
      (p.prepare raw scope existing devices) s t := by
  have hs := run_prepare p raw scope existing devices s
  have ht := run_prepare p raw scope existing devices t
  cases hread : readDraft raw with
  | error e =>
    rw [hread] at hs ht
    exact ⟨_, _, _, hs, ht, hst⟩
  | ok d =>
    rw [hread] at hs ht
    rw [← hst.token] at ht
    exact ⟨_, _, _, hs, ht, rfl, hst.hub⟩

theorem agree_list (hst : MirrorsSession h s t) (scope : Scope) (entity : Option String) :
    Agree (MirrorsSession h) (list Memory.hub scope entity) (list h.hub scope entity) s t := by
  obtain ⟨ks, hall, hlist⟩ := hst.hub.list
  have hrun : (onHub h.list).run t = (.ok (ks.map Kept.automation), t) := by
    rw [run_onHub, hlist]
  refine ⟨.ok (listing scope entity (s.hub.map (·.2))), s, t, rfl, ?_, hst⟩
  rw [list, listing_eq hall]
  exact run_bind_of_ok hrun _

theorem agree_authorizeStored (hst : MirrorsSession h s t) (id : String) (scope : Scope) :
    Agree (MirrorsSession h) (authorizeStored Memory.hub id scope) (authorizeStored h.hub id scope)
      s t := by
  have hs := run_authorizeStored id scope s
  obtain ⟨a, b, hfind, hget, hconfig⟩ | ⟨hnone, hget⟩ := hst.hub.get id
  · rw [hfind] at hs
    have hrun : (onHub (h.get id)).run t = (.ok b, t) := by rw [run_onHub, hget]
    refine ⟨_, s, t, hs, ?_, hst⟩
    rw [← hconfig]
    exact run_bind_of_ok hrun _
  · rw [hnone] at hs
    have hrun : (onHub (h.get id)).run t = (.error (.hub (.noAutomation id)), t) := by
      rw [run_onHub, hget]
    exact ⟨_, s, t, hs, run_bind_of_error hrun _, hst⟩

/-! ### Calls -/

theorem agree_setAsDrafted_put (hmarks : h.format.IgnoresMarks) {m : Memory} {token : Nat}
    {a : Automation} (hst : MirrorsSession h ⟨m.put id a, token⟩ t)
    (hrestores : h.format.RestoresConfigs (m.put id a).configs) (d : Draft) :
    Agree (MirrorsSession h) (setAsDrafted Memory.hub id d) (setAsDrafted h.hub id d)
      ⟨m.put id a, token⟩ t := by
  unfold setAsDrafted
  cases d.enabled with
  | none => exact .pure () hst
  | some b =>
    have hput : (m.put id a).find? id = some a := by rw [Memory.find?_put, if_pos rfl]
    have hflag : h.format.RestoresConfigs
        ((m.put id a).put id { a with enabled := b }).configs := by
      rw [Memory.put_put]
      rw [Memory.configs_put] at hrestores ⊢
      exact hrestores
    exact agree_onHub hst.token (hst.hub.setEnabled hmarks hput hflag)

/-- An id that is chosen for an automation has characters, and no blanks among them. -/
theorem Accepts.named {existing : Option String} {token : Nat} {d : Draft}
    (h : p.Accepts raw scope existing devices token d id) : id ≠ "" :=
  (AutomationId.reduce?_eq_some.1 h.chosen).1

theorem Accepts.isNormal {existing : Option String} {token : Nat} {d : Draft}
    (h : p.Accepts raw scope existing devices token d id) :
    (d.compile id).IsNormal ∧ d.title ≠ "" :=
  Draft.isNormal_compile (readDraft_eq_ok.1 h.read) (AutomationId.trim_of_reduce? h.chosen)

theorem agree_create (hmarks : h.format.IgnoresMarks) (hst : MirrorsSession h s t)
    (hfresh : ∀ i, AutomationId.choose? none p.mark s.token = some i → s.hub.find? i = none)
    (hrestores : h.format.RestoresConfigs
      ((p.create Memory.hub raw scope devices).run s).2.hub.configs) :
    Agree (MirrorsSession h) (p.create Memory.hub raw scope devices)
      (p.create h.hub raw scope devices) s t := by
  refine (agree_prepare hst p raw scope none devices).bind fun r s' t' hprepare hst' => ?_
  obtain ⟨d, i, haccepts, rfl, rfl⟩ := run_prepare_eq_ok.1 hprepare
  rw [run_create_eq_ok.2 ⟨d, haccepts, rfl⟩] at hrestores
  obtain ⟨hnormal, htitle⟩ := haccepts.isNormal
  -- The file is written before the flag is set, with the configs that it holds in the end.
  have hstored : h.format.RestoresConfigs
      (s.hub.put i ⟨some ("automation." ++ i), true, d.compile i⟩).configs := by
    rw [Memory.configs_put] at hrestores ⊢
    exact hrestores
  have hcreate := hst'.hub.create hmarks (hfresh i haccepts.chosen) haccepts.named hnormal htitle
    hstored
  refine (agree_onHub hst'.token hcreate).bind fun j s'' t'' hrun hst'' => ?_
  rw [run_onHub, Memory.run_create] at hrun
  obtain ⟨hj, rfl⟩ := Prod.mk.inj hrun
  obtain rfl := Except.ok.inj hj
  exact (agree_setAsDrafted_put hmarks hst'' hstored d).bind fun _ _ _ _ hlast => .pure _ hlast

theorem agree_update (hmarks : h.format.IgnoresMarks) (hst : MirrorsSession h s t)
    (hrestores : h.format.RestoresConfigs
      ((p.update Memory.hub id raw scope devices).run s).2.hub.configs) :
    Agree (MirrorsSession h) (p.update Memory.hub id raw scope devices)
      (p.update h.hub id raw scope devices) s t := by
  refine (agree_requireId hst id).bind fun _ s₁ t₁ hrequire hst₁ => ?_
  obtain ⟨hne, rfl⟩ := run_requireId_eq_ok.1 hrequire
  refine (agree_prepare hst₁ p raw scope (some id) devices).bind fun r s₂ t₂ hprepare hst₂ => ?_
  obtain ⟨d, i, haccepts, rfl, rfl⟩ := run_prepare_eq_ok.1 hprepare
  refine (agree_authorizeStored hst₂ i scope).bind fun _ s₃ t₃ hauthorize hst₃ => ?_
  obtain ⟨⟨a, ha, hedit⟩, rfl⟩ := run_authorizeStored_eq_ok.1 hauthorize
  rw [run_update_eq_ok.2 ⟨hne, d, a, haccepts, ha, hedit, rfl⟩] at hrestores
  obtain ⟨hnormal, htitle⟩ := haccepts.isNormal
  have hstored : h.format.RestoresConfigs
      (s₁.hub.put i { a with config := d.compile i }).configs := by
    rw [Memory.configs_put] at hrestores ⊢
    exact hrestores
  have hupdate := hst₃.hub.update hmarks (c := d.compile i) ha hnormal htitle hstored
  refine (agree_onHub hst₃.token hupdate).bind fun _ s₄ t₄ hrun hst₄ => ?_
  obtain ⟨-, rfl⟩ := Prod.mk.inj ((run_change_of_find? ha).symm.trans hrun)
  exact (agree_setAsDrafted_put hmarks hst₄ hstored d).bind fun _ _ _ _ hlast => .pure _ hlast

theorem agree_delete (hmarks : h.format.IgnoresMarks) (hst : MirrorsSession h s t)
    (hrestores : h.format.RestoresConfigs ((delete Memory.hub id scope).run s).2.hub.configs) :
    Agree (MirrorsSession h) (delete Memory.hub id scope) (delete h.hub id scope) s t := by
  refine (agree_requireId hst id).bind fun _ s₁ t₁ hrequire hst₁ => ?_
  obtain ⟨hne, rfl⟩ := run_requireId_eq_ok.1 hrequire
  refine (agree_denied hst₁ scope.authorizeManage).bind fun _ s₂ t₂ hmanage hst₂ => ?_
  obtain ⟨hallowed, rfl⟩ := run_denied_eq_ok.1 hmanage
  refine (agree_authorizeStored hst₂ id scope).bind fun _ s₃ t₃ hauthorize hst₃ => ?_
  obtain ⟨⟨a, ha, hedit⟩, rfl⟩ := run_authorizeStored_eq_ok.1 hauthorize
  rw [(run_delete_eq_ok (u := ())).2 ⟨hne, hallowed, a, ha, hedit, rfl⟩] at hrestores
  exact agree_onHub hst₃.token (hst₃.hub.delete hmarks ha hrestores)

theorem agree_setEnabled (hmarks : h.format.IgnoresMarks) (hst : MirrorsSession h s t)
    {enabled : Value} (hrestores : h.format.RestoresConfigs
      ((setEnabled Memory.hub id enabled scope).run s).2.hub.configs) :
    Agree (MirrorsSession h) (setEnabled Memory.hub id enabled scope)
      (setEnabled h.hub id enabled scope) s t := by
  refine (agree_requireId hst id).bind fun _ s₁ t₁ hrequire hst₁ => ?_
  obtain ⟨hne, rfl⟩ := run_requireId_eq_ok.1 hrequire
  split
  · rename_i b
    refine (agree_denied hst₁ scope.authorizeManage).bind fun _ s₂ t₂ hmanage hst₂ => ?_
    obtain ⟨hallowed, rfl⟩ := run_denied_eq_ok.1 hmanage
    refine (agree_authorizeStored hst₂ id scope).bind fun _ s₃ t₃ hauthorize hst₃ => ?_
    obtain ⟨⟨a, ha, hedit⟩, rfl⟩ := run_authorizeStored_eq_ok.1 hauthorize
    rw [(run_setEnabled_eq_ok (u := ())).2 ⟨hne, hallowed, b, a, rfl, ha, hedit, rfl⟩] at hrestores
    exact agree_onHub hst₃.token (hst₃.hub.setEnabled hmarks ha hrestores)
  · exact .throw _ hst₁

/-- A call comes to the same answer at both. -/
theorem agree_answer (hmarks : h.format.IgnoresMarks) (hst : MirrorsSession h s t)
    {request : Request}
    (hfresh : ∀ i, p.minted s.token request = some i → s.hub.find? i = none)
    (hrestores : h.format.RestoresConfigs
      ((p.answer Memory.hub scope request).run s).2.hub.configs) :
    Agree (MirrorsSession h) (p.answer Memory.hub scope request) (p.answer h.hub scope request)
      s t := by
  cases request with
  | list entity => exact (agree_list hst scope entity).map _
  | create raw devices =>
    rw [answer, run_map] at hrestores
    exact (agree_create hmarks hst hfresh hrestores).map _
  | update id raw devices =>
    rw [answer, run_map] at hrestores
    exact (agree_update hmarks hst hrestores).map _
  | delete id =>
    rw [answer, run_map] at hrestores
    exact (agree_delete hmarks hst hrestores).map _
  | setEnabled id enabled =>
    rw [answer, run_map] at hrestores
    exact (agree_setEnabled hmarks hst hrestores).map _
  | prepare raw existing devices => exact (agree_prepare hst p raw scope existing devices).map _

/-! ### Runs -/

def run {σ : Type} (p : Portal) (h : Hub σ) : σ → List Call → List (Except Failure Reply × σ)
  | _, [] => []
  | s, call :: rest =>
    let (outcome, t) := (p.answer h call.scope call.request).run ⟨s, call.token⟩
    (outcome, t.hub) :: p.run h t.hub rest

theorem run_agree (hmarks : h.format.IgnoresMarks) {m : Memory} {f : Folder} {calls : List Call}
    (hmirrors : h.MirrorsHub m f)
    (hfresh : Memory.EachStep p (fun m call _ => Memory.IsFresh p m call) m calls)
    (hrestores : Memory.EachStep p (fun _ _ m' => h.format.RestoresConfigs m'.configs) m calls) :
    List.Forall₂ (fun x y => x.1 = y.1 ∧ h.MirrorsHub x.2 y.2) (p.run Memory.hub m calls)
      (p.run h.hub f calls) := by
  induction calls generalizing m f with
  | nil => exact .nil
  | cons call rest ih =>
    have hagree : Agree (MirrorsSession h) (p.answer Memory.hub call.scope call.request)
        (p.answer h.hub call.scope call.request) ⟨m, call.token⟩ ⟨f, call.token⟩ :=
      agree_answer hmarks ⟨rfl, hmirrors⟩ hfresh.1 hrestores.1
    obtain ⟨outcome, s, t, hs, ht, hst⟩ := hagree
    have hafter : Memory.after p m call = s.hub := by rw [Memory.after, hs]
    rw [run, run, hs, ht]
    exact .cons ⟨rfl, hst.hub⟩ (ih hst.hub (hafter ▸ hfresh.2) (hafter ▸ hrestores.2))

end Portal

/-! ### The list at the start -/

/-- Automations that a hub can be filled with: their configs are read from some data, with ids of
their own, and what stands for them is not known. -/
structure AreStorable (automations : List Automation) : Prop where
  read : ∀ a ∈ automations, ∃ fields, Config.ofEntries fields = a.config
  named : ∀ a ∈ automations, a.config.id ≠ ""
  unknown : ∀ a ∈ automations, a.entity = none
  distinct : (automations.map (·.config.id)).Nodup

def Kept.ofAutomation (a : Automation) : Kept :=
  ⟨a.config, if a.enabled then none else some false⟩

/-- Automations with ids of their own are held in their order. -/
theorem Memory.ofAutomations_eq {automations : List Automation}
    (h : (automations.map (·.config.id)).Nodup) :
    ofAutomations automations = automations.map fun a => (a.config.id, a) := by
  have hfold : ∀ (rest : List Automation) (m : Memory),
      (m.map (·.1) ++ rest.map (·.config.id)).Nodup →
        rest.foldl (fun m a => m.put a.config.id a) m =
          m ++ rest.map fun a => (a.config.id, a) := by
    intro rest
    induction rest with
    | nil => exact fun m _ => (List.append_nil m).symm
    | cons a rest ih =>
      intro m hm
      have hnew : m.find? a.config.id = none := by
        cases hfind : m.find? a.config.id with
        | none => rfl
        | some b =>
          have hmem : a.config.id ∈ m.map (·.1) :=
            List.mem_map.2 ⟨_, mem_of_find? hfind, rfl⟩
          exact absurd rfl
            ((List.nodup_append.1 hm).2.2 _ hmem a.config.id List.mem_cons_self)
      rw [List.foldl_cons, put_of_none hnew, ih]
      · simp
      · simpa using hm
  exact hfold automations [] h

theorem mirrorsHub_ofAutomations {h : FileHub} {f : Folder} {automations : List Automation}
    (hstorable : AreStorable automations)
    (hkeeps : h.Keeps f (automations.map Kept.ofAutomation)) :
    h.MirrorsHub (Memory.ofAutomations automations) f := by
  rw [Memory.ofAutomations_eq hstorable.distinct]
  constructor
  · rw [List.map_map]
    exact hstorable.distinct
  · refine ⟨_, ?_, hkeeps⟩
    rw [List.forall₂_map_left_iff, List.forall₂_map_right_iff, List.forall₂_same]
    intro a ha
    obtain ⟨fields, hfields⟩ := hstorable.read a ha
    refine ⟨rfl, rfl, ?_, hstorable.named a ha, ?_, .inl (hstorable.unknown a ha)⟩
    · change a.enabled = (if a.enabled then none else some false).getD true
      cases a.enabled <;> rfl
    · change a.config.IsNormal
      rw [← hfields]
      exact Config.isNormal_ofEntries fields

/-- Two hubs list the same configs with the same flags, in the same order. -/
def ListAlike {σ τ : Type} (h : Hub σ) (h' : Hub τ) (s : σ) (t : τ) : Prop :=
  ∃ automations others, h.list.run s = (.ok automations, s) ∧ h'.list.run t = (.ok others, t) ∧
    automations.map (fun a => (a.config, a.enabled)) = others.map fun a => (a.config, a.enabled)

theorem configs_and_flags_eq {m : Memory} {ks : List Kept} (hall : List.Forall₂ Mirrors m ks) :
    (m.map (·.2)).map (fun a => (a.config, a.enabled)) =
      (ks.map Kept.automation).map fun a => (a.config, a.enabled) := by
  induction hall with
  | nil => rfl
  | cons hk _ ih =>
    simp only [List.map_cons, ih]
    exact congrArg (· :: _) (Prod.ext hk.config hk.enabled)

theorem listAlike_of_mirrorsHub {h : FileHub} {m : Memory} {f : Folder}
    (hmirrors : h.MirrorsHub m f) : ListAlike Memory.hub h.hub m f := by
  obtain ⟨ks, hall, hlist⟩ := hmirrors.list
  exact ⟨m.map (·.2), ks.map Kept.automation, rfl, hlist, configs_and_flags_eq hall⟩

deriving instance DecidableEq for Config

namespace Portal

/-- Over a file that holds the automations of a hub in memory, each call of a run comes to the same
answer as over that hub, and after it the file lists the same configs and flags in the same order.
The file can be written, new ids are not taken, and what is written of the configs is read again as
it was. -/
theorem file_refines_memory (p : Portal) (path : List String) {automations : List Automation}
    {f : Folder} {calls : List Call} (hstorable : AreStorable automations)
    (hkeeps : (FileHub.mk .yaml path).Keeps f (automations.map Kept.ofAutomation))
    (hfresh : Memory.EachStep p (fun m call _ => Memory.IsFresh p m call)
      (Memory.ofAutomations automations) calls)
    (hrestores : Memory.EachStep p (fun _ _ m' => Format.yaml.RestoresConfigs m'.configs)
      (Memory.ofAutomations automations) calls) :
    List.Forall₂ (fun x y => x.1 = y.1 ∧ ListAlike Memory.hub (FileHub.mk .yaml path).hub x.2 y.2)
      (p.run Memory.hub (Memory.ofAutomations automations) calls)
      (p.run (FileHub.mk .yaml path).hub f calls) := by
  have hruns := run_agree Format.ignoresMarks_yaml (mirrorsHub_ofAutomations hstorable hkeeps)
    hfresh hrestores
  exact hruns.imp fun _ _ h => ⟨h.1, listAlike_of_mirrorsHub h.2⟩

def night : Automation :=
  ⟨none, true, ⟨"night", "Night", none, "single", [Item.time "22:00:00"], [],
    [Item.call "light" "turn_off" (.text "light.hall") []]⟩⟩

def porch : Automation :=
  ⟨none, false, ⟨"porch", "Porch", none, "single", [Item.time "06:00:00"], [],
    [Item.call "light" "turn_off" (.text "light.porch") []]⟩⟩

def lamps : List Automation :=
  [night, porch]

def lampHub : FileHub :=
  ⟨.yaml, ["automations.yaml"]⟩

def lampFolder : Folder :=
  let mappings := (lamps.map Kept.ofAutomation).map Kept.fields
  let bytes := lampHub.format.write (Yaml.Node.ofValues (mappings.map .mapping))
  ⟨[(lampHub.path, bytes.toOption.getD ByteArray.empty)], []⟩

def bellRequest : Value :=
  .record [("alias", .text "Bell"), ("description", .text "Bell"),
    ("trigger", .record [("type", .text "state"), ("entityId", .text "event.bell")]),
    ("action", .record [("type", .text "turn_on"), ("entityId", .text "light.hall")])]

def bell (id : String) : Config :=
  ⟨id, "Bell", some "Bell", "single",
    [.record [("trigger", .text "state"), ("entity_id", .text "event.bell")]], [],
    [Item.call "homeassistant" "turn_on" (.text "light.hall") []]⟩

/-- An administrator removes the first automation and changes the other. A tenant of the porch may not
switch it on then; the administrator may. A tenant of the hall adds one beside it. -/
def lampCalls : List Call :=
  let admin : Scope := ⟨.admin, EntitySet.ofList ["event.bell", "light.hall", "light.porch"]⟩
  let hall : Scope := ⟨.tenant, EntitySet.ofList ["event.bell", "light.hall"]⟩
  [⟨admin, .delete "night", 0⟩, ⟨admin, .update "porch" bellRequest none, 0⟩,
    ⟨⟨.tenant, EntitySet.ofList ["light.porch"]⟩, .setEnabled "porch" (.bool true), 0⟩,
    ⟨admin, .setEnabled "porch" (.bool true), 0⟩, ⟨hall, .create bellRequest none, 0⟩]

def lampsAfter (n : Nat) : Memory :=
  (lampCalls.take n).foldl (Memory.after standard) (Memory.ofAutomations lamps)

theorem areStorable_lamps : AreStorable lamps := by
  have hread : ∀ a ∈ lamps, a.config.IsNormal := by
    rw [lamps, List.forall_mem_cons, List.forall_mem_singleton]
    exact ⟨⟨by decide, by decide, by decide⟩, ⟨by decide, by decide, by decide⟩⟩
  exact ⟨fun a ha => ⟨_, Config.ofEntries_stored (hread a ha)⟩, by decide, by decide, by decide⟩

theorem keeps_lamps : lampHub.Keeps lampFolder (lamps.map Kept.ofAutomation) := by
  have hrestores : Format.yaml.Restores ((lamps.map Kept.ofAutomation).map Kept.fields) :=
    Format.restores_yaml (by decide +kernel)
  obtain ⟨bytes, _, _, hwrite, -⟩ := id hrestores
  refine FileHub.keeps_of_written hrestores (Folder.writable_iff.2 ⟨nofun, by decide⟩) hwrite ?_
  change (Folder.mk [(lampHub.path, _)] []).at? lampHub.path = _
  rw [show lampHub.format.write _ = _ from hwrite]
  rfl

theorem isFresh_lampCalls : Memory.EachStep standard
    (fun m call _ => Memory.IsFresh standard m call) (Memory.ofAutomations lamps) lampCalls := by
  refine ⟨nofun, nofun, nofun, nofun, fun id hid => ?_, trivial⟩
  have hminted : standard.minted 0 (.create bellRequest none) = some firstId := by
    decide +kernel
  obtain rfl := Option.some.inj (hminted.symm.trans hid)
  decide +kernel

theorem restoresConfigs_porch : Format.yaml.RestoresConfigs [porch.config] :=
  Format.restoresConfigs_yaml (by decide +kernel)

theorem restoresConfigs_changed : Format.yaml.RestoresConfigs [bell "porch"] :=
  Format.restoresConfigs_yaml (by decide +kernel)

theorem restoresConfigs_beside : Format.yaml.RestoresConfigs [bell "porch", bell firstId] :=
  Format.restoresConfigs_yaml (by decide +kernel)

theorem restoresConfigs_lampCalls : Memory.EachStep standard
    (fun _ _ m' => Format.yaml.RestoresConfigs m'.configs) (Memory.ofAutomations lamps)
    lampCalls := by
  have hend {n : Nat} {configs : List Config} (h : Format.yaml.RestoresConfigs configs)
      (hn : (lampsAfter n).configs = configs) : Format.yaml.RestoresConfigs (lampsAfter n).configs :=
    (congrArg Format.yaml.RestoresConfigs hn).mpr h
  have hdeleted := hend (n := 1) restoresConfigs_porch (by decide +kernel)
  have hchanged := hend (n := 2) restoresConfigs_changed (by decide +kernel)
  have hdenied := hend (n := 3) restoresConfigs_changed (by decide +kernel)
  have hswitched := hend (n := 4) restoresConfigs_changed (by decide +kernel)
  have hadded := hend (n := 5) restoresConfigs_beside (by decide +kernel)
  exact ⟨hdeleted, hchanged, hdenied, hswitched, hadded, trivial⟩

theorem file_refines_memory_lamps : AreStorable lamps ∧
    lampHub.Keeps lampFolder (lamps.map Kept.ofAutomation) ∧
    (standard.run Memory.hub (Memory.ofAutomations lamps) lampCalls).map (fun step => step.1.isOk) =
      [true, true, false, true, true] ∧
    List.Forall₂ (fun x y => x.1 = y.1 ∧ ListAlike Memory.hub lampHub.hub x.2 y.2)
      (standard.run Memory.hub (Memory.ofAutomations lamps) lampCalls)
      (standard.run lampHub.hub lampFolder lampCalls) := by
  refine ⟨areStorable_lamps, keeps_lamps, by decide +kernel, ?_⟩
  exact file_refines_memory standard _ areStorable_lamps keeps_lamps isFresh_lampCalls
    restoresConfigs_lampCalls

end Portal

end HomePortal
