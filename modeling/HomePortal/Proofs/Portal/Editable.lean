import HomePortal.Proofs.Draft.Templates
import HomePortal.Proofs.Portal.Addressing
import HomePortal.Proofs.Scope
/-!
What a caller writes, that caller may change afterwards, unless a state that the trigger compares
with is a template.
-/

namespace HomePortal.Portal

variable {p : Portal} {i : String} {raw : Value} {scope : Scope} {s t : Session Memory}

/-- A request was stored under an id: as a new automation, or in place of one. -/
def Wrote (p : Portal) (scope : Scope) (raw : Value) (s : Session Memory) (i : String)
    (t : Session Memory) : Prop :=
  ∃ devices, (p.create Memory.hub raw scope devices).run s = (.ok i, t) ∨
    ∃ id, (p.update Memory.hub id raw scope devices).run s = (.ok i, t)

def ListsEditable (scope : Scope) (s : Session Memory) (i : String) : Prop :=
  ∃ items u, (list Memory.hub scope none).run s = (.ok items, u) ∧
    ∃ item ∈ items, item.id = i ∧ item.hasTemplates = false ∧ item.canEdit = true

theorem canEdit_eq_true {r : References} :
    scope.canEdit r = true ↔ scope.allows r = true ∧ r.hasTemplates = false := by
  rw [Scope.canEdit, Bool.and_eq_true, Bool.not_eq_true']

theorem listsEditable_iff {a : Automation} (hkeyed : s.hub.IsKeyed) (ha : s.hub.find? i = some a) :
    ListsEditable scope s i ↔ scope.canEdit a.config.references = true := by
  constructor
  · intro h
    obtain ⟨items, u, hlist, item, hitem, hid, -, hedit⟩ := h
    obtain ⟨hitems, -⟩ := Prod.mk.inj hlist
    obtain rfl := Except.ok.inj hitems
    obtain ⟨b, hb, rfl⟩ := List.mem_map.1 hitem
    obtain ⟨⟨key, b⟩, hmem, rfl⟩ := List.mem_map.1 (List.mem_filter.1 hb).1
    have hkey : b.config.id = key := hkeyed.own key b hmem
    have hfind : s.hub.find? i = some b := by
      rw [← show b.config.id = i from hid, hkey]
      exact Memory.find?_of_mem hkeyed.distinct hmem
    rw [hfind] at ha
    obtain rfl := Option.some.inj ha
    exact hedit
  · intro h
    have hallows := (canEdit_eq_true.1 h).1
    have hsees : scope.sees a.config.references = true := by
      rw [Scope.sees, hallows, Bool.or_true]
    have hmem : a ∈ s.hub.map (·.2) := List.mem_map.2 ⟨_, Memory.mem_of_find? ha, rfl⟩
    refine ⟨_, s, rfl, a.row scope, ?_, hkeyed.id_of_find? ha, (canEdit_eq_true.1 h).2, h⟩
    refine List.mem_map.2 ⟨a, List.mem_filter.2 ⟨hmem, ?_⟩, rfl⟩
    simp [hsees]

/-- A request that was written is stored under its id, as the caller may have it. -/
theorem stored_of_wrote (hkeyed : s.hub.IsKeyed) (h : p.Wrote scope raw s i t) :
    ∃ d b, Draft.read raw = .valid d ∧ t.hub.IsKeyed ∧ t.hub.find? i = some b ∧
      b.config = d.compile i ∧ AutomationId.reduce? i = some i ∧
      scope.allows (d.compile i).references = true := by
  have hput {d : Draft} {b : Automation} (hb : b.config = d.compile i) :
      (s.hub.put i b).IsKeyed ∧ (s.hub.put i b).find? i = some b := by
    constructor
    · exact hkeyed.put (by rw [hb]; rfl)
    · rw [Memory.find?_put, if_pos rfl]
  obtain ⟨devices, hcreate | ⟨id, hupdate⟩⟩ := h
  · obtain ⟨d, haccepts, rfl⟩ := run_create_eq_ok.1 hcreate
    exact ⟨d, _, readDraft_eq_ok.1 haccepts.read, (hput rfl).1, (hput rfl).2, rfl,
      AutomationId.reduce?_of_reduce? haccepts.chosen, haccepts.allowed⟩
  · obtain ⟨-, d, a, haccepts, -, -, rfl⟩ := run_update_eq_ok.1 hupdate
    exact ⟨d, _, readDraft_eq_ok.1 haccepts.read, (hput rfl).1, (hput rfl).2, rfl,
      AutomationId.reduce?_of_reduce? haccepts.chosen, haccepts.allowed⟩

theorem canEdit_compile {d : Draft} (hread : Draft.read raw = .valid d)
    (hallows : scope.allows (d.compile i).references = true) :
    scope.canEdit (d.compile i).references = true ↔ d.isTemplated = false := by
  rw [canEdit_eq_true, Draft.hasTemplates_compile hread]
  exact and_iff_right hallows

/-- What a caller has written is listed as theirs to change, and can be removed, switched and
replaced by them, exactly if no state that its trigger compares with is a template. -/
theorem wrote_editable_iff (hkeyed : s.hub.IsKeyed) (h : p.Wrote scope raw s i t) :
    ∃ d, readDraft raw = .ok d ∧ (ListsEditable scope t i ↔ d.isTemplated = false) ∧
      ((∃ u, (delete Memory.hub i scope).run t = (.ok (), u)) ↔ d.isTemplated = false) ∧
      (∀ flag, (∃ u, (setEnabled Memory.hub i (.bool flag) scope).run t = (.ok (), u)) ↔
        d.isTemplated = false) ∧
      ∀ next devices d', readDraft next = .ok d' → (∀ e ∈ d'.entities, e ∈ scope.entities) →
        (∀ known ∈ devices, p.registry.check known d' = .ok ()) →
        ((∃ u, (p.update Memory.hub i next scope devices).run t = (.ok i, u)) ↔
          d.isTemplated = false) := by
  obtain ⟨d, b, hread, hkeyed', hfind, hconfig, hreduce, hallows⟩ := stored_of_wrote hkeyed h
  have hne : i ≠ "" := (AutomationId.reduce?_eq_self.1 hreduce).1
  have hedit : scope.canEdit b.config.references = true ↔ d.isTemplated = false := by
    rw [hconfig]
    exact canEdit_compile hread hallows
  have hmanage : scope.authorizeManage = .ok () := by
    obtain ⟨htrigger, haction⟩ := Draft.isEntityId_of_read hread
    have hentities := (Draft.allows_compile htrigger haction scope i).1 hallows
    exact Scope.authorizeManage_of_mem (hentities d.action.entity (by simp [Draft.entities]))
  refine ⟨d, readDraft_eq_ok.2 hread, (listsEditable_iff hkeyed' hfind).trans hedit,
    (delete_succeeds_iff hne hmanage hfind).trans hedit,
    fun flag => (setEnabled_succeeds_iff hne hmanage hfind flag).trans hedit, ?_⟩
  -- The id that was returned is its own reduction, so an update under it meets what was written.
  intro next devices d' hread' hentities hchecked
  obtain ⟨htrigger, haction⟩ := Draft.isEntityId_of_read (readDraft_eq_ok.1 hread')
  have hchosen : AutomationId.choose? (some i) p.mark t.token = some i := by
    rw [AutomationId.choose?, AutomationId.kept?_of_ne hne]
    exact hreduce
  have haccepts : p.Accepts next scope (some i) devices t.token d' i :=
    ⟨hread', hchosen, (Draft.allows_compile htrigger haction scope i).2 hentities, hchecked⟩
  exact (update_succeeds_iff hne haccepts hfind).trans hedit

def mirrorRequest (word : String) : Value :=
  .record [("alias", .text "Evening light"),
    ("trigger", .record [("type", .text "state"), ("entityId", .text "light.kitchen"),
      ("to", .text word)]),
    ("action", .record [("type", .text "turn_on"), ("entityId", .text "light.kitchen")])]

def mirrorDraft (word : String) : Draft where
  title := "Evening light"
  description := none
  mode := .single
  enabled := none
  trigger := .state ⟨"light.kitchen", some (.text word), none, none⟩
  action := .power .turnOn "light.kitchen"

theorem readDraft_mirrorRequest (word : String) :
    readDraft (mirrorRequest word) = .ok (mirrorDraft word) :=
  rfl

def firstId : String :=
  "portal_00000000000000000000000000000000"

theorem isKeyed_nil : Memory.IsKeyed [] :=
  ⟨.nil, fun _ _ h => absurd h List.not_mem_nil⟩

/-- The first request of a tenant is written, whatever state it names. -/
theorem wrote_mirrorRequest (word : String) : ∃ t, Wrote standard kitchenTenant
    (mirrorRequest word) ⟨[], 0⟩ firstId t := by
  obtain ⟨htrigger, haction⟩ := Draft.isEntityId_of_read
    (readDraft_eq_ok.1 (readDraft_mirrorRequest word))
  have hentities : ∀ e ∈ (mirrorDraft word).entities, e ∈ kitchenTenant.entities :=
    show ∀ e ∈ ["light.kitchen", "light.kitchen"], e ∈ kitchenTenant.entities by decide
  have haccepts : standard.Accepts (mirrorRequest word) kitchenTenant none none 0
      (mirrorDraft word) firstId :=
    ⟨readDraft_mirrorRequest word, by decide +kernel,
      (Draft.allows_compile htrigger haction kitchenTenant firstId).2 hentities, nofun⟩
  exact ⟨_, none, .inl (run_create_eq_ok.2 ⟨_, haccepts, rfl⟩)⟩

theorem wrote_editable_on : Memory.IsKeyed [] ∧
    ∃ t, Wrote standard kitchenTenant (mirrorRequest "on") ⟨[], 0⟩ firstId t ∧
      ListsEditable kitchenTenant t firstId := by
  obtain ⟨t, ht⟩ := wrote_mirrorRequest "on"
  obtain ⟨d, hread, hlists, -⟩ := wrote_editable_iff isKeyed_nil ht
  obtain rfl := Except.ok.inj ((readDraft_mirrorRequest "on").symm.trans hread)
  exact ⟨isKeyed_nil, t, ht, hlists.2 (by decide)⟩

/-- A caller who may not change what they have just written. -/
theorem not_listsEditable_template : ¬ ∀ (p : Portal) (scope : Scope) (raw : Value)
    (s t : Session Memory) (i : String), s.hub.IsKeyed →
    (∀ id, AutomationId.choose? none p.mark s.token = some id → s.hub.find? id = none) →
    p.Wrote scope raw s i t → ListsEditable scope t i := by
  intro hall
  obtain ⟨t, ht⟩ := wrote_mirrorRequest (Item.expression "states")
  have hlists := hall _ _ _ _ t _ isKeyed_nil (fun _ _ => rfl) ht
  obtain ⟨d, b, hread, hkeyed, hfind, hconfig, -, hallows⟩ := stored_of_wrote isKeyed_nil ht
  obtain rfl := Except.ok.inj ((readDraft_mirrorRequest _).symm.trans (readDraft_eq_ok.2 hread))
  have hedit := (listsEditable_iff hkeyed hfind).1 hlists
  rw [hconfig, canEdit_compile hread hallows] at hedit
  exact absurd hedit (by decide)

end HomePortal.Portal
