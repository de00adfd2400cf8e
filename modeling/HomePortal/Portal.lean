import HomePortal.Device.Gate
import HomePortal.Draft.Reading
import HomePortal.Hub.Basic
import HomePortal.Scope
/-!
The portal over one hub. A write is read, compiled and authorized before the hub is asked for
anything; what is authorized is the config that would be stored. A listing shows each caller the
configs of their scope.
-/

namespace HomePortal

structure ListItem where
  id : String
  entity : Option String
  title : String
  description : String
  mode : String
  actions : List String
  hasTemplates : Bool
  canEdit : Bool
  enabled : Bool
  deriving DecidableEq

def ListItem.read (value : Value) : Checked ListItem :=
  (Field.record "AutomationListItem" value).andThen fun fields =>
    ListItem.mk
      <$> fields.required "id" [] Field.text
      <*> fields.optional ["entity_id"] none (Field.orNull Field.text)
      <*> fields.required "alias" [] Field.text
      <*> fields.optional ["description"] "" Field.text
      <*> fields.optional ["mode"] "single" Field.text
      <*> fields.optional ["action_entities"] [] Field.texts
      <*> fields.optional ["has_templates"] false Field.flag
      <*> fields.optional ["can_edit"] false Field.flag
      <*> fields.optional ["enabled"] true Field.flag

def Automation.row (a : Automation) (scope : Scope) : ListItem :=
  let r := a.config.references
  let entity := a.entity.filter (· != "")
  { id := a.config.id
    entity := some (entity.getD ("automation." ++ a.config.id))
    title := if a.config.title != "" then a.config.title else entity.getD a.config.id
    description := a.config.description.getD ""
    mode := a.config.mode
    actions := r.actions.toList
    hasTemplates := r.hasTemplates
    canEdit := scope.canEdit r
    enabled := a.enabled }

def References.mayActOn (r : References) (entity : String) : Bool :=
  decide (entity ∈ r.actions) || (r.actions.isEmpty && r.hasTemplates)

def listing (scope : Scope) (entity : Option String) (automations : List Automation) :
    List ListItem :=
  let shown := automations.filter fun a =>
    let r := a.config.references
    scope.sees r && entity.all r.mayActOn
  shown.map (·.row scope)

structure Portal where
  mark : String
  registry : Registry

structure Session (σ : Type) where
  hub : σ
  token : Nat

abbrev PortalM (σ : Type) := ExceptT Failure (StateM (Session σ))

structure Prepared where
  draft : Draft
  config : Config

namespace Portal

variable {σ α : Type}

def onHub (act : HubM σ α) : PortalM σ α :=
  ExceptT.mk fun s =>
    let (outcome, hub) := act.run s.hub
    (outcome, { s with hub })

def readDraft (raw : Value) : Except Failure Draft :=
  (Draft.read raw).orFail fun first more => .draft (.invalid first more)

def finish (p : Portal) (d : Draft) (scope : Scope) (existing : Option String)
    (devices : Option (List Device)) (token : Nat) : Except Failure Prepared :=
  match d.compileAs? existing p.mark token with
  | none => .error (.draft .emptyId)
  | some c => do
    (scope.authorizeWrite c.references).mapError Failure.denied
    match devices with
    | some devices => (p.registry.check devices d).mapError Failure.draft
    | none => pure ()
    pure ⟨d, c⟩

/-- Reads, compiles and authorizes a request without asking the hub. A token is used up as soon as
the draft is read and has no id. -/
def prepare (p : Portal) (raw : Value) (scope : Scope) (existing : Option String)
    (devices : Option (List Device)) : PortalM σ Prepared := do
  let d ← liftExcept (readDraft raw)
  let s : Session σ ← get
  set { s with token := AutomationId.nextToken existing s.token }
  liftExcept (p.finish d scope existing devices s.token)
where
  liftExcept {β : Type} (e : Except Failure β) : PortalM σ β := ExceptT.mk (pure e)

def denied (e : Except Denial Unit) : PortalM σ Unit :=
  ExceptT.mk (pure (e.mapError Failure.denied))

def list (h : Hub σ) (scope : Scope) (entity : Option String) : PortalM σ (List ListItem) := do
  let automations ← onHub h.list
  pure (listing scope entity automations)

def setAsDrafted (h : Hub σ) (id : String) (d : Draft) : PortalM σ Unit :=
  match d.enabled with
  | some b => onHub (h.setEnabled id b)
  | none => pure ()

def create (p : Portal) (h : Hub σ) (raw : Value) (scope : Scope)
    (devices : Option (List Device)) : PortalM σ String := do
  let prepared ← p.prepare raw scope none devices
  let id ← onHub (h.create prepared.config)
  setAsDrafted h id prepared.draft
  pure id

def authorizeStored (h : Hub σ) (id : String) (scope : Scope) : PortalM σ Unit := do
  let stored ← onHub (h.get id)
  denied (scope.authorizeEdit stored.config.references)

def requireId (id : String) : PortalM σ Unit :=
  if id == "" then throw (.draft .missingId) else pure ()

/-- Replaces an automation. Both the new config and the one it takes the place of must be the
caller's to change. -/
def update (p : Portal) (h : Hub σ) (id : String) (raw : Value) (scope : Scope)
    (devices : Option (List Device)) : PortalM σ String := do
  requireId id
  let prepared ← p.prepare raw scope (some id) devices
  authorizeStored h prepared.config.id scope
  onHub (h.update prepared.config.id prepared.config)
  setAsDrafted h prepared.config.id prepared.draft
  pure prepared.config.id

def delete (h : Hub σ) (id : String) (scope : Scope) : PortalM σ Unit := do
  requireId id
  denied scope.authorizeManage
  authorizeStored h id scope
  onHub (h.delete id)

def setEnabled (h : Hub σ) (id : String) (enabled : Value) (scope : Scope) :
    PortalM σ Unit := do
  requireId id
  match enabled with
  | .bool b => do
    denied scope.authorizeManage
    authorizeStored h id scope
    onHub (h.setEnabled id b)
  | _ => throw (.draft .enabledNotBoolean)

end Portal

inductive Request where
  | list (entity : Option String)
  | create (raw : Value) (devices : Option (List Device))
  | update (id : String) (raw : Value) (devices : Option (List Device))
  | delete (id : String)
  | setEnabled (id : String) (enabled : Value)
  | prepare (raw : Value) (existing : Option String) (devices : Option (List Device))

inductive Reply where
  | items (items : List ListItem)
  | id (id : String)
  | done
  | prepared (p : Prepared)

def Portal.answer {σ : Type} (p : Portal) (h : Hub σ) (scope : Scope) :
    Request → PortalM σ Reply
  | .list entity => Reply.items <$> Portal.list h scope entity
  | .create raw devices => Reply.id <$> p.create h raw scope devices
  | .update id raw devices => Reply.id <$> p.update h id raw scope devices
  | .delete id => (fun _ => Reply.done) <$> Portal.delete h id scope
  | .setEnabled id enabled => (fun _ => Reply.done) <$> Portal.setEnabled h id enabled scope
  | .prepare raw existing devices => Reply.prepared <$> p.prepare raw scope existing devices

end HomePortal
