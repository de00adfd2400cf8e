import HomePortal.Http.Script
import HomePortal.Proofs.Hub.Answer
import HomePortal.Proofs.Hub.Overtaking
/-!
How a hub behind a server lists its automations. The states are asked for, then the config of each
state that has one, side by side. A config that is not found is passed over; of all other failures
the one that comes about first counts, and without one the list is complete.
-/

namespace HomePortal

open HubM (run_bind_of_error run_bind_of_ok run_observing run_ofExcept)
open Http (Line Server)

/-! ### States -/

inductive HasConfig : Value → String → String → Bool → Prop
  | intro {fields attributes : Entries} {entity : String} {id : Value} {isOn : Bool}
    (hentity : fields.get? "entity_id" = some (.text entity))
    (hautomation : "automation.".toList <+: entity.toList)
    (hattributes : fields.get? "attributes" = some (.mapping attributes))
    (hid : Entries.get? attributes "id" = some id) (hnull : id ≠ .null) (hempty : id ≠ .text "")
    (hstate : isOn = true ↔ fields.get? "state" ≠ some (.text "off")) :
    HasConfig (.mapping fields) entity id.display isOn

namespace EntityState

variable {item : Value} {fields : Entries} {entity id : String} {isOn : Bool}

theorem configId?_eq_some_iff : configId? fields = some id ↔
    ∃ attributes v, fields.get? "attributes" = some (.mapping attributes) ∧
      Entries.get? attributes "id" = some v ∧ v ≠ .null ∧ v ≠ .text "" ∧ v.display = id := by
  unfold configId?
  constructor
  · intro h
    split at h
    · next attributes hattributes =>
      split at h
      · cases h
      · cases h
      · cases h
      · next v hnull hempty hid =>
        exact ⟨attributes, v, hattributes, hid, hnull, hempty, Option.some.inj h⟩
    · cases h
  · intro h
    obtain ⟨attributes, v, hattributes, hid, hnull, hempty, rfl⟩ := h
    rw [hattributes]
    dsimp only
    rw [hid]
    split
    · next heq => cases heq
    · next heq => exact absurd (Option.some.inj heq) hnull
    · next heq => exact absurd (Option.some.inj heq) hempty
    · next heq => rw [Option.some.inj heq]

def runs (fields : Entries) : Bool :=
  match fields.get? "state" with
  | some (.text "off") => false
  | _ => true

theorem runs_iff : runs fields = true ↔ fields.get? "state" ≠ some (.text "off") := by
  unfold runs
  split
  · next heq => simp [heq]
  · next hne => exact iff_of_true rfl hne

theorem ofValue?_eq_some_iff :
    ofValue? item = some ⟨entity, some id, isOn⟩ ↔ HasConfig item entity id isOn := by
  constructor
  · intro h
    unfold ofValue? at h
    split at h
    · next fields =>
      split at h
      · next entity' hentity =>
        split at h
        · next hautomation =>
          obtain ⟨rfl, hconfig, hrun⟩ := EntityState.mk.inj (Option.some.inj h)
          obtain ⟨attributes, v, hattributes, hid, hnull, hempty, rfl⟩ :=
            configId?_eq_some_iff.1 hconfig
          have hruns : runs fields = isOn := hrun
          exact .intro hentity (List.isPrefixOf_iff_prefix.1 hautomation) hattributes hid hnull
            hempty (hruns ▸ runs_iff)
        · cases h
      · cases h
    · cases h
  · intro h
    cases h with
    | @intro fields attributes entity v isOn hentity hautomation hattributes hid hnull hempty
        hstate =>
      have hconfig : configId? fields = some v.display :=
        configId?_eq_some_iff.2 ⟨attributes, v, hattributes, hid, hnull, hempty, rfl⟩
      have hruns : runs fields = isOn := Bool.eq_iff_iff.2 (runs_iff.trans hstate.symm)
      unfold ofValue?
      dsimp only
      rw [hentity]
      dsimp only
      rw [if_pos (List.isPrefixOf_iff_prefix.2 hautomation), hconfig, ← hruns]
      rfl

end EntityState

namespace RestHub

/-! ### Configs -/

section

variable {σ : Type} {h : RestHub} {server : Server σ} {line t : Line σ} {id entity : String}
  {isOn : Bool} {e : Failure} {answer : Answer} {outcome : Except Failure (Option Automation)}

def joined (entity id : String) (isOn : Bool) (c : Config) : Automation :=
  ⟨some entity, isOn, { c with id := if c.id = "" then id else c.id }⟩

inductive Fetches (h : RestHub) (server : Server σ) (entity id : String) (isOn : Bool)
    (line t : Line σ) : Except Failure (Option Automation) → Prop
  | failed {e : Failure} (hasks : Asks h server (.config id) line (.failed e) t) :
    Fetches h server entity id isOn line t (.error e)
  | missing (hasks : Asks h server (.config id) line .missing t) :
    Fetches h server entity id isOn line t (.ok none)
  | unexpected {v : Value} (hasks : Asks h server (.config id) line (.data v) t)
    (hv : ∀ fields, v ≠ .mapping fields) :
    Fetches h server entity id isOn line t (.error (.hub (.unexpectedConfig id)))
  | found {fields : Entries} (hasks : Asks h server (.config id) line (.data (.mapping fields)) t) :
    Fetches h server entity id isOn line t
      (.ok (some (joined entity id isOn (Config.ofEntries fields))))

inductive FetchesAll (h : RestHub) (server : Server σ) :
    List Value → Line σ → Line σ → List (Except Failure (Option Automation)) → Prop
  | nil {line : Line σ} : FetchesAll h server [] line line []
  | skip {item : Value} {items : List Value} {line t : Line σ}
    {outcomes : List (Except Failure (Option Automation))}
    (hitem : ∀ entity id isOn, ¬HasConfig item entity id isOn)
    (hrest : FetchesAll h server items line t outcomes) :
    FetchesAll h server (item :: items) line t outcomes
  | fetch {item : Value} {items : List Value} {entity id : String} {isOn : Bool} {line t u : Line σ}
    {outcome : Except Failure (Option Automation)}
    {outcomes : List (Except Failure (Option Automation))}
    (hitem : HasConfig item entity id isOn)
    (hfetch : Fetches h server entity id isOn line t outcome)
    (hrest : FetchesAll h server items t u outcomes) :
    FetchesAll h server (item :: items) line u (outcome :: outcomes)

theorem run_fetch (hasks : Asks h server (.config id) line answer t) :
    (h.fetch server id).run line = (answer.outcome (.config id) >>= readConfig id, t) := by
  have hrun := run_of_asks hasks
  rw [Target.path] at hrun
  rw [fetch]
  cases hanswer : answer.outcome (.config id) with
  | error e =>
    rw [hanswer] at hrun
    rw [run_bind_of_error hrun]
    rfl
  | ok v =>
    rw [hanswer] at hrun
    rw [run_bind_of_ok hrun, run_ofExcept]
    rfl

def passOver : Except Failure Config → Except Failure (Option Config)
  | .ok c => .ok (some c)
  | .error (.hub (.noConfig _)) => .ok none
  | .error e => .error e

theorem passOver_error (hne : ∀ path, e ≠ .hub (.noConfig path)) :
    passOver (.error e) = .error e := by
  unfold passOver
  split
  · next heq => cases heq
  · next path heq => exact absurd (Except.error.inj heq) (hne path)
  · next heq => rw [Except.error.inj heq]

theorem run_fetchFor (hasks : Asks h server (.config id) line answer t) :
    (h.fetchFor server ⟨entity, some id, isOn⟩).run line =
      ((passOver (answer.outcome (.config id) >>= readConfig id)).map
        (Option.map (.ofState (some ⟨entity, some id, isOn⟩))), t) := by
  change (observing (h.fetch server id) >>= fun outcome => match outcome with
    | .ok c => pure (some (.ofState (some ⟨entity, some id, isOn⟩) c))
    | .error (.hub (.noConfig _)) => pure none
    | .error e => throw e : HubM (Line σ) (Option Automation)).run line = _
  rw [run_bind_of_ok (run_observing _ _), run_fetch hasks]
  unfold passOver
  generalize answer.outcome (.config id) >>= readConfig id = config
  dsimp only
  split
  · rfl
  · rfl
  · rfl

theorem readConfig_mapping {fields : Entries} : readConfig id (.mapping fields) =
    .ok { Config.ofEntries fields with
      id := if (Config.ofEntries fields).id = "" then id else (Config.ofEntries fields).id } := by
  simp only [readConfig, beq_iff_eq]
  split
  · rfl
  · rfl

theorem readConfig_of_ne {v : Value} (hv : ∀ fields, v ≠ .mapping fields) :
    readConfig id v = .error (.hub (.unexpectedConfig id)) := by
  unfold readConfig
  split
  · next fields => exact absurd rfl (hv fields)
  · rfl

theorem run_fetchFor_of_fetches (hfetch : Fetches h server entity id isOn line t outcome) :
    (h.fetchFor server ⟨entity, some id, isOn⟩).run line = (outcome, t) := by
  cases hfetch with
  | failed hasks =>
    rw [run_fetchFor hasks]
    change ((passOver (.error _)).map _, t) = _
    rw [passOver_error hasks.ne_noConfig]
    rfl
  | missing hasks =>
    rw [run_fetchFor hasks]
    rfl
  | unexpected hasks hv =>
    rw [run_fetchFor hasks]
    change ((passOver (readConfig id _)).map _, t) = _
    rw [readConfig_of_ne hv]
    rfl
  | @found fields hasks =>
    rw [run_fetchFor hasks]
    change ((passOver (readConfig id (.mapping fields))).map _, t) = _
    rw [readConfig_mapping]
    rfl

theorem exists_fetches (h : RestHub) (server : Server σ) (entity id : String) (isOn : Bool)
    (line : Line σ) : ∃ outcome t, Fetches h server entity id isOn line t outcome := by
  obtain ⟨answer, t, hasks⟩ := exists_asks h server (.config id) line
  cases answer with
  | failed e => exact ⟨_, t, .failed hasks⟩
  | missing => exact ⟨_, t, .missing hasks⟩
  | data v =>
    by_cases hv : ∃ fields, v = .mapping fields
    · obtain ⟨fields, rfl⟩ := hv
      exact ⟨_, t, .found hasks⟩
    · exact ⟨_, t, .unexpected hasks fun fields heq => hv ⟨fields, heq⟩⟩

end

/-! ### The whole list -/

variable {σ : Type} {h : RestHub} {server : Server σ} {line t u : Line σ} {items : List Value}
  {done outcomes : List (Except Failure (Option Automation))}
  {result : Except Failure (List Automation)}

inductive Joins (done : List (Except Failure (Option Automation))) :
    List (Except Failure (Option Automation)) → Except Failure (List Automation) → Prop
  | failed {before after outcomes : List (Except Failure (Option Automation))} {e : Failure}
    (hdone : done = before ++ .error e :: after)
    (hbefore : ∀ outcome ∈ before, ∃ found, outcome = .ok found) : Joins done outcomes (.error e)
  | found (founds : List (Option Automation)) :
    Joins done (founds.map .ok) (.ok (founds.filterMap id))

/-- What a listing comes to, if the fetches are done in the order to which `order` puts them. -/
inductive Lists (h : RestHub) (server : Server σ)
    (order : List (Except Failure (Option Automation)) → List (Except Failure (Option Automation)))
    (line : Line σ) : Except Failure (List Automation) → Line σ → Prop
  | failed {e : Failure} {t : Line σ} (hstates : Asks h server .states line (.failed e) t) :
    Lists h server order line (.error e) t
  | unexpected {v : Value} {t : Line σ} (hstates : Asks h server .states line (.data v) t)
    (hv : ∀ items, v ≠ .list items) : Lists h server order line (.error (.hub .unexpectedStates)) t
  | listed {items : List Value} {t u : Line σ}
    {outcomes : List (Except Failure (Option Automation))}
    {result : Except Failure (List Automation)}
    (hstates : Asks h server .states line (.data (.list items)) t)
    (hfetches : FetchesAll h server items t u outcomes) (hjoins : Joins (order outcomes) outcomes result) :
    Lists h server order line result u

theorem exists_founds (hall : ∀ outcome ∈ outcomes, ∃ found, outcome = .ok found) :
    ∃ founds : List (Option Automation), outcomes = founds.map .ok := by
  induction outcomes with
  | nil => exact ⟨[], rfl⟩
  | cons outcome outcomes ih =>
    obtain ⟨⟨found, rfl⟩, hrest⟩ := List.forall_mem_cons.1 hall
    obtain ⟨founds, rfl⟩ := ih hrest
    exact ⟨found :: founds, rfl⟩

theorem run_of_joins (hperm : done.Perm outcomes) (hjoins : Joins done outcomes result)
    (line : Line σ) : (do
      let _ ← ofExcept (done.mapM id)
      let found ← ofExcept (outcomes.mapM id)
      pure (found.filterMap id) : HubM (Line σ) (List Automation)).run line = (result, line) := by
  cases hjoins with
  | failed hdone hbefore =>
    have hfails : done.mapM id = .error _ := mapM_eq_error.2 ⟨_, _, _, hdone, hbefore, rfl⟩
    rw [hfails]
    exact run_bind_of_error (run_ofExcept _ _) _
  | found founds =>
    have hall : ∀ outcome ∈ done, ∃ found, outcome = .ok found := by
      intro outcome houtcome
      obtain ⟨found, -, heq⟩ := List.mem_map.1 (hperm.mem_iff.1 houtcome)
      exact ⟨found, heq.symm⟩
    obtain ⟨others, rfl⟩ := exists_founds hall
    rw [mapM_eq_ok.2 (List.map_id _), mapM_eq_ok.2 (List.map_id _)]
    rfl

theorem exists_joins (hperm : done.Perm outcomes) : ∃ result, Joins done outcomes result := by
  cases hfirst : done.find? fun outcome => !outcome.toBool with
  | none =>
    have hall : ∀ outcome ∈ outcomes, ∃ found, outcome = .ok found := by
      intro outcome houtcome
      have hok := List.find?_eq_none.1 hfirst outcome (hperm.mem_iff.2 houtcome)
      cases outcome with
      | error e => exact absurd rfl hok
      | ok found => exact ⟨found, rfl⟩
    obtain ⟨founds, rfl⟩ := exists_founds hall
    exact ⟨_, .found founds⟩
  | some outcome =>
    obtain ⟨hfails, before, after, hdone, hbefore⟩ := List.find?_eq_some_iff_append.1 hfirst
    cases outcome with
    | ok found => cases hfails
    | error e =>
      refine ⟨_, .failed hdone fun outcome houtcome => ?_⟩
      have hok := hbefore outcome houtcome
      cases outcome with
      | error e => cases hok
      | ok found => exact ⟨found, rfl⟩

/-- All configs are fetched, and states without a config are passed over. -/
theorem run_of_fetchesAll (hall : FetchesAll h server items line u outcomes) :
    (((items.filterMap EntityState.ofValue?).filter fun s => s.configId.isSome).mapM fun s =>
      observing (h.fetchFor server s)).run line = (.ok outcomes, u) := by
  induction hall with
  | nil => rfl
  | @skip item items line u outcomes hitem hrest ih =>
    cases hstate : EntityState.ofValue? item with
    | none => rwa [List.filterMap_cons_none hstate]
    | some s =>
      obtain ⟨entity, configId, isOn⟩ := s
      cases configId with
      | none => rwa [List.filterMap_cons_some hstate, List.filter_cons_of_neg (by simp)]
      | some id => exact absurd (EntityState.ofValue?_eq_some_iff.1 hstate) (hitem entity id isOn)
  | fetch hitem hfetch hrest ih =>
    rw [List.filterMap_cons_some (EntityState.ofValue?_eq_some_iff.2 hitem),
      List.filter_cons_of_pos (by simp), List.mapM_cons, run_bind_of_ok (run_observing _ _),
      run_fetchFor_of_fetches hfetch, run_bind_of_ok ih]
    rfl

theorem exists_fetchesAll (h : RestHub) (server : Server σ) (items : List Value) (line : Line σ) :
    ∃ outcomes u, FetchesAll h server items line u outcomes := by
  induction items generalizing line with
  | nil => exact ⟨[], line, .nil⟩
  | cons item items ih =>
    by_cases hitem : ∃ entity id isOn, HasConfig item entity id isOn
    · obtain ⟨entity, id, isOn, hitem⟩ := hitem
      obtain ⟨outcome, t, hfetch⟩ := exists_fetches h server entity id isOn line
      obtain ⟨outcomes, u, hrest⟩ := ih t
      exact ⟨_, u, .fetch hitem hfetch hrest⟩
    · obtain ⟨outcomes, u, hrest⟩ := ih line
      exact ⟨outcomes, u, .skip (fun entity id isOn h => hitem ⟨entity, id, isOn, h⟩) hrest⟩

/-- Whatever overtakes what, each fetch is done once. -/
theorem completed_perm (h : RestHub) (server : Server σ)
    (outcomes : List (Except Failure (Option Automation))) :
    (completed h.limit server.next outcomes).Perm outcomes :=
  (completes_completed h.limit_pos server.next outcomes).perm

theorem run_of_lists (hlists : Lists h server (completed h.limit server.next) line result u) :
    (h.list server).run line = (result, u) := by
  cases hlists with
  | failed hstates => exact run_bind_of_error (run_bind_of_error (run_of_asks hstates) _) _
  | @unexpected v t hstates hv =>
    have hlisted : (h.states server).run line = (.error (.hub .unexpectedStates), u) := by
      refine (run_bind_of_ok (run_of_asks hstates) _).trans ?_
      split
      · next items => exact absurd rfl (hv items)
      · rfl
    exact run_bind_of_error hlisted _
  | @listed items t u outcomes result hstates hfetches hjoins =>
    have hlisted : (h.states server).run line =
        (.ok (items.filterMap EntityState.ofValue?), t) := run_bind_of_ok (run_of_asks hstates) _
    rw [list, run_bind_of_ok hlisted, run_bind_of_ok (run_of_fetchesAll hfetches)]
    exact run_of_joins (completed_perm h server outcomes) hjoins u

theorem exists_lists (h : RestHub) (server : Server σ) (line : Line σ) :
    ∃ result u, Lists h server (completed h.limit server.next) line result u := by
  obtain ⟨answer, t, hstates⟩ := exists_asks h server .states line
  cases answer with
  | failed e => exact ⟨_, t, .failed hstates⟩
  | missing => exact absurd rfl hstates.ne_states
  | data v =>
    by_cases hv : ∃ items, v = .list items
    · obtain ⟨items, rfl⟩ := hv
      obtain ⟨outcomes, u, hfetches⟩ := exists_fetchesAll h server items t
      obtain ⟨result, hjoins⟩ := exists_joins (completed_perm h server outcomes)
      exact ⟨result, u, .listed hstates hfetches hjoins⟩
    · exact ⟨_, t, .unexpected hstates fun items heq => hv ⟨items, heq⟩⟩

theorem run_list_iff : (h.list server).run line = (result, u) ↔
    Lists h server (completed h.limit server.next) line result u := by
  constructor
  · intro hrun
    obtain ⟨result', u', hlists⟩ := exists_lists h server line
    rw [run_of_lists hlists] at hrun
    obtain ⟨rfl, rfl⟩ := Prod.mk.inj hrun
    exact hlists
  · exact run_of_lists

/-- No reply of a server overtakes another. -/
def InTurn (server : Server σ) : Prop :=
  ∀ n, server.next n = 0

def pairwise : RestHub :=
  ofAddress "http://hub" "secret" 2 true

def stateOf (id : String) : Value :=
  .record [("entity_id", .text ("automation." ++ id)), ("attributes", .record [("id", .text id)])]

def twoFailures : Line Http.Script where
  server := [("GET /api/states", [.response 200 (.value (.list [stateOf "hall", stateOf "stairs"]))]),
    ("GET /api/config/automation/config/hall", [.response 500 .empty]),
    ("GET /api/config/automation/config/stairs", [.unreachable "no route"])]
  log := []
  isOpen := true

def failure? {τ α : Type} (x : HubM τ α) (s : τ) : Option Failure :=
  match (x.run s).1 with
  | .error e => some e
  | .ok _ => none

theorem exists_of_failure? {τ α : Type} {x : HubM τ α} {s : τ} {e : Failure}
    (h : failure? x s = some e) : ∃ s', x.run s = (.error e, s') := by
  unfold failure? at h
  cases hrun : x.run s with
  | mk outcome s' =>
    rw [hrun] at h
    cases outcome with
    | ok a => cases h
    | error e' =>
      obtain rfl := Option.some.inj h
      exact ⟨s', rfl⟩

/-- The second reply overtakes the first. -/
example : failure? (pairwise.list { Http.Script.server with next := fun _ => 1 }) twoFailures =
    some (.hub (.unreachable "no route")) := by
  decide +kernel

end RestHub

end HomePortal
