import HomePortal.Http.Script
import HomePortal.Proofs.Portal.Addressing
import HomePortal.Proofs.Portal.Requests
import Mathlib.Data.List.Nodup
/-!
Which entity a hub behind a server is asked to switch for an id. An id with a dot is taken for an
entity. Any other id stands for the first state that the hub lists with its config; it stands for
an entity of its own name where no state has its config.
-/

namespace HomePortal

open Http (Exchange IsGet Line Script Server)
open HubM (Obeys Sends run_bind_eq_ok)

structure EntityState.StandsFor (listed : List EntityState) (id entity : String) : Prop where
  first : (∃ s ∈ listed, s.configId = some id) →
    ∃ s, listed.find? (fun s => s.configId == some id) = some s ∧ s.entity = entity
  own : (∃ s ∈ listed, s.configId = some id) → (listed.map (·.entity)).Nodup →
    ∀ s ∈ listed, s.entity = entity → s.configId = some id
  unlisted : (∀ s ∈ listed, s.configId ≠ some id) → entity = "automation." ++ id

namespace EntityState.StandsFor

variable {listed : List EntityState} {id : String}

theorem of_find? {s : EntityState}
    (h : listed.find? (fun s => s.configId == some id) = some s) :
    StandsFor listed id s.entity := by
  have hs : s ∈ listed := List.mem_of_find?_eq_some h
  have hid : s.configId = some id := by simpa using List.find?_some h
  constructor
  · intro _
    exact ⟨s, h, rfl⟩
  · intro _ hnodup other hother hentity
    have heq : other = s := List.inj_on_of_nodup_map hnodup hother hs hentity
    rw [heq, hid]
  · intro hnone
    exact absurd hid (hnone s hs)

theorem of_find?_eq_none (h : listed.find? (fun s => s.configId == some id) = none) :
    StandsFor listed id ("automation." ++ id) := by
  have hnone : ¬ ∃ s ∈ listed, s.configId = some id := by
    intro hsome
    obtain ⟨s, hs, hid⟩ := hsome
    exact List.find?_eq_none.1 h s hs (beq_iff_eq.2 hid)
  exact ⟨fun hsome => absurd hsome hnone, fun hsome => absurd hsome hnone, fun _ => rfl⟩

end EntityState.StandsFor

namespace RestHub

variable {σ : Type} {h : RestHub} {server : Server σ} {id entity : String} {line t : Line σ}

structure Names (h : RestHub) (older : List Exchange) (id entity : String) : Prop where
  dotted : '.' ∈ id.toList → entity = id
  plain : '.' ∉ id.toList → ∃ g ∈ older, ∃ listed, h.ListsStates listed g ∧
    EntityState.StandsFor listed id entity

theorem Names.mono {first older : List Exchange} (hnames : h.Names first id entity)
    (hsub : first ⊆ older) : h.Names older id entity := by
  constructor
  · exact hnames.dotted
  · intro hplain
    obtain ⟨g, hg, hlists⟩ := hnames.plain hplain
    exact ⟨g, hsub hg, hlists⟩

theorem entityFor_eq_ok (hrun : (h.entityFor server id).run line = (.ok entity, t)) :
    ∃ sent, t.log = sent ++ line.log ∧ (∀ e ∈ sent, IsGet e) ∧ h.Names sent id entity := by
  unfold entityFor at hrun
  by_cases hdot : '.' ∈ id.toList
  · rw [if_pos (List.contains_iff_mem.2 hdot)] at hrun
    obtain ⟨hentity, rfl⟩ := Prod.mk.inj hrun
    exact ⟨[], rfl, nofun, fun _ => (Except.ok.inj hentity).symm, fun hplain => absurd hdot hplain⟩
  · rw [if_neg (mt List.contains_iff_mem.1 hdot)] at hrun
    obtain ⟨listed, u, hstates, hpure⟩ := run_bind_eq_ok.1 hrun
    obtain ⟨hentity, rfl⟩ := Prod.mk.inj hpure
    obtain ⟨g, hlog, hlists⟩ := states_eq_ok hstates
    refine ⟨[g], hlog, ?_, fun hdotted => absurd hdotted hdot, fun _ => ?_⟩
    · simp [isGet_of_request hlists.asked]
    · refine ⟨g, List.mem_singleton_self g, listed, hlists, ?_⟩
      rw [← Except.ok.inj hentity]
      cases hfind : listed.find? fun s => s.configId == some id with
      | none => exact .of_find?_eq_none hfind
      | some s => exact .of_find? hfind

theorem obeys_setEnabled (h : RestHub) (server : Server σ) (id : String) (flag : Bool)
    (line : Line σ) : Obeys Line.log (fun older e => ∃ entity,
      h.Switches flag entity e.request ∧ h.Names older id entity)
      (h.setEnabled server id flag) line := by
  apply Obeys.bind_of_gets (sends_entityFor h server id line)
  · intro entity t hrun
    exact entityFor_eq_ok hrun
  · intro entity t _
    exact Obeys.of_sends ((sends_call h server flag entity t).mono fun _ => .inr)
  · intro entity first gap e hnames hswitches
    exact ⟨entity, hswitches, hnames.mono (List.subset_append_right gap first)⟩

end RestHub

namespace Portal

/-- What is switched for an id is what the id names. The portal asks for it only after the hub has
replied, in the same call, that what is under the id is the caller's to edit. -/
theorem setEnabled_names {σ : Type} (h : RestHub) (server : Server σ) (id : String) :
    (∀ flag line, Obeys Line.log (fun older e => ∃ entity,
        h.Switches flag entity e.request ∧ h.Names older id entity)
      (h.setEnabled server id flag) line) ∧
    ∀ enabled scope s, Obeys log (fun older e => (∃ flag entity, enabled = .bool flag ∧
        h.Switches flag entity e.request ∧ h.Names older id entity) ∧
        ∃ g ∈ older, h.Approves scope id g)
      (setEnabled (h.hub server) id enabled scope) s := by
  constructor
  · intro flag line
    exact RestHub.obeys_setEnabled h server id flag line
  · intro enabled scope s
    apply obeys_setEnabled
    · intro gap first e hlaw
      obtain ⟨flag, entity, hflag, hswitches, hnames⟩ := hlaw
      exact ⟨flag, entity, hflag, hswitches, hnames.mono (List.subset_append_left gap first)⟩
    · intro flag line hflag
      apply (RestHub.obeys_setEnabled h server id flag line).mono
      intro older e hlaw
      obtain ⟨entity, hswitches, hnames⟩ := hlaw
      exact ⟨flag, entity, hflag, hswitches, hnames⟩

def home : RestHub :=
  .ofAddress "http://hub" "secret" 6 true

def homeStates : List EntityState :=
  [⟨"automation.evening", some "bedroom_light", true⟩, ⟨"automation.hall", some "hall_light", true⟩,
    ⟨"automation.door", some "door", true⟩, ⟨"automation.door", some "gate", true⟩]

def homeScript : Script :=
  ["evening", "automation.hall", "door"].map (fun id =>
    ("GET /api/config/automation/config/" ++ id, [.response 200 (.value (.record [
      ("id", .text id), ("alias", .text "Kitchen light"),
      ("actions", .list [Item.call "light" "turn_on" (.text "light.kitchen") []])]))])) ++
  [("GET /api/states", [.response 200 (.value (.list (homeStates.map fun s => .record [
      ("entity_id", .text s.entity), ("state", .text "on"),
      ("attributes", .record [("id", .text (s.configId.getD ""))])])))]),
    ("POST /api/services/automation/turn_off", [.response 200 (.value (.list []))])]

def exchanged (script : Script) (id : String) : List Exchange :=
  ((setEnabled (home.hub Script.server) id (.bool false) kitchenTenant).run
    ⟨⟨script, [], true⟩, 0⟩).2.hub.log

def SwitchesOwn (script : Script) (id : String) : Prop :=
  ∀ call ∈ exchanged script id, ∀ g ∈ exchanged script id, ∀ entity listed,
    home.Switches false entity call.request → home.ListsStates listed g →
      ∀ s ∈ listed, s.configId ≠ some id → s.entity ≠ entity

def homeNames : List (String × String) :=
  [("evening", "automation.evening"), ("automation.hall", "automation.hall"),
    ("door", "automation.door")]

theorem exchanged_homeScript {id entity : String} (h : (id, entity) ∈ homeNames) :
    ∃ call g more, exchanged homeScript id = call :: g :: more ∧
      home.Switches false entity call.request ∧ home.ListsStates homeStates g := by
  simp only [homeNames, List.mem_cons, List.not_mem_nil, or_false, Prod.mk.injEq] at h
  obtain ⟨rfl, rfl⟩ | ⟨rfl, rfl⟩ | ⟨rfl, rfl⟩ := h
  · exact ⟨_, _, _, rfl, rfl, rfl, 200, _, by decide, by decide, rfl, rfl⟩
  · exact ⟨_, _, _, rfl, rfl, rfl, 200, _, by decide, by decide, rfl, rfl⟩
  · exact ⟨_, _, _, rfl, rfl, rfl, 200, _, by decide, by decide, rfl, rfl⟩

/-- The entity that is switched may be listed for another config: by its name where no state has the
config of the id, as the id itself, and where it is listed for two configs. -/
theorem not_switchesOwn_home : ¬ SwitchesOwn homeScript "evening" ∧
    ¬ SwitchesOwn homeScript "automation.hall" ∧ ¬ SwitchesOwn homeScript "door" := by
  have hnot {id : String} {s : EntityState} (h : (id, s.entity) ∈ homeNames)
      (hs : s ∈ homeStates) (hid : s.configId ≠ some id) : ¬ SwitchesOwn homeScript id := by
    intro hown
    obtain ⟨call, g, more, hlog, hswitches, hlists⟩ := exchanged_homeScript h
    exact hown call (by simp [hlog]) g (by simp [hlog]) _ _ hswitches hlists s hs hid rfl
  refine ⟨?_, ?_, ?_⟩
  · exact hnot (s := ⟨"automation.evening", some "bedroom_light", true⟩)
      (by simp [homeNames]) (by simp [homeStates]) (by decide)
  · exact hnot (s := ⟨"automation.hall", some "hall_light", true⟩)
      (by simp [homeNames]) (by simp [homeStates]) (by decide)
  · exact hnot (s := ⟨"automation.door", some "gate", true⟩)
      (by simp [homeNames]) (by simp [homeStates]) (by decide)

end Portal

end HomePortal
