import HomePortal.Proofs.Config.Named
import HomePortal.Proofs.Config.Payload
import HomePortal.Proofs.Device.Gate
import HomePortal.Proofs.Draft.Scoping
/-!
Ids in another case. Configs and drafts name entities by names that stand for themselves, which are
in lower case; scopes, the gate and the filter of a listing compare these with ids as they are given.
So two snapshots are alike to all of them exactly if they hold the same ids of this form.
-/

namespace HomePortal

open Finding Place

def Device.respelled (spell : String → String) (d : Device) : Device :=
  { d with entity := spell d.entity }

def IsRecasing (spell : String → String) : Prop :=
  ∀ id, Text.lower (spell id) = Text.lower id

def Scope.AnswersAlike (s s' : Scope) : Prop :=
  ∀ raw c, Config.read raw = .valid c →
    s'.allows c.references = s.allows c.references ∧
      s'.canEdit c.references = s.canEdit c.references

/-- Two snapshots give scopes that answer alike, and hold devices for the same entities of drafts. -/
structure ComparedAlike (areas : List String) (devices devices' : List Device) : Prop where
  admin : (Scope.ofAdmin devices).AnswersAlike (.ofAdmin devices')
  tenant : (Scope.ofTenant devices areas).AnswersAlike (.ofTenant devices' areas)
  found : ∀ raw d, Draft.read raw = .valid d → ∀ e ∈ d.entities,
    (Registry.device? devices' e).isSome = (Registry.device? devices e).isSome

variable {e f f' : String} {s s' : Scope} {devices devices' : List Device} {areas : List String}

/-! ### A config of one entity -/

def Config.switching (e : String) : Config :=
  ⟨"switching", "Switching", none, "single", [], [],
    [Item.call "homeassistant" "turn_on" (.text e) []]⟩

theorem References.mem_all_iff {r : References} :
    e ∈ r.all ↔ ∃ part, e ∈ r.ofPart part := by
  constructor
  · intro h
    simp only [all, EntitySet.mem_union] at h
    obtain (htriggers | hconditions) | hactions := h
    · exact ⟨.triggers, htriggers⟩
    · exact ⟨.conditions, hconditions⟩
    · exact ⟨.actions, hactions⟩
  · rintro ⟨part, h⟩
    exact mem_all_of_ofPart h

/-- It refers to the entity by its actions, and to no other. -/
theorem Config.mem_switching (part : Part) {other : String} (h : NamesItself e) :
    other ∈ (switching e).references.ofPart part ↔ part = .actions ∧ other = e := by
  rw [References.mem_ofPart]
  cases part with
  | triggers | conditions => exact iff_of_false List.not_mem_nil nofun
  | actions =>
    have hsilent : IsSilent (.record []) := isSilent_record (by simp)
    have hcall : entity other ∈ (Item.call "homeassistant" "turn_on" (.text e) []).walk
        (one .step) ↔ other = e := Item.mem_walk_call h hsilent
    rw [Value.mem_walkItems]
    constructor
    · rintro ⟨v, hv, hwalk⟩
      obtain rfl := List.mem_singleton.1 hv
      exact ⟨rfl, hcall.1 hwalk⟩
    · rintro ⟨-, heq⟩
      exact ⟨_, List.mem_singleton_self _, hcall.2 heq⟩

theorem Scope.allows_switching (h : NamesItself e) :
    s.allows (Config.switching e).references = true ↔ e ∈ s.entities := by
  rw [allows, EntitySet.within_iff]
  simp only [References.mem_all_iff, Config.mem_switching _ h]
  constructor
  · exact fun hall => hall e ⟨.actions, rfl, rfl⟩
  · rintro he other ⟨part, -, rfl⟩
    exact he

/-! ### Scopes -/

/-- Scopes answer alike exactly if they hold the same names that stand for themselves. -/
theorem Scope.answersAlike_iff :
    s.AnswersAlike s' ↔ ∀ e, NamesItself e → (e ∈ s'.entities ↔ e ∈ s.entities) := by
  constructor
  · intro h e hname
    obtain ⟨fields, -, hread, hrefers⟩ := Config.references_payload (.switching e)
    have hallows := (h _ _ hread).1
    rw [hrefers, Bool.eq_iff_iff, allows_switching hname, allows_switching hname] at hallows
    exact hallows
  · intro h raw c _
    have hallows : s'.allows c.references = s.allows c.references := by
      rw [Bool.eq_iff_iff, allows, allows, EntitySet.within_iff, EntitySet.within_iff]
      refine forall_congr' fun e => forall_congr' fun he => h e ?_
      obtain ⟨part, hpart⟩ := References.mem_all_iff.1 he
      exact Config.namesItself_of_mem hpart
    exact ⟨hallows, by rw [canEdit, canEdit, hallows]⟩

theorem Scope.mem_ofAdmin : e ∈ (ofAdmin devices).entities ↔ ∃ d ∈ devices, d.entity = e := by
  simp [ofAdmin]

theorem Scope.mem_ofTenant : e ∈ (ofTenant devices areas).entities ↔
    ∃ d ∈ devices, d.entity = e ∧ isGranted areas d = true := by
  simp only [ofTenant, EntitySet.mem_ofList, List.mem_map, List.mem_filter, and_assoc]
  exact exists_congr fun d => and_congr_right fun _ => and_comm

theorem Registry.isSome_device? :
    (device? devices e).isSome = true ↔ ∃ d ∈ devices, d.entity = e := by
  simp [device?]

/-- The devices of a snapshot that have an id, and those of them that are in the areas granted. -/
theorem comparedAlike_iff : ComparedAlike areas devices devices' ↔ ∀ e, NamesItself e →
    ((∃ d ∈ devices', d.entity = e) ↔ ∃ d ∈ devices, d.entity = e) ∧
      ((∃ d ∈ devices', d.entity = e ∧ Scope.isGranted areas d = true) ↔
        ∃ d ∈ devices, d.entity = e ∧ Scope.isGranted areas d = true) := by
  constructor
  · intro h e hname
    rw [← Scope.mem_ofAdmin, ← Scope.mem_ofAdmin, ← Scope.mem_ofTenant, ← Scope.mem_ofTenant]
    exact ⟨Scope.answersAlike_iff.1 h.admin e hname, Scope.answersAlike_iff.1 h.tenant e hname⟩
  · intro h
    refine ⟨Scope.answersAlike_iff.2 fun e hname => ?_, Scope.answersAlike_iff.2 fun e hname => ?_,
      fun raw d hread e he => ?_⟩
    · rw [Scope.mem_ofAdmin, Scope.mem_ofAdmin]
      exact (h e hname).1
    · rw [Scope.mem_ofTenant, Scope.mem_ofTenant]
      exact (h e hname).2
    · rw [Bool.eq_iff_iff, Registry.isSome_device?, Registry.isSome_device?]
      obtain ⟨htrigger, haction⟩ := Draft.isEntityId_of_read hread
      have hid : IsEntityId e := by
        obtain hmem | hmem := List.mem_append.1 he
        · exact htrigger e (Option.mem_toList.1 hmem)
        · obtain rfl := List.mem_singleton.1 hmem
          exact haction
      exact (h e hid.namesItself).1

/-- Where no two ids differ in their case only, another spelling of them is compared alike exactly if
each id that can be named is in lower case in both of its spellings or in neither. -/
theorem comparedAlike_respelled_iff {spell : String → String} (hspell : IsRecasing spell)
    (hdistinct : (devices.map fun d => Text.lower d.entity).Nodup) :
    ComparedAlike areas devices (devices.map (·.respelled spell)) ↔
      ∀ d ∈ devices, NamesItself (Text.lower d.entity) →
        (spell d.entity = Text.lower d.entity ↔ d.entity = Text.lower d.entity) := by
  have hone {x y : Device} (hx : x ∈ devices) (hy : y ∈ devices)
      (h : Text.lower x.entity = Text.lower y.entity) : x = y :=
    List.inj_on_of_nodup_map hdistinct hx hy h
  have hmem {P : Device → Prop} : (∃ d ∈ devices.map (·.respelled spell), P d) ↔
      ∃ d ∈ devices, P (d.respelled spell) := by
    simp
  rw [comparedAlike_iff]
  simp only [hmem]
  constructor
  · intro h d hd hname
    have hlower := hname.lower_eq
    obtain ⟨halike, -⟩ := h _ hname
    constructor
    · intro heq
      obtain ⟨x, hx, hxe⟩ := halike.1 ⟨d, hd, heq⟩
      obtain rfl := hone hx hd (by rw [hxe, hlower])
      exact hxe
    · intro heq
      obtain ⟨x, hx, hxe⟩ := halike.2 ⟨d, hd, heq⟩
      obtain rfl := hone hx hd (by rw [← hspell, show spell x.entity = _ from hxe, hlower])
      exact hxe
  · intro h e hname
    -- The device that has the name in one spelling has it in the other.
    have hsame {d : Device} (hd : d ∈ devices) : spell d.entity = e ↔ d.entity = e := by
      constructor
      · intro heq
        have hlower : Text.lower d.entity = e := by rw [← hspell, heq, hname.lower_eq]
        exact ((h d hd (hlower ▸ hname)).1 (heq.trans hlower.symm)).trans hlower
      · intro heq
        have hlower : Text.lower d.entity = e := by rw [heq, hname.lower_eq]
        exact ((h d hd (hlower ▸ hname)).2 (heq.trans hlower.symm)).trans hlower
    exact ⟨exists_congr fun d => and_congr_right fun hd => hsame hd,
      exists_congr fun d => and_congr_right fun hd => and_congr_left fun _ => hsame hd⟩

/-! ### The filter of a listing -/

/-- The filter by a name that stands for itself shows what no other filter shows. -/
theorem listing_switching_ne (hname : NamesItself f) (hne : f' ≠ f) :
    listing ⟨.admin, .empty⟩ (some f') [⟨none, true, .switching f⟩] ≠
      listing ⟨.admin, .empty⟩ (some f) [⟨none, true, .switching f⟩] := by
  have hmem (e : String) : e ∈ (Config.switching f).references.actions ↔ e = f := by
    have hpart : e ∈ (Config.switching f).references.ofPart .actions ↔ _ :=
      Config.mem_switching .actions hname
    simpa only [References.ofPart, true_and] using hpart
  have hnonempty : (Config.switching f).references.actions.isEmpty = false :=
    Bool.eq_false_iff.2 fun h => EntitySet.isEmpty_iff.1 h f ((hmem f).2 rfl)
  simp [listing, Scope.sees, Scope.isAdmin, References.mayActOn, hmem, hnonempty, hne]

theorem listing_filter_iff :
    (∀ scope automations, listing scope (some f') automations =
        listing scope (some f) automations) ↔
      f' = f ∨ ¬ NamesItself f ∧ ¬ NamesItself f' := by
  constructor
  · intro h
    refine or_iff_not_imp_left.2 fun hne => ⟨fun hname => ?_, fun hname => ?_⟩
    · exact listing_switching_ne hname hne (h _ _)
    · exact listing_switching_ne hname (Ne.symm hne) (h _ _).symm
  · rintro (rfl | ⟨hf, hf'⟩) scope automations
    · rfl
    · have hmay {e : String} (he : ¬ NamesItself e) (c : Config) : c.references.mayActOn e =
          (c.references.actions.isEmpty && c.references.hasTemplates) := by
        have hout : e ∉ c.references.actions := fun hmem =>
          he (Config.namesItself_of_mem (show e ∈ c.references.ofPart .actions from hmem))
        simp [References.mayActOn, hout]
      simp only [listing, Option.all_some, hmay hf, hmay hf']

/-- Two snapshots, other spellings of each other or not, are compared alike exactly if they hold the
same ids among the names that stand for themselves, and two filters show the same exactly if they are
equal or neither is such a name. These names are all in lower case. -/
theorem comparison_exact (areas : List String) (devices devices' : List Device) (f f' : String) :
    (ComparedAlike areas devices devices' ↔ ∀ e, NamesItself e →
      ((∃ d ∈ devices', d.entity = e) ↔ ∃ d ∈ devices, d.entity = e) ∧
        ((∃ d ∈ devices', d.entity = e ∧ Scope.isGranted areas d = true) ↔
          ∃ d ∈ devices, d.entity = e ∧ Scope.isGranted areas d = true)) ∧
    ((∀ scope automations, listing scope (some f') automations =
        listing scope (some f) automations) ↔
      f' = f ∨ ¬ NamesItself f ∧ ¬ NamesItself f') ∧
    ∀ e, NamesItself e → Text.lower e = e :=
  ⟨comparedAlike_iff, listing_filter_iff, fun _ => NamesItself.lower_eq⟩

def capitals (id : String) : String :=
  if id = "light.kitchen" then "Light.Kitchen" else id

/-- A tenant of the kitchen has no light there once its id has capitals. -/
theorem not_comparedAlike_kitchen : ¬ ∀ (areas : List String) (devices : List Device)
    (spell : String → String) (f : String), IsRecasing spell →
      ComparedAlike areas devices (devices.map (·.respelled spell)) ∧
        ∀ scope automations, listing scope (some (spell f)) automations =
          listing scope (some f) automations := by
  intro hall
  have hspell : IsRecasing capitals := by
    intro id
    unfold capitals
    split
    · rename_i heq
      rw [heq]
      decide +kernel
    · rfl
  obtain ⟨halike, -⟩ := hall ["Kitchen"]
    [⟨"light.kitchen", "light", some "Kitchen", [], none, []⟩] capitals "light.kitchen" hspell
  have hlower : Text.lower "light.kitchen" = "light.kitchen" := by decide +kernel
  have hkept := (comparedAlike_respelled_iff hspell (by simp)).1 halike _ (.head _) (by
    rw [hlower]
    decide +kernel)
  rw [hlower] at hkept
  exact absurd (hkept.2 rfl) (by decide)

end HomePortal
