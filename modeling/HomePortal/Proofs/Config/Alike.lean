import HomePortal.Proofs.Config.Coverage
import Mathlib.Data.List.Find
/-!
Values that no walk tells apart. Lists are such if each item of one has its like in the other, and
mappings if each entry has and the keys that a walk looks for lead to like values. So the order of
items and entries tells a walk nothing, nor do numbers and keys that it does not look for.
-/

namespace HomePortal

open Finding Place

def Value.word : Value → Option (Option String)
  | .null => none
  | .text s => some (some s)
  | _ => some none

def Value.asText? (v : Value) : Option String :=
  v.word.join

structure Value.Alike (v w : Value) : Prop where
  word : v.word = w.word
  isTruthy : v.isTruthy = w.isTruthy
  literals : ∀ f, f ∈ v.asList.flatMap ofLiteral ↔ f ∈ w.asList.flatMap ofLiteral
  walk : ∀ place f, f ∈ v.walk place ↔ f ∈ w.walk place

namespace Value.Alike

variable {u v w : Value}

theorem refl (v : Value) : v.Alike v :=
  ⟨rfl, rfl, fun _ => Iff.rfl, fun _ _ => Iff.rfl⟩

theorem symm (h : v.Alike w) : w.Alike v :=
  ⟨h.word.symm, h.isTruthy.symm, fun f => (h.literals f).symm, fun p f => (h.walk p f).symm⟩

theorem trans (h : u.Alike v) (h' : v.Alike w) : u.Alike w :=
  ⟨h.word.trans h'.word, h.isTruthy.trans h'.isTruthy,
    fun f => (h.literals f).trans (h'.literals f), fun p f => (h.walk p f).trans (h'.walk p f)⟩

theorem asText?_eq (h : v.Alike w) : v.asText? = w.asText? :=
  congrArg Option.join h.word

theorem ofLiteral_eq (h : v.Alike w) : ofLiteral v = ofLiteral w := by
  have hview (v : Value) : ofLiteral v = v.asText?.elim [] fun s => ofLiteral (.text s) := by
    rcases v with ⟨⟨⟩⟩ | _ | _ | _ | _
    case scalar.text s =>
      change ofLiteral (text s) = (some s).elim [] fun s => ofLiteral (.text s)
      rw [Option.elim_some]
    all_goals rfl
  rw [hview, hview w, h.asText?_eq]

variable {a b : Option Value}

theorem getD (h : Option.Rel Value.Alike a b) : (a.getD .null).Alike (b.getD .null) := by
  cases h with
  | none => exact refl .null
  | some hvw => exact hvw

theorem bind_asText? (h : Option.Rel Value.Alike a b) :
    a.bind Value.asText? = b.bind Value.asText? := by
  cases h with
  | none => rfl
  | some hvw => exact hvw.asText?_eq

theorem isSome_eq (h : Option.Rel Value.Alike a b) : a.isSome = b.isSome := by
  cases h <;> rfl

end Value.Alike

namespace Finding

def knownKeys : List String :=
  entityKeys ++ targetKeys ++ logicalKinds ++ plainSteps ++
    ["trigger", "platform", "at", "zone", "condition", "conditions", "after", "before",
     "value_template", "action", "service", "choose", "default", "if", "then", "else", "repeat",
     "parallel", "sequence", "wait_for_trigger", "scene", "while", "until"]

end Finding

open Value.Alike

def Scalar.KnownAlike (key key' : Scalar) : Prop :=
  ∀ name ∈ knownKeys, key = .text name ↔ key' = .text name

theorem Finding.isKey_eq {names : List String} (hnames : names ⊆ knownKeys) {key key' : Scalar}
    (h : key.KnownAlike key') : isKey names key = isKey names key' := by
  rw [Bool.eq_iff_iff, isKey_iff, isKey_iff]
  exact exists_congr fun name => and_congr_right fun hname => h name (hnames hname)

structure Entries.Alike (xs ys : Entries) : Prop where
  known : ∀ name ∈ knownKeys, Option.Rel Value.Alike (xs.get? name) (ys.get? name)
  forth : ∀ key v, (key, v) ∈ xs → ∃ key' w, (key', w) ∈ ys ∧ key.KnownAlike key' ∧ v.Alike w
  back : ∀ key' w, (key', w) ∈ ys → ∃ key v, (key, v) ∈ xs ∧ key.KnownAlike key' ∧ v.Alike w

namespace Entries

theorem has_eq_isSome_get? (fields : Entries) (name : String) :
    fields.has name = (fields.get? name).isSome := by
  rw [Bool.eq_iff_iff, get?, Option.isSome_map, List.find?_isSome, has, List.any_eq_true]

namespace Alike

variable {xs ys : Entries} {name other : String} {f : Finding}

theorem has_eq (h : xs.Alike ys) (hname : name ∈ knownKeys) : xs.has name = ys.has name := by
  rw [has_eq_isSome_get?, has_eq_isSome_get?]
  exact isSome_eq (h.known name hname)

theorem asText?_either (h : xs.Alike ys) (hname : name ∈ knownKeys) (hother : other ∈ knownKeys) :
    (either xs name other).bind Value.asText? = (either ys name other).bind Value.asText? := by
  unfold either
  have hfirst := h.known name hname
  generalize xs.get? name = a at hfirst ⊢
  generalize ys.get? name = b at hfirst ⊢
  cases hfirst with
  | none => exact bind_asText? (h.known other hother)
  | some hvw => exact hvw.asText?_eq

theorem mem_ofField (h : xs.Alike ys) (hname : name ∈ knownKeys) :
    f ∈ ofField xs name ↔ f ∈ ofField ys name :=
  (getD (h.known name hname)).literals f

theorem ofTargets_eq (h : xs.Alike ys) : ofTargets xs = ofTargets ys := by
  have hany : (xs.any fun entry => isKey targetKeys entry.1 && entry.2.isTruthy) =
      ys.any fun entry => isKey targetKeys entry.1 && entry.2.isTruthy := by
    rw [Bool.eq_iff_iff, List.any_eq_true, List.any_eq_true]
    constructor
    · intro ⟨⟨key, v⟩, hmem, htarget⟩
      obtain ⟨key', w, hmem', hkey, hvw⟩ := h.forth key v hmem
      rw [isKey_eq (by decide) hkey, hvw.isTruthy] at htarget
      exact ⟨_, hmem', htarget⟩
    · intro ⟨⟨key', w⟩, hmem, htarget⟩
      obtain ⟨key, v, hmem', hkey, hvw⟩ := h.back key' w hmem
      rw [← isKey_eq (by decide) hkey, ← hvw.isTruthy] at htarget
      exact ⟨_, hmem', htarget⟩
  rw [ofTargets, hany, ofTargets]

theorem mem_ofTrigger (h : xs.Alike ys) : f ∈ ofTrigger xs ↔ f ∈ ofTrigger ys := by
  have hview (fields : Entries) : ofTrigger fields =
      ((either fields "trigger" "platform").bind Value.asText?).elim [unseen] fun platform =>
        if !platforms.contains platform then [unseen]
        else if platform == "time" then ofField fields "at"
        else if platform == "zone" then ofField fields "zone"
        else [] := by
    unfold ofTrigger
    rcases either fields "trigger" "platform" with _ | v
    · rfl
    · rcases v with ⟨⟨⟩⟩ | _ | _ | _ | _ <;> rfl
  rw [hview, hview ys, h.asText?_either (by decide) (by decide)]
  cases (either ys "trigger" "platform").bind Value.asText? with
  | none => rfl
  | some platform =>
    rw [Option.elim_some, Option.elim_some]
    split
    · rfl
    · split
      · exact h.mem_ofField (by decide)
      · split
        · exact h.mem_ofField (by decide)
        · rfl

theorem conditionKind_eq (h : xs.Alike ys) : conditionKind xs = conditionKind ys := by
  have hview (fields : Entries) : conditionKind fields =
      ((fields.get? "condition").getD .null).word.elim
        ((logicalKinds.find? fun name => fields.has name).elim .unknown .shorthand) fun text =>
          text.elim .unknown fun name =>
            if logicalKinds.contains name then .logical
            else if plainKinds.contains name then .plain name
            else .unknown := by
    unfold conditionKind
    rcases (fields.get? "condition").getD .null with ⟨⟨⟩⟩ | _ | _ | _ | _
    case scalar.null => cases logicalKinds.find? fun name => fields.has name <;> rfl
    all_goals rfl
  have hlogical : (logicalKinds.find? fun name => xs.has name) =
      logicalKinds.find? fun name => ys.has name :=
    List.find?_congr fun name hname => h.has_eq ((by decide : logicalKinds ⊆ knownKeys) hname)
  rw [hview, hview ys, (getD (h.known _ (by decide))).word, hlogical]

theorem ofTemplateField_eq (h : xs.Alike ys) : ofTemplateField xs = ofTemplateField ys := by
  have hview (fields : Entries) : ofTemplateField fields =
      ((fields.get? "value_template").bind Value.asText?).elim [unseen] fun s =>
        if Template.isContextOnly s then [] else [unseen] := by
    unfold ofTemplateField
    rcases fields.get? "value_template" with _ | v
    · rfl
    · rcases v with ⟨⟨⟩⟩ | _ | _ | _ | _ <;> rfl
  rw [hview, hview ys, bind_asText? (h.known _ (by decide))]

theorem mem_ofCondition (h : xs.Alike ys) : f ∈ ofCondition xs ↔ f ∈ ofCondition ys := by
  unfold ofCondition
  rw [h.conditionKind_eq, h.ofTemplateField_eq]
  split
  · rfl
  · rfl
  · rfl
  · split
    · rw [List.mem_append, List.mem_append, h.mem_ofField (by decide), h.mem_ofField (by decide)]
    · split
      · exact h.mem_ofField (by decide)
      · rfl

theorem stepKind_eq (h : xs.Alike ys) : stepKind xs = stepKind ys := by
  have hplain : plainSteps.any xs.has = plainSteps.any ys.has := by
    rw [Bool.eq_iff_iff, List.any_eq_true, List.any_eq_true]
    refine exists_congr fun name => and_congr_right fun hname => ?_
    rw [h.has_eq ((by decide : plainSteps ⊆ knownKeys) hname)]
  have hhas (name : String) (hname : name ∈ knownKeys) := h.has_eq hname
  rw [stepKind, stepKind, hplain, hhas "action" (by decide), hhas "service" (by decide),
    hhas "choose" (by decide), hhas "if" (by decide), hhas "repeat" (by decide),
    hhas "parallel" (by decide), hhas "sequence" (by decide), hhas "wait_for_trigger" (by decide),
    hhas "condition" (by decide), hhas "scene" (by decide)]

theorem ofService_eq (h : xs.Alike ys) : ofService xs = ofService ys := by
  have hview (fields : Entries) : ofService fields =
      ((either fields "action" "service").bind Value.asText?).elim [unseen] fun s =>
        if Service.isTargeted (Text.trim s) then [] else [unseen] := by
    unfold ofService
    rcases either fields "action" "service" with _ | v
    · rfl
    · rcases v with ⟨⟨⟩⟩ | _ | _ | _ | _ <;> rfl
  rw [hview, hview ys, h.asText?_either (by decide) (by decide)]

theorem mem_ofStep (h : xs.Alike ys) : f ∈ ofStep xs ↔ f ∈ ofStep ys := by
  unfold ofStep
  rw [h.stepKind_eq, h.ofService_eq]
  split
  · rfl
  · exact h.mem_ofCondition
  · exact h.mem_ofField (by decide)
  · rfl
  · rfl

/-- By themselves, mappings that are alike say the same. -/
theorem mem_ofFields (h : xs.Alike ys) (role : Role) :
    f ∈ role.ofFields xs ↔ f ∈ role.ofFields ys := by
  unfold Role.ofFields
  rw [h.ofTargets_eq]
  cases role with
  | trigger => simp only [List.mem_append, h.mem_ofTrigger]
  | condition => simp only [List.mem_append, h.mem_ofCondition]
  | step => simp only [List.mem_append, h.mem_ofStep]
  | _ => rfl

/-- They have the same places for what they hold. -/
theorem places_eq (h : xs.Alike ys) (role : Role) : role.places xs = role.places ys := by
  have hcondition : Role.conditionPlaces xs = Role.conditionPlaces ys := by
    rw [Role.conditionPlaces, Role.conditionPlaces, h.conditionKind_eq]
  cases role with
  | condition => exact hcondition
  | step =>
    rw [Role.places, Role.places, Role.stepPlaces, Role.stepPlaces, h.stepKind_eq, hcondition]
  | _ => rfl

end Alike

end Entries

namespace Role

theorem conditionPlaces_known (fields : Entries) :
    (conditionPlaces fields).map Prod.fst ⊆ knownKeys := by
  intro name hname
  obtain ⟨⟨_, q⟩, hmem, rfl⟩ := List.mem_map.1 hname
  obtain ⟨-, hname⟩ | ⟨-, rfl, -⟩ := mem_conditionPlaces hmem
  · exact (by decide : Position.conditionNames ⊆ knownKeys) hname
  · exact (by decide : "value_template" ∈ knownKeys)

/-- Mappings have places of their own only for keys that a walk looks for. -/
theorem places_known (role : Role) (fields : Entries) :
    (role.places fields).map Prod.fst ⊆ knownKeys := by
  cases role with
  | data | reference | read | trigger => exact List.nil_subset _
  | condition => exact conditionPlaces_known fields
  | option | loop =>
    rw [places]
    decide
  | step =>
    rw [places, stepPlaces]
    split
    · decide
    · decide
    · decide
    · rename_i key hkind
      obtain rfl | rfl := group_of_stepKind hkind <;> decide
    · decide
    · exact conditionPlaces_known fields
    · decide

end Role

namespace Place

/-- Keys that a walk takes alike have the same place. -/
theorem among_eq {places : List (String × Place)} (hplaces : places.map Prod.fst ⊆ knownKeys)
    {key key' : Scalar} (h : key.KnownAlike key') : among places key = among places key' := by
  have hofKey : ofKey key = ofKey key' := by
    rw [ofKey, ofKey, isKey_eq (by decide) h, isKey_eq (by decide) h]
  have hother (key : Scalar) (hkey : ∀ name ∈ places.map Prod.fst, key ≠ .text name) :
      among places key = ofKey key := by
    obtain heq | ⟨name, heq, hmem⟩ := among_cases places key
    · exact heq
    · exact absurd heq (hkey name (List.mem_map_of_mem (f := Prod.fst) hmem))
  -- A key with a place of its own is looked for, and so the other key is the same.
  by_cases hkey : ∃ name ∈ places.map Prod.fst, key = .text name
  · obtain ⟨name, hname, rfl⟩ := hkey
    rw [(h name (hplaces hname)).1 rfl]
  · simp only [not_exists, not_and] at hkey
    rw [hother key hkey, hofKey]
    exact (hother key' fun name hname heq =>
      hkey name hname ((h name (hplaces hname)).2 heq)).symm

end Place

namespace Entries.Alike

variable {xs ys : Entries}

/-- Mappings are alike if, entry by entry, keys and values are. -/
theorem of_forall₂
    (h : List.Forall₂ (fun a b => a.1.KnownAlike b.1 ∧ a.2.Alike b.2) xs ys) : xs.Alike ys := by
  constructor
  case known =>
    intro name hname
    induction h with
    | nil => exact .none
    | @cons a b _ _ hab _ ih =>
      by_cases hkey : a.1 = .text name
      · have hkey' := (hab.1 name hname).1 hkey
        simpa [get?, List.find?_cons, hkey, hkey'] using hab.2
      · have hkey' := mt (hab.1 name hname).2 hkey
        simpa [get?, List.find?_cons, hkey, hkey'] using ih
  case forth =>
    intro key v hmem
    obtain ⟨⟨key', w⟩, hmem', halike⟩ := exists_of_forall₂ h hmem
    exact ⟨key', w, hmem', halike⟩
  case back =>
    intro key' w hmem
    obtain ⟨⟨key, v⟩, hmem', halike⟩ := exists_of_forall₂ h.flip hmem
    exact ⟨key, v, hmem', halike⟩

/-- Where no text key stands twice, the order of the entries does not matter. -/
theorem of_matches (hxs : xs.names.Nodup) (hys : ys.names.Nodup)
    (forth : ∀ key v, (key, v) ∈ xs → ∃ key' w, (key', w) ∈ ys ∧ key.KnownAlike key' ∧ v.Alike w)
    (back : ∀ key' w, (key', w) ∈ ys → ∃ key v, (key, v) ∈ xs ∧ key.KnownAlike key' ∧ v.Alike w) :
    xs.Alike ys := by
  refine ⟨fun name hname => ?_, forth, back⟩
  cases hget : xs.get? name with
  | some v =>
    obtain ⟨key', w, hmem, hkey, hvw⟩ := forth _ v (mem_of_get? hget)
    rw [(hkey name hname).1 rfl] at hmem
    rw [get?_of_mem hys hmem]
    exact .some hvw
  | none =>
    cases hget' : ys.get? name with
    | none => exact .none
    | some w =>
      obtain ⟨key, v, hmem, hkey, -⟩ := back _ w (mem_of_get? hget')
      rw [(hkey name hname).2 rfl] at hmem
      rw [get?_of_mem hxs hmem] at hget
      cases hget

end Entries.Alike

namespace Value.Alike

theorem scalar {a b : Scalar} (hword : (scalar a).word = (scalar b).word)
    (htruthy : a.isTruthy = b.isTruthy) : (scalar a).Alike (.scalar b) := by
  cases a with
  | null => cases b <;> first | exact refl .null | cases hword
  | text s =>
    cases b with
    | text t =>
      obtain rfl : s = t := Option.some.inj (Option.some.inj hword)
      exact refl (.text s)
    | _ => cases hword
  | _ =>
    cases b with
    | null | text => cases hword
    | _ =>
      refine ⟨rfl, htruthy, fun _ => Iff.rfl, fun place f => ?_⟩
      obtain ⟨role, many⟩ := place
      cases role <;> cases many <;> exact Iff.rfl

/-- The walk looks into no pair. -/
theorem pair (a b c d : Value) : (pair a b).Alike (.pair c d) :=
  ⟨rfl, rfl, fun _ => Iff.rfl, fun _ _ => Iff.rfl⟩

/-- Nor does it look into sets. -/
theorem set {xs ys : List Scalar} (h : xs.isEmpty = ys.isEmpty) : (set xs).Alike (.set ys) :=
  ⟨rfl, congrArg not h, fun _ => Iff.rfl, fun _ _ => Iff.rfl⟩

/-- Lists are alike if each item has its like in the other list. -/
theorem list {xs ys : List Value} (forth : ∀ x ∈ xs, ∃ y ∈ ys, x.Alike y)
    (back : ∀ y ∈ ys, ∃ x ∈ xs, x.Alike y) : (list xs).Alike (.list ys) := by
  have hitems {P Q : Value → Prop} (hPQ : ∀ x y : Value, x.Alike y → (P x ↔ Q y)) :
      (∃ x ∈ xs, P x) ↔ ∃ y ∈ ys, Q y := by
    constructor
    · intro ⟨x, hx, hP⟩
      obtain ⟨y, hy, hxy⟩ := forth x hx
      exact ⟨y, hy, (hPQ x y hxy).1 hP⟩
    · intro ⟨y, hy, hQ⟩
      obtain ⟨x, hx, hxy⟩ := back y hy
      exact ⟨x, hx, (hPQ x y hxy).2 hQ⟩
  have hwalk (role : Role) (f : Finding) : f ∈ walkItems role xs ↔ f ∈ walkItems role ys := by
    rw [mem_walkItems, mem_walkItems]
    exact hitems fun x y hxy => hxy.walk (.one role) f
  constructor
  case word => rfl
  case isTruthy =>
    cases xs with
    | nil =>
      cases ys with
      | nil => rfl
      | cons y _ =>
        obtain ⟨x, hx, -⟩ := back y List.mem_cons_self
        cases hx
    | cons x _ =>
      obtain ⟨y, hy, -⟩ := forth x List.mem_cons_self
      cases ys with
      | nil => cases hy
      | cons _ _ => rfl
  case literals =>
    intro f
    rw [List.mem_flatMap, List.mem_flatMap]
    exact hitems fun x y hxy => by rw [hxy.ofLiteral_eq]
  case walk =>
    intro place f
    rw [Value.walk, Value.walk]
    split
    · exact hwalk place.role f
    · rw [List.mem_append, List.mem_append]
      refine or_congr_right ?_
      split
      · exact hwalk .data f
      · rfl

theorem mapping {xs ys : Entries} (h : xs.Alike ys) : (mapping xs).Alike (.mapping ys) := by
  constructor
  case word => rfl
  case isTruthy =>
    cases xs with
    | nil =>
      cases ys with
      | nil => rfl
      | cons entry _ =>
        obtain ⟨_, _, hmem, -⟩ := h.back entry.1 entry.2 List.mem_cons_self
        cases hmem
    | cons entry _ =>
      obtain ⟨_, _, hmem, -⟩ := h.forth entry.1 entry.2 List.mem_cons_self
      cases ys with
      | nil => cases hmem
      | cons _ _ => rfl
  case literals => exact fun f => Iff.rfl
  case walk =>
    intro place f
    rw [mem_walk_mapping, mem_walk_mapping, h.mem_ofFields, h.places_eq]
    refine or_congr_right (and_congr_right fun _ => ?_)
    have hplaces := Role.places_known place.role ys
    constructor
    · intro ⟨key, v, hmem, hv⟩
      obtain ⟨key', w, hmem', hkey, hvw⟩ := h.forth key v hmem
      rw [among_eq hplaces hkey, hvw.walk] at hv
      exact ⟨key', w, hmem', hv⟩
    · intro ⟨key', w, hmem, hw⟩
      obtain ⟨key, v, hmem', hkey, hvw⟩ := h.back key' w hmem
      rw [← among_eq hplaces hkey, ← hvw.walk] at hw
      exact ⟨key, v, hmem', hw⟩

end Value.Alike

end HomePortal
