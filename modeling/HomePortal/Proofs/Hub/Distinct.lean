import HomePortal.Proofs.Hub.Content
import HomePortal.Proofs.Hub.Ids
import Mathlib.Data.List.Infix
/-!
The ids of a hub in a file stay distinct. A write that adds an item looks for its id first, and one
that replaces an item leaves it its id. An item that is switched on or off keeps its id too; but it
changes wherever it stands, and it may stand inside the id of another item.
-/

namespace HomePortal

/-! ### What a write is meant to do -/

namespace HubWrite

open Value (ids ids_append ids_congr id?_set id?_replacedBy)

variable {w : HubWrite} {before after : List Value}

/-- A write that does what it is meant to do leaves the ids distinct. -/
theorem Means.nodup_ids (h : w.Means before after) (hids : (ids before).Nodup) :
    (ids after).Nodup := by
  cases h with
  | @create c _ hnew =>
    have hlast : (ids [.mapping c.stored]).Sublist [c.id] := List.filter_sublist
    rw [ids_append]
    refine hids.append (hlast.nodup (List.nodup_singleton _)) fun id hid hmem => ?_
    obtain rfl := List.mem_singleton.1 (hlast.mem hmem)
    obtain ⟨v, hv, hsame⟩ := Value.hasId_of_mem_ids hid
    exact hnew v hv hsame
  | @update id c first rest fields _ hid =>
    have htext : (Value.mapping (fields.replacedBy id c)).idText = (Value.mapping fields).idText := by
      rw [Value.idText_of_hasId hid, Value.idText, id?_replacedBy]
      rfl
    rw [ids, List.map_append, List.map_cons] at hids ⊢
    rwa [htext]
  | delete =>
    exact (((List.sublist_cons_self _ _).append_left _).map _).filter _ |>.nodup hids
  | setEnabled =>
    refine (ids_congr ?_).symm ▸ hids
    rw [List.map_append, List.map_append, List.map_cons, List.map_cons, id?_set (by decide)]

/-- The ids after a write are those before it and the id that is written, which is a text. -/
theorem Means.hasScalarId (h : w.Means before after) (hids : ∀ v ∈ before, v.HasScalarId) :
    ∀ v ∈ after, v.HasScalarId := by
  have htext {v : Value} {s : String} (hv : v.id? = some (.text s)) : v.HasScalarId := by
    intro id hid
    exact ⟨.text s, Option.some.inj (hid.symm.trans hv)⟩
  cases h with
  | create =>
    intro v hv
    obtain hv | hv := List.mem_append.1 hv
    · exact hids v hv
    · rw [List.mem_singleton.1 hv]
      exact htext (Value.id?_stored _)
  | update =>
    intro v hv
    obtain hv | hv := List.mem_append.1 hv
    · exact hids v (List.mem_append_left _ hv)
    · obtain rfl | hv := List.mem_cons.1 hv
      · exact htext id?_replacedBy
      · exact hids v (List.mem_append_right _ (List.mem_cons_of_mem _ hv))
  | delete =>
    intro v hv
    exact hids v (((List.sublist_cons_self _ _).append_left _).mem hv)
  | setEnabled =>
    refine Value.hasScalarId_congr ?_ hids
    rw [List.map_append, List.map_append, List.map_cons, List.map_cons, id?_set (by decide)]

end HubWrite

/-! ### Writes -/

namespace HubWrite

open StoredItem (exists_of_changeFirst first? value values_eq)
open Yaml (Node)

variable {w : HubWrite} {items new : List StoredItem}

/-- An item that is switched on or off does not stand inside an id. -/
def SparesIds : HubWrite → List StoredItem → Prop
  | setEnabled id _, items => ∀ entry ∈ first? items id, ∀ mark ∈ entry.1.mark,
    ∀ j ∈ items, mark ∉ j.idMarks
  | _, _ => True

def IsReread (F : Format) (w : HubWrite) (items : List StoredItem) : Prop :=
  ∀ new ∈ w.written items, F.Rereads (new.map StoredItem.node)

instance (w : HubWrite) (items : List StoredItem) : Decidable (w.SparesIds items) :=
  match w with
  | setEnabled id _ => inferInstanceAs (Decidable (∀ entry ∈ first? items id,
      ∀ mark ∈ entry.1.mark, ∀ j ∈ items, mark ∉ j.idMarks))
  | create _ | update .. | delete _ => isTrue trivial

instance (F : Format) (w : HubWrite) (items : List StoredItem) : Decidable (w.IsReread F items) :=
  inferInstanceAs (Decidable (∀ new ∈ w.written items, F.Rereads (new.map StoredItem.node)))

/-- A write does to the ids what it is meant to do to them, if it spares those it is not about. -/
theorem ids_of_written (hwritten : w.written items = some new) (hspares : w.SparesIds items) :
    w.Means (items.map value) (new.map value) ∨
      (new.map value).map Value.id? = (items.map value).map Value.id? := by
  cases w with
  | setEnabled id b =>
    rw [written] at hwritten
    obtain ⟨first, i, rest, rfl, -, -, hfound, hnew⟩ := exists_of_changeFirst hwritten
    rw [← hnew]
    exact .inr (StoredItem.id?_setIn (by decide) _ (hspares _ hfound))
  | create | update | delete =>
    rw [← values_eq, ← values_eq]
    exact .inl (means_of_written hwritten trivial)

theorem nodup_ids_of_written (hwritten : w.written items = some new) (hspares : w.SparesIds items)
    (hids : (Value.ids (items.map value)).Nodup) : (Value.ids (new.map value)).Nodup := by
  obtain hmeans | hsame := ids_of_written hwritten hspares
  · exact hmeans.nodup_ids hids
  · exact (Value.ids_congr hsame).symm ▸ hids

theorem hasScalarId_of_written (hwritten : w.written items = some new)
    (hspares : w.SparesIds items) (hids : ∀ v ∈ items.map value, v.HasScalarId) :
    ∀ v ∈ new.map value, v.HasScalarId := by
  obtain hmeans | hsame := ids_of_written hwritten hspares
  · exact hmeans.hasScalarId hids
  · exact Value.hasScalarId_congr hsame hids

/-- Nothing stands inside an id that is a scalar. -/
theorem sparesIds_of_scalar (w : HubWrite) (hids : ∀ i ∈ items, i.value.HasScalarId) :
    w.SparesIds items := by
  cases w with
  | setEnabled id b =>
    intro entry _ mark _ j hj hmark
    unfold StoredItem.idMarks at hmark
    split at hmark
    · cases hmark
    · cases hmark
    · rename_i node hleaf hentry
      have hid := j.id?_value
      rw [hentry, Option.map_some] at hid
      obtain ⟨s, hs⟩ := hids j hj _ hid
      cases node with
      | leaf l => exact hleaf l rfl
      | again m isList => cases isList <;> cases hs
      | list | pair | set | mapping => cases hs
  | create | update | delete => trivial

end HubWrite

/-! ### Runs -/

namespace FileHub

open HubM (run_bind_cases)
open StoredItem (value)
open Yaml (Node)

variable {h : FileHub} {f g : Folder} {w : HubWrite} {ws : List HubWrite} {items : List StoredItem}

def items? (h : FileHub) (f : Folder) : Option (List StoredItem) :=
  (h.items.run f).1.toOption

def after (h : FileHub) (f : Folder) (w : HubWrite) : Folder :=
  ((w.on h.hub).run f).2

def afterAll (h : FileHub) (f : Folder) (ws : List HubWrite) : Folder :=
  ws.foldl h.after f

def HasDistinctIds (h : FileHub) (f : Folder) : Prop :=
  ∃ items ∈ h.items? f, (Value.ids (items.map value)).Nodup

def HasScalarIds (h : FileHub) (f : Folder) : Prop :=
  ∃ items ∈ h.items? f, ∀ v ∈ items.map value, v.HasScalarId

/-- Each write of a run is as it should be for the items that it reads. -/
def Along (h : FileHub) (P : HubWrite → List StoredItem → Prop) : Folder → List HubWrite → Prop
  | _, [] => True
  | f, w :: rest => (∀ items ∈ h.items? f, P w items) ∧ h.Along P (h.after f w) rest

instance : Decidable (h.HasDistinctIds f) :=
  inferInstanceAs (Decidable (∃ items ∈ h.items? f, (Value.ids (items.map value)).Nodup))

theorem items?_eq_some : h.items? f = some items ↔ h.items.run f = (.ok items, f) := by
  unfold items?
  constructor
  · intro hsome
    cases hrun : h.items.run f with
    | mk outcome g =>
      obtain rfl : f = g := h.leaves_items.of_run hrun
      rw [hrun] at hsome
      cases outcome with
      | error e => cases hsome
      | ok found =>
        obtain rfl := Option.some.inj hsome
        rfl
  · intro hrun
    rw [hrun]
    rfl

/-- A write that fails has changed nothing. -/
theorem eq_of_failed {e : Failure} (hrun : (w.on h.hub).run f = (.error e, g)) : g = f := by
  obtain ⟨rest, hop, hrest⟩ := h.exists_rest (.write w)
  change w.on h.hub = h.items >>= rest at hop
  rw [hop] at hrun
  obtain ⟨e', hitems, -⟩ | ⟨items, u, hitems, hafter⟩ := run_bind_cases hrun
  · exact (h.leaves_items.of_run hitems).symm
  · obtain rfl : f = u := h.leaves_items.of_run hitems
    exact (hrest items f e g hafter).1

/-- After a write that succeeds, the items that are read hold the data that was written. -/
theorem after_cases (hitems : h.items? f = some items) (hreread : w.IsReread h.format items) :
    h.after f w = f ∨ ∃ new nodes, w.written items = some new ∧
      h.items? (h.after f w) = some (nodes.filterMap StoredItem.ofNode?) ∧
        Node.values nodes = new.map value := by
  unfold after
  cases hrun : (w.on h.hub).run f with
  | mk outcome g =>
    cases outcome with
    | error e => exact .inl (eq_of_failed hrun)
    | ok u =>
      obtain ⟨new, hwritten, hstore⟩ := exists_written (items?_eq_some.1 hitems) hrun
      obtain ⟨bytes, hwrite, hfile⟩ := at?_of_store hstore
      obtain ⟨mark, nodes, hread, hvalues⟩ := hreread new hwritten bytes hwrite
      exact .inr ⟨new, nodes, hwritten, items?_eq_some.2 (run_items hfile hread),
        hvalues.trans (StoredItem.values_eq new)⟩

theorem HasDistinctIds.after (hids : h.HasDistinctIds f)
    (hreread : ∀ items ∈ h.items? f, w.IsReread h.format items)
    (hspares : ∀ items ∈ h.items? f, w.SparesIds items) : h.HasDistinctIds (h.after f w) := by
  obtain ⟨items, hitems, hnodup⟩ := hids
  obtain hsame | ⟨new, nodes, hwritten, hread, hvalues⟩ :=
    after_cases hitems (hreread items hitems)
  · rw [hsame]
    exact ⟨items, hitems, hnodup⟩
  · refine ⟨_, hread, ?_⟩
    rw [StoredItem.ids_filterMap, hvalues]
    exact HubWrite.nodup_ids_of_written hwritten (hspares items hitems) hnodup

theorem HasScalarIds.sparesIds (hids : h.HasScalarIds f) (w : HubWrite) :
    ∀ items ∈ h.items? f, w.SparesIds items := by
  intro items hitems
  obtain ⟨_, hitems', hscalar⟩ := hids
  obtain rfl := Option.mem_unique hitems' hitems
  exact w.sparesIds_of_scalar fun i hi => hscalar _ (List.mem_map_of_mem hi)

theorem HasScalarIds.after (hids : h.HasScalarIds f)
    (hreread : ∀ items ∈ h.items? f, w.IsReread h.format items) :
    h.HasScalarIds (h.after f w) := by
  have hspares := hids.sparesIds w
  obtain ⟨items, hitems, hscalar⟩ := hids
  obtain hsame | ⟨new, nodes, hwritten, hread, hvalues⟩ :=
    after_cases hitems (hreread items hitems)
  · rw [hsame]
    exact ⟨items, hitems, hscalar⟩
  · refine ⟨_, hread, fun v hv => ?_⟩
    obtain ⟨i, hi, rfl⟩ := List.mem_map.1 hv
    exact HubWrite.hasScalarId_of_written hwritten (hspares items hitems) hscalar _
      (hvalues ▸ StoredItem.value_mem_values hi)

theorem HasDistinctIds.afterAll (hids : h.HasDistinctIds f)
    (hreread : h.Along (HubWrite.IsReread h.format) f ws)
    (hspares : h.Along HubWrite.SparesIds f ws) : h.HasDistinctIds (h.afterAll f ws) := by
  induction ws generalizing f with
  | nil => exact hids
  | cons w rest ih => exact ih (hids.after hreread.1 hspares.1) hreread.2 hspares.2

/-- What holds along a run holds along each part that it begins with. -/
theorem Along.of_isPrefix {P : HubWrite → List StoredItem → Prop} {done : List HubWrite}
    (hall : h.Along P f ws) (hdone : done <+: ws) : h.Along P f done := by
  induction done generalizing f ws with
  | nil => trivial
  | cons w rest ih =>
    obtain ⟨more, rfl⟩ := hdone
    exact ⟨hall.1, ih hall.2 (List.prefix_append rest more)⟩

/-- Scalar ids stay scalar, and so no write of a run changes one of them. -/
theorem HasScalarIds.along (hids : h.HasScalarIds f)
    (hreread : h.Along (HubWrite.IsReread h.format) f ws) :
    h.Along HubWrite.SparesIds f ws := by
  induction ws generalizing f with
  | nil => trivial
  | cons w rest ih =>
    exact ⟨hids.sparesIds w, ih (hids.after hreread.1) hreread.2⟩

/-- Distinct ids stay distinct after each write of a run, be it one that fails, if no item that is
switched on or off stands inside an id. In a file whose ids are scalars none ever does. -/
theorem distinct_ids_of_run (hids : h.HasDistinctIds f)
    (hreread : h.Along (HubWrite.IsReread h.format) f ws) :
    (h.Along HubWrite.SparesIds f ws →
      ∀ done, done <+: ws → h.HasDistinctIds (h.afterAll f done)) ∧
    (h.HasScalarIds f → h.Along HubWrite.SparesIds f ws) :=
  ⟨fun hspares _ hdone =>
    hids.afterAll (hreread.of_isPrefix hdone) (hspares.of_isPrefix hdone),
    fun hscalar => hscalar.along hreread⟩

def severalIds : Folder :=
  aloneFolder "- id: 7\n- &hall\n  id: \x27 7\x27\n- id: [*hall]\n"

def severalWrites : List HubWrite :=
  [.create ⟨"7", "", none, "single", [], [], []⟩, .setEnabled "7" false, .delete " 7"]

theorem distinct_ids_several : alone.HasDistinctIds (alone.afterAll severalIds severalWrites) := by
  have hrefused : alone.after severalIds (.create ⟨"7", "", none, "single", [], [], []⟩) =
      severalIds :=
    Folder.ext (by decide +kernel) (by decide +kernel)
  have hdone : alone.after severalIds (.setEnabled "7" false) = aloneFolder
      "- id: 7\n  initial_state: false\n- &id001\n  id: \x27 7\x27\n- id:\n  - *id001\n" :=
    Folder.ext (by decide +kernel) (by decide +kernel)
  have hreread : alone.Along (HubWrite.IsReread .yaml) severalIds severalWrites := by
    refine ⟨?_, ?_, ?_, trivial⟩
    · decide +kernel
    · rw [hrefused]
      decide +kernel
    · rw [hrefused, hdone]
      decide +kernel
  have hspares : alone.Along HubWrite.SparesIds severalIds severalWrites := by
    refine ⟨?_, ?_, ?_, trivial⟩
    · decide +kernel
    · rw [hrefused]
      decide +kernel
    · rw [hrefused, hdone]
      decide +kernel
  exact (distinct_ids_of_run (by decide +kernel) hreread).1 hspares _ (List.prefix_refl _)

def sharedId : Folder :=
  aloneFolder <| "- &hall\n  id: hall\n- id: *hall\n" ++
    "- id: \x22\x7b\x27id\x27: \x27hall\x27, \x27initial_state\x27: False\x7d\x22\n"

theorem not_distinct_ids_shared :
    alone.HasDistinctIds sharedId ∧
      (∀ items ∈ alone.items? sharedId, (HubWrite.setEnabled "hall" false).IsReread .yaml items) ∧
      ¬alone.HasDistinctIds (alone.after sharedId (.setEnabled "hall" false)) := by
  refine ⟨?_, ?_, ?_⟩ <;> decide +kernel

end FileHub

end HomePortal
