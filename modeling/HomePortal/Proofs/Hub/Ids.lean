import HomePortal.Proofs.Hub.Change
import HomePortal.Proofs.Value.Entries
/-!
The ids of the items in a hub's file: what they are as data, which items are read with them, and
which of them change with an item that stands in several places.
-/

namespace HomePortal

/-! ### Ids of data -/

namespace Value

def id? : Value → Option Value
  | mapping fields => Entries.get? fields "id"
  | _ => none

def idText (v : Value) : String :=
  (v.id?.map display).getD ""

def HasScalarId (v : Value) : Prop :=
  ∀ id, v.id? = some id → ∃ s, id = .scalar s

def ids (items : List Value) : List String :=
  (items.map idText).filter (· != "")

variable {v : Value} {xs ys : List Value} {id : String} {c : Config} {fields : Entries}

theorem ids_append (xs ys : List Value) : ids (xs ++ ys) = ids xs ++ ids ys := by
  rw [ids, List.map_append, List.filter_append]
  rfl

theorem mem_ids : id ∈ ids xs ↔ id ≠ "" ∧ ∃ v ∈ xs, v.idText = id := by
  simp only [ids, List.mem_filter, List.mem_map, bne_iff_ne, ne_eq]
  exact and_comm

theorem ids_congr (h : xs.map id? = ys.map id?) : ids xs = ids ys := by
  have htext (zs : List Value) :
      ids zs = ((zs.map id?).map fun id => (id.map display).getD "").filter (· != "") := by
    rw [List.map_map]
    rfl
  rw [htext, htext, h]

theorem hasScalarId_congr (h : xs.map id? = ys.map id?) (hys : ∀ v ∈ ys, v.HasScalarId) :
    ∀ v ∈ xs, v.HasScalarId := by
  intro v hv id hid
  obtain ⟨u, hu, heq⟩ := List.mem_map.1 (h ▸ List.mem_map_of_mem hv : v.id? ∈ ys.map id?)
  exact hys u hu id (heq.trans hid)

theorem idText_of_hasId (h : v.HasId id) : v.idText = id := by
  cases v with
  | mapping => exact h
  | _ => exact h.elim

theorem hasId_of_mem_ids (h : id ∈ ids xs) : ∃ v ∈ xs, v.HasId id := by
  obtain ⟨hne, v, hv, htext⟩ := mem_ids.1 h
  refine ⟨v, hv, ?_⟩
  cases v with
  | mapping => exact htext
  | _ => exact absurd htext.symm hne

theorem id?_stored (c : Config) : (mapping c.stored).id? = some (.text c.id) :=
  rfl

theorem id?_set {name : String} (h : "id" ≠ name) (w : Value) :
    (mapping (fields.set name w)).id? = (mapping fields).id? :=
  Entries.get?_set_of_ne h

theorem id?_replacedBy : (mapping (fields.replacedBy id c)).id? = some (.text id) := by
  unfold Entries.replacedBy
  cases fields.get? StoredItem.stateKey with
  | none => rfl
  | some state => exact id?_set (by decide) state

end Value

/-! ### Ids of items -/

namespace Yaml.Node

variable {entries : List (Leaf × Node)} {name other : String} {mark : Nat} {item : Node}

theorem field?_setMarkedEntries : field? (setMarkedEntries mark name item entries) other =
    (field? entries other).map (setMarked mark name item) := by
  induction entries with
  | nil => rfl
  | cons entry rest ih =>
    obtain ⟨key, x⟩ := entry
    unfold field? at ih ⊢
    rw [setMarkedEntries]
    cases hkey : key.isText other with
    | true => simp only [List.find?_cons, hkey, Option.map_some]
    | false => simpa only [List.find?_cons, hkey] using ih

end Yaml.Node

namespace StoredItem

open Yaml (Node)

variable {i : StoredItem} {items first rest : List StoredItem} {name : String} {mark : Nat}

def value (i : StoredItem) : Value :=
  .mapping i.fields

def idMarks (i : StoredItem) : List Nat :=
  match Node.field? i.entries "id" with
  | none | some (.leaf _) => []
  | some node => Node.marks node

def setAt (mark : Nat) (name : String) (item : Node) (i : StoredItem) : StoredItem :=
  let entries := Node.setMarkedEntries mark name item i.entries
  ⟨i.mark, if i.mark == some mark then Node.setEntry entries name item else entries⟩

theorem id?_value (i : StoredItem) : i.value.id? = (Node.field? i.entries "id").map Node.value :=
  Node.get?_valueEntries _ _

theorem values_eq (items : List StoredItem) : Node.values (items.map node) = items.map value := by
  rw [values_node, List.map_map]
  rfl

theorem filterMap_setMarkedItems (mark : Nat) (name : String) (item : Node)
    (items : List StoredItem) :
    (Node.setMarkedItems mark name item (items.map node)).filterMap ofNode? =
      items.map (setAt mark name item) := by
  induction items with
  | nil => rfl
  | cons i rest ih => exact congrArg (setAt mark name item i :: ·) ih

/-- A change of what has a mark changes an id only if the mark stands in it. -/
theorem id?_setAt (hname : "id" ≠ name) (item : Node) (h : mark ∉ i.idMarks) :
    (i.setAt mark name item).value.id? = i.value.id? := by
  have hinside : (Node.field? (Node.setMarkedEntries mark name item i.entries) "id").map
      Node.value = (Node.field? i.entries "id").map Node.value := by
    rw [Node.field?_setMarkedEntries]
    unfold idMarks at h
    cases hid : Node.field? i.entries "id" with
    | none => rfl
    | some node =>
      rw [hid] at h
      cases node with
      | leaf => rfl
      | list | pair | set | mapping | again =>
        exact congrArg (some ·.value) (Node.setMarked_of_not_mem name item h)
  unfold setAt
  dsimp only
  split
  · rw [value, fields, Node.valueEntries_setEntry, Value.id?_set hname]
    exact (Node.get?_valueEntries _ _).trans (hinside.trans i.id?_value.symm)
  · rw [id?_value, id?_value, hinside]

/-- An item that stands in no id changes no id, wherever it changes. -/
theorem id?_setIn (hname : "id" ≠ name) (item : Node)
    (h : ∀ mark ∈ i.mark, ∀ j ∈ first ++ i :: rest, mark ∉ j.idMarks) :
    ((setIn (first ++ i :: rest) i first.length name item).map value).map Value.id? =
      ((first ++ i :: rest).map value).map Value.id? := by
  unfold setIn
  cases hmark : i.mark with
  | none =>
    have hid : ({ i with entries := Node.setEntry i.entries name item } : StoredItem).value.id? =
        i.value.id? := by
      rw [value, fields_setEntry, Value.id?_set hname]
      rfl
    simp only [set_middle, List.map_append, List.map_cons, hmark ▸ hid]
  | some mark =>
    dsimp only
    rw [filterMap_setMarkedItems, List.map_map, List.map_map, List.map_map]
    exact List.map_congr_left fun j hj => id?_setAt hname item (h mark hmark j hj)

/-- What is read as an item are the mappings of a list. What else stands in it has no id. -/
theorem ids_filterMap (nodes : List Node) :
    Value.ids ((nodes.filterMap ofNode?).map value) = Value.ids (Node.values nodes) := by
  induction nodes with
  | nil => rfl
  | cons n rest ih =>
    have hother (h : ofNode? n = none) (hid : n.value.id? = none) :
        Value.ids (((n :: rest).filterMap ofNode?).map value) =
          Value.ids (Node.values (n :: rest)) := by
      have htext : n.value.idText = "" := by rw [Value.idText, hid]; rfl
      rw [List.filterMap_cons_none h, ih, Node.values, Value.ids, Value.ids, List.map_cons, htext,
        List.filter_cons_of_neg (by decide)]
    cases n with
    | mapping mark entries =>
      change Value.ids ([value ⟨mark, entries⟩] ++ _) =
        Value.ids ([(Node.mapping mark entries).value] ++ _)
      rw [Value.ids_append, Value.ids_append, ih]
      rfl
    | again mark isList => exact hother rfl (by cases isList <;> rfl)
    | leaf | list | pair | set => exact hother rfl rfl

theorem value_mem_values {nodes : List Node} (h : i ∈ nodes.filterMap ofNode?) :
    i.value ∈ Node.values nodes := by
  obtain ⟨n, hn, hitem⟩ := List.mem_filterMap.1 h
  rw [Node.values_eq_map]
  refine List.mem_map.2 ⟨n, hn, ?_⟩
  cases n with
  | mapping =>
    obtain rfl := Option.some.inj hitem
    rfl
  | _ => cases hitem

end StoredItem

end HomePortal
