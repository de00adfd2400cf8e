import HomePortal.Hub.File
import HomePortal.Proofs.Config.Normal
import HomePortal.Proofs.Yaml.Node
/-!
The items of a file that keeps configs, each with a flag or without one: what is read from such an
item, and what it becomes when its config is replaced or its flag is set.
-/

namespace HomePortal

structure Kept where
  config : Config
  flag : Option Bool

namespace Kept

def fields (k : Kept) : Entries :=
  k.config.stored ++ (k.flag.map fun b => (Scalar.text StoredItem.stateKey, Value.bool b)).toList

/-- The automation that is kept. It runs unless its flag says that it does not. -/
def automation (k : Kept) : Automation :=
  ⟨none, k.flag.getD true, k.config⟩

theorem get?_fields (k : Kept) {name : String} (h : name ∈ Config.keys) :
    k.fields.get? name = k.config.stored.get? name := by
  have hstate : (Scalar.text StoredItem.stateKey == Scalar.text name) = false := by
    refine beq_false_of_ne fun heq => ?_
    rw [← Scalar.text.inj heq] at h
    exact absurd h (by decide)
  unfold fields Entries.get?
  cases k.flag with
  | none => simp
  | some b => simp [hstate]

theorem get?_id (k : Kept) : k.fields.get? "id" = some (.text k.config.id) :=
  rfl

theorem get?_state (k : Kept) : k.fields.get? StoredItem.stateKey = k.flag.map Value.bool := by
  obtain ⟨⟨id, title, description, mode, triggers, conditions, actions⟩, flag⟩ := k
  cases description <;> cases flag <;> rfl

theorem set_state (k : Kept) (b : Bool) :
    k.fields.set StoredItem.stateKey (.bool b) = fields ⟨k.config, some b⟩ := by
  obtain ⟨⟨id, title, description, mode, triggers, conditions, actions⟩, flag⟩ := k
  cases description <;> cases flag <;> rfl

end Kept

def Entries.replacedBy (fields : Entries) (id : String) (c : Config) : Entries :=
  let new := Config.stored { c with id }
  match fields.get? StoredItem.stateKey with
  | some state => new.set StoredItem.stateKey state
  | none => new

namespace StoredItem

open Yaml (Node Leaf)

variable {i : StoredItem} {k : Kept} {c : Config}

theorem filterMap_node (items : List StoredItem) :
    (items.map node).filterMap ofNode? = items := by
  rw [List.filterMap_map]
  exact List.filterMap_some

/-- Mappings that each stand in one place are items. -/
theorem exists_items {nodes : List Node} {mappings : List Entries}
    (hvalues : Node.values nodes = mappings.map .mapping) (h : Node.Apart nodes) :
    ∃ items : List StoredItem, items.map node = nodes ∧ items.map fields = mappings := by
  induction nodes generalizing mappings with
  | nil =>
    rw [Node.values, eq_comm, List.map_eq_nil_iff] at hvalues
    exact ⟨[], rfl, hvalues.symm⟩
  | cons n rest ih =>
    cases mappings with
    | nil => cases hvalues
    | cons mapping others =>
      rw [Node.values, List.map_cons, List.cons.injEq] at hvalues
      rw [Node.Apart, Node.marksOfItems] at h
      obtain ⟨items, hnodes, hfields⟩ := ih hvalues.2 (List.nodup_append.1 h).2.1
      cases n with
      | mapping mark entries =>
        refine ⟨⟨mark, entries⟩ :: items, ?_, ?_⟩
        · rw [List.map_cons, hnodes]
          rfl
        · rw [List.map_cons, hfields]
          exact congrArg (· :: others) (Value.mapping.inj hvalues.1)
      | again mark isList => exact absurd h (by simp [Node.marks])
      | leaf | list | pair | set => cases hvalues.1

theorem values_node (items : List StoredItem) :
    Node.values (items.map node) = (items.map fields).map .mapping := by
  rw [Node.values_eq_map, List.map_map, List.map_map]
  rfl

theorem idText_of_fields (h : i.fields = k.fields) : i.idText = k.config.id := by
  rw [idText, h, k.get?_id]
  rfl

theorem isListed_of_fields (h : i.fields = k.fields) (hid : k.config.id ≠ "") :
    i.isListed = true := by
  rw [isListed, h, k.get?_id]
  simpa [Value.isTruthy, Scalar.isTruthy] using hid

theorem hasIdText_of_fields (h : i.fields = k.fields) : i.hasIdText = true := by
  rw [hasIdText, h, k.get?_id]
  rfl

def automation (i : StoredItem) : Automation :=
  ⟨none, i.isEnabled, Config.ofEntries i.fields⟩

theorem read_eq_ok {a : Automation} :
    i.read = .ok a ↔ Config.HasLabels i.fields ∧ i.automation = a := by
  unfold read
  cases hread : Config.read (.mapping i.fields) with
  | valid c =>
    obtain ⟨hlabels, rfl⟩ := Config.read_eq_valid.1 hread
    exact ⟨fun h => ⟨hlabels, Except.ok.inj h⟩, fun h => congrArg Except.ok h.2⟩
  | refused | overflow =>
    refine iff_of_false nofun fun h => ?_
    rw [Config.read_eq_valid.2 ⟨h.1, rfl⟩] at hread
    cases hread

/-- An item that is not listed is no config. -/
theorem read_eq_error {e : Failure} (h : i.read = .error e) : ∃ first more, e = .data first more := by
  unfold read at h
  cases hread : Config.read (.mapping i.fields) with
  | valid c =>
    rw [hread] at h
    cases h
  | refused first more =>
    rw [hread] at h
    exact ⟨first, more, (Except.error.inj h).symm⟩
  | overflow => exact absurd hread Config.read_ne_overflow

/-- A config that is kept is read again. -/
theorem read_of_fields (h : i.fields = k.fields) (hk : k.config.IsNormal) :
    i.read = .ok k.automation := by
  have hlabels : Config.HasLabels k.fields := by
    intro name hname n hget
    have hkey : name ∈ Config.keys := by
      simp only [List.mem_cons, List.not_mem_nil, or_false] at hname
      obtain rfl | rfl := hname <;> decide
    rw [k.get?_fields hkey] at hget
    exact Config.hasLabels_payload k.config name hname n hget
  have hconfig : Config.ofEntries k.fields = k.config := by
    rw [Config.ofEntries_congr fun name hname => k.get?_fields hname, Config.ofEntries_stored hk]
  have henabled : i.isEnabled = k.flag.getD true := by
    rw [isEnabled, h, k.get?_state]
    cases k.flag with
    | none => rfl
    | some b => cases b <;> rfl
  rw [read_eq_ok, automation, h, hconfig, henabled]
  exact ⟨hlabels, rfl⟩

theorem fields_setEntry (i : StoredItem) (name : String) (value : Node) :
    ({ i with entries := Node.setEntry i.entries name value } : StoredItem).fields =
      i.fields.set name value.value :=
  Node.valueEntries_setEntry _ _ _

theorem fields_ofConfig_eq (id : String) (c : Config) :
    (ofConfig id c).fields = Config.stored { c with id } :=
  Node.valueEntries_ofEntries _

theorem fields_ofConfig (c : Config) : (ofConfig c.id c).fields = Kept.fields ⟨c, none⟩ :=
  (fields_ofConfig_eq c.id c).trans (List.append_nil _).symm

theorem marks_ofConfig (id : String) (c : Config) : Node.marks (ofConfig id c).node = [] :=
  Node.marksOfEntries_ofEntries _

theorem fields_replacing_eq (i : StoredItem) (id : String) (c : Config) :
    (i.replacing id c).fields = i.fields.replacedBy id c := by
  have hstate : i.fields.get? stateKey = (Node.field? i.entries stateKey).map Node.value :=
    Node.get?_valueEntries _ _
  unfold replacing Entries.replacedBy
  rw [hstate]
  cases Node.field? i.entries stateKey with
  | none => exact fields_ofConfig_eq id c
  | some state =>
    dsimp only
    rw [fields_setEntry, fields_ofConfig_eq, Option.map_some]

/-- A config that takes the place of another one is kept with the same flag. -/
theorem fields_replacing (h : i.fields = k.fields) (c : Config) :
    (i.replacing c.id c).fields = Kept.fields ⟨c, k.flag⟩ := by
  have hnew : Config.stored c = Kept.fields ⟨c, none⟩ := (List.append_nil _).symm
  rw [fields_replacing_eq, h, Entries.replacedBy, k.get?_state]
  cases k.flag with
  | none => exact hnew
  | some b => exact (congrArg (Entries.set · stateKey (.bool b)) hnew).trans (Kept.set_state _ b)

theorem stateKey_not_mem (id : String) (c : Config) :
    ((ofConfig id c).entries.any fun entry => entry.1.isText stateKey) = false := by
  obtain ⟨old, title, description, mode, triggers, conditions, actions⟩ := c
  cases description <;> rfl

/-- What an item takes over brings its marks with it. -/
theorem marks_replacing (i : StoredItem) (id : String) (c : Config) :
    (Node.marks (i.replacing id c).node).Sublist (Node.marks i.node) := by
  have hnew : Node.marksOfEntries (ofConfig id c).entries = [] := Node.marksOfEntries_ofEntries _
  unfold replacing
  cases hentry : Node.field? i.entries stateKey with
  | none =>
    change (Node.marksOfEntries (ofConfig id c).entries).Sublist _
    rw [hnew]
    exact List.nil_sublist _
  | some state =>
    change (Node.marksOfEntries (Node.setEntry (ofConfig id c).entries stateKey state)).Sublist
      (i.mark.toList ++ Node.marksOfEntries i.entries)
    rw [Node.setEntry_of_new (stateKey_not_mem id c), Node.marksOfEntries_append, hnew]
    simp only [Node.marksOfEntries, Leaf.marks, Leaf.ofScalar, Option.toList_none,
      List.nil_append, List.append_nil]
    exact (Node.marks_of_field? hentry).trans (List.sublist_append_right _ _)

theorem set_middle (before after : List StoredItem) (i new : StoredItem) :
    (before ++ i :: after).set before.length new = before ++ new :: after := by
  rw [List.set_append_right _ _ (Nat.le_refl _), Nat.sub_self, List.set_cons_zero]

theorem eraseIdx_middle (before after : List StoredItem) (i : StoredItem) :
    (before ++ i :: after).eraseIdx before.length = before ++ after := by
  rw [List.eraseIdx_append_of_length_le (Nat.le_refl _), Nat.sub_self, List.eraseIdx_cons_zero]

/-- What is set in an item that stands in one place only is set in that place. -/
theorem setIn_of_count {before after : List StoredItem}
    (h : ∀ mark ∈ i.mark,
      (Node.marksOfItems ((before ++ i :: after).map node)).count mark ≤ 1)
    (name : String) (value : Node) :
    setIn (before ++ i :: after) i before.length name value =
      before ++ { i with entries := Node.setEntry i.entries name value } :: after := by
  unfold setIn
  cases hmark : i.mark with
  | none =>
    exact set_middle before after i _
  | some mark =>
    have hnode : i.node = .mapping (some mark) i.entries := by rw [node, hmark]
    have hcount := h mark hmark
    rw [List.map_append, List.map_cons, Node.marksOfItems_append, Node.marksOfItems, hnode,
      Node.marks, Option.toList_some, List.count_append, List.count_append, List.count_append,
      List.count_singleton_self] at hcount
    -- The mark stands at this item, and nowhere else.
    have hbefore : mark ∉ Node.marksOfItems (before.map node) :=
      List.count_eq_zero.1 (by omega)
    have hinside : mark ∉ Node.marksOfEntries i.entries := List.count_eq_zero.1 (by omega)
    have hafter : mark ∉ Node.marksOfItems (after.map node) := List.count_eq_zero.1 (by omega)
    dsimp only
    rw [List.map_append, List.map_cons, Node.setMarkedItems_append, Node.setMarkedItems,
      Node.setMarkedItems_of_not_mem name value hbefore,
      Node.setMarkedItems_of_not_mem name value hafter, hnode, Node.setMarked,
      Node.setMarkedEntries_of_not_mem name value hinside]
    simp only [beq_self_eq_true, if_true, List.filterMap_append, List.filterMap_cons,
      filterMap_node, ofNode?]

theorem setIn_of_apart {before after : List StoredItem}
    (h : Node.Apart ((before ++ i :: after).map node)) (name : String) (value : Node) :
    setIn (before ++ i :: after) i before.length name value =
      before ++ { i with entries := Node.setEntry i.entries name value } :: after :=
  setIn_of_count (fun mark _ => List.nodup_iff_count_le_one.1 h mark) name value

end StoredItem

end HomePortal
