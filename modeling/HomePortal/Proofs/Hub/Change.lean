import HomePortal.Proofs.Hub.File
import HomePortal.Proofs.Hub.Operation
import HomePortal.Proofs.Value.Decidable
/-!
What a write makes of the list in a hub's file. It is meant to touch one item. It also drops what is
no mapping, and a change of an item shows wherever that item stands again.
-/

namespace HomePortal

/-! ### Writes and what they are meant for -/

def Value.HasId (id : String) : Value → Prop
  | .mapping fields => ((Entries.get? fields "id").map Value.display).getD "" = id
  | _ => False

namespace HubWrite

/-- What a write is meant to make of a list: the first item with its id is changed, or an item is
added at the end, and all others keep their values and their order. -/
inductive Means : HubWrite → List Value → List Value → Prop
  | create {c : Config} {before : List Value} (hnew : ∀ v ∈ before, ¬v.HasId c.id) :
    Means (create c) before (before ++ [.mapping c.stored])
  | update {id : String} {c : Config} {first rest : List Value} {fields : Entries}
    (hfirst : ∀ v ∈ first, ¬v.HasId id) (hid : (Value.mapping fields).HasId id) :
    Means (update id c) (first ++ .mapping fields :: rest)
      (first ++ .mapping (fields.replacedBy id c) :: rest)
  | delete {id : String} {first rest : List Value} {fields : Entries}
    (hfirst : ∀ v ∈ first, ¬v.HasId id) (hid : (Value.mapping fields).HasId id) :
    Means (delete id) (first ++ .mapping fields :: rest) (first ++ rest)
  | setEnabled {id : String} {b : Bool} {first rest : List Value} {fields : Entries}
    (hfirst : ∀ v ∈ first, ¬v.HasId id) (hid : (Value.mapping fields).HasId id) :
    Means (setEnabled id b) (first ++ .mapping fields :: rest)
      (first ++ .mapping (fields.set StoredItem.stateKey (.bool b)) :: rest)

def growth : HubWrite → Int
  | create _ => 1
  | update .. => 0
  | delete _ => -1
  | setEnabled .. => 0

theorem Means.length_eq {w : HubWrite} {before after : List Value} (h : w.Means before after) :
    (after.length : Int) = before.length + w.growth := by
  cases h with
  | create => simp [growth]
  | update => simp [growth]
  | delete => simp [growth]; omega
  | setEnabled => simp [growth]

def differences (before after : List Value) : Nat :=
  (before.zip after).countP fun place => place.1 ≠ place.2

theorem differences_self (items : List Value) : differences items items = 0 := by
  unfold differences
  induction items with
  | nil => rfl
  | cons v rest ih =>
    rw [List.zip_cons_cons, List.countP_cons_of_neg (by simp), ih]

/-- What is switched on or off is one item. -/
theorem Means.differences_le {id : String} {b : Bool} {before after : List Value}
    (h : (HubWrite.setEnabled id b).Means before after) : differences before after ≤ 1 := by
  cases h with
  | setEnabled =>
    have hsame := differences_self
    unfold differences at hsame ⊢
    rw [List.zip_append rfl, List.zip_cons_cons, List.countP_append, List.countP_cons, hsame, hsame]
    split <;> omega

end HubWrite

/-! ### Items -/

namespace Yaml.Node

def isMapping : Node → Bool
  | mapping .. => true
  | _ => false

end Yaml.Node

namespace StoredItem

open Yaml (Node)

variable {i : StoredItem} {items : List StoredItem} {id : String} {c : Config}

theorem map_node_ofNode? (nodes : List Node) :
    (nodes.filterMap ofNode?).map node = nodes.filter Node.isMapping := by
  induction nodes with
  | nil => rfl
  | cons n rest ih =>
    cases n with
    | mapping mark entries =>
      simp [List.filter_cons, ofNode?, node, Node.isMapping, ih]
    | leaf | list | pair | set | again =>
      simp [List.filterMap_cons, ofNode?, Node.isMapping, ih]

theorem values_append_cons (first rest : List StoredItem) (i : StoredItem) :
    Node.values ((first ++ i :: rest).map node) = Node.values (first.map node) ++
      .mapping i.fields :: Node.values (rest.map node) := by
  rw [values_node, values_node, values_node, List.map_append, List.map_append, List.map_cons,
    List.map_cons]

theorem not_hasId (h : ∀ i ∈ items, i.idText ≠ id) :
    ∀ v ∈ Node.values (items.map node), ¬v.HasId id := by
  rw [values_node, List.map_map]
  intro v hv
  obtain ⟨i, hi, rfl⟩ := List.mem_map.1 hv
  exact h i hi

def first? (items : List StoredItem) (id : String) : Option (StoredItem × Nat) :=
  items.zipIdx.find? fun entry => entry.1.idText == id

theorem exists_first (hid : ∃ i ∈ items, i.idText = id) :
    ∃ first i rest, items = first ++ i :: rest ∧ i.idText = id ∧ ∀ j ∈ first, j.idText ≠ id := by
  have hfound : (items.find? fun i => i.idText == id).isSome = true := by
    simpa [List.find?_isSome] using hid
  obtain ⟨i, hi⟩ := Option.isSome_iff_exists.1 hfound
  obtain ⟨heq, first, rest, hitems, hfirst⟩ := List.find?_eq_some_iff_append.1 hi
  exact ⟨first, i, rest, hitems, beq_iff_eq.1 heq, fun j hj => by simpa using hfirst j hj⟩

theorem first?_of_first {first rest : List StoredItem} (hfirst : ∀ j ∈ first, j.idText ≠ id)
    (hi : i.idText = id) : first? (first ++ i :: rest) id = some (i, first.length) := by
  have hnone : first.zipIdx.find? (fun entry => entry.1.idText == id) = none := by
    refine List.find?_eq_none.2 fun entry hentry => ?_
    simpa using hfirst entry.1 (List.fst_mem_of_mem_zipIdx hentry)
  rw [first?, List.zipIdx_append, List.find?_append, hnone, List.zipIdx_cons,
    List.find?_cons_of_pos (by simpa using hi), Nat.zero_add]
  rfl

/-- A search that finds an item finds the first one with its id. -/
theorem first?_of_search {found : StoredItem × Nat}
    (h : FileHub.search items id = .ok (some found)) : first? items id = some found := by
  obtain ⟨-, hsearch⟩ | ⟨first, i, rest, rfl, hfirst, -, hi, hsearch⟩ | ⟨-, hsearch⟩ :=
    FileHub.search_cases items id
  · rw [hsearch] at h
    cases h
  · rw [hsearch] at h
    obtain rfl := Option.some.inj (Except.ok.inj h)
    exact first?_of_first (fun j hj => (hfirst j hj).2) hi
  · rw [hsearch] at h
    cases h

theorem passedOver_of_search (h : FileHub.search items id = .ok none) :
    FileHub.PassedOver id items := by
  obtain ⟨hnone, -⟩ | ⟨first, i, rest, -, -, -, -, hsearch⟩ | ⟨-, hsearch⟩ :=
    FileHub.search_cases items id
  · exact hnone
  · rw [hsearch] at h
    cases h
  · rw [hsearch] at h
    cases h

def changeFirst (items : List StoredItem) (id : String)
    (change : List StoredItem → StoredItem → Nat → List StoredItem) : Option (List StoredItem) :=
  (first? items id).map fun entry => change items entry.1 entry.2

theorem exists_of_changeFirst {change : List StoredItem → StoredItem → Nat → List StoredItem}
    {new : List StoredItem} (h : changeFirst items id change = some new) :
    ∃ first i rest, items = first ++ i :: rest ∧ (∀ j ∈ first, j.idText ≠ id) ∧ i.idText = id ∧
      first? items id = some (i, first.length) ∧
      change (first ++ i :: rest) i first.length = new := by
  obtain ⟨entry, hentry, rfl⟩ := Option.map_eq_some_iff.1 h
  have hid : ∃ j ∈ items, j.idText = id :=
    ⟨entry.1, List.fst_mem_of_mem_zipIdx (List.mem_of_find?_eq_some hentry),
      beq_iff_eq.1 (List.find?_some hentry :)⟩
  obtain ⟨first, i, rest, rfl, hi, hfirst⟩ := exists_first hid
  have hfound : first? (first ++ i :: rest) id = some (i, first.length) := first?_of_first hfirst hi
  obtain rfl := Option.some.inj (hfound.symm.trans hentry)
  exact ⟨first, i, rest, rfl, hfirst, hi, hfound, rfl⟩

end StoredItem

/-! ### What is written -/

/-- What is written of some data, if it can be written, is read again as a list of the same data. -/
def Format.Rereads (F : Format) (nodes : List Yaml.Node) : Prop :=
  ∀ bytes, F.write nodes = .ok bytes → ∃ mark read, F.read bytes = .ok (.list mark read) ∧
    Yaml.Node.values read = Yaml.Node.values nodes

def Format.rereads (F : Format) (nodes : List Yaml.Node) : Bool :=
  match F.write nodes with
  | .error _ => true
  | .ok bytes =>
    match F.read bytes with
    | .ok (.list _ read) => decide (Yaml.Node.values read = Yaml.Node.values nodes)
    | _ => false

theorem Format.rereads_iff {F : Format} {nodes : List Yaml.Node} :
    F.rereads nodes = true ↔ F.Rereads nodes := by
  unfold rereads Rereads
  cases F.write nodes with
  | error e => exact iff_of_true rfl nofun
  | ok bytes =>
    constructor
    · rintro h _ ⟨⟩
      dsimp only at h
      split at h
      · exact ⟨_, _, ‹_›, decide_eq_true_iff.1 h⟩
      · cases h
    · intro h
      obtain ⟨mark, read, hread, hvalues⟩ := h bytes rfl
      dsimp only
      rw [hread]
      exact decide_eq_true hvalues

instance (F : Format) (nodes : List Yaml.Node) : Decidable (F.Rereads nodes) :=
  decidable_of_iff _ Format.rereads_iff

namespace HubWrite

open StoredItem (first? changeFirst exists_of_changeFirst setIn stateKey)
open Yaml (Node)

variable {w : HubWrite} {items new : List StoredItem}

def written : HubWrite → List StoredItem → Option (List StoredItem)
  | create c, items =>
    if items.any fun i => i.idText == c.id then none else some (items ++ [.ofConfig c.id c])
  | update id c, items =>
    changeFirst items id fun items i position => items.set position (i.replacing id c)
  | delete id, items =>
    changeFirst items id fun items _ position => items.eraseIdx position
  | setEnabled id b, items =>
    changeFirst items id fun items i position =>
      setIn items i position stateKey (.ofValue (.bool b))

theorem written_create {c : Config} (h : FileHub.PassedOver c.id items) :
    (create c).written items = some (items ++ [.ofConfig c.id c]) := by
  have hnew : ¬(items.any fun i => i.idText == c.id) = true := by
    rw [Bool.not_eq_true, List.any_eq_false]
    intro i hi
    simpa using (h i hi).2
  exact if_neg hnew

/-- The item that is switched on or off stands in one place only. -/
def IsUnshared : HubWrite → List StoredItem → Prop
  | setEnabled id _, items => ∀ entry ∈ first? items id, ∀ mark ∈ entry.1.mark,
    (Node.marksOfItems (items.map StoredItem.node)).count mark ≤ 1
  | _, _ => True

/-- Of the items that are read, a write changes the one that it is meant to change. -/
theorem means_of_written (hwritten : w.written items = some new) (hshared : w.IsUnshared items) :
    w.Means (Node.values (items.map StoredItem.node)) (Node.values (new.map StoredItem.node)) := by
  cases w with
  | create c =>
    rw [written, Option.ite_none_left_eq_some] at hwritten
    obtain ⟨hnew, heq⟩ := hwritten
    obtain rfl := Option.some.inj heq
    have hids : ∀ i ∈ items, i.idText ≠ c.id := by simpa using hnew
    rw [StoredItem.values_append_cons, StoredItem.fields_ofConfig_eq]
    exact .create (StoredItem.not_hasId hids)
  | update id c =>
    rw [written] at hwritten
    obtain ⟨first, i, rest, rfl, hfirst, hid, -, hnew⟩ := exists_of_changeFirst hwritten
    rw [← hnew, StoredItem.set_middle, StoredItem.values_append_cons,
      StoredItem.values_append_cons, StoredItem.fields_replacing_eq]
    exact .update (StoredItem.not_hasId hfirst) hid
  | delete id =>
    rw [written] at hwritten
    obtain ⟨first, i, rest, rfl, hfirst, hid, -, hnew⟩ := exists_of_changeFirst hwritten
    rw [← hnew, StoredItem.eraseIdx_middle, StoredItem.values_append_cons, List.map_append,
      Node.values_append]
    exact .delete (StoredItem.not_hasId hfirst) hid
  | setEnabled id b =>
    rw [written] at hwritten
    obtain ⟨first, i, rest, rfl, hfirst, hid, hfound, hnew⟩ := exists_of_changeFirst hwritten
    rw [← hnew, StoredItem.setIn_of_count (hshared _ hfound), StoredItem.values_append_cons,
      StoredItem.values_append_cons, StoredItem.fields_setEntry, Node.value_ofValue]
    exact .setEnabled (StoredItem.not_hasId hfirst) hid

end HubWrite

namespace FileHub

open HubM (run_bind_eq_ok run_bind_of_ok run_get_bind)
open StoredItem (first? changeFirst)
open Yaml (Node)

variable {h : FileHub} {f g : Folder} {w : HubWrite} {items : List StoredItem} {nodes : List Node}
  {id : String}

/-- What is stored is what can be written. -/
theorem at?_of_store {new : List StoredItem} (hrun : (h.store new).run f = (.ok (), g)) :
    ∃ bytes, h.format.write (new.map StoredItem.node) = .ok bytes ∧
      g.at? h.path = some (.file bytes) := by
  cases hwrite : h.format.write (new.map StoredItem.node) with
  | error fault => cases (run_store_of_unwritten hwrite).symm.trans hrun
  | ok bytes =>
    obtain ⟨e, -, hstore⟩ | ⟨g', hput, hstore⟩ := run_store (f := f) hwrite
    · cases hstore.symm.trans hrun
    · obtain rfl : g' = g := (Prod.mk.inj (hstore.symm.trans hrun)).2
      exact ⟨bytes, rfl, by rw [Folder.eq_put_of_write hput, Folder.at?_put]⟩

theorem exists_of_changeAt (hitems : h.items.run f = (.ok items, f))
    {change : List StoredItem → StoredItem → Nat → List StoredItem}
    (hrun : (h.changeAt id change).run f = (.ok (), g)) :
    ∃ new, changeFirst items id change = some new ∧ (h.store new).run f = (.ok (), g) := by
  rw [changeAt, run_bind_of_ok hitems, find] at hrun
  cases hsearch : search items id with
  | error e =>
    rw [hsearch] at hrun
    cases (Prod.mk.inj hrun).1
  | ok found =>
    rw [hsearch] at hrun
    cases found with
    | none => cases (Prod.mk.inj hrun).1
    | some entry =>
      rw [changeFirst, StoredItem.first?_of_search hsearch]
      exact ⟨_, rfl, hrun⟩

/-- A write adds an item, or changes the first one with its id. -/
theorem create_or_change (w : HubWrite) : (∃ c, w = .create c) ∨ ∃ change,
    (∀ h : FileHub, w.on h.hub = h.changeAt w.soughtId change) ∧
      ∀ items, w.written items = changeFirst items w.soughtId change := by
  cases w with
  | create c => exact .inl ⟨c, rfl⟩
  | update id c => exact .inr ⟨_, fun h => h.update_eq id c, fun _ => rfl⟩
  | delete id => exact .inr ⟨_, fun h => h.delete_eq id, fun _ => rfl⟩
  | setEnabled id b => exact .inr ⟨_, fun h => h.setState_eq id (.bool b), fun _ => rfl⟩

theorem exists_written (hitems : h.items.run f = (.ok items, f))
    (hrun : (w.on h.hub).run f = (.ok (), g)) :
    ∃ new, w.written items = some new ∧ (h.store new).run f = (.ok (), g) := by
  obtain ⟨c, rfl⟩ | ⟨change, hon, hwritten⟩ := create_or_change w
  · obtain ⟨name, u, hcreate, hpure⟩ := run_bind_eq_ok.1 hrun
    obtain rfl : u = g := (Prod.mk.inj hpure).2
    change (h.create c).run f = _ at hcreate
    rw [create, run_bind_of_ok hitems] at hcreate
    cases hsearch : search items c.id with
    | error e =>
      rw [hsearch] at hcreate
      cases (Prod.mk.inj hcreate).1
    | ok found =>
      rw [hsearch] at hcreate
      cases found with
      | some entry => cases (Prod.mk.inj hcreate).1
      | none =>
        change (h.store (items ++ [.ofConfig c.id c]) >>= fun _ => pure c.id).run f = _ at hcreate
        obtain ⟨⟨⟩, u, hstore, hpure⟩ := run_bind_eq_ok.1 hcreate
        obtain rfl : u = _ := (Prod.mk.inj hpure).2
        exact ⟨_, HubWrite.written_create (StoredItem.passedOver_of_search hsearch), hstore⟩
  · rw [hon] at hrun
    rw [hwritten]
    exact exists_of_changeAt hitems hrun

/-- Where the item that is switched on or off stands in one place, a write does to the mappings of
the file what it is meant to do. Nothing but mappings is left, so it does this to the whole list
only if all in it are mappings. -/
theorem means_of_run (hparsed : h.parsed f = some nodes)
    (hrun : (w.on h.hub).run f = (.ok (), g))
    (hrereads : ∀ new, w.written (nodes.filterMap StoredItem.ofNode?) = some new →
      h.format.Rereads (new.map StoredItem.node))
    (hshared : w.IsUnshared (nodes.filterMap StoredItem.ofNode?)) :
    ∃ after, h.parsed g = some after ∧
      w.Means (Node.values (nodes.filter Node.isMapping)) (Node.values after) ∧
      (w.Means (Node.values nodes) (Node.values after) ↔ ∀ n ∈ nodes, n.isMapping = true) := by
  obtain ⟨new, hwritten, hstore⟩ := exists_written (run_items_of_parsed hparsed) hrun
  obtain ⟨bytes, hwrite, hfile⟩ := at?_of_store hstore
  obtain ⟨mark, after, hread, hvalues⟩ := hrereads new hwritten bytes hwrite
  have hmeans := HubWrite.means_of_written hwritten hshared
  rw [StoredItem.map_node_ofNode?, ← hvalues] at hmeans
  refine ⟨after, parsed_eq_some.2 ⟨_, mark, hfile, hread⟩, hmeans, ?_, ?_⟩
  · intro hwhole
    -- The list would be as long with its mappings alone.
    have hlength : (nodes.filter Node.isMapping).length = nodes.length := by
      have hall := hwhole.length_eq
      have hmappings := hmeans.length_eq
      simp only [Node.values_eq_map, List.length_map] at hall hmappings
      omega
    exact List.length_filter_eq_length_iff.1 hlength
  · intro hall
    rwa [List.filter_eq_self.2 hall] at hmeans

def settles (h : FileHub) (w : HubWrite) (f : Folder) (related : List Node → List Node → Bool) :
    Bool :=
  match (w.on h.hub).run f with
  | (.ok (), g) => (h.parsed f).any fun before => (h.parsed g).any fun after => related before after
  | _ => false

theorem exists_of_settles {related : List Node → List Node → Bool}
    (hsettles : h.settles w f related = true) : ∃ g before after,
      (w.on h.hub).run f = (.ok (), g) ∧ h.parsed f = some before ∧ h.parsed g = some after ∧
        related before after = true := by
  unfold settles at hsettles
  split at hsettles
  · obtain ⟨before, hbefore, hrest⟩ := (Option.any_eq_true _ _).1 hsettles
    obtain ⟨after, hafter, hrelated⟩ := (Option.any_eq_true _ _).1 hrest
    exact ⟨_, before, after, ‹_›, hbefore, hafter, hrelated⟩
  · cases hsettles

def twoItems : Folder :=
  aloneFolder "- id: hall\n- id: stairs\n"

theorem means_twoItems : ∃ g before after,
    ((HubWrite.setEnabled "stairs" false).on alone.hub).run twoItems = (.ok (), g) ∧
      alone.parsed twoItems = some before ∧ alone.parsed g = some after ∧
      (HubWrite.setEnabled "stairs" false).Means (Node.values before) (Node.values after) := by
  have hsettles : alone.settles (.setEnabled "stairs" false) twoItems (fun before _ =>
      let items := before.filterMap StoredItem.ofNode?
      before.all Node.isMapping &&
        ((HubWrite.setEnabled "stairs" false).written items).all (fun new =>
          Format.yaml.rereads (new.map StoredItem.node)) &&
        decide (∀ entry ∈ first? items "stairs", ∀ mark ∈ entry.1.mark,
          (Node.marksOfItems (items.map StoredItem.node)).count mark ≤ 1)) = true := by
    decide +kernel
  obtain ⟨g, before, _, hrun, hbefore, -, hchecks⟩ := exists_of_settles hsettles
  rw [Bool.and_eq_true, Bool.and_eq_true, List.all_eq_true, Option.all_eq_true,
    decide_eq_true_iff] at hchecks
  obtain ⟨⟨hall, hrereads⟩, hshared⟩ := hchecks
  obtain ⟨after, hafter, -, hmeans⟩ := means_of_run hbefore hrun
    (fun new hnew => Format.rereads_iff.1 (hrereads new hnew)) hshared
  exact ⟨g, before, after, hrun, hbefore, hafter, hmeans.2 hall⟩

def sharedItem : Folder :=
  aloneFolder "- &hall\n  id: hall\n  alias: Hall\n- *hall\n- a note\n"

/-- The note is lost, and both items are switched off. -/
theorem not_means_sharedItem : ∃ g before after,
    ((HubWrite.setEnabled "hall" false).on alone.hub).run sharedItem = (.ok (), g) ∧
      alone.parsed sharedItem = some before ∧ alone.parsed g = some after ∧
      ¬(HubWrite.setEnabled "hall" false).Means (Node.values before) (Node.values after) ∧
      ¬(HubWrite.setEnabled "hall" false).Means (Node.values (before.filter Node.isMapping))
        (Node.values after) := by
  have hsettles : alone.settles (.setEnabled "hall" false) sharedItem (fun before after =>
      (Node.values after).length + 1 == (Node.values before).length &&
        HubWrite.differences (Node.values (before.filter Node.isMapping))
          (Node.values after) == 2) = true := by
    decide +kernel
  obtain ⟨g, before, after, hrun, hbefore, hafter, hchecks⟩ := exists_of_settles hsettles
  rw [Bool.and_eq_true, beq_iff_eq, beq_iff_eq] at hchecks
  refine ⟨g, before, after, hrun, hbefore, hafter, fun hmeans => ?_, fun hmeans => ?_⟩
  · have hlength := hmeans.length_eq
    rw [HubWrite.growth] at hlength
    omega
  · have hle := hmeans.differences_le
    omega

end FileHub

end HomePortal
