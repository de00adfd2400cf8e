import HomePortal.Proofs.Hub.Kept
import HomePortal.Proofs.Hub.Run
import HomePortal.Proofs.Lookup
import HomePortal.Proofs.Value.Decidable
import HomePortal.Proofs.Yaml.Writer
/-!
A hub in a file that keeps configs: the outcome of each of its operations, and what the file keeps
after it.
-/

namespace HomePortal

/-! ### Files -/

namespace Folder

variable {f : Folder} {path other : List String} {bytes : ByteArray}

theorem lookup_put : (f.put path bytes).files.lookup other =
    if other = path then some bytes else f.files.lookup other := by
  unfold put isFile
  dsimp only
  by_cases hfile : (f.files.lookup path).isSome = true
  · obtain ⟨old, hold⟩ := Option.isSome_iff_exists.1 hfile
    rw [if_pos hfile, lookup_map_eq, hold, Option.map_some]
  · rw [if_neg hfile, List.lookup_append, lookup_cons_eq, List.lookup_nil]
    rw [Option.not_isSome_iff_eq_none] at hfile
    by_cases hother : other = path
    · rw [if_pos hother, if_pos hother, hother, hfile, Option.none_or]
    · rw [if_neg hother, if_neg hother, Option.or_none]

theorem at?_put : (f.put path bytes).at? path = some (.file bytes) := by
  rw [at?, lookup_put, if_pos rfl]

def Writable (f : Folder) (path : List String) : Prop :=
  ∀ bytes, f.write path bytes = .ok (f.put path bytes)

theorem writable_iff : f.Writable path ↔
    f.at? path ≠ some .directory ∧ (above path).any f.isFile = false := by
  unfold Writable write
  cases hat : f.at? path with
  | none => cases (above path).any f.isFile <;> simp
  | some entry =>
    cases entry with
    | directory => simp
    | file old => cases (above path).any f.isFile <;> simp

theorem eq_put_of_write {g : Folder} (h : f.write path bytes = .ok g) : g = f.put path bytes := by
  unfold write at h
  split at h
  · cases h
  · cases h
  · exact (Except.ok.inj h).symm

/-- A file that was written can be written again. -/
theorem Writable.put (h : f.Writable path) : (f.put path bytes).Writable path := by
  have hsame : ∀ parent ∈ above path, (f.put path bytes).isFile parent = f.isFile parent := by
    intro parent hparent
    obtain ⟨n, hn, rfl⟩ := List.mem_map.1 hparent
    have hne : path.take n ≠ path := by
      intro heq
      have hlength := congrArg List.length heq
      rw [List.length_take] at hlength
      have := List.mem_range.1 hn
      omega
    rw [isFile, lookup_put, if_neg hne, isFile]
  refine writable_iff.2 ⟨by simp [at?_put], List.any_eq_false.2 fun parent hparent => ?_⟩
  rw [hsame parent hparent]
  exact List.any_eq_false.1 (writable_iff.1 h).2 parent hparent

end Folder

/-! ### Formats -/

namespace Format

open Yaml (Node)

def IgnoresMarks (F : Format) : Prop :=
  ∀ nodes, Node.Apart nodes → F.write nodes = F.write (Node.ofValues (Node.values nodes))

theorem ignoresMarks_yaml : Format.yaml.IgnoresMarks := by
  intro nodes h
  change (Yaml.writeList nodes).map _ = (Yaml.writeList _).map _
  rw [Yaml.writeList_of_apart h, Yaml.writeList_ofValues]

def Restores (F : Format) (mappings : List Entries) : Prop :=
  ∃ bytes mark nodes, F.write (Node.ofValues (mappings.map .mapping)) = .ok bytes ∧
    F.read bytes = .ok (.list mark nodes) ∧
    Node.values nodes = mappings.map .mapping ∧ Node.Apart nodes

end Format

namespace Yaml

def listChars (nodes : List Node) : Except Fault (List Char) := do
  let survey ← Writer.survey Writer.maxDepth (.list none nodes) ⟨[], []⟩
  let sheet := Writer.putItems survey.anchors 0 nodes ⟨Page.empty, []⟩
  pure (if nodes.isEmpty then ['[', ']', '\n'] else (sheet.page.indentTo 0).written.reverse)

theorem writeList_eq_map (nodes : List Node) :
    writeList nodes = (listChars nodes).map String.ofList := by
  unfold writeList listChars
  cases Writer.survey Writer.maxDepth (.list none nodes) ⟨[], []⟩ with
  | error e => rfl
  | ok survey => cases nodes <;> rfl

/-- What is read of a text depends on its characters alone. -/
theorem readBytes_toUTF8 (cs : List Char) :
    readBytes (String.ofList cs).toUTF8 = readText (normalLines cs) := by
  have hdecoded : String.fromUTF8? (String.ofList cs).toUTF8 = some (String.ofList cs) :=
    dif_pos (String.ofList cs).isValidUTF8
  rw [readBytes, hdecoded]
  exact congrArg (fun cs => readText (normalLines cs)) String.toList_ofList

def restores (mappings : List Entries) : Bool :=
  match listChars (Node.ofValues (mappings.map .mapping)) with
  | .error _ => false
  | .ok cs =>
    match readText (normalLines cs) with
    | .ok (.list _ nodes) =>
      decide (Node.values nodes = mappings.map .mapping) && decide (Node.marksOfItems nodes).Nodup
    | _ => false

end Yaml

theorem Format.restores_yaml {mappings : List Entries} (h : Yaml.restores mappings = true) :
    Format.yaml.Restores mappings := by
  unfold Yaml.restores at h
  split at h
  · cases h
  · rename_i cs hchars
    split at h
    · rename_i mark nodes hread
      rw [Bool.and_eq_true, decide_eq_true_iff, decide_eq_true_iff] at h
      have hwrite : Format.yaml.write (Yaml.Node.ofValues (mappings.map .mapping)) =
          .ok (String.ofList cs).toUTF8 := by
        change (Yaml.writeList _).map _ = _
        rw [Yaml.writeList_eq_map, hchars]
        rfl
      exact ⟨_, mark, nodes, hwrite, (Yaml.readBytes_toUTF8 cs).trans hread, h⟩
    · cases h

namespace FileHub

open HubM (run_bind_of_error run_bind_of_ok run_get_bind run_ofExcept)
open StoredItem (hasIdText_of_fields idText_of_fields)
open Yaml (Node)

variable {h : FileHub} {f : Folder} {ks before after : List Kept} {k : Kept} {c : Config}
  {id : String}

/-- Items that are read of a file and that keep some configs, each in a place of its own. -/
structure Reads (h : FileHub) (f : Folder) (items : List StoredItem) (ks : List Kept) : Prop where
  run : h.items.run f = (.ok items, f)
  fields : items.map StoredItem.fields = ks.map Kept.fields
  apart : Node.Apart (items.map StoredItem.node)

structure Keeps (h : FileHub) (f : Folder) (ks : List Kept) : Prop where
  writable : f.Writable h.path
  reads : ∃ items, h.Reads f items ks

theorem run_items {bytes : ByteArray} {mark : Option Nat} {nodes : List Node}
    (hfile : f.at? h.path = some (.file bytes))
    (hread : h.format.read bytes = .ok (.list mark nodes)) :
    h.items.run f = (.ok (nodes.filterMap StoredItem.ofNode?), f) := by
  rw [items, run_get_bind]
  simp only [hfile, hread]
  rfl

def parsed (h : FileHub) (f : Folder) : Option (List Node) :=
  match f.at? h.path with
  | some (.file bytes) =>
    match h.format.read bytes with
    | .ok (.list _ nodes) => some nodes
    | _ => none
  | _ => none

theorem parsed_eq_some {nodes : List Node} : h.parsed f = some nodes ↔
    ∃ bytes mark, f.at? h.path = some (.file bytes) ∧
      h.format.read bytes = .ok (.list mark nodes) := by
  constructor
  · intro hparsed
    unfold parsed at hparsed
    split at hparsed
    · split at hparsed
      · obtain rfl := Option.some.inj hparsed
        exact ⟨_, _, ‹_›, ‹_›⟩
      · cases hparsed
    · cases hparsed
  · intro hbytes
    obtain ⟨bytes, mark, hfile, hread⟩ := hbytes
    simp only [parsed, hfile, hread]

theorem run_items_of_parsed {nodes : List Node} (hparsed : h.parsed f = some nodes) :
    h.items.run f = (.ok (nodes.filterMap StoredItem.ofNode?), f) := by
  obtain ⟨bytes, mark, hfile, hread⟩ := parsed_eq_some.1 hparsed
  exact run_items hfile hread

def alone : FileHub :=
  ⟨.yaml, ["automations.yaml"]⟩

def aloneFolder (text : String) : Folder :=
  ⟨[(alone.path, text.toUTF8)], []⟩

theorem run_store_of_unwritten {items : List StoredItem} {fault : Fault}
    (hwrite : h.format.write (items.map StoredItem.node) = .error fault) :
    (h.store items).run f = (.error (.fault fault), f) := by
  rw [store, hwrite]
  rfl

/-- Items that can be written are stored if the file can be; else all stays as it was. -/
theorem run_store {items : List StoredItem} {bytes : ByteArray}
    (hwrite : h.format.write (items.map StoredItem.node) = .ok bytes) :
    (∃ e, f.write h.path bytes = .error e ∧ (h.store items).run f = (.error e, f)) ∨
      ∃ g, f.write h.path bytes = .ok g ∧ (h.store items).run f = (.ok (), g) := by
  rw [store, hwrite, Except.mapError, run_bind_of_ok (run_ofExcept _ f), run_get_bind]
  cases f.write h.path bytes with
  | error e => exact .inl ⟨e, rfl, rfl⟩
  | ok g => exact .inr ⟨g, rfl, rfl⟩

theorem run_store_of_write {items : List StoredItem} {bytes : ByteArray} (hf : f.Writable h.path)
    (hwrite : h.format.write (items.map StoredItem.node) = .ok bytes) :
    (h.store items).run f = (.ok (), f.put h.path bytes) := by
  obtain ⟨e, hput, -⟩ | ⟨g, hput, hrun⟩ := run_store hwrite
  · cases (hf bytes).symm.trans hput
  · rw [hrun, Except.ok.inj (hput.symm.trans (hf bytes))]

/-- A file with what is written of some configs keeps them, if the format reads it again as it
was. -/
theorem keeps_of_written {bytes : ByteArray} (hrestores : h.format.Restores (ks.map Kept.fields))
    (hf : f.Writable h.path)
    (hwrite : h.format.write (Node.ofValues ((ks.map Kept.fields).map .mapping)) = .ok bytes)
    (hfile : f.at? h.path = some (.file bytes)) : h.Keeps f ks := by
  obtain ⟨bytes', mark, nodes, hwrite', hread, hvalues, hapart⟩ := hrestores
  obtain rfl := Except.ok.inj (hwrite'.symm.trans hwrite)
  obtain ⟨items, rfl, hfields⟩ := StoredItem.exists_items hvalues hapart
  refine ⟨hf, items, ?_, hfields, hapart⟩
  rw [run_items hfile hread, StoredItem.filterMap_node]

theorem keeps_store (hmarks : h.format.IgnoresMarks)
    (hrestores : h.format.Restores (ks.map Kept.fields)) (hf : f.Writable h.path)
    {items : List StoredItem} (hfields : items.map StoredItem.fields = ks.map Kept.fields)
    (hapart : Node.Apart (items.map StoredItem.node)) :
    ∃ g, (h.store items).run f = (.ok (), g) ∧ h.Keeps g ks := by
  obtain ⟨bytes, _, _, hwrite, -⟩ := id hrestores
  have hitems : h.format.write (items.map StoredItem.node) = .ok bytes := by
    rw [hmarks _ hapart, StoredItem.values_node, hfields, hwrite]
  exact ⟨_, run_store_of_write hf hitems, keeps_of_written hrestores hf.put hwrite Folder.at?_put⟩

/-! ### Looking for an id -/

def PassedOver (id : String) (items : List StoredItem) : Prop :=
  ∀ i ∈ items, i.hasIdText = true ∧ i.idText ≠ id

theorem find?_of_passedOver {items : List StoredItem} (hitems : PassedOver id items) :
    items.zipIdx.find? (fun entry => !entry.1.hasIdText || entry.1.idText == id) = none := by
  refine List.find?_eq_none.2 fun entry hentry => ?_
  obtain ⟨htext, hne⟩ := hitems entry.1 (List.fst_mem_of_mem_zipIdx hentry)
  simp [htext, hne]

theorem search_of_passedOver {items : List StoredItem} (hitems : PassedOver id items) :
    search items id = .ok none := by
  rw [search, find?_of_passedOver hitems]

/-- A search ends at the first item that has the id, or whose own id is not written out. -/
theorem search_of_first {first rest : List StoredItem} {i : StoredItem}
    (hfirst : PassedOver id first) (hi : i.hasIdText = true → i.idText = id) :
    search (first ++ i :: rest) id =
      if i.hasIdText then .ok (some (i, first.length)) else .error (.fault .badValue) := by
  have hends : (!i.hasIdText || i.idText == id) = true := by
    cases htext : i.hasIdText with
    | false => rfl
    | true => simpa using hi htext
  have hfound : (first ++ i :: rest).zipIdx.find?
      (fun entry => !entry.1.hasIdText || entry.1.idText == id) = some (i, first.length) := by
    rw [List.zipIdx_append, List.find?_append, find?_of_passedOver hfirst, List.zipIdx_cons,
      List.find?_cons_of_pos (by exact hends), Nat.zero_add, Option.none_or]
  rw [search, hfound]

/-- A search passes over all items, or over those before the one that it ends at. -/
theorem passedOver_cases (items : List StoredItem) (id : String) :
    PassedOver id items ∨ ∃ first i rest, items = first ++ i :: rest ∧ PassedOver id first ∧
      (i.hasIdText = true → i.idText = id) := by
  induction items with
  | nil => exact .inl nofun
  | cons i rest ih =>
    by_cases hi : i.hasIdText = true ∧ i.idText ≠ id
    · obtain hrest | ⟨first, j, others, rfl, hfirst, hj⟩ := ih
      · exact .inl (List.forall_mem_cons.2 ⟨hi, hrest⟩)
      · exact .inr ⟨i :: first, j, others, rfl, List.forall_mem_cons.2 ⟨hi, hfirst⟩, hj⟩
    · exact .inr ⟨[], i, rest, rfl, nofun, fun htext => by_contra fun hne => hi ⟨htext, hne⟩⟩

def MeetsEndless (id : String) (items : List StoredItem) : Prop :=
  ∃ first i rest, items = first ++ i :: rest ∧ PassedOver id first ∧ i.hasIdText = false

theorem search_of_endless {items : List StoredItem} (h : MeetsEndless id items) :
    search items id = .error (.fault .badValue) := by
  obtain ⟨first, i, rest, rfl, hfirst, htext⟩ := h
  rw [search_of_first hfirst (by simp [htext]), htext]
  rfl

/-- A search passes over all items, or finds the first one with the id, or cannot go on. -/
theorem search_cases (items : List StoredItem) (id : String) :
    PassedOver id items ∧ search items id = .ok none ∨
      (∃ first i rest, items = first ++ i :: rest ∧ PassedOver id first ∧ i.hasIdText = true ∧
        i.idText = id ∧ search items id = .ok (some (i, first.length))) ∨
      MeetsEndless id items ∧ search items id = .error (.fault .badValue) := by
  obtain hnone | ⟨first, i, rest, rfl, hfirst, hi⟩ := passedOver_cases items id
  · exact .inl ⟨hnone, search_of_passedOver hnone⟩
  · cases htext : i.hasIdText with
    | true =>
      refine .inr (.inl ⟨first, i, rest, rfl, hfirst, htext, hi htext, ?_⟩)
      rw [search_of_first hfirst hi, if_pos htext]
    | false =>
      have hends : MeetsEndless id (first ++ i :: rest) := ⟨first, i, rest, rfl, hfirst, htext⟩
      exact .inr (.inr ⟨hends, search_of_endless hends⟩)

theorem find_of_passedOver {items : List StoredItem} (hitems : PassedOver id items) :
    find items id = throw (.hub (.noAutomation id)) := by
  rw [find, search_of_passedOver hitems]
  rfl

theorem find_of_first {first rest : List StoredItem} {i : StoredItem}
    (hfirst : PassedOver id first) (htext : i.hasIdText = true) (hi : i.idText = id) :
    find (first ++ i :: rest) id = pure (i, first.length) := by
  rw [find, search_of_first hfirst fun _ => hi, if_pos htext]
  rfl

theorem passedOver_of_fields {items : List StoredItem}
    (hfields : items.map StoredItem.fields = ks.map Kept.fields)
    (hid : ∀ k ∈ ks, k.config.id ≠ id) : PassedOver id items := by
  intro i hi
  have hmem : i.fields ∈ ks.map Kept.fields := hfields ▸ List.mem_map_of_mem hi
  obtain ⟨k, hk, heq⟩ := List.mem_map.1 hmem
  rw [idText_of_fields heq.symm]
  exact ⟨hasIdText_of_fields heq.symm, hid k hk⟩

structure Finds (h : FileHub) (f : Folder) (before : List Kept) (k : Kept) (after : List Kept)
    (first : List StoredItem) (i : StoredItem) (rest : List StoredItem) : Prop where
  run : h.items.run f = (.ok (first ++ i :: rest), f)
  found : find (first ++ i :: rest) k.config.id = pure (i, first.length)
  left : first.map StoredItem.fields = before.map Kept.fields
  item : i.fields = k.fields
  right : rest.map StoredItem.fields = after.map Kept.fields
  apart : Node.Apart ((first ++ i :: rest).map StoredItem.node)

/-- The first config with an id is found. -/
theorem Keeps.exists_finds (hkeeps : h.Keeps f (before ++ k :: after))
    (hbefore : ∀ k' ∈ before, k'.config.id ≠ k.config.id) :
    ∃ first i rest, h.Finds f before k after first i rest := by
  obtain ⟨items, hreads⟩ := hkeeps.reads
  have hfields := hreads.fields
  rw [List.map_append, List.map_cons, List.map_eq_append_iff] at hfields
  obtain ⟨first, others, rfl, hfirst, hothers⟩ := hfields
  obtain ⟨i, rest, rfl, hi, hrest⟩ := List.map_eq_cons_iff.1 hothers
  exact ⟨first, i, rest, hreads.run,
    find_of_first (passedOver_of_fields hfirst hbefore) (hasIdText_of_fields hi)
      (idText_of_fields hi), hfirst, hi, hrest, hreads.apart⟩

/-! ### Operations -/

theorem listed {items : List StoredItem}
    (hfields : items.map StoredItem.fields = ks.map Kept.fields)
    (hnormal : ∀ k ∈ ks, k.config.IsNormal) (hnamed : ∀ k ∈ ks, k.config.id ≠ "") :
    (items.filter StoredItem.isListed).mapM StoredItem.read = .ok (ks.map Kept.automation) := by
  induction items generalizing ks with
  | nil =>
    rw [List.map_nil, eq_comm, List.map_eq_nil_iff] at hfields
    rw [hfields]
    rfl
  | cons i rest ih =>
    cases ks with
    | nil => cases hfields
    | cons k others =>
      rw [List.map_cons, List.map_cons, List.cons.injEq] at hfields
      have hk : k ∈ k :: others := List.mem_cons_self
      rw [List.filter_cons_of_pos (StoredItem.isListed_of_fields hfields.1 (hnamed k hk)),
        List.mapM_cons, StoredItem.read_of_fields hfields.1 (hnormal k hk),
        ih hfields.2 (fun k' hk' => hnormal k' (List.mem_cons_of_mem k hk'))
          fun k' hk' => hnamed k' (List.mem_cons_of_mem k hk')]
      rfl

theorem Keeps.run_list (hkeeps : h.Keeps f ks) (hnormal : ∀ k ∈ ks, k.config.IsNormal)
    (hnamed : ∀ k ∈ ks, k.config.id ≠ "") : h.list.run f = (.ok (ks.map Kept.automation), f) := by
  obtain ⟨items, hreads⟩ := hkeeps.reads
  rw [list, run_bind_of_ok hreads.run, listed hreads.fields hnormal hnamed]
  rfl

theorem Keeps.run_get (hkeeps : h.Keeps f (before ++ k :: after))
    (hbefore : ∀ k' ∈ before, k'.config.id ≠ k.config.id) (hk : k.config.IsNormal) :
    (h.get k.config.id).run f = (.ok k.automation, f) := by
  obtain ⟨first, i, rest, hfinds⟩ := hkeeps.exists_finds hbefore
  have hread : (ofExcept i.read : HubM Folder Automation).run f = (.ok k.automation, f) := by
    rw [StoredItem.read_of_fields hfinds.item hk]
    rfl
  rw [get, run_bind_of_ok hfinds.run, hfinds.found]
  exact hread

theorem Keeps.run_get_of_not_mem (hkeeps : h.Keeps f ks) (hid : ∀ k ∈ ks, k.config.id ≠ id) :
    (h.get id).run f = (.error (.hub (.noAutomation id)), f) := by
  obtain ⟨items, hreads⟩ := hkeeps.reads
  rw [get, run_bind_of_ok hreads.run, find_of_passedOver (passedOver_of_fields hreads.fields hid)]
  rfl

theorem Keeps.run_create (hmarks : h.format.IgnoresMarks)
    (hrestores : h.format.Restores ((ks ++ [Kept.mk c none]).map Kept.fields))
    (hkeeps : h.Keeps f ks)
    (hid : ∀ k ∈ ks, k.config.id ≠ c.id) :
    ∃ g, (h.create c).run f = (.ok c.id, g) ∧ h.Keeps g (ks ++ [⟨c, none⟩]) := by
  obtain ⟨items, hreads⟩ := hkeeps.reads
  have hnew : search items c.id = .ok none :=
    search_of_passedOver (passedOver_of_fields hreads.fields hid)
  have hfields : (items ++ [StoredItem.ofConfig c.id c]).map StoredItem.fields =
      (ks ++ [Kept.mk c none]).map Kept.fields := by
    rw [List.map_append, List.map_append, hreads.fields, List.map_singleton, List.map_singleton,
      StoredItem.fields_ofConfig]
  have hapart : Node.Apart ((items ++ [StoredItem.ofConfig c.id c]).map StoredItem.node) := by
    rw [List.map_append, List.map_singleton, Node.Apart, Node.marksOfItems_append,
      Node.marksOfItems, StoredItem.marks_ofConfig, Node.marksOfItems, List.append_nil,
      List.append_nil]
    exact hreads.apart
  obtain ⟨g, hstore, hg⟩ := keeps_store hmarks hrestores hkeeps.writable hfields hapart
  refine ⟨g, ?_, hg⟩
  rw [create, run_bind_of_ok hreads.run, hnew]
  exact run_bind_of_ok hstore _

def changeAt (h : FileHub) (id : String)
    (change : List StoredItem → StoredItem → Nat → List StoredItem) : HubM Folder Unit := do
  let items ← h.items
  let (i, position) ← find items id
  h.store (change items i position)

theorem update_eq (h : FileHub) (id : String) (c : Config) : h.update id c =
    h.changeAt id fun items i position => items.set position (i.replacing id c) :=
  rfl

theorem delete_eq (h : FileHub) (id : String) : h.delete id =
    h.changeAt id fun items _ position => items.eraseIdx position :=
  rfl

theorem setState_eq (h : FileHub) (id : String) (state : Value) : h.setState id state =
    h.changeAt id fun items i position =>
      StoredItem.setIn items i position StoredItem.stateKey (.ofValue state) :=
  rfl

theorem Keeps.run_changeAt (hmarks : h.format.IgnoresMarks)
    (hrestores : h.format.Restores (ks.map Kept.fields))
    (hkeeps : h.Keeps f (before ++ k :: after))
    (hbefore : ∀ k' ∈ before, k'.config.id ≠ k.config.id)
    {change : List StoredItem → StoredItem → Nat → List StoredItem}
    (hchange : ∀ first i rest, h.Finds f before k after first i rest →
      (change (first ++ i :: rest) i first.length).map StoredItem.fields = ks.map Kept.fields ∧
        Node.Apart ((change (first ++ i :: rest) i first.length).map StoredItem.node)) :
    ∃ g, (h.changeAt k.config.id change).run f = (.ok (), g) ∧ h.Keeps g ks := by
  obtain ⟨first, i, rest, hfinds⟩ := hkeeps.exists_finds hbefore
  obtain ⟨hfields, hapart⟩ := hchange first i rest hfinds
  obtain ⟨g, hstore, hg⟩ := keeps_store hmarks hrestores hkeeps.writable hfields hapart
  refine ⟨g, ?_, hg⟩
  rw [changeAt, run_bind_of_ok hfinds.run, hfinds.found]
  exact hstore

/-- An item takes the place of another one, and its marks are among those of the old one. -/
theorem Finds.replace {first rest : List StoredItem} {i : StoredItem}
    (hfinds : h.Finds f before k after first i rest) {new : StoredItem} {k' : Kept}
    (hnew : new.fields = k'.fields) (hmarks : (Node.marks new.node).Sublist (Node.marks i.node)) :
    (first ++ new :: rest).map StoredItem.fields = (before ++ k' :: after).map Kept.fields ∧
      Node.Apart ((first ++ new :: rest).map StoredItem.node) := by
  constructor
  · rw [List.map_append, List.map_cons, List.map_append, List.map_cons, hfinds.left, hnew,
      hfinds.right]
  · refine List.Nodup.sublist ?_ hfinds.apart
    rw [List.map_append, List.map_cons, List.map_append, List.map_cons,
      Node.marksOfItems_append, Node.marksOfItems, Node.marksOfItems_append, Node.marksOfItems]
    exact (hmarks.append_right _).append_left _

/-- A config is replaced; its flag stays. -/
theorem Keeps.run_update (hmarks : h.format.IgnoresMarks)
    (hrestores : h.format.Restores ((before ++ ⟨c, k.flag⟩ :: after).map Kept.fields))
    (hkeeps : h.Keeps f (before ++ k :: after))
    (hbefore : ∀ k' ∈ before, k'.config.id ≠ k.config.id) (hid : c.id = k.config.id) :
    ∃ g, (h.update k.config.id c).run f = (.ok (), g) ∧
      h.Keeps g (before ++ ⟨c, k.flag⟩ :: after) := by
  rw [update_eq]
  refine hkeeps.run_changeAt hmarks hrestores hbefore fun first i rest hfinds => ?_
  rw [StoredItem.set_middle, ← hid]
  exact hfinds.replace (StoredItem.fields_replacing hfinds.item c)
    (StoredItem.marks_replacing i _ c)

theorem Keeps.run_delete (hmarks : h.format.IgnoresMarks)
    (hrestores : h.format.Restores ((before ++ after).map Kept.fields))
    (hkeeps : h.Keeps f (before ++ k :: after))
    (hbefore : ∀ k' ∈ before, k'.config.id ≠ k.config.id) :
    ∃ g, (h.delete k.config.id).run f = (.ok (), g) ∧ h.Keeps g (before ++ after) := by
  rw [delete_eq]
  refine hkeeps.run_changeAt hmarks hrestores hbefore fun first i rest hfinds => ?_
  rw [StoredItem.eraseIdx_middle]
  constructor
  · rw [List.map_append, List.map_append, hfinds.left, hfinds.right]
  · refine List.Nodup.sublist ?_ hfinds.apart
    rw [List.map_append, List.map_append, List.map_cons, Node.marksOfItems_append,
      Node.marksOfItems_append, Node.marksOfItems]
    exact (List.sublist_append_right _ _).append_left _

/-- A flag is set; its config stays. -/
theorem Keeps.run_setState (hmarks : h.format.IgnoresMarks) {b : Bool}
    (hrestores : h.format.Restores ((before ++ ⟨k.config, some b⟩ :: after).map Kept.fields))
    (hkeeps : h.Keeps f (before ++ k :: after))
    (hbefore : ∀ k' ∈ before, k'.config.id ≠ k.config.id) :
    ∃ g, (h.setState k.config.id (.bool b)).run f = (.ok (), g) ∧
      h.Keeps g (before ++ ⟨k.config, some b⟩ :: after) := by
  rw [setState_eq]
  refine hkeeps.run_changeAt hmarks hrestores hbefore fun first i rest hfinds => ?_
  rw [StoredItem.setIn_of_apart hfinds.apart]
  refine hfinds.replace ?_ ?_
  · rw [StoredItem.fields_setEntry, hfinds.item, Node.value_ofValue, Kept.set_state]
  · have hnone : Node.marks (Node.ofValue (.bool b)) = [] := Node.marks_ofValue _
    exact (Node.marksOfEntries_setEntry hnone).append_left _

end FileHub

end HomePortal
