import HomePortal.Yaml.Node
import Mathlib.Data.List.Nodup
/-!
Data in its places: the marks that stand in it, and data of which every part stands in one place
only. There a change of one part leaves all others as they are.
-/

namespace HomePortal.Yaml

def Leaf.marks (l : Leaf) : List Nat :=
  l.mark.toList

namespace Node

mutual

def marks : Node → List Nat
  | leaf l => l.marks
  | list mark items => mark.toList ++ marksOfItems items
  | pair a b => marks a ++ marks b
  | set mark members => mark.toList ++ members.flatMap Leaf.marks
  | mapping mark entries => mark.toList ++ marksOfEntries entries
  | again mark _ => [mark, mark]

def marksOfItems : List Node → List Nat
  | [] => []
  | item :: rest => marks item ++ marksOfItems rest

def marksOfEntries : List (Leaf × Node) → List Nat
  | [] => []
  | (key, item) :: rest => key.marks ++ (marks item ++ marksOfEntries rest)

end

def Apart (nodes : List Node) : Prop :=
  (marksOfItems nodes).Nodup

theorem marksOfItems_append (xs ys : List Node) :
    marksOfItems (xs ++ ys) = marksOfItems xs ++ marksOfItems ys := by
  induction xs with
  | nil => rfl
  | cons x rest ih => rw [List.cons_append, marksOfItems, marksOfItems, ih, List.append_assoc]

theorem marksOfEntries_append (xs ys : List (Leaf × Node)) :
    marksOfEntries (xs ++ ys) = marksOfEntries xs ++ marksOfEntries ys := by
  induction xs with
  | nil => rfl
  | cons x rest ih =>
    obtain ⟨key, item⟩ := x
    simp only [List.cons_append, marksOfEntries, ih, List.append_assoc]

theorem values_eq_map (items : List Node) : values items = items.map value := by
  induction items with
  | nil => rfl
  | cons item rest ih => rw [values, ih, List.map_cons]

theorem values_append (xs ys : List Node) : values (xs ++ ys) = values xs ++ values ys := by
  rw [values_eq_map, values_eq_map, values_eq_map, List.map_append]

theorem valueEntries_eq_map (entries : List (Leaf × Node)) :
    valueEntries entries = entries.map fun entry => (entry.1.scalar, entry.2.value) := by
  induction entries with
  | nil => rfl
  | cons entry rest ih =>
    obtain ⟨key, item⟩ := entry
    rw [valueEntries, ih, List.map_cons]

/-! ### Data without marks -/

mutual

theorem value_ofValue (v : Value) : (ofValue v).value = v := by
  cases v with
  | scalar s => rfl
  | list items => rw [ofValue, value, values_ofValues items]
  | pair a b => rw [ofValue, value, value_ofValue a, value_ofValue b]
  | set members =>
    rw [ofValue, value, List.map_map]
    exact congrArg Value.set (List.map_id members)
  | mapping entries => rw [ofValue, value, valueEntries_ofEntries entries]

theorem values_ofValues (items : List Value) : values (ofValues items) = items := by
  cases items with
  | nil => rfl
  | cons item rest => rw [ofValues, values, value_ofValue item, values_ofValues rest]

theorem valueEntries_ofEntries (entries : List (Scalar × Value)) :
    valueEntries (ofEntries entries) = entries := by
  cases entries with
  | nil => rfl
  | cons entry rest =>
    obtain ⟨key, item⟩ := entry
    rw [ofEntries, valueEntries, value_ofValue item, valueEntries_ofEntries rest]
    rfl

end

mutual

theorem marks_ofValue (v : Value) : marks (ofValue v) = [] := by
  cases v with
  | scalar s => rfl
  | list items => rw [ofValue, marks, marksOfItems_ofValues items]; rfl
  | pair a b => rw [ofValue, marks, marks_ofValue a, marks_ofValue b]; rfl
  | set members => simp [ofValue, marks, Leaf.marks, Leaf.ofScalar]
  | mapping entries => rw [ofValue, marks, marksOfEntries_ofEntries entries]; rfl

theorem marksOfItems_ofValues (items : List Value) : marksOfItems (ofValues items) = [] := by
  cases items with
  | nil => rfl
  | cons item rest =>
    rw [ofValues, marksOfItems, marks_ofValue item, marksOfItems_ofValues rest]
    rfl

theorem marksOfEntries_ofEntries (entries : List (Scalar × Value)) :
    marksOfEntries (ofEntries entries) = [] := by
  cases entries with
  | nil => rfl
  | cons entry rest =>
    obtain ⟨key, item⟩ := entry
    rw [ofEntries, marksOfEntries, marks_ofValue item, marksOfEntries_ofEntries rest]
    rfl

end

theorem apart_ofValues (items : List Value) : Apart (ofValues items) := by
  rw [Apart, marksOfItems_ofValues]
  exact List.nodup_nil

/-! ### Changes -/

/-- A value under a text key of a mapping, among its data. -/
theorem valueEntries_setEntry (entries : List (Leaf × Node)) (name : String) (item : Node) :
    valueEntries (setEntry entries name item) = (valueEntries entries).set name item.value := by
  have hany : (valueEntries entries).has name = entries.any fun entry => entry.1.isText name := by
    rw [valueEntries_eq_map, Entries.has, List.any_map]
    rfl
  unfold setEntry Entries.set
  rw [hany]
  by_cases h : (entries.any fun entry => entry.1.isText name) = true
  · rw [if_pos h, if_pos h]
    simp only [valueEntries_eq_map, List.map_map]
    refine List.map_congr_left fun entry _ => ?_
    by_cases hkey : entry.1.scalar = .text name
    · simp [Leaf.isText, hkey]
    · simp [Leaf.isText, hkey]
  · rw [if_neg h, if_neg h]
    simp [valueEntries_eq_map, Leaf.ofScalar]

theorem get?_valueEntries (entries : List (Leaf × Node)) (name : String) :
    (valueEntries entries).get? name = (field? entries name).map value := by
  rw [Entries.get?, field?, valueEntries_eq_map, List.find?_map, Option.map_map, Option.map_map]
  rfl

theorem marks_of_field? {entries : List (Leaf × Node)} {name : String} {item : Node}
    (h : field? entries name = some item) : (marks item).Sublist (marksOfEntries entries) := by
  obtain ⟨⟨key, x⟩, hfind, rfl⟩ := Option.map_eq_some_iff.1 h
  obtain ⟨before, after, rfl⟩ := List.append_of_mem (List.mem_of_find?_eq_some hfind)
  rw [marksOfEntries_append, marksOfEntries]
  exact ((List.sublist_append_left _ _).trans (List.sublist_append_right _ _)).trans
    (List.sublist_append_right _ _)

/-- A value under a new key comes last. -/
theorem setEntry_of_new {entries : List (Leaf × Node)} {name : String}
    (h : (entries.any fun entry => entry.1.isText name) = false) (item : Node) :
    setEntry entries name item = entries ++ [(.ofScalar (.text name), item)] := by
  rw [setEntry, h]
  rfl

/-- What an entry is set to brings its marks, and the old one takes its own away. -/
theorem marksOfEntries_setEntry {entries : List (Leaf × Node)} {name : String} {item : Node}
    (hitem : marks item = []) :
    (marksOfEntries (setEntry entries name item)).Sublist (marksOfEntries entries) := by
  have hmap : ∀ old : List (Leaf × Node), (marksOfEntries (old.map fun entry =>
      if entry.1.isText name then (entry.1, item) else entry)).Sublist (marksOfEntries old) := by
    intro old
    induction old with
    | nil => exact .slnil
    | cons entry rest ih =>
      obtain ⟨key, x⟩ := entry
      rw [List.map_cons]
      by_cases hkey : key.isText name = true
      · simp only [hkey, if_true, marksOfEntries, hitem, List.nil_append]
        exact (ih.trans (List.sublist_append_right _ _)).append_left _
      · simp only [hkey, marksOfEntries]
        exact (ih.append_left _).append_left _
  unfold setEntry
  split
  · exact hmap entries
  · simp [marksOfEntries_append, marksOfEntries, hitem, Leaf.marks, Leaf.ofScalar]

mutual

/-- Where a mark does not stand, a change of what has it changes nothing. -/
theorem setMarked_of_not_mem {mark : Nat} (name : String) (item : Node) {n : Node}
    (h : mark ∉ marks n) : setMarked mark name item n = n := by
  cases n with
  | leaf l => rfl
  | list m items =>
    rw [marks, List.mem_append, not_or] at h
    rw [setMarked, setMarkedItems_of_not_mem name item h.2]
  | pair a b =>
    rw [marks, List.mem_append, not_or] at h
    rw [setMarked, setMarked_of_not_mem name item h.1, setMarked_of_not_mem name item h.2]
  | set m members => rfl
  | mapping m entries =>
    rw [marks, List.mem_append, not_or] at h
    have hm : m ≠ some mark := fun heq => h.1 (by simp [heq])
    rw [setMarked, setMarkedEntries_of_not_mem name item h.2]
    simp [hm]
  | again m isList => rfl

theorem setMarkedItems_of_not_mem {mark : Nat} (name : String) (item : Node) {items : List Node}
    (h : mark ∉ marksOfItems items) : setMarkedItems mark name item items = items := by
  cases items with
  | nil => rfl
  | cons x rest =>
    rw [marksOfItems, List.mem_append, not_or] at h
    rw [setMarkedItems, setMarked_of_not_mem name item h.1, setMarkedItems_of_not_mem name item h.2]

theorem setMarkedEntries_of_not_mem {mark : Nat} (name : String) (item : Node)
    {entries : List (Leaf × Node)} (h : mark ∉ marksOfEntries entries) :
    setMarkedEntries mark name item entries = entries := by
  cases entries with
  | nil => rfl
  | cons entry rest =>
    obtain ⟨key, x⟩ := entry
    rw [marksOfEntries, List.mem_append, List.mem_append, not_or, not_or] at h
    rw [setMarkedEntries, setMarked_of_not_mem name item h.2.1,
      setMarkedEntries_of_not_mem name item h.2.2]

end

theorem setMarkedItems_append (mark : Nat) (name : String) (item : Node) (xs ys : List Node) :
    setMarkedItems mark name item (xs ++ ys) =
      setMarkedItems mark name item xs ++ setMarkedItems mark name item ys := by
  induction xs with
  | nil => rfl
  | cons x rest ih => rw [List.cons_append, setMarkedItems, setMarkedItems, ih, List.cons_append]

end Node

end HomePortal.Yaml
