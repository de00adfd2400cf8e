import HomePortal.Proofs.Value.Entries
import HomePortal.Proofs.Yaml.Writer
/-!
Data without flaws: it can be written, and all in it has a text. It stays so when a scalar is put
into some of its mappings.
-/

namespace HomePortal

theorem Scalar.flaw?_eq_none {s : Scalar} : s.flaw? = none ↔ s.hasText = true := by
  unfold flaw?
  split
  · exact iff_of_true rfl ‹_›
  · exact iff_of_false nofun ‹_›

namespace Value

variable {room : Nat} {v : Value} {items : List Value} {entries : Entries}

theorem within_eq_none {inside : Nat → Option Fault} :
    within room inside = none ↔ ∃ r, room = r + 1 ∧ inside r = none := by
  cases room with
  | zero => simp [within]
  | succ r => simp [within]

theorem flawOfItems?_eq_none :
    flawOfItems? room items = none ↔ ∀ v ∈ items, v.flaw? room = none := by
  induction items with
  | nil => simp [flawOfItems?]
  | cons v rest ih =>
    rw [flawOfItems?, Option.or_eq_none_iff, ih, List.forall_mem_cons]

theorem flawOfEntries?_eq_none : flawOfEntries? room entries = none ↔
    ∀ entry ∈ entries, entry.1.hasText = true ∧ entry.2.flaw? room = none := by
  induction entries with
  | nil => simp [flawOfEntries?]
  | cons entry rest ih =>
    rw [flawOfEntries?, Option.or_eq_none_iff, Option.or_eq_none_iff, ih, List.forall_mem_cons,
      Scalar.flaw?_eq_none, and_assoc]

theorem flawOfEntries?_set (h : flawOfEntries? room entries = none) (hv : v.flaw? room = none)
    (name : String) : flawOfEntries? room (Entries.set entries name v) = none := by
  rw [flawOfEntries?_eq_none] at h ⊢
  intro entry hmem
  obtain hold | rfl := Entries.mem_set hmem
  · exact h entry hold
  · exact ⟨rfl, hv⟩

mutual

theorem hasText_of_flaw? {v : Value} {room : Nat} (h : v.flaw? room = none) :
    v.hasText = true := by
  cases v with
  | scalar s => exact Scalar.flaw?_eq_none.1 h
  | list items =>
    obtain ⟨r, -, hitems⟩ := within_eq_none.1 h
    exact itemsHaveText_of_flaw? hitems
  | pair a b =>
    obtain ⟨r, -, hpair⟩ := within_eq_none.1 h
    obtain ⟨ha, hb⟩ := Option.or_eq_none_iff.1 hpair
    exact Bool.and_eq_true_iff.2 ⟨hasText_of_flaw? ha, hasText_of_flaw? hb⟩
  | set members =>
    obtain ⟨r, -, hmembers⟩ := within_eq_none.1 h
    rw [List.findSome?_eq_none_iff] at hmembers
    exact List.all_eq_true.2 fun s hs => Scalar.flaw?_eq_none.1 (hmembers s hs)
  | mapping entries =>
    obtain ⟨r, -, hentries⟩ := within_eq_none.1 h
    exact entriesHaveText_of_flaw? hentries

theorem itemsHaveText_of_flaw? {items : List Value} {room : Nat}
    (h : flawOfItems? room items = none) : itemsHaveText items = true := by
  cases items with
  | nil => rfl
  | cons item rest =>
    obtain ⟨hitem, hrest⟩ := Option.or_eq_none_iff.1 h
    exact Bool.and_eq_true_iff.2 ⟨hasText_of_flaw? hitem, itemsHaveText_of_flaw? hrest⟩

theorem entriesHaveText_of_flaw? {entries : List (Scalar × Value)} {room : Nat}
    (h : flawOfEntries? room entries = none) : entriesHaveText entries = true := by
  cases entries with
  | nil => rfl
  | cons entry rest =>
    obtain ⟨hkey, h⟩ := Option.or_eq_none_iff.1 h
    obtain ⟨hitem, hrest⟩ := Option.or_eq_none_iff.1 h
    exact Bool.and_eq_true_iff.2 ⟨Scalar.flaw?_eq_none.1 hkey,
      Bool.and_eq_true_iff.2 ⟨hasText_of_flaw? hitem, entriesHaveText_of_flaw? hrest⟩⟩

end

end Value

namespace Yaml.Node

open Value (flawOfItems? flawOfEntries? within_eq_none)

variable {mark : Nat} {name : String} {item : Node}

mutual

/-- A scalar that is put into some mappings brings no flaw but its own. -/
theorem flaw?_setMarked (hitem : ∀ room, item.value.flaw? room = none) {n : Node} {room : Nat}
    (h : n.value.flaw? room = none) : (setMarked mark name item n).value.flaw? room = none := by
  cases n with
  | leaf | set | again => exact h
  | list m items =>
    obtain ⟨r, rfl, hitems⟩ := within_eq_none.1 h
    exact flawOfItems?_setMarked hitem hitems
  | pair a b =>
    obtain ⟨r, rfl, hpair⟩ := within_eq_none.1 h
    obtain ⟨ha, hb⟩ := Option.or_eq_none_iff.1 hpair
    exact Option.or_eq_none_iff.2 ⟨flaw?_setMarked hitem ha, flaw?_setMarked hitem hb⟩
  | mapping m entries =>
    obtain ⟨r, rfl, hentries⟩ := within_eq_none.1 h
    have hinside := flawOfEntries?_setMarked hitem hentries
    have hset := Value.flawOfEntries?_set hinside (hitem r) name
    rw [← valueEntries_setEntry] at hset
    by_cases hm : (m == some mark) = true
    · rw [setMarked, if_pos hm]
      exact hset
    · rw [setMarked, if_neg hm]
      exact hinside

theorem flawOfItems?_setMarked (hitem : ∀ room, item.value.flaw? room = none) {items : List Node}
    {room : Nat} (h : flawOfItems? room (values items) = none) :
    flawOfItems? room (values (setMarkedItems mark name item items)) = none := by
  cases items with
  | nil => rfl
  | cons n rest =>
    obtain ⟨hn, hrest⟩ := Option.or_eq_none_iff.1 h
    exact Option.or_eq_none_iff.2
      ⟨flaw?_setMarked hitem hn, flawOfItems?_setMarked hitem hrest⟩

theorem flawOfEntries?_setMarked (hitem : ∀ room, item.value.flaw? room = none)
    {entries : List (Leaf × Node)} {room : Nat}
    (h : flawOfEntries? room (valueEntries entries) = none) :
    flawOfEntries? room (valueEntries (setMarkedEntries mark name item entries)) = none := by
  cases entries with
  | nil => rfl
  | cons entry rest =>
    obtain ⟨hkey, h⟩ := Option.or_eq_none_iff.1 h
    obtain ⟨hn, hrest⟩ := Option.or_eq_none_iff.1 h
    exact Option.or_eq_none_iff.2 ⟨hkey, Option.or_eq_none_iff.2
      ⟨flaw?_setMarked hitem hn, flawOfEntries?_setMarked hitem hrest⟩⟩

end

end Yaml.Node

end HomePortal
