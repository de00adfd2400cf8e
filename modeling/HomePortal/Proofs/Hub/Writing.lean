import HomePortal.Proofs.Hub.Change
import HomePortal.Proofs.Value.Text
import HomePortal.Proofs.Yaml.Flaw
/-!
Items that can be written. The numbers in them are written out, so they have ids and labels; and they
can be written when one of them is switched.
-/

namespace HomePortal

def Format.WritesFlawless (F : Format) : Prop :=
  ∀ nodes, (Value.list (Yaml.Node.values nodes)).flaw? Yaml.Writer.maxDepth = none →
    ∃ bytes, F.write nodes = .ok bytes

theorem Format.writesFlawless_yaml : Format.yaml.WritesFlawless := by
  intro nodes h
  obtain ⟨text, htext⟩ := Yaml.exists_writeList h
  exact ⟨text.toUTF8, congrArg (Except.map String.toUTF8) htext⟩

namespace StoredItem

open Value (flawOfEntries? flawOfItems?_eq_none within_eq_none)
open Yaml (Node)

variable {i : StoredItem} {items : List StoredItem}

def Flawless (items : List StoredItem) : Prop :=
  (Value.list (Node.values (items.map node))).flaw? Yaml.Writer.maxDepth = none

instance : Decidable (Flawless items) :=
  inferInstanceAs (Decidable (_ = none))

theorem Flawless.exists_write {F : Format} (h : Flawless items) (hwrites : F.WritesFlawless) :
    ∃ bytes, F.write (items.map node) = .ok bytes :=
  hwrites (items.map node) h

def room : Nat :=
  Yaml.Writer.maxDepth - 2

theorem flawless_iff :
    Flawless items ↔ ∀ i ∈ items, flawOfEntries? room i.fields = none := by
  change Value.flawOfItems? (room + 1) (Node.values (items.map node)) = none ↔ _
  rw [values_node, flawOfItems?_eq_none, List.forall_mem_map, List.forall_mem_map]
  exact Iff.rfl

theorem flawless_of_subset {others : List StoredItem} (h : Flawless items)
    (hothers : ∀ i ∈ others, i ∈ items) : Flawless others :=
  flawless_iff.2 fun i hi => flawless_iff.1 h i (hothers i hi)

theorem hasText_of_get? (h : flawOfEntries? room i.fields = none) {name : String} {v : Value}
    (hget : i.fields.get? name = some v) : v.hasText = true :=
  Value.hasText_of_flaw? (Value.flawOfEntries?_eq_none.1 h _ (Entries.mem_of_get? hget)).2

theorem Flawless.hasIdText (h : Flawless items) (hi : i ∈ items) : i.hasIdText = true := by
  unfold StoredItem.hasIdText
  cases hget : i.fields.get? "id" with
  | none => rfl
  | some v => exact hasText_of_get? (flawless_iff.1 h i hi) hget

theorem Flawless.hasLabels (h : Flawless items) (hi : i ∈ items) : Config.HasLabels i.fields := by
  intro name _ n hget
  have htext := hasText_of_get? (flawless_iff.1 h i hi) hget
  rwa [Value.hasText_scalar] at htext

/-- An item can be switched, wherever it stands. -/
theorem Flawless.setIn (h : Flawless items) (hi : i ∈ items) (position : Nat) (b : Bool) :
    Flawless (setIn items i position stateKey (.ofValue (.bool b))) := by
  have hvalue (room : Nat) : (Node.ofValue (.bool b)).value.flaw? room = none := by
    cases b <;> rfl
  unfold StoredItem.setIn
  split
  · rename_i mark _
    have hnodes : Value.flawOfItems? (room + 1) (Node.values (Node.setMarkedItems mark stateKey
        (Node.ofValue (.bool b)) (items.map node))) = none :=
      Node.flawOfItems?_setMarked hvalue h
    rw [flawOfItems?_eq_none, Node.values_eq_map, List.forall_mem_map] at hnodes
    refine flawless_iff.2 fun j hj => ?_
    obtain ⟨n, hn, hitem⟩ := List.mem_filterMap.1 hj
    cases n with
    | mapping mark entries =>
      obtain rfl := Option.some.inj hitem
      exact hnodes _ hn
    | _ => cases hitem
  · refine flawless_iff.2 fun j hj => ?_
    obtain hold | rfl := List.mem_or_eq_of_mem_set hj
    · exact flawless_iff.1 h j hold
    · rw [fields_setEntry]
      exact Value.flawOfEntries?_set (flawless_iff.1 h i hi) (hvalue room) _

end StoredItem

def Config.Flawless (c : Config) : Prop :=
  Value.flawOfEntries? StoredItem.room c.stored = none

namespace HubWrite

open StoredItem (Flawless exists_of_changeFirst flawless_iff flawless_of_subset room)

variable {w : HubWrite} {items new : List StoredItem} {c : Config}

theorem flawOfEntries?_stored (h : c.Flawless) (id : String) :
    Value.flawOfEntries? room (Config.stored { c with id }) = none := by
  obtain ⟨old, title, description, mode, triggers, conditions, actions⟩ := c
  cases description <;> exact h

/-- Items that can be written can be written after a write of a config that can be. -/
theorem flawless_of_written (hwritten : w.written items = some new) (hitems : Flawless items)
    (hconfig : ∀ c ∈ w.config?, c.Flawless) : Flawless new := by
  cases w with
  | create c =>
    rw [written, Option.ite_none_left_eq_some] at hwritten
    obtain rfl := Option.some.inj hwritten.2
    rw [flawless_iff, List.forall_mem_append, List.forall_mem_singleton,
      StoredItem.fields_ofConfig_eq]
    exact ⟨flawless_iff.1 hitems, flawOfEntries?_stored (hconfig c rfl) c.id⟩
  | update id c =>
    rw [written] at hwritten
    obtain ⟨first, i, rest, rfl, -, -, -, rfl⟩ := exists_of_changeFirst hwritten
    have hall := flawless_iff.1 hitems
    have hi := hall i (List.mem_append_right _ List.mem_cons_self)
    have hnew : Value.flawOfEntries? room (i.replacing id c).fields = none := by
      rw [StoredItem.fields_replacing_eq, Entries.replacedBy]
      have hstored := flawOfEntries?_stored (hconfig c rfl) id
      cases hstate : i.fields.get? StoredItem.stateKey with
      | none => exact hstored
      | some state =>
        have hflaw := Value.flawOfEntries?_eq_none.1 hi _ (Entries.mem_of_get? hstate)
        exact Value.flawOfEntries?_set hstored hflaw.2 _
    refine flawless_iff.2 fun j hj => ?_
    obtain hold | rfl := List.mem_or_eq_of_mem_set hj
    · exact hall j hold
    · exact hnew
  | delete id =>
    rw [written] at hwritten
    obtain ⟨first, i, rest, rfl, -, -, -, rfl⟩ := exists_of_changeFirst hwritten
    exact flawless_of_subset hitems fun j hj => List.mem_of_mem_eraseIdx hj
  | setEnabled id b =>
    rw [written] at hwritten
    obtain ⟨first, i, rest, rfl, -, -, -, rfl⟩ := exists_of_changeFirst hwritten
    exact hitems.setIn (List.mem_append_right _ List.mem_cons_self) first.length b

end HubWrite

end HomePortal
