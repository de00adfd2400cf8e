import HomePortal.Proofs.Hub.Writing
import Mathlib.Data.List.Find
/-!
The ids of a hub in a file. An id is shown as a config reads it, and looked for as it is displayed;
the two agree on texts without blanks at their ends, on true and on numbers but zero.
-/

namespace HomePortal

/-! ### Displays -/

theorem Double.layout_ne_nil (digits : List Char) (point : Int) : layout digits point ≠ [] := by
  unfold layout
  split_ifs <;> simp

theorem Double.text_ne_empty (x : Double) : x.text ≠ "" := by
  unfold text
  dsimp only
  by_cases hnan : x.isNaN = true
  · rw [if_pos hnan]
    decide
  rw [if_neg hnan]
  by_cases hfinite : (!x.isFinite) = true
  · rw [if_pos hfinite]
    simp
  rw [if_neg hfinite]
  by_cases hzero : x.significand = 0
  · rw [if_pos hzero]
    simp
  · rw [if_neg hzero]
    simp [layout_ne_nil]

/-- Only the empty text is displayed as the empty text. -/
theorem Value.display_ne_empty {v : Value} (h : v ≠ .text "") : v.display ≠ "" := by
  cases v with
  | scalar s =>
    cases s with
    | null => decide
    | bool b => cases b <;> decide
    | int n =>
      cases n <;> simp [display, Scalar.display, Scalar.inner, toString, Int.repr, Nat.repr]
    | float x => exact x.text_ne_empty
    | text s => simpa [display, Scalar.display] using h
    | moment m =>
      cases hclock : m.clock <;>
        simp [display, Scalar.display, Moment.format, Moment.date, hclock]
    | bytes data => simp [display, Scalar.display, Scalar.inner, quotedBytes]
  | list items => simp [display, inner]
  | pair a b => simp [display, inner]
  | set members => cases members <;> simp [display, inner]
  | mapping entries => simp [display, inner]

/-! ### Plain ids -/

namespace StoredItem

variable {i : StoredItem}

/-- Missing ids, texts without blanks at their ends, true, and numbers but zero. -/
def HasPlainId (i : StoredItem) : Prop :=
  match i.fields.get? "id" with
  | none => True
  | some (.text s) => Text.trim s = s
  | some (.bool b) => b = true
  | some (.int n) => n ≠ 0
  | some _ => False

theorem id_automation (i : StoredItem) :
    i.automation.config.id = Config.label (i.fields.get? "id") :=
  rfl

/-- An id is plain if it is shown as it is looked for, and shown at all unless it is empty. -/
theorem hasPlainId_iff : i.HasPlainId ↔
    i.automation.config.id = i.idText ∧ (i.isListed = true ∨ i.idText = "") := by
  rw [id_automation, idText, isListed, HasPlainId]
  cases i.fields.get? "id" with
  | none => exact iff_of_true trivial ⟨rfl, .inr rfl⟩
  | some v =>
    rw [Option.map_some, Option.getD_some, Option.any_some]
    -- What is no text, number or truth value is shown as the empty text, and not looked for so.
    have hother (hv : v ≠ .text "") (hlabel : Config.label (some v) = "") :
        ¬(Config.label (some v) = v.display ∧ (v.isTruthy = true ∨ v.display = "")) :=
      fun hagree => Value.display_ne_empty hv (hagree.1.symm.trans hlabel)
    cases v with
    | scalar s =>
      cases s with
      | text s =>
        change Text.trim s = s ↔ Text.trim s = s ∧ ((s != "") = true ∨ s = "")
        simp [ne_or_eq]
      | bool b => cases b <;> decide
      | int n =>
        change n ≠ 0 ↔ n.repr = n.repr ∧ ((n != 0) = true ∨ n.repr = "")
        have hn : n.repr ≠ "" := @Value.display_ne_empty (.int n) (by simp)
        simp [hn]
      | null | float | moment | bytes => exact iff_of_false id (hother (by simp) rfl)
    | list | pair | set | mapping => exact iff_of_false id (hother (by simp) rfl)

theorem hasPlainId_of_empty (h : i.idText = "") : i.HasPlainId := by
  unfold idText at h
  unfold HasPlainId
  cases hid : i.fields.get? "id" with
  | none => trivial
  | some v =>
    rw [hid, Option.map_some, Option.getD_some] at h
    have hv : v = .text "" := by_contra fun hne => Value.display_ne_empty hne h
    subst hv
    decide

instance : Decidable i.HasPlainId :=
  decidable_of_iff _ hasPlainId_iff.symm

end StoredItem

/-! ### What ids lead to -/

namespace FileHub

open HubM (run_bind_of_ok run_ofExcept)
open StoredItem (Flawless setIn stateKey)
open Yaml (Node)

variable {h : FileHub} {f : Folder} {items : List StoredItem} {id : String}

/-- Either no item has the id, or one is the first that has it. -/
theorem cases_of_hasIdText (htexts : ∀ i ∈ items, i.hasIdText = true) (id : String) :
    PassedOver id items ∨ ∃ first i rest, items = first ++ i :: rest ∧ PassedOver id first ∧
      i.hasIdText = true ∧ i.idText = id := by
  obtain hnone | ⟨first, i, rest, rfl, hfirst, hi⟩ := passedOver_cases items id
  · exact .inl hnone
  · have htext := htexts i (List.mem_append_right _ List.mem_cons_self)
    exact .inr ⟨first, i, rest, rfl, hfirst, htext, hi htext⟩

theorem run_get (hitems : h.items.run f = (.ok items, f))
    (htexts : ∀ i ∈ items, i.hasIdText = true) : (h.get id).run f =
      (match items.find? fun i => i.idText == id with
        | some i => i.read
        | none => .error (.hub (.noAutomation id)), f) := by
  rw [get, run_bind_of_ok hitems]
  obtain hnone | ⟨first, i, rest, rfl, hfirst, htext, hi⟩ := cases_of_hasIdText htexts id
  · have hfind : items.find? (fun i => i.idText == id) = none :=
      List.find?_eq_none.2 fun i hi => by simpa using (hnone i hi).2
    rw [find_of_passedOver hnone, hfind]
    rfl
  · have hfind : first.find? (fun i => i.idText == id) = none :=
      List.find?_eq_none.2 fun j hj => by simpa using (hfirst j hj).2
    rw [find_of_first hfirst htext hi, List.find?_append, hfind, Option.none_or,
      List.find?_cons_of_pos (by simpa using hi)]
    exact run_ofExcept i.read f

theorem run_changeAt_of_passedOver (hitems : h.items.run f = (.ok items, f))
    (hid : PassedOver id items)
    (change : List StoredItem → StoredItem → Nat → List StoredItem) :
    (h.changeAt id change).run f = (.error (.hub (.noAutomation id)), f) := by
  rw [changeAt, run_bind_of_ok hitems, find_of_passedOver hid]
  rfl

theorem run_changeAt_of_first {first rest : List StoredItem} {i : StoredItem} {bytes : ByteArray}
    (hitems : h.items.run f = (.ok (first ++ i :: rest), f)) (hf : f.Writable h.path)
    (hfirst : PassedOver id first) (htext : i.hasIdText = true) (hi : i.idText = id)
    {change : List StoredItem → StoredItem → Nat → List StoredItem}
    (hwrite : h.format.write ((change (first ++ i :: rest) i first.length).map StoredItem.node) =
      .ok bytes) : (h.changeAt id change).run f = (.ok (), f.put h.path bytes) := by
  rw [changeAt, run_bind_of_ok hitems, find_of_first hfirst htext hi]
  exact run_store_of_write hf hwrite

def shown (items : List StoredItem) : List Automation :=
  (items.filter StoredItem.isListed).map StoredItem.automation

theorem mapM_read_eq_ok {items : List StoredItem} {automations : List Automation} :
    items.mapM StoredItem.read = .ok automations ↔
      (∀ i ∈ items, Config.HasLabels i.fields) ∧ items.map StoredItem.automation = automations := by
  rw [mapM_eq_ok]
  induction items generalizing automations with
  | nil => simp [eq_comm]
  | cons i rest ih =>
    cases automations with
    | nil => simp
    | cons a others =>
      simp only [List.map_cons, List.cons.injEq, List.forall_mem_cons]
      rw [StoredItem.read_eq_ok, ih, and_and_and_comm]

theorem run_list_eq_ok {automations : List Automation} (hitems : h.items.run f = (.ok items, f)) :
    h.list.run f = (.ok automations, f) ↔
      (∀ i ∈ items, i.isListed = true → Config.HasLabels i.fields) ∧ shown items = automations := by
  rw [list, run_bind_of_ok hitems, run_ofExcept, Prod.mk.injEq, and_iff_left rfl, mapM_read_eq_ok]
  simp only [List.mem_filter, and_imp]
  exact Iff.rfl

theorem find?_shown (items : List StoredItem) (id : String) :
    (shown items).find? (fun a => a.config.id == id) =
      (items.find? fun i => i.isListed && i.automation.config.id == id).map
        StoredItem.automation := by
  rw [shown, List.find?_map, List.find?_filter]
  simp only [Function.comp_def, Bool.decide_and, Bool.decide_eq_true]

/-- An id leads to the first of some automations that has it, and to nothing if none of them
has it. The item that is removed or switched is the one that is listed as this automation, and what
is left is written if it is without flaws. -/
structure Reaches (h : FileHub) (f : Folder) (automations : List Automation) (id : String) :
    Prop where
  get : (h.get id).run f =
    (match automations.find? fun a => a.config.id == id with
      | some a => .ok a
      | none => .error (.hub (.noAutomation id)), f)
  present : ∀ a, automations.find? (fun a => a.config.id == id) = some a → ∃ first i rest,
    h.items.run f = (.ok (first ++ i :: rest), f) ∧ i.isListed = true ∧ i.automation = a ∧
      (f.Writable h.path →
        (Flawless (first ++ rest) → ∃ bytes,
          h.format.write ((first ++ rest).map StoredItem.node) = .ok bytes ∧
            (h.delete id).run f = (.ok (), f.put h.path bytes)) ∧
        (Flawless (first ++ i :: rest) → ∀ b, ∃ bytes,
          h.format.write ((setIn (first ++ i :: rest) i first.length stateKey
            (.ofValue (.bool b))).map StoredItem.node) = .ok bytes ∧
              (h.setState id (.bool b)).run f = (.ok (), f.put h.path bytes)))
  absent : (∀ a ∈ automations, a.config.id ≠ id) →
    (h.delete id).run f = (.error (.hub (.noAutomation id)), f) ∧
      (∀ c, (h.update id c).run f = (.error (.hub (.noAutomation id)), f)) ∧
      ∀ b, (h.setState id (.bool b)).run f = (.error (.hub (.noAutomation id)), f)

/-- An id leads to something if an automation has it. -/
theorem Reaches.isSome_get {automations : List Automation} (hreaches : h.Reaches f automations id) :
    ((h.get id).run f).1.toOption.isSome = (automations.map fun a => a.config.id).contains id := by
  rw [hreaches.get, Bool.eq_iff_iff, List.contains_iff_mem, List.mem_map]
  cases hfound : automations.find? fun a => a.config.id == id with
  | none =>
    refine iff_of_false nofun fun hid => ?_
    obtain ⟨a, ha, heq⟩ := hid
    exact List.find?_eq_none.1 hfound a ha (beq_iff_eq.2 heq)
  | some a =>
    have heq := List.find?_some hfound
    exact iff_of_true rfl ⟨a, List.mem_of_find?_eq_some hfound, beq_iff_eq.1 heq⟩

theorem mem_shown {a : Automation} :
    a ∈ shown items ↔ ∃ i ∈ items, i.isListed = true ∧ i.automation = a := by
  simp only [shown, List.mem_map, List.mem_filter, and_assoc]

/-- The item under an id is removed or switched, if what is left can be written. -/
theorem run_changes_of_first {first rest : List StoredItem} {i : StoredItem}
    (hwrites : h.format.WritesFlawless) (hitems : h.items.run f = (.ok (first ++ i :: rest), f))
    (hf : f.Writable h.path) (hfirst : PassedOver id first) (htext : i.hasIdText = true)
    (hid : i.idText = id) :
    (Flawless (first ++ rest) → ∃ bytes,
      h.format.write ((first ++ rest).map StoredItem.node) = .ok bytes ∧
        (h.delete id).run f = (.ok (), f.put h.path bytes)) ∧
    (Flawless (first ++ i :: rest) → ∀ b, ∃ bytes,
      h.format.write ((setIn (first ++ i :: rest) i first.length stateKey
        (.ofValue (.bool b))).map StoredItem.node) = .ok bytes ∧
          (h.setState id (.bool b)).run f = (.ok (), f.put h.path bytes)) := by
  refine ⟨fun hflawless => ?_, fun hflawless b => ?_⟩
  · obtain ⟨bytes, hwrite⟩ := hflawless.exists_write hwrites
    refine ⟨bytes, hwrite, ?_⟩
    rw [delete_eq]
    refine run_changeAt_of_first hitems hf hfirst htext hid ?_
    rwa [StoredItem.eraseIdx_middle]
  · have hi : i ∈ first ++ i :: rest := List.mem_append_right _ List.mem_cons_self
    obtain ⟨bytes, hwrite⟩ := (hflawless.setIn hi first.length b).exists_write hwrites
    refine ⟨bytes, hwrite, ?_⟩
    rw [setState_eq]
    exact run_changeAt_of_first hitems hf hfirst htext hid hwrite

theorem listed_iff_of_plain (hid : id ≠ "")
    (hplain : ∀ i ∈ items, i.idText = id ∨ i.automation.config.id = id → i.HasPlainId)
    {i : StoredItem} (hi : i ∈ items) :
    (i.isListed = true ∧ i.automation.config.id = id) ↔ i.idText = id := by
  constructor
  · intro h
    exact (StoredItem.hasPlainId_iff.1 (hplain i hi (.inr h.2))).1.symm.trans h.2
  · intro heq
    obtain ⟨hlabel, hlisted⟩ := StoredItem.hasPlainId_iff.1 (hplain i hi (.inl heq))
    exact ⟨hlisted.resolve_right (heq ▸ hid), hlabel.trans heq⟩

theorem reaches_of_plain (hwrites : h.format.WritesFlawless)
    (hitems : h.items.run f = (.ok items, f)) (htexts : ∀ i ∈ items, i.hasIdText = true)
    (hlabels : ∀ i ∈ items, i.isListed = true → Config.HasLabels i.fields) (hid : id ≠ "")
    (hplain : ∀ i ∈ items, i.idText = id ∨ i.automation.config.id = id → i.HasPlainId) :
    h.Reaches f (shown items) id := by
  have hagree := fun i hi => listed_iff_of_plain (i := i) hid hplain hi
  have hfind : (shown items).find? (fun a => a.config.id == id) =
      (items.find? fun i => i.idText == id).map StoredItem.automation := by
    rw [find?_shown]
    refine congrArg (Option.map _) (List.find?_congr fun i hi => ?_)
    rw [Bool.eq_iff_iff, Bool.and_eq_true, beq_iff_eq, beq_iff_eq]
    exact hagree i hi
  refine ⟨?_, fun a ha => ?_, fun habsent => ?_⟩
  · rw [run_get hitems htexts, hfind]
    cases hfound : items.find? fun i => i.idText == id with
    | none => rfl
    | some i =>
      have hi := List.mem_of_find?_eq_some hfound
      have heq : i.idText = id := by simpa using List.find?_some hfound
      have hread := hlabels i hi ((hagree i hi).2 heq).1
      exact congrArg (·, f) (StoredItem.read_eq_ok.2 ⟨hread, rfl⟩)
  · rw [hfind] at ha
    obtain ⟨i, hi, rfl⟩ := Option.map_eq_some_iff.1 ha
    obtain ⟨hid', first, rest, rfl, hfirst⟩ := List.find?_eq_some_iff_append.1 hi
    rw [beq_iff_eq] at hid'
    have hmem : i ∈ first ++ i :: rest := List.mem_append_right _ List.mem_cons_self
    have hothers : PassedOver id first := fun j hj =>
      ⟨htexts j (List.mem_append_left _ hj), by simpa using hfirst j hj⟩
    exact ⟨first, i, rest, hitems, ((hagree i hmem).2 hid').1, rfl, fun hf =>
      run_changes_of_first hwrites hitems hf hothers (htexts i hmem) hid'⟩
  · have hnone : PassedOver id items := by
      refine fun i hi => ⟨htexts i hi, fun heq => ?_⟩
      obtain ⟨hlisted, hlabel⟩ := (hagree i hi).2 heq
      exact habsent _ (mem_shown.2 ⟨i, hi, hlisted, rfl⟩) hlabel
    rw [delete_eq]
    simp only [update_eq, setState_eq]
    exact ⟨run_changeAt_of_passedOver hitems hnone _,
      fun c => run_changeAt_of_passedOver hitems hnone _,
      fun b => run_changeAt_of_passedOver hitems hnone _⟩

/-- What an id leads to has this id. So where equal ids are those of one item, an item that its id
leads to is the one that is shown under it. -/
theorem plain_of_reaches (hitems : h.items.run f = (.ok items, f))
    (htexts : ∀ i ∈ items, i.hasIdText = true)
    (hsame : ∀ i ∈ items, ∀ j ∈ items, i.idText = j.idText → i.idText ≠ "" → i = j)
    (hreaches : ∀ id, id ≠ "" → h.Reaches f (shown items) id) : ∀ i ∈ items, i.HasPlainId := by
  have hshown : ∀ i ∈ items, i.idText ≠ "" → i.automation.config.id = i.idText ∧
      ∃ j ∈ items, j.isListed = true ∧ j.automation.config.id = i.idText := by
    intro i hi hid
    have hget := (hreaches i.idText hid).get
    rw [run_get hitems htexts] at hget
    cases hfirst : items.find? fun j => j.idText == i.idText with
    | none =>
      have hne := List.find?_eq_none.1 hfirst i hi
      simp at hne
    | some j =>
      have hj := List.find?_some hfirst
      rw [beq_iff_eq] at hj
      obtain rfl := hsame i hi j (List.mem_of_find?_eq_some hfirst) hj.symm hid
      rw [hfirst] at hget
      have hread := (Prod.mk.inj hget).1
      cases hlist : (shown items).find? fun a => a.config.id == i.idText with
      | none =>
        rw [hlist] at hread
        obtain ⟨first, more, he⟩ := StoredItem.read_eq_error hread
        cases he
      | some a =>
        rw [hlist] at hread
        obtain ⟨-, rfl⟩ := StoredItem.read_eq_ok.1 hread
        have hlabel := List.find?_some hlist
        rw [beq_iff_eq] at hlabel
        obtain ⟨k, hk, hlisted, heq⟩ := mem_shown.1 (List.mem_of_find?_eq_some hlist)
        exact ⟨hlabel, k, hk, hlisted, heq ▸ hlabel⟩
  intro i hi
  by_cases hid : i.idText = ""
  · exact StoredItem.hasPlainId_of_empty hid
  obtain ⟨hlabel, j, hj, hlisted, heq⟩ := hshown i hi hid
  refine StoredItem.hasPlainId_iff.2 ⟨hlabel, .inl ?_⟩
  -- The item that is shown under this id has it too, and is thus the same one.
  have hj' : j.automation.config.id = j.idText := by
    by_cases hempty : j.idText = ""
    · exact (StoredItem.hasPlainId_iff.1 (StoredItem.hasPlainId_of_empty hempty)).1
    · exact (hshown j hj hempty).1
  rw [hsame i hi j hj (heq.symm.trans hj') hid]
  exact hlisted

def mixedIds : Folder :=
  aloneFolder "- id: hall\n- id: 5\n- id: true\n- alias: Spare\n"

def paddedIds : Folder :=
  aloneFolder "- id: \x27 hall \x27\n  alias: Hall\n- id:\n  alias: Spare\n"

end FileHub

end HomePortal
