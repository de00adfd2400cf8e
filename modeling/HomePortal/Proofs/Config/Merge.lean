import HomePortal.Proofs.Config.Order
import HomePortal.Proofs.Config.Payload
import HomePortal.Proofs.Value.Meaning
/-!
Sections that are given under their older keys as well. An older item that equals a current one is
left out, but no walk tells equal values apart. So a config refers to what stands under the current
keys and to what stands under the older ones, and nothing is hidden.
-/

namespace HomePortal

theorem Scalar.word_eq_of_same {a b : Scalar} (h : a.same b = true) :
    (Value.scalar a).word = (Value.scalar b).word := by
  cases a with
  | null =>
    cases b with
    | null => rfl
    | _ => simp [Scalar.same, quantity?] at h
  | text s =>
    obtain rfl := Scalar.eq_of_same_text h
    rfl
  | _ =>
    cases b with
    | null => cases Scalar.eq_of_same_null h
    | text t => cases Scalar.eq_of_text_same h
    | _ => rfl

theorem Scalar.knownAlike_of_same {key key' : Scalar} (h : key'.same key = true) :
    key.KnownAlike key' := by
  intro name _
  constructor
  · intro heq
    subst heq
    exact eq_of_text_same h
  · intro heq
    subst heq
    exact eq_of_same_text h

namespace Value

/-- No walk tells equal values apart. -/
theorem alike_of_same {v w : Value} (h : v.same w = true) (hv : v.KeysDiffer)
    (hw : w.KeysDiffer) : v.Alike w := by
  induction v using treeInduction generalizing w with
  | scalar a =>
    cases w with
    | scalar b => exact .scalar (Scalar.word_eq_of_same h) (Scalar.isTruthy_of_same h)
    | _ => cases h
  | list xs ih =>
    cases w with
    | list ys =>
      have hitems := forall₂_of_sameItems h
      refine .list (fun x hx => ?_) fun y hy => ?_
      · obtain ⟨y, hy, hxy⟩ := exists_of_forall₂ hitems hx
        exact ⟨y, hy, ih x hx hxy (KeysDiffer.list_iff.1 hv x hx) (KeysDiffer.list_iff.1 hw y hy)⟩
      · obtain ⟨x, hx, hxy⟩ := exists_of_forall₂ hitems.flip hy
        exact ⟨x, hx, ih x hx hxy (KeysDiffer.list_iff.1 hv x hx) (KeysDiffer.list_iff.1 hw y hy)⟩
    | _ => cases h
  | pair a b =>
    cases w with
    | pair c d => exact .pair a b c d
    | _ => cases h
  | set xs =>
    cases w with
    | set ys =>
      obtain ⟨hlength, -⟩ := Bool.and_eq_true_iff.1 h
      refine .set ?_
      rw [Bool.eq_iff_iff, List.isEmpty_iff_length_eq_zero, List.isEmpty_iff_length_eq_zero,
        beq_iff_eq.1 hlength]
    | _ => cases h
  | mapping xs ih =>
    cases w with
    | mapping ys =>
      obtain ⟨hxs, hx⟩ := KeysDiffer.mapping_iff.1 hv
      obtain ⟨hys, hy⟩ := KeysDiffer.mapping_iff.1 hw
      -- Equality looks for the entries of one mapping only; those of the other are found since there
      -- are as many of them and no two keys are equal.
      refine .mapping (.of_matches hxs.nodup_names hys.nodup_names (fun key x hmem => ?_)
        fun key' y hmem => ?_)
      · obtain ⟨key', y, hmem', hkey, hxy⟩ :=
          mem_of_sameEntries (Bool.and_eq_true_iff.1 h).2 hmem
        exact ⟨key', y, hmem', Scalar.knownAlike_of_same hkey,
          ih key x hmem hxy (hx key x hmem) (hy key' y hmem')⟩
      · obtain ⟨key, x, hmem', hkey, hxy⟩ := hxs.exists_same h hmem
        exact ⟨key, x, hmem', Scalar.knownAlike_of_same hkey,
          ih key x hmem' hxy (hx key x hmem') (hy key' y hmem)⟩
    | _ => cases h

end Value

namespace Entries

def only (fields : Entries) (names : List String) : Entries :=
  fields.filter fun entry => Finding.isKey names entry.1

variable {fields : Entries} {names : List String} {name : String}

theorem get?_only (h : name ∈ names) : (fields.only names).get? name = fields.get? name := by
  have hkey (entry : Scalar × Value) :
      (Finding.isKey names entry.1 = true ∧ (entry.1 == .text name) = true) ↔
        (entry.1 == .text name) = true := by
    refine and_iff_right_of_imp fun heq => ?_
    rw [beq_iff_eq.1 heq]
    exact Finding.isKey_iff.2 ⟨name, h, rfl⟩
  rw [only, get?, get?, List.find?_filter]
  simp only [hkey, Bool.decide_eq_true]

theorem get?_only_eq_none (h : name ∉ names) : (fields.only names).get? name = none := by
  rw [only, get?, Option.map_eq_none_iff, List.find?_eq_none]
  intro entry hmem heq
  obtain ⟨other, hother, hkey⟩ := Finding.isKey_iff.1 (List.mem_filter.1 hmem).2
  obtain rfl : other = name := Scalar.text.inj (hkey.symm.trans (beq_iff_eq.1 heq))
  exact h hother

end Entries

namespace Config

def currentKeys : List String :=
  ["triggers", "conditions", "actions"]

def olderKeys : List String :=
  ["trigger", "condition", "action"]

variable {payload : Entries}

/-- With no older items, a section is what stands under its current key. -/
theorem sectionItems_of_none {plural singular : String} (h : payload.get? singular = none) :
    sectionItems payload plural singular = ((payload.get? plural).getD .null).asList := by
  rw [sectionItems, h]
  exact List.append_nil _

/-- With no current items, a section is what stands under its older key. -/
theorem sectionItems_of_older {plural singular : String} (h : payload.get? plural = none) :
    sectionItems payload plural singular = ((payload.get? singular).getD .null).asList := by
  rw [sectionItems, h]
  exact List.filter_eq_self.2 fun _ _ => rfl

/-- The items of a config are those under its current keys, and those under its older keys that
equal none of them. -/
theorem items_eq_append (payload : Entries) (part : Part) :
    (ofEntries payload).items part = (ofEntries (payload.only currentKeys)).items part ++
      ((ofEntries (payload.only olderKeys)).items part).filter fun item =>
        !((ofEntries (payload.only currentKeys)).items part).any item.same := by
  have hsection {plural singular : String} (hplural : plural ∈ currentKeys)
      (hsingular : singular ∈ olderKeys) (hplural' : plural ∉ olderKeys)
      (hsingular' : singular ∉ currentKeys) : sectionItems payload plural singular =
        sectionItems (payload.only currentKeys) plural singular ++
          (sectionItems (payload.only olderKeys) plural singular).filter fun item =>
            !(sectionItems (payload.only currentKeys) plural singular).any item.same := by
    rw [sectionItems_of_none (Entries.get?_only_eq_none hsingular'), Entries.get?_only hplural,
      sectionItems_of_older (Entries.get?_only_eq_none hplural'), Entries.get?_only hsingular]
    rfl
  cases part <;> exact hsection (by decide) (by decide) (by decide) (by decide)

theorem keysDiffer_of_mem_items (h : (Value.mapping payload).KeysDiffer) {part : Part} {v : Value}
    (hv : v ∈ (ofEntries payload).items part) : v.KeysDiffer := by
  obtain ⟨_, -, w, hmem, hv⟩ := exists_of_mem_items hv
  exact ((Value.KeysDiffer.mapping_iff.1 h).2 _ w hmem).of_mem_asList hv

theorem keysDiffer_only (h : (Value.mapping payload).KeysDiffer) (names : List String) :
    (Value.mapping (payload.only names)).KeysDiffer := by
  obtain ⟨hkeys, hvalues⟩ := Value.KeysDiffer.mapping_iff.1 h
  refine .mapping (List.Pairwise.filter _ hkeys) fun key v hv => ?_
  exact hvalues key v (List.mem_filter.1 hv).1

theorem hasLabels_only (payload : Entries) {names : List String} (hid : "id" ∉ names)
    (halias : "alias" ∉ names) : HasLabels (payload.only names) := by
  intro name hname n hget
  simp only [List.mem_cons, List.not_mem_nil, or_false] at hname
  obtain rfl | rfl := hname
  · rw [Entries.get?_only_eq_none hid] at hget
    cases hget
  · rw [Entries.get?_only_eq_none halias] at hget
    cases hget

/-- A config refers to what the items under its current keys and those under its older keys refer
to. Nothing would change if the items were kept that it leaves out. -/
theorem references_merged {payload : Entries} {c : Config}
    (hread : Config.read (.mapping payload) = .valid c) (h : (Value.mapping payload).KeysDiffer) :
    ∃ current older, Config.read (.mapping (payload.only currentKeys)) = .valid current ∧
      Config.read (.mapping (payload.only olderKeys)) = .valid older ∧
      c.references = current.references.union older.references ∧
      (current.append older).references = c.references := by
  obtain ⟨-, rfl⟩ := read_eq_valid.1 hread
  refine ⟨ofEntries (payload.only currentKeys), ofEntries (payload.only olderKeys),
    read_eq_valid.2 ⟨hasLabels_only payload (by decide) (by decide), rfl⟩,
    read_eq_valid.2 ⟨hasLabels_only payload (by decide) (by decide), rfl⟩, ?_⟩
  rw [references_append]
  refine (and_iff_left_of_imp Eq.symm).2 (references_eq_union fun part f => ?_)
  have hcurrent : ∀ v ∈ (ofEntries (payload.only currentKeys)).items part, v.KeysDiffer :=
    fun v hv => keysDiffer_of_mem_items (keysDiffer_only h currentKeys) hv
  have holder : ∀ v ∈ (ofEntries (payload.only olderKeys)).items part, v.KeysDiffer :=
    fun v hv => keysDiffer_of_mem_items (keysDiffer_only h olderKeys) hv
  rw [items_eq_append]
  generalize (ofEntries (payload.only currentKeys)).items part = current at hcurrent ⊢
  generalize (ofEntries (payload.only olderKeys)).items part = older at holder ⊢
  simp only [Value.mem_walkItems, List.mem_append, List.mem_filter]
  constructor
  · intro ⟨v, hv, hf⟩
    exact hv.imp (fun hv => ⟨v, hv, hf⟩) fun hv => ⟨v, hv.1, hf⟩
  · intro hf
    obtain ⟨v, hv, hf⟩ | ⟨v, hv, hf⟩ := hf
    · exact ⟨v, .inl hv, hf⟩
    · by_cases hsame : current.any v.same = true
      · obtain ⟨w, hw, hvw⟩ := List.any_eq_true.1 hsame
        have halike := Value.alike_of_same hvw (holder v hv) (hcurrent w hw)
        exact ⟨w, .inl hw, (halike.walk _ f).1 hf⟩
      · exact ⟨v, .inr ⟨hv, by simp [hsame]⟩, hf⟩

def landing : Entries :=
  [(.text "alias", .text "Landing"),
    (.text "actions", .list [.record [("action", .text "light.turn_on"),
      ("entity_id", .text "light.landing"), ("enabled", .bool true)]]),
    (.text "action", .list [.record [("entity_id", .text "light.landing"), ("enabled", .int 1),
      ("action", .text "light.turn_on")], .record [("scene", .text "scene.night")]])]

theorem keysDiffer_landing : (Value.mapping landing).KeysDiffer := by
  simp [landing, Value.record, Entries.KeysDiffer, Scalar.same, or_imp, forall_and]

theorem references_merged_landing : Config.read (.mapping landing) = .valid (ofEntries landing) ∧
    (Value.mapping landing).KeysDiffer ∧
    (ofEntries landing).actions.length = 2 ∧
    (ofEntries landing).references.actions = EntitySet.ofList ["light.landing", "scene.night"] ∧
    (ofEntries landing).references = (ofEntries (landing.only currentKeys)).references.union
      (ofEntries (landing.only olderKeys)).references := by
  have hread : Config.read (.mapping landing) = .valid (ofEntries landing) := rfl
  refine ⟨hread, keysDiffer_landing, by decide +kernel, by decide +kernel, ?_⟩
  obtain ⟨current, older, hcurrent, holder, hunion, -⟩ :=
    references_merged hread keysDiffer_landing
  obtain ⟨-, rfl⟩ := read_eq_valid.1 hcurrent
  obtain ⟨-, rfl⟩ := read_eq_valid.1 holder
  exact hunion

end Config

end HomePortal
