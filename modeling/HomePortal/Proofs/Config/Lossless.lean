import HomePortal.Proofs.Config.Normal
import HomePortal.Proofs.Config.Payload
import HomePortal.Proofs.Value.Text
/-!
What reading a config keeps. Its payload is read as the same config again, and each section holds
what stands under its key and what is new under its older key.
-/

namespace HomePortal

namespace Entries

inductive Gives (fields : Entries) (name : String) : List Value → Prop
  | missing (h : fields.get? name = none) : Gives fields name []
  | null (h : fields.get? name = some .null) : Gives fields name []
  | list {items : List Value} (h : fields.get? name = some (.list items)) : Gives fields name items
  | single {v : Value} (h : fields.get? name = some v) (hnull : v ≠ .null)
      (hlist : ∀ items, v ≠ .list items) : Gives fields name [v]

theorem gives_asList (fields : Entries) (name : String) :
    fields.Gives name ((fields.get? name).getD .null).asList := by
  cases hget : fields.get? name with
  | none => exact .missing hget
  | some v =>
    cases v with
    | scalar s =>
      cases s with
      | null => exact .null hget
      | _ => exact .single hget (by simp) (by simp)
    | list items => exact .list hget
    | _ => exact .single hget (by simp) (by simp)

end Entries

namespace Config

/-- The older items that equal no current one, in their order. -/
inductive NewItems (current : List Value) : List Value → List Value → Prop
  | nil : NewItems current [] []
  | kept {v : Value} {older new : List Value} (hnew : ∀ w ∈ current, v.same w = false)
      (hrest : NewItems current older new) : NewItems current (v :: older) (v :: new)
  | leftOut {v w : Value} {older new : List Value} (hw : w ∈ current) (hsame : v.same w = true)
      (hrest : NewItems current older new) : NewItems current (v :: older) new

theorem newItems_filter (current older : List Value) :
    NewItems current older (older.filter fun item => !current.any item.same) := by
  induction older with
  | nil => exact .nil
  | cons v older ih =>
    cases hany : current.any v.same with
    | true =>
      obtain ⟨w, hw, hsame⟩ := List.any_eq_true.1 hany
      rw [List.filter_cons_of_neg (by simp [hany])]
      exact .leftOut hw hsame ih
    | false =>
      rw [List.filter_cons_of_pos (by simp [hany])]
      exact .kept (fun w hw => by simpa using List.any_eq_false.1 hany w hw) ih

namespace NewItems

variable {current older new : List Value} {v : Value}

theorem sublist (h : NewItems current older new) : new.Sublist older := by
  induction h with
  | nil => exact .slnil
  | kept _ _ ih => exact ih.cons_cons _
  | leftOut _ _ _ ih => exact ih.cons _

/-- An older item that is left out has its equal among the current ones. -/
theorem matches_of_mem (h : NewItems current older new) (hv : v ∈ older) :
    ∃ w ∈ current ++ new, v.Matches w := by
  induction h with
  | nil => exact absurd hv List.not_mem_nil
  | @kept first _ new _ _ ih =>
    obtain rfl | hv := List.mem_cons.1 hv
    · exact ⟨v, List.mem_append_right _ List.mem_cons_self, .inl rfl⟩
    · obtain ⟨w, hw, hmatch⟩ := ih hv
      exact ⟨w, ((List.sublist_cons_self first new).append_left current).mem hw, hmatch⟩
  | leftOut hw hsame _ ih =>
    obtain rfl | hv := List.mem_cons.1 hv
    · exact ⟨_, List.mem_append_left _ hw, .inr hsame⟩
    · exact ih hv

end NewItems

def Part.key : Part → String
  | triggers => "triggers"
  | conditions => "conditions"
  | actions => "actions"

def Part.olderKey : Part → String
  | triggers => "trigger"
  | conditions => "condition"
  | actions => "action"

theorem items_eq_sectionItems (fields : Entries) (part : Part) :
    (ofEntries fields).items part = sectionItems fields part.key part.olderKey := by
  cases part <;> rfl

/-- A config that is read is read again from its payload, and each of its sections is what the key of
the section gives, followed by what is new under the older key. So what stands under either key is in
the section, if for its equal, and there is nothing else in it. -/
theorem read_lossless {fields : Entries} {c : Config}
    (hread : Config.read (.mapping fields) = .valid c) :
    Config.read (.record c.payload) = .valid c ∧
    ∀ part : Part, ∃ current older new,
      fields.Gives part.key current ∧ fields.Gives part.olderKey older ∧
      NewItems current older new ∧ c.items part = current ++ new ∧
      (∀ v ∈ current ++ older, ∃ w ∈ c.items part, v.Matches w) ∧
      ∀ w ∈ c.items part, w ∈ current ++ older := by
  obtain ⟨-, rfl⟩ := read_eq_valid.1 hread
  refine ⟨read_eq_valid.2 ⟨hasLabels_payload _, ofEntries_stored (isNormal_ofEntries fields)⟩,
    fun part => ?_⟩
  have hnew := newItems_filter ((fields.get? part.key).getD .null).asList
    ((fields.get? part.olderKey).getD .null).asList
  have hitems := items_eq_sectionItems fields part
  refine ⟨_, _, _, fields.gives_asList _, fields.gives_asList _, hnew, hitems, ?_, ?_⟩
  · intro v hv
    rw [hitems]
    obtain hv | hv := List.mem_append.1 hv
    · exact ⟨v, List.mem_append_left _ hv, .inl rfl⟩
    · exact hnew.matches_of_mem hv
  · intro w hw
    rw [hitems] at hw
    exact (hnew.sublist.append_left _).mem hw

def cellar : Entries :=
  [(.text "id", .text " cellar"), (.text "alias", .int 7),
    (.text "triggers", .list [.float .namedNan]), (.text "trigger", .list [.float .namedNan, .null]),
    (.text "condition", .null), (.text "action", .record [("scene", .text "scene.night")])]

theorem read_lossless_cellar : ∃ c, Config.read (.mapping cellar) = .valid c ∧
    c = ⟨"cellar", "7", none, "single", [.float .namedNan, .null], [],
      [.record [("scene", .text "scene.night")]]⟩ ∧
    Config.read (.record c.payload) = .valid c := by
  have hread : Config.read (.mapping cellar) = .valid (ofEntries cellar) := by
    refine read_eq_valid.2 ⟨fun name hname n hget => ?_, rfl⟩
    simp only [List.mem_cons, List.not_mem_nil, or_false] at hname
    obtain rfl | rfl := hname
    · cases Option.some.inj hget
    · obtain rfl : 7 = n := by simpa using Option.some.inj hget
      exact Scalar.hasText_of_lt (by decide)
  exact ⟨ofEntries cellar, hread, by rfl, (read_lossless hread).1⟩

end Config

end HomePortal
