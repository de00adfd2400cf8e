import HomePortal.Config.Id
import HomePortal.Proofs.Text.Ascii
/-!
Which ids can be kept or minted, and which stay as they are.
-/

namespace HomePortal.AutomationId

theorem isSome_reduce? {raw : String} :
    (reduce? raw).isSome = true ↔ ∃ c ∈ raw.toList, Text.isAsciiWord c = true := by
  unfold reduce?
  dsimp only
  split
  · rename_i h
    rw [List.isEmpty_iff, List.map_eq_nil_iff, List.filter_eq_nil_iff] at h
    simp only [Option.isSome_none, Bool.false_eq_true, false_iff, not_exists, not_and]
    exact h
  · rename_i h
    rw [List.isEmpty_iff, List.map_eq_nil_iff, List.filter_eq_nil_iff] at h
    simpa using h

theorem reduce?_eq_some {raw id : String} : reduce? raw = some id ↔
    id ≠ "" ∧ id.toList = (raw.toList.filter Text.isAsciiWord).map Char.toLower := by
  have hself : String.ofList ((raw.toList.filter Text.isAsciiWord).map Char.toLower) = id ↔
      id.toList = (raw.toList.filter Text.isAsciiWord).map Char.toLower := by
    rw [← String.toList_inj, String.toList_ofList, eq_comm]
  unfold reduce?
  dsimp only
  split
  · rename_i h
    rw [List.isEmpty_iff] at h
    simp [h]
  · rename_i h
    rw [List.isEmpty_iff] at h
    rw [Option.some.injEq, hself]
    refine ⟨fun heq => ⟨fun hempty => h ?_, heq⟩, And.right⟩
    rw [← heq, hempty, String.toList_empty]

theorem isPlain_of_reduce? {raw id : String} (h : reduce? raw = some id) :
    ∀ c ∈ id.toList, Text.isPlain c = true := by
  intro c hc
  rw [(reduce?_eq_some.1 h).2] at hc
  obtain ⟨x, hx, rfl⟩ := List.mem_map.1 hc
  exact Text.isPlain_toLower (List.mem_filter.1 hx).2

/-- Ids of small letters, digits and underscores stay as they are. -/
theorem reduce?_eq_self {id : String} :
    reduce? id = some id ↔ id ≠ "" ∧ ∀ c ∈ id.toList, Text.isPlain c = true := by
  constructor
  · intro h
    exact ⟨(reduce?_eq_some.1 h).1, isPlain_of_reduce? h⟩
  · intro h
    obtain ⟨hne, hplain⟩ := h
    refine reduce?_eq_some.2 ⟨hne, ?_⟩
    have hfilter : id.toList.filter Text.isAsciiWord = id.toList :=
      List.filter_eq_self.2 fun c hc => (Text.isPlain_iff.1 (hplain c hc)).1
    have hlower : id.toList.map Char.toLower = id.toList.map (fun c => c) :=
      List.map_congr_left fun c hc => (Text.isPlain_iff.1 (hplain c hc)).2
    rw [hfilter, hlower, List.map_id']

/-- An id that was reduced once stays as it is. -/
theorem reduce?_of_reduce? {raw id : String} (h : reduce? raw = some id) : reduce? id = some id :=
  reduce?_eq_self.2 ⟨(reduce?_eq_some.1 h).1, isPlain_of_reduce? h⟩

theorem kept?_of_ne {id : String} (h : id ≠ "") : kept? (some id) = some id := by
  simp [kept?, h]

/-- A new id always has an underscore to keep. -/
theorem isSome_reduce?_minted (mark : String) (token : Nat) :
    (reduce? (minted mark token)).isSome = true := by
  refine isSome_reduce?.2 ⟨'_', ?_, by decide⟩
  simp [minted, String.toList_append]

/-- No id to keep, or one with a letter, a digit or an underscore of ASCII. -/
def IsUsable (existing : Option String) : Prop :=
  ∀ s ∈ existing, s = "" ∨ ∃ c ∈ s.toList, Text.isAsciiWord c = true

theorem isSome_choose? {existing : Option String} (h : IsUsable existing) (mark : String)
    (token : Nat) : (choose? existing mark token).isSome = true := by
  unfold choose?
  cases hkept : kept? existing with
  | none => exact isSome_reduce?_minted mark token
  | some s =>
    obtain ⟨hs, hne⟩ := Option.filter_eq_some_iff.1 hkept
    obtain rfl | hword := h s hs
    · exact absurd hne (by decide)
    · exact isSome_reduce?.2 hword

end HomePortal.AutomationId
