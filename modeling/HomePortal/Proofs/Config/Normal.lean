import HomePortal.Draft.Compile
import HomePortal.Proofs.Config.Id
import HomePortal.Proofs.Config.Payload
import HomePortal.Proofs.Draft.Expression
import HomePortal.Proofs.Draft.Reading
import HomePortal.Proofs.Text.Folded
import Mathlib.Data.List.DropRight
/-!
Configs in normal form: those that are read, and those that drafts are compiled to. Such a config
is read again from what is stored for it.
-/

namespace HomePortal

namespace Text

/-- What has no blanks at its ends stays as it is. -/
theorem stripChars_stripChars (p : Char → Bool) (cs : List Char) :
    stripChars p (stripChars p cs) = stripChars p cs := by
  have hstrip (l : List Char) : stripChars p l = (l.dropWhile p).rdropWhile p := rfl
  -- The front is looked at first, and nothing is dropped there for what is dropped at the end.
  have hfront : (stripChars p cs).dropWhile p = stripChars p cs := by
    rw [hstrip, List.dropWhile_eq_self_iff]
    intro hpos
    rw [(List.rdropWhile_prefix p _).getElem hpos]
    exact List.dropWhile_eq_self_iff.1 (List.dropWhile_idempotent p cs) _
  rw [hstrip (stripChars p cs), hfront, hstrip, List.rdropWhile_idempotent]

theorem trim_trim (s : String) : trim (trim s) = trim s := by
  rw [trim, trim, String.toList_ofList, trimChars, trimChars, stripChars_stripChars]

theorem trim_eq_self {s : String} (h : ∀ c ∈ s.toList, isBlank c = false) : trim s = s := by
  rw [trim, trimChars, stripChars_eq_self h, String.ofList_toList]

end Text

/-- Ids that are kept or minted have no blanks. -/
theorem AutomationId.trim_of_reduce? {raw id : String} (h : reduce? raw = some id) :
    Text.trim id = id := by
  refine Text.trim_eq_self fun c hc => ?_
  have hplain := isPlain_of_reduce? h c hc
  have hascii : Text.isPlain c = true → Text.isBlank c = false :=
    Text.forall_ascii (P := fun c => Text.isPlain c = true → Text.isBlank c = false) (by decide)
      (Text.toNat_lt_of_isAsciiWord (Text.isAsciiWord_of_isPlain hplain))
  exact hascii hplain

namespace Config

structure IsNormal (c : Config) : Prop where
  id : Text.trim c.id = c.id
  title : Text.trim c.title = c.title
  mode : c.mode ≠ ""

theorem trim_label (v : Option Value) : Text.trim (label v) = label v := by
  unfold label
  split
  · exact Text.trim_trim _
  · refine Text.trim_eq_self fun c hc => ?_
    cases Item.mem_toString_int hc with
    | inl hdigit =>
      have hascii : c.toNat < 128 := Text.toNat_lt_of_isAsciiWord (by
        simp [Text.isAsciiWord, Char.isAlphanum, hdigit])
      exact Text.forall_ascii (P := fun c => c.isDigit = true → Text.isBlank c = false) (by decide)
        hascii hdigit
    | inr hsign => rw [hsign]; decide
  · rename_i b
    cases b <;> decide
  · decide

theorem isNormal_ofEntries (fields : Entries) : (ofEntries fields).IsNormal := by
  refine ⟨trim_label _, trim_label _, ?_⟩
  change ((text? (fields.get? "mode")).filter (· != "")).getD "single" ≠ ""
  cases hmode : (text? (fields.get? "mode")).filter (· != "") with
  | none => decide
  | some mode =>
    obtain ⟨-, hne⟩ := Option.filter_eq_some_iff.1 hmode
    simpa using hne

def stored (c : Config) : Entries :=
  c.payload.map fun field => (.text field.1, field.2)

def keys : List String :=
  ["id", "alias", "description", "mode", "triggers", "trigger", "conditions", "condition",
    "actions", "action"]

theorem ofEntries_congr {fields others : Entries}
    (h : ∀ name ∈ keys, fields.get? name = others.get? name) :
    ofEntries fields = ofEntries others := by
  have hsection {plural singular : String} (hplural : plural ∈ keys) (hsingular : singular ∈ keys) :
      sectionItems fields plural singular = sectionItems others plural singular := by
    rw [sectionItems, sectionItems, h plural hplural, h singular hsingular]
  unfold ofEntries
  rw [h "id" (by decide), h "alias" (by decide), h "description" (by decide), h "mode" (by decide),
    hsection (by decide) (by decide), hsection (by decide) (by decide),
    hsection (by decide) (by decide)]

/-- A config in normal form is what is read from its mapping. -/
theorem ofEntries_stored {c : Config} (h : c.IsNormal) : ofEntries c.stored = c := by
  obtain ⟨id, title, description, mode, triggers, conditions, actions⟩ := c
  have hid : label (some (.text id)) = id := h.id
  have htitle : label (some (.text title)) = title := h.title
  have hmode : ((text? (some (.text mode))).filter (· != "")).getD "single" = mode := by
    simp [text?, Option.filter_some, h.mode]
  rw [ofEntries, mk.injEq]
  refine ⟨hid, htitle, ?_, ?_, ?_, ?_, ?_⟩
  · cases description <;> rfl
  · cases description <;> exact hmode
  all_goals cases description <;> exact sectionItems_of_get? rfl rfl

end Config

/-- The config of a draft that was read is in normal form, and it has a title. -/
theorem Draft.isNormal_compile {raw : Value} {d : Draft} (h : Draft.read raw = .valid d)
    {id : String} (hid : Text.trim id = id) : (d.compile id).IsNormal ∧ d.title ≠ "" := by
  obtain ⟨fields, -, htitle, -⟩ := Draft.read_eq_valid.1 h
  obtain ⟨name, v, -, hread⟩ := Entries.required_eq_valid.1 htitle
  obtain ⟨s, -, hs⟩ := Checked.andThen_eq_valid.1 hread
  by_cases hempty : Text.trim s = ""
  · simp [hempty, Checked.refuse] at hs
  · have htrimmed : Text.trim s = d.title := by simpa [hempty] using hs
    have hmode : d.mode.name ≠ "" := by
      cases d.mode <;> decide
    rw [htrimmed] at hempty
    exact ⟨⟨hid, by rw [Draft.compile, ← htrimmed, Text.trim_trim], hmode⟩, hempty⟩

end HomePortal
