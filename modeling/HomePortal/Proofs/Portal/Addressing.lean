import HomePortal.Proofs.Portal.ScopeSafety
import HomePortal.Proofs.Portal.Writes
/-!
Which stored automation a call addresses. Removing and switching go by the id as it is given, and
replacing by what the id is reduced to.
-/

namespace HomePortal

namespace Memory

variable {m m' : Memory} {key other : String} {a b : Automation}

/-- What is found under one key may change, and nothing else does. -/
structure Changes (m : Memory) (key : String) (before : Automation) (after : Option Automation)
    (m' : Memory) : Prop where
  found : m.find? key = some before
  stored : m'.find? key = after
  others : ∀ other, other ≠ key → m'.find? other = m.find? other

def Replaces (m : Memory) (key : String) (c : Config) (m' : Memory) : Prop :=
  ∃ a b, m.Changes key a (some b) m' ∧ b.config = c

theorem changes_put (h : m.find? key = some a) : m.Changes key a (some b) (m.put key b) := by
  constructor
  · exact h
  · rw [find?_put, if_pos rfl]
  · intro other hother
    rw [find?_put, if_neg hother]

theorem changes_remove (h : m.find? key = some a) : m.Changes key a none (m.remove key) := by
  constructor
  · exact h
  · rw [find?_remove, if_pos rfl]
  · intro other hother
    rw [find?_remove, if_neg hother]

/-- A config that came under a key by a change has that key as its id, or was there before. -/
theorem Replaces.eq_of_changes {c : Config} {after : Option Automation} (hkeyed : m.IsKeyed)
    (h : m.Replaces key c m') (hchanges : m.Changes other a after m') (hc : c.id = other) :
    other = key := by
  obtain ⟨before, b, hb, hbc⟩ := h
  by_cases heq : key = other
  · exact heq.symm
  · have hfind : m.find? key = some b := by rw [← hchanges.others key heq, hb.stored]
    have hid := hkeyed.id_of_find? hfind
    rw [← hc, ← hbc, hid]

end Memory

namespace Portal

variable {p : Portal} {id i : String} {raw : Value} {scope : Scope}
  {devices : Option (List Device)} {s t : Session Memory}

theorem Accepts.reduce?_eq {token : Nat} {d : Draft} (hne : id ≠ "")
    (h : p.Accepts raw scope (some id) devices token d i) : AutomationId.reduce? id = some i := by
  have hchosen := h.chosen
  rwa [AutomationId.choose?, AutomationId.kept?_of_ne hne] at hchosen

/-- An update replaces the automation under the reduced id, and so the one it names exactly if
that is the id itself. Removing and switching address the id as it is given. -/
theorem update_addresses (hkeyed : s.hub.IsKeyed)
    (h : (p.update Memory.hub id raw scope devices).run s = (.ok i, t)) :
    AutomationId.reduce? id = some i ∧
    (∃ d a, readDraft raw = .ok d ∧
      s.hub.Changes i a (some ⟨a.entity, d.enabled.getD a.enabled, d.compile i⟩) t.hub ∧
      (s.hub.Replaces id (d.compile i) t.hub ↔ i = id)) ∧
    (i = id ↔ ∀ c ∈ id.toList, Text.isPlain c = true) ∧
    (∀ caller t', (delete Memory.hub id caller).run s = (.ok (), t') →
      ∃ a, s.hub.Changes id a none t'.hub) ∧
    ∀ caller enabled t', (setEnabled Memory.hub id enabled caller).run s = (.ok (), t') →
      ∃ a b, enabled = .bool b ∧ s.hub.Changes id a (some { a with enabled := b }) t'.hub := by
  obtain ⟨hne, d, a, haccepts, ha, -, rfl⟩ := run_update_eq_ok.1 h
  have hreduce := haccepts.reduce?_eq hne
  have hchanges : s.hub.Changes i a (some ⟨a.entity, d.enabled.getD a.enabled, d.compile i⟩)
      (s.hub.put i ⟨a.entity, d.enabled.getD a.enabled, d.compile i⟩) := Memory.changes_put ha
  refine ⟨hreduce, ⟨d, a, haccepts.read, hchanges, ?_⟩, ?_, ?_, ?_⟩
  · constructor
    · intro hreplaces
      exact hreplaces.eq_of_changes hkeyed hchanges rfl
    · intro heq
      subst heq
      exact ⟨a, _, hchanges, rfl⟩
  · constructor
    · intro heq
      subst heq
      exact AutomationId.isPlain_of_reduce? hreduce
    · intro hplain
      have hself := AutomationId.reduce?_eq_self.2 ⟨hne, hplain⟩
      exact Option.some.inj (hreduce.symm.trans hself)
  · intro caller t' hdelete
    obtain ⟨-, -, b, hb, -, rfl⟩ := run_delete_eq_ok.1 hdelete
    exact ⟨b, Memory.changes_remove hb⟩
  · intro caller enabled t' hset
    obtain ⟨-, -, flag, b, rfl, hb, -, rfl⟩ := run_setEnabled_eq_ok.1 hset
    exact ⟨b, flag, rfl, Memory.changes_put hb⟩

def evenings : Memory :=
  [("Evening", ⟨none, true, ⟨"Evening", "Lights on", none, "single", [], [],
      [Item.call "light" "turn_on" (.text "light.kitchen") []]⟩⟩),
    ("evening", ⟨none, true, ⟨"evening", "Lights off", none, "single", [], [],
      [Item.call "light" "turn_off" (.text "light.kitchen") []]⟩⟩)]

def eveningRequest : Value :=
  .record [("alias", .text "Evening light"),
    ("trigger", .record [("type", .text "schedule"), ("scheduleType", .text "daily"),
      ("at", .text "20:00")]),
    ("action", .record [("type", .text "turn_on"), ("entityId", .text "light.kitchen")])]

def eveningDraft : Draft where
  title := "Evening light"
  description := none
  mode := .single
  enabled := none
  trigger := .schedule ⟨.daily none none, ⟨['2', '0'], ['0', '0'], none⟩⟩
  action := .power .turnOn "light.kitchen"

def kitchenTenant : Scope :=
  ⟨.tenant, EntitySet.ofList ["light.kitchen"]⟩

theorem isKeyed_evenings : evenings.IsKeyed := by
  constructor
  · decide
  · intro key a h
    simp only [evenings, List.mem_cons, List.not_mem_nil, or_false, Prod.mk.injEq] at h
    obtain ⟨rfl, rfl⟩ | ⟨rfl, rfl⟩ := h <;> rfl

theorem readDraft_eveningRequest : readDraft eveningRequest = .ok eveningDraft :=
  rfl

/-- Both ids come to the same update. -/
theorem run_update_evenings {id : String} (hid : id = "Evening" ∨ id = "evening") :
    (standard.update Memory.hub id eveningRequest kitchenTenant none).run ⟨evenings, 0⟩ =
      (.ok "evening", ⟨evenings.put "evening" ⟨none, true, eveningDraft.compile "evening"⟩, 0⟩) := by
  have hchosen : AutomationId.choose? (some id) standard.mark 0 = some "evening" := by
    obtain rfl | rfl := hid <;> decide +kernel
  have hne : id ≠ "" := by
    obtain rfl | rfl := hid <;> decide
  have haccepts : standard.Accepts eveningRequest kitchenTenant (some id) none 0 eveningDraft
      "evening" := ⟨readDraft_eveningRequest, hchosen, by decide +kernel, nofun⟩
  exact run_update_eq_ok.2 ⟨hne, eveningDraft, _, haccepts, rfl, by decide +kernel, rfl⟩

theorem update_addresses_evening : evenings.IsKeyed ∧
    ∃ t, (standard.update Memory.hub "evening" eveningRequest kitchenTenant none).run
        ⟨evenings, 0⟩ = (.ok "evening", t) ∧
      evenings.Replaces "evening" (eveningDraft.compile "evening") t.hub := by
  have hrun := run_update_evenings (.inr rfl)
  refine ⟨isKeyed_evenings, _, hrun, ?_⟩
  obtain ⟨-, ⟨d, a, hread, -, hreplaces⟩, -⟩ := update_addresses isKeyed_evenings hrun
  obtain rfl := Except.ok.inj (readDraft_eveningRequest.symm.trans hread)
  exact hreplaces.2 rfl

/-- An update of one automation that replaces another. -/
theorem not_replaces_evening : ¬ ∀ (s t : Session Memory) (id i : String) (raw : Value)
    (scope : Scope) (devices : Option (List Device)) (d : Draft), s.hub.IsKeyed →
    (standard.update Memory.hub id raw scope devices).run s = (.ok i, t) →
    readDraft raw = .ok d → s.hub.Replaces id (d.compile i) t.hub := by
  intro hall
  obtain ⟨a, b, hchanges, hconfig⟩ := hall ⟨evenings, 0⟩ _ "Evening" _ _ _ _ _ isKeyed_evenings
    (run_update_evenings (.inl rfl)) readDraft_eveningRequest
  obtain rfl := Option.some.inj (hchanges.found.symm.trans hchanges.stored)
  obtain rfl := Option.some.inj (show some _ = some a from hchanges.found)
  exact absurd (congrArg Config.title hconfig) (by decide)

end Portal

end HomePortal
