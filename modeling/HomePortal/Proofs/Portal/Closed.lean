import HomePortal.Proofs.Draft.Overflow
import HomePortal.Proofs.Portal.Run
/-!
Reading a request fails closed: what is no draft is told what is wrong with it, in at least one
text, unless one of its numbers is too large to be looked at.
-/

namespace HomePortal

theorem DraftError.texts_ne_nil (e : DraftError) : e.texts ≠ [] := by
  cases e <;> simp [texts]

def Request.payload? : Request → Option Value
  | create raw _ | update _ raw _ | prepare raw _ _ => some raw
  | list _ | delete _ | setEnabled .. => none

namespace Portal

variable {σ : Type} {raw : Value}

def FailsClosed (raw : Value) : Prop :=
  (∃ d, readDraft raw = .ok d) ∨ ∃ e, readDraft raw = .error (.draft e) ∧ e.texts ≠ []

theorem readDraft_eq_overflow :
    readDraft raw = .error (.fault .overflow) ↔ Draft.HasHuge raw := by
  rw [← Draft.read_eq_overflow, readDraft]
  cases Draft.read raw <;> simp [Checked.orFail]

/-- There are three outcomes of reading data as a draft. -/
theorem readDraft_cases (raw : Value) : (∃ d, readDraft raw = .ok d) ∨
    (∃ e, readDraft raw = .error (.draft e)) ∨ readDraft raw = .error (.fault .overflow) := by
  rw [readDraft]
  cases Draft.read raw with
  | valid d => exact .inl ⟨d, rfl⟩
  | refused first more => exact .inr (.inl ⟨.invalid first more, rfl⟩)
  | overflow => exact .inr (.inr rfl)

/-- A request fails as its data does, before anything happens; an update without an id fails before
that. -/
theorem run_answer_of_error {e : Failure} (he : readDraft raw = .error e) {request : Request}
    (hraw : request.payload? = some raw) (p : Portal) (h : Hub σ) (scope : Scope) (s : Session σ) :
    (p.answer h scope request).run s = (.error e, s) ∨
      (p.answer h scope request).run s = (.error (.draft .missingId), s) := by
  have hprepare (existing : Option String) (devices : Option (List Device)) :
      (p.prepare raw scope existing devices).run s = (.error e, s) := by
    rw [run_prepare, he]
  cases request with
  | list | delete | setEnabled => cases hraw
  | create raw' devices =>
    obtain rfl := Option.some.inj hraw
    exact .inl (run_map_eq_error.2 (run_bind_of_error (hprepare none devices) _))
  | update id raw' devices =>
    obtain rfl := Option.some.inj hraw
    by_cases hid : id = ""
    · subst hid
      have hmissing : (requireId "" : PortalM σ Unit).run s = (.error (.draft .missingId), s) := rfl
      exact .inr (run_map_eq_error.2 (run_bind_of_error hmissing _))
    · have hid : (requireId id : PortalM σ Unit).run s = (.ok (), s) :=
        run_requireId_eq_ok.2 ⟨hid, rfl⟩
      refine .inl (run_map_eq_error.2 ((run_bind_of_ok hid _).trans ?_))
      exact run_bind_of_error (hprepare (some id) devices) _
  | prepare raw' existing devices =>
    obtain rfl := Option.some.inj hraw
    exact .inl (run_map_eq_error.2 (hprepare existing devices))

/-- Reading fails closed exactly where no number is too large. A request that brings bad data leaves
everything as it was and fails with at least one text; only with a number that is too large it fails
otherwise. -/
theorem failsClosed_iff (raw : Value) :
    (FailsClosed raw ↔ ¬ Draft.HasHuge raw) ∧
    ((∀ d, readDraft raw ≠ .ok d) →
      ∀ {σ : Type} (p : Portal) (h : Hub σ) (scope : Scope) (request : Request) (s : Session σ),
        request.payload? = some raw → ∃ e, (p.answer h scope request).run s = (.error e, s) ∧
          ((∃ shown : DraftError, e = .draft shown ∧ shown.texts ≠ []) ∨
            Draft.HasHuge raw ∧ e = .fault .overflow)) := by
  constructor
  · rw [← readDraft_eq_overflow]
    obtain ⟨d, hd⟩ | ⟨e, he⟩ | hoverflow := readDraft_cases raw
    · exact iff_of_true (.inl ⟨d, hd⟩) (by simp [hd])
    · exact iff_of_true (.inr ⟨e, he, e.texts_ne_nil⟩) (by simp [he])
    · refine iff_of_false ?_ (fun hnot => hnot hoverflow)
      rintro (⟨d, hd⟩ | ⟨e, he, -⟩)
      · simp [hoverflow] at hd
      · simp [hoverflow] at he
  · intro hbad σ p h scope request s hraw
    obtain ⟨d, hd⟩ | ⟨e, he⟩ | hoverflow := readDraft_cases raw
    · exact absurd hd (hbad d)
    · obtain hrun | hrun := run_answer_of_error he hraw p h scope s
      · exact ⟨_, hrun, .inl ⟨e, rfl, e.texts_ne_nil⟩⟩
      · exact ⟨_, hrun, .inl ⟨.missingId, rfl, DraftError.texts_ne_nil _⟩⟩
    · obtain hrun | hrun := run_answer_of_error hoverflow hraw p h scope s
      · exact ⟨_, hrun, .inr ⟨readDraft_eq_overflow.1 hoverflow, rfl⟩⟩
      · exact ⟨_, hrun, .inl ⟨.missingId, rfl, DraftError.texts_ne_nil _⟩⟩

def brightnessRequest (level : Value) : Value :=
  .record [("alias", .text "Evening"),
    ("trigger", .record [("type", .text "schedule"), ("scheduleType", .text "daily"),
      ("at", .text "20:00")]),
    ("action", .record [("type", .text "set_brightness"), ("entityId", .text "light.kitchen"),
      ("value", level)])]

theorem failsClosed_nan :
    (FailsClosed (brightnessRequest (.float .nan)) ↔
      ¬ Draft.HasHuge (brightnessRequest (.float .nan))) ∧
    (∀ d, readDraft (brightnessRequest (.float .nan)) ≠ .ok d) ∧
    ∀ {σ : Type} (p : Portal) (h : Hub σ) (scope : Scope) (s : Session σ), ∃ e,
      (p.answer h scope (.create (brightnessRequest (.float .nan)) none)).run s = (.error e, s) ∧
        ((∃ shown : DraftError, e = .draft shown ∧ shown.texts ≠ []) ∨
          Draft.HasHuge (brightnessRequest (.float .nan)) ∧ e = .fault .overflow) :=
  have hread : readDraft (brightnessRequest (.float .nan)) =
    .error (.draft (.invalid ⟨["action", "set_brightness", "value"], .notFinite⟩ [])) := rfl
  have hbad : ∀ d, readDraft (brightnessRequest (.float .nan)) ≠ .ok d :=
    fun _ hd => nomatch hread.symm.trans hd
  ⟨(failsClosed_iff _).1, hbad, fun p h scope s =>
    (failsClosed_iff _).2 hbad p h scope (.create _ none) s rfl⟩

/-- Ten to the four hundredth is no problem of the request, it is a fault. -/
theorem not_failsClosed_huge :
    ¬ FailsClosed (brightnessRequest (.int (Nat.pow 10 400 : Nat))) := by
  have hhuge : Draft.HasHuge (brightnessRequest (.int (Nat.pow 10 400 : Nat))) := by
    have hlimit : Field.integerLimit ≤ Nat.pow 10 400 := by decide +kernel
    refine ⟨_, _, rfl, .inr ⟨rfl, _, _, rfl, rfl, ["value"], .head _, _, _, rfl, _, rfl, ?_⟩⟩
    rwa [Int.natAbs_natCast]
  have hoverflow := readDraft_eq_overflow.2 hhuge
  rintro (⟨d, hd⟩ | ⟨e, he, -⟩)
  · exact nomatch hoverflow.symm.trans hd
  · exact nomatch hoverflow.symm.trans he

end Portal

end HomePortal
