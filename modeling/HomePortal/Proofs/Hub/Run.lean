import HomePortal.Hub.Basic
/-!
Runs of actions: how the outcome of a sequence and the state after it come from those of its parts,
and the outcome of a whole list from those of its elements.
-/

namespace HomePortal

section

variable {ε α β : Type} {f : α → Except ε β} {xs : List α} {ys : List β} {e : ε}

theorem mapM_eq_ok : xs.mapM f = .ok ys ↔ xs.map f = ys.map .ok := by
  induction xs generalizing ys with
  | nil => simp [pure, Except.pure, eq_comm]
  | cons x rest ih =>
    rw [List.mapM_cons]
    cases hx : f x with
    | error e => cases ys <;> simp [bind, Except.bind, hx]
    | ok y =>
      cases hrest : rest.mapM f with
      | error e => cases ys <;> simp [bind, Except.bind, hx, ← ih, hrest]
      | ok others => cases ys <;> simp [bind, Except.bind, pure, Except.pure, hx, ← ih, hrest]

/-- The first element that fails is the one that counts. -/
theorem mapM_eq_error : xs.mapM f = .error e ↔ ∃ before x after, xs = before ++ x :: after ∧
    (∀ y ∈ before, ∃ b, f y = .ok b) ∧ f x = .error e := by
  induction xs with
  | nil => simp [pure, Except.pure]
  | cons x rest ih =>
    rw [List.mapM_cons]
    cases hx : f x with
    | error e' =>
      change (Except.error e' : Except ε (List β)) = .error e ↔ _
      constructor
      · intro h
        obtain rfl := Except.error.inj h
        exact ⟨[], x, rest, rfl, nofun, hx⟩
      · rintro ⟨_ | ⟨y, before⟩, z, after, heq, hbefore, hz⟩
        · obtain ⟨rfl, -⟩ := List.cons.inj heq
          exact congrArg Except.error (Except.error.inj (hx.symm.trans hz))
        · obtain ⟨rfl, -⟩ := List.cons.inj heq
          obtain ⟨b, hb⟩ := hbefore x List.mem_cons_self
          cases hx.symm.trans hb
    | ok b =>
      have hrest : (Except.ok b >>= fun b => rest.mapM f >>= fun others =>
          pure (b :: others) : Except ε (List β)) = .error e ↔ rest.mapM f = .error e := by
        cases rest.mapM f with
        | error e' => exact Iff.rfl
        | ok others => exact iff_of_false nofun nofun
      rw [hrest, ih]
      constructor
      · rintro ⟨before, z, after, rfl, hbefore, hz⟩
        exact ⟨x :: before, z, after, rfl, List.forall_mem_cons.2 ⟨⟨b, hx⟩, hbefore⟩, hz⟩
      · rintro ⟨_ | ⟨y, before⟩, z, after, heq, hbefore, hz⟩
        · obtain ⟨rfl, -⟩ := List.cons.inj heq
          cases hx.symm.trans hz
        · obtain ⟨rfl, rfl⟩ := List.cons.inj heq
          exact ⟨before, z, after, rfl, (List.forall_mem_cons.1 hbefore).2, hz⟩

end

namespace HubM

variable {σ α β : Type}

theorem run_bind (x : HubM σ α) (f : α → HubM σ β) (s : σ) :
    (x >>= f).run s = match x.run s with
      | (.ok a, t) => (f a).run t
      | (.error e, t) => (.error e, t) := by
  change (ExceptT.bindCont f (x.run s).1 : StateM σ _) (x.run s).2 = _
  obtain ⟨_ | _, t⟩ := x.run s
  · rfl
  · rfl

theorem run_bind_of_ok {x : HubM σ α} {s t : σ} {a : α} (h : x.run s = (.ok a, t))
    (f : α → HubM σ β) : (x >>= f).run s = (f a).run t := by
  rw [run_bind, h]

theorem run_bind_of_error {x : HubM σ α} {s t : σ} {e : Failure} (h : x.run s = (.error e, t))
    (f : α → HubM σ β) : (x >>= f).run s = (.error e, t) := by
  rw [run_bind, h]

/-- What comes after a look at the state starts in that state. -/
theorem run_get_bind (f : σ → HubM σ α) (s : σ) :
    (MonadState.get >>= f).run s = (f s).run s :=
  rfl

/-- A sequence ends with its first failure, or goes on after its first part. -/
theorem run_bind_cases {x : HubM σ α} {f : α → HubM σ β} {s t : σ}
    {outcome : Except Failure β} (h : (x >>= f).run s = (outcome, t)) :
    (∃ e, x.run s = (.error e, t) ∧ outcome = .error e) ∨
      ∃ a u, x.run s = (.ok a, u) ∧ (f a).run u = (outcome, t) := by
  rw [run_bind] at h
  cases hx : x.run s with
  | mk result u =>
    rw [hx] at h
    cases result with
    | error e =>
      obtain ⟨rfl, rfl⟩ := Prod.mk.inj h
      exact .inl ⟨e, rfl, rfl⟩
    | ok a => exact .inr ⟨a, u, rfl, h⟩

/-- A sequence succeeds if its parts do, one after the other. -/
theorem run_bind_eq_ok {x : HubM σ α} {f : α → HubM σ β} {s t : σ} {b : β} :
    (x >>= f).run s = (.ok b, t) ↔ ∃ a u, x.run s = (.ok a, u) ∧ (f a).run u = (.ok b, t) := by
  constructor
  · intro h
    obtain ⟨e, -, heq⟩ | ⟨a, u, hx, hf⟩ := run_bind_cases h
    · cases heq
    · exact ⟨a, u, hx, hf⟩
  · intro h
    obtain ⟨a, u, hx, hf⟩ := h
    rw [run_bind_of_ok hx]
    exact hf

theorem run_map (f : α → β) (x : HubM σ α) (s : σ) :
    (f <$> x).run s = ((x.run s).1.map f, (x.run s).2) := by
  rw [map_eq_pure_bind, run_bind]
  obtain ⟨_ | _, t⟩ := x.run s
  · rfl
  · rfl

theorem run_map_eq_ok {f : α → β} {x : HubM σ α} {s t : σ} {b : β} :
    (f <$> x).run s = (.ok b, t) ↔ ∃ a, x.run s = (.ok a, t) ∧ f a = b := by
  rw [map_eq_pure_bind, run_bind_eq_ok]
  constructor
  · intro h
    obtain ⟨a, u, hx, hpure⟩ := h
    obtain ⟨hb, rfl⟩ := Prod.mk.inj hpure
    exact ⟨a, hx, Except.ok.inj hb⟩
  · intro h
    obtain ⟨a, hx, rfl⟩ := h
    exact ⟨a, t, hx, rfl⟩

theorem run_map_eq_error {f : α → β} {x : HubM σ α} {s t : σ} {e : Failure} :
    (f <$> x).run s = (.error e, t) ↔ x.run s = (.error e, t) := by
  rw [run_map]
  cases x.run s with
  | mk outcome u =>
    cases outcome with
    | error e' =>
      constructor
      · intro h
        obtain ⟨he, rfl⟩ := Prod.mk.inj h
        exact Prod.ext (congrArg Except.error (Except.error.inj he)) rfl
      · intro h
        obtain ⟨he, rfl⟩ := Prod.mk.inj h
        exact Prod.ext (congrArg Except.error (Except.error.inj he)) rfl
    | ok a => exact iff_of_false nofun nofun

theorem run_ofExcept (x : Except Failure α) (s : σ) : (ofExcept x : HubM σ α).run s = (x, s) := by
  cases x with
  | error e => rfl
  | ok a => rfl

/-- An observed action fails no more, and does what it did. -/
theorem run_observing (x : HubM σ α) (s : σ) :
    (observing x).run s = (.ok (x.run s).1, (x.run s).2) := by
  simp only [observing, tryCatch, tryCatchThe, MonadExceptOf.tryCatch, ExceptT.tryCatch,
    ExceptT.run, ExceptT.mk, bind, ExceptT.bind, StateT.bind, pure, ExceptT.pure, ExceptT.bindCont]
  cases x s with
  | mk outcome t =>
    cases outcome with
    | error e => rfl
    | ok a => rfl

end HubM

end HomePortal
