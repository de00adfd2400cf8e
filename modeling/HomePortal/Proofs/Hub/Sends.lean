import HomePortal.Http.Exchange
import HomePortal.Proofs.Hub.Run
/-!
What an action sends: the exchanges that it adds to a log, which keeps the last one first. Whatever
is more than reading may be held to a law on what was sent before it.
-/

namespace HomePortal

def Http.IsGet (e : Http.Exchange) : Prop :=
  e.request.method = .get

namespace HubM

open Http (Exchange IsGet)

variable {τ α β : Type} {log : τ → List Exchange} {P Q : Exchange → Prop}
  {law : List Exchange → Exchange → Prop} {x : HubM τ α} {f : α → HubM τ β} {s t : τ}

def Sends (log : τ → List Exchange) (P : Exchange → Prop) (x : HubM τ α) (s : τ) : Prop :=
  ∃ sent, log (x.run s).2 = sent ++ log s ∧ ∀ e ∈ sent, P e

namespace Sends

theorem of_same (h : log (x.run s).2 = log s) : Sends log P x s :=
  ⟨[], h, nofun⟩

theorem log_eq {outcome : Except Failure α} (h : Sends log P x s)
    (hrun : x.run s = (outcome, t)) : ∃ sent, log t = sent ++ log s ∧ ∀ e ∈ sent, P e := by
  rw [Sends, hrun] at h
  exact h

theorem mono (h : Sends log P x s) (hPQ : ∀ e, P e → Q e) : Sends log Q x s := by
  obtain ⟨sent, hlog, hsent⟩ := h
  exact ⟨sent, hlog, fun e he => hPQ e (hsent e he)⟩

theorem bind (hx : Sends log P x s)
    (hf : ∀ a t, x.run s = (.ok a, t) → Sends log P (f a) t) : Sends log P (x >>= f) s := by
  cases hrun : x.run s with
  | mk outcome t =>
    obtain ⟨sent, hlog, hsent⟩ := hx.log_eq hrun
    cases outcome with
    | error e =>
      refine ⟨sent, ?_, hsent⟩
      rw [run_bind_of_error hrun]
      exact hlog
    | ok a =>
      obtain ⟨more, hmore, hall⟩ := hf a t hrun
      refine ⟨more ++ sent, ?_, fun e he => ?_⟩
      · rw [run_bind_of_ok hrun, hmore, hlog, List.append_assoc]
      · exact (List.mem_append.1 he).elim (hall e) (hsent e)

theorem ofExcept (e : Except Failure α) (s : τ) : Sends log P (ofExcept e : HubM τ α) s := by
  apply of_same
  rw [run_ofExcept]

theorem observing (h : Sends log P x s) : Sends log P (observing x) s := by
  obtain ⟨sent, hlog, hsent⟩ := h
  refine ⟨sent, ?_, hsent⟩
  rw [run_observing]
  exact hlog

theorem mapM (h : ∀ a s, Sends log P (f a) s) (xs : List α) (s : τ) :
    Sends log P (xs.mapM f) s := by
  induction xs generalizing s with
  | nil => exact of_same rfl
  | cons a rest ih =>
    rw [List.mapM_cons]
    apply (h a s).bind
    intro b t _
    apply (ih t).bind
    intro bs u _
    exact of_same rfl

end Sends

/-- From a state on, an action adds exchanges to the log, and each that is more than reading obeys
a law, given those that it added before. -/
def Obeys (log : τ → List Exchange) (law : List Exchange → Exchange → Prop) (x : HubM τ α)
    (s : τ) : Prop :=
  ∃ sent, log (x.run s).2 = sent ++ log s ∧
    ∀ newer e older, sent = newer ++ e :: older → ¬ IsGet e → law older e

/-- Where reading came first, all of it was sent before any other exchange. -/
theorem exists_gap {first more newer older : List Exchange} {e : Exchange}
    (hfirst : ∀ e ∈ first, IsGet e) (hnot : ¬ IsGet e)
    (h : more ++ first = newer ++ e :: older) :
    ∃ gap, more = newer ++ e :: gap ∧ older = gap ++ first := by
  obtain ⟨gap, -, heq⟩ | ⟨gap, hmore, heq⟩ := List.append_eq_append_iff.1 h
  · exact absurd (hfirst e (by simp [heq])) hnot
  · cases gap with
    | nil =>
      rw [List.nil_append] at heq
      exact absurd (hfirst e (heq ▸ List.mem_cons_self)) hnot
    | cons e' gap =>
      rw [List.cons_append] at heq
      obtain ⟨rfl, rfl⟩ := List.cons.inj heq
      exact ⟨gap, hmore, rfl⟩

namespace Obeys

theorem of_sends (h : Sends log (fun e => IsGet e ∨ P e) x s) :
    Obeys log (fun _ e => P e) x s := by
  obtain ⟨sent, hlog, hsent⟩ := h
  refine ⟨sent, hlog, fun newer e older hsplit hnot => ?_⟩
  have he : e ∈ sent := by simp [hsplit]
  exact (hsent e he).resolve_left hnot

theorem mono {law' : List Exchange → Exchange → Prop} (h : Obeys log law x s)
    (hlaw : ∀ older e, law older e → law' older e) : Obeys log law' x s := by
  obtain ⟨sent, hlog, hsent⟩ := h
  exact ⟨sent, hlog, fun newer e older hsplit hnot =>
    hlaw older e (hsent newer e older hsplit hnot)⟩

theorem of_gets (h : Sends log IsGet x s) : Obeys log law x s :=
  (of_sends (h.mono fun _ he => .inl he : Sends log (fun e => IsGet e ∨ False) x s)).mono
    fun _ _ => False.elim

theorem of_same (h : log (x.run s).2 = log s) : Obeys log law x s :=
  of_gets (Sends.of_same h)

theorem map (h : Obeys log law x s) (g : α → β) : Obeys log law (g <$> x) s := by
  rw [Obeys, run_map]
  exact h

/-- What reading found out holds of all that is sent after it. -/
theorem bind_of_gets {F : α → List Exchange → Prop}
    {later : α → List Exchange → Exchange → Prop} (hx : Sends log IsGet x s)
    (hfound : ∀ a t, x.run s = (.ok a, t) →
      ∃ sent, log t = sent ++ log s ∧ (∀ e ∈ sent, IsGet e) ∧ F a sent)
    (hf : ∀ a t, x.run s = (.ok a, t) → Obeys log (later a) (f a) t)
    (hlaw : ∀ a first gap e, F a first → later a gap e → law (gap ++ first) e) :
    Obeys log law (x >>= f) s := by
  cases hrun : x.run s with
  | mk outcome t =>
    cases outcome with
    | error e =>
      apply of_gets
      apply hx.bind
      intro a u hok
      rw [hrun] at hok
      cases hok
    | ok a =>
      obtain ⟨first, hlog, hgets, hfirst⟩ := hfound a t hrun
      obtain ⟨more, hmore, hlater⟩ := hf a t hrun
      refine ⟨more ++ first, ?_, fun newer e older hsplit hnot => ?_⟩
      · rw [run_bind_of_ok hrun, hmore, hlog, List.append_assoc]
      · obtain ⟨gap, hgap, rfl⟩ := exists_gap hgets hnot hsplit
        exact hlaw a first gap e hfirst (hlater newer e gap hgap hnot)

/-- Steps that send nothing may come first. -/
theorem bind_of_same (hx : log (x.run s).2 = log s)
    (hf : ∀ a t, x.run s = (.ok a, t) → Obeys log law (f a) t) : Obeys log law (x >>= f) s := by
  apply bind_of_gets (Sends.of_same hx) _ hf (F := fun _ sent => sent = [])
  · intro a first gap e hfirst hlater
    rwa [hfirst, List.append_nil]
  · intro a t hrun
    rw [hrun] at hx
    exact ⟨[], hx, nofun, rfl⟩

end Obeys

end HubM

end HomePortal
