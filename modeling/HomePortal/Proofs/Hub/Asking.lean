import HomePortal.Hub.File
import HomePortal.Hub.Memory
import HomePortal.Proofs.Hub.Rest
import Mathlib.Order.Defs.Unbundled
/-!
Hubs that are asked for one automation. In memory and in a file all stays as it was; a server
receives requests for data only, so it keeps whatever such requests leave alone.
-/

namespace HomePortal

namespace HubM

variable {σ α β : Type} {same : σ → σ → Prop}

def Leaves (same : σ → σ → Prop) (x : HubM σ α) : Prop :=
  ∀ s, same s (x.run s).2

namespace Leaves

theorem of_run {x : HubM σ α} (h : Leaves same x) {s t : σ} {outcome : Except Failure α}
    (hrun : x.run s = (outcome, t)) : same s t := by
  have hs := h s
  rwa [hrun] at hs

theorem bind [IsTrans σ same] {x : HubM σ α} {f : α → HubM σ β} (hx : Leaves same x)
    (hf : ∀ a, Leaves same (f a)) : Leaves same (x >>= f) := by
  intro s
  rw [run_bind]
  cases hrun : x.run s with
  | mk outcome t =>
    have hst := hx.of_run hrun
    cases outcome with
    | error e => exact hst
    | ok a => exact IsTrans.trans s t _ hst (hf a t)

variable [Std.Refl same]

theorem pure (a : α) : Leaves same (pure a : HubM σ α) :=
  Std.Refl.refl

theorem throw (e : Failure) : Leaves same (throw e : HubM σ α) :=
  Std.Refl.refl

theorem get : Leaves same (get : HubM σ σ) :=
  Std.Refl.refl

theorem ofExcept (x : Except Failure α) : Leaves same (ofExcept x : HubM σ α) := by
  intro s
  rw [run_ofExcept]
  exact Std.Refl.refl s

end Leaves

end HubM

open HubM (Leaves)

namespace Memory

theorem leaves_get (id : String) : Leaves Eq (hub.get id) := by
  refine .bind .get fun m => ?_
  split
  · exact .pure _
  · exact .throw _

end Memory

namespace FileHub

theorem leaves_items (h : FileHub) : Leaves Eq h.items := by
  refine .bind .get fun f => ?_
  split
  · exact .pure _
  · exact .throw _
  · split
    · exact .throw _
    · exact .pure _
    · split
      · exact .pure _
      · exact .throw _

theorem leaves_find (items : List StoredItem) (id : String) : Leaves Eq (find items id) := by
  refine .bind (.ofExcept _) fun found => ?_
  split
  · exact .pure _
  · exact .throw _

theorem leaves_get (h : FileHub) (id : String) : Leaves Eq (h.get id) :=
  .bind h.leaves_items fun items => .bind (leaves_find items id) fun _ => .ofExcept _

end FileHub

/-! ### Behind a server -/

namespace Http

variable {σ : Type} {server : Server σ} {a b : Line σ}

def Server.Shows {β : Type} (server : Server σ) (view : σ → β) : Prop :=
  ∀ r s, r.method = .get → view ((server.respond r).run s).2 = view s

/-- Nothing but requests for data went out, so the server keeps what it shows. -/
structure Server.OnlyRead (server : Server σ) (a b : Line σ) : Prop where
  sent : ∃ sent, b.log = sent ++ a.log ∧ ∀ e ∈ sent, IsGet e
  kept : ∀ {β : Type} {view : σ → β}, server.Shows view → view b.server = view a.server

namespace Server.OnlyRead

instance : Std.Refl server.OnlyRead where
  refl _ := ⟨⟨[], rfl, nofun⟩, fun _ => rfl⟩

instance : IsTrans (Line σ) server.OnlyRead where
  trans a b c hab hbc := by
    obtain ⟨sent, hb, hsent⟩ := hab.sent
    obtain ⟨more, hc, hmore⟩ := hbc.sent
    refine ⟨⟨more ++ sent, ?_, fun e he => ?_⟩, fun hview => ?_⟩
    · rw [hc, hb, List.append_assoc]
    · exact (List.mem_append.1 he).elim (hmore e) (hsent e)
    · rw [hbc.kept hview, hab.kept hview]

end Server.OnlyRead

end Http

namespace RestHub

open Http (Line Server)

variable {σ : Type}

theorem onlyRead_send (server : Server σ) {r : Http.Request} (hget : r.method = .get)
    (line : Line σ) : server.OnlyRead line (send server r line).2 where
  sent := ⟨[⟨r, (send server r line).1⟩], rfl, by simpa [Http.IsGet] using hget⟩
  kept hview := hview r line.server hget

theorem leaves_ask (h : RestHub) (server : Server σ) (path : String) (body : Option Value) :
    Leaves server.OnlyRead (h.ask server .get path body) := by
  intro line
  obtain ⟨e, he⟩ | ⟨r, hr, hopen⟩ := run_ask_cases h server .get path body line
  · rw [he]
    exact Std.Refl.refl line
  · rw [run_ask hr hopen]
    exact onlyRead_send server (request_eq_ok hr).1 line

theorem leaves_states (h : RestHub) (server : Server σ) :
    Leaves server.OnlyRead (h.states server) := by
  refine .bind (h.leaves_ask server _ _) fun v => ?_
  split
  · exact .pure _
  · exact .throw _

theorem leaves_fetch (h : RestHub) (server : Server σ) (id : String) :
    Leaves server.OnlyRead (h.fetch server id) :=
  .bind (h.leaves_ask server _ _) fun _ => .ofExcept _

theorem leaves_get (h : RestHub) (server : Server σ) (id : String) :
    Leaves server.OnlyRead (h.get server id) :=
  .bind (h.leaves_fetch server id) fun _ => .bind (h.leaves_states server) fun _ => .pure _

end RestHub

end HomePortal
