import HomePortal.Hub.File
import HomePortal.Hub.Memory
import HomePortal.Proofs.Hub.Rest
import HomePortal.Proofs.Yaml.TreeFailure
/-!
What hubs fail with. None of them fails as the checks do that come before a hub is asked, and none
stores anything when it is only asked for an automation.
-/

namespace HomePortal

def Failure.IsOfHub : Failure → Prop
  | .hub _ | .data .. | .fault _ => True
  | _ => False

theorem Yaml.IsTextFailure.isOfHub {e : Failure} (h : Yaml.IsTextFailure e) : e.IsOfHub := by
  unfold Yaml.IsTextFailure at h
  split at h
  · trivial
  · trivial
  · exact h.elim

namespace HubM

variable {σ α β : Type}

def FailsAsHub (x : HubM σ α) : Prop :=
  ∀ s e t, x.run s = (.error e, t) → e.IsOfHub

namespace FailsAsHub

theorem pure (a : α) : FailsAsHub (pure a : HubM σ α) :=
  nofun

theorem get : FailsAsHub (get : HubM σ σ) :=
  nofun

theorem set (s : σ) : FailsAsHub (set s : HubM σ Unit) :=
  nofun

theorem throw {e : Failure} (he : e.IsOfHub) : FailsAsHub (throw e : HubM σ α) := by
  intro s e' t h
  obtain rfl := Except.error.inj (Prod.mk.inj h).1
  exact he

theorem bind {x : HubM σ α} {f : α → HubM σ β} (hx : FailsAsHub x) (hf : ∀ a, FailsAsHub (f a)) :
    FailsAsHub (x >>= f) := by
  intro s e t h
  obtain ⟨e', hrun, heq⟩ | ⟨a, u, -, hrun⟩ := run_bind_cases h
  · obtain rfl := Except.error.inj heq
    exact hx s e t hrun
  · exact hf a u e t hrun

theorem ite {c : Prop} [Decidable c] {x y : HubM σ α} (hx : FailsAsHub x) (hy : FailsAsHub y) :
    FailsAsHub (if c then x else y) := by
  split
  · exact hx
  · exact hy

theorem ofExcept {x : Except Failure α} (hx : ∀ e, x = .error e → e.IsOfHub) :
    FailsAsHub (ofExcept x : HubM σ α) := by
  intro s e t h
  rw [run_ofExcept] at h
  exact hx e (Prod.mk.inj h).1

end FailsAsHub

end HubM

open HubM (FailsAsHub)

structure Hub.FailsAsHub {σ : Type} (h : Hub σ) : Prop where
  get : ∀ id, HubM.FailsAsHub (h.get id)
  create : ∀ c, HubM.FailsAsHub (h.create c)
  update : ∀ id c, HubM.FailsAsHub (h.update id c)
  delete : ∀ id, HubM.FailsAsHub (h.delete id)
  setEnabled : ∀ id flag, HubM.FailsAsHub (h.setEnabled id flag)

/-! ### In memory -/

namespace Memory

theorem failsAsHub_change (id : String) (f : Memory → Automation → Memory) :
    FailsAsHub (change id f) := by
  refine .bind .get fun m => ?_
  split
  · exact .set _
  · exact .throw trivial

theorem failsAsHub_get (id : String) : FailsAsHub (hub.get id) := by
  refine .bind .get fun m => ?_
  split
  · exact .pure _
  · exact .throw trivial

theorem failsAsHub : hub.FailsAsHub where
  get := failsAsHub_get
  create _ := nofun
  update id _ := failsAsHub_change id _
  delete id := failsAsHub_change id _
  setEnabled id _ := failsAsHub_change id _

end Memory

/-! ### In a file -/

namespace FileHub

variable (h : FileHub)

def ReadsAsText (f : Format) : Prop :=
  ∀ bytes, Yaml.FailsAsText (f.read bytes)

theorem readsAsText_yaml : ReadsAsText Format.yaml :=
  Yaml.failsAsText_readBytes

variable {h}

theorem failsAsHub_items (hread : ReadsAsText h.format) : FailsAsHub h.items := by
  refine .bind .get fun f => ?_
  split
  · exact .pure _
  · exact .throw trivial
  · next bytes _ =>
    split
    · next e he => exact .throw (hread bytes e he).isOfHub
    · exact .pure _
    · split
      · exact .pure _
      · exact .throw trivial

theorem isOfHub_of_mapError {α : Type} {x : Except Fault α} {e : Failure}
    (he : x.mapError Failure.fault = .error e) : e.IsOfHub := by
  cases x with
  | error fault =>
    obtain rfl := Except.error.inj he
    trivial
  | ok a => cases he

theorem failsAsHub_store (h : FileHub) (items : List StoredItem) : FailsAsHub (h.store items) := by
  refine .bind (.ofExcept fun _ => isOfHub_of_mapError) fun bytes => .bind .get fun f => ?_
  split
  · exact .set _
  · next e he =>
    apply FailsAsHub.throw
    unfold Folder.write at he
    split at he
    · obtain rfl := Except.error.inj he
      trivial
    · obtain rfl := Except.error.inj he
      trivial
    · cases he

theorem isOfHub_of_search {items : List StoredItem} {id : String} {e : Failure}
    (he : search items id = .error e) : e.IsOfHub := by
  unfold search at he
  split at he
  · split at he
    · cases he
    · obtain rfl := Except.error.inj he
      trivial
  · cases he

theorem failsAsHub_find (items : List StoredItem) (id : String) : FailsAsHub (find items id) := by
  refine .bind (.ofExcept fun _ => isOfHub_of_search) fun found => ?_
  split
  · exact .pure _
  · exact .throw trivial

theorem isOfHub_of_read {i : StoredItem} {e : Failure} (he : i.read = .error e) : e.IsOfHub := by
  unfold StoredItem.read at he
  cases hread : Config.read (.mapping i.fields) with
  | valid c =>
    rw [hread] at he
    cases he
  | refused first more =>
    rw [hread] at he
    obtain rfl := Except.error.inj he
    trivial
  | overflow =>
    rw [hread] at he
    obtain rfl := Except.error.inj he
    trivial

theorem failsAsHub (hread : ReadsAsText h.format) : h.hub.FailsAsHub where
  get id := .bind (failsAsHub_items hread) fun items => .bind (failsAsHub_find items id) fun _ =>
    .ofExcept fun _ => isOfHub_of_read
  create c := by
    refine .bind (failsAsHub_items hread) fun items =>
      .bind (.ofExcept fun _ => isOfHub_of_search) fun found => ?_
    have hstore : FailsAsHub (h.store (items ++ [.ofConfig c.id c]) >>= fun _ => pure c.id) :=
      .bind (failsAsHub_store h _) fun _ => .pure _
    exact .ite (.bind (.throw trivial) fun _ => hstore) hstore
  update id c := .bind (failsAsHub_items hread) fun items => .bind (failsAsHub_find items id)
    fun _ => failsAsHub_store h _
  delete id := .bind (failsAsHub_items hread) fun items => .bind (failsAsHub_find items id)
    fun _ => failsAsHub_store h _
  setEnabled id flag := .bind (failsAsHub_items hread) fun items =>
    .bind (failsAsHub_find items id) fun _ => failsAsHub_store h _

end FileHub

/-! ### Behind a server -/

namespace RestHub

open Http (Line Method Server)

variable {σ : Type}

variable {h : RestHub} {method : Method} {path id : String} {body : Option Value} {e : Failure}

theorem isOfHub_of_request (he : h.request method path body = .error e) : e.IsOfHub := by
  obtain ⟨fault, rfl⟩ := request_eq_error he
  trivial

theorem isOfHub_of_usable {r : Http.Request} {reply : Http.Reply}
    (he : usable r reply = .error e) : e.IsOfHub := by
  unfold usable at he
  split at he
  · split at he
    · cases he
    · obtain rfl := Except.error.inj he
      trivial
  · cases he

theorem isOfHub_of_replyData {reply : Http.Reply} (he : replyData path reply = .error e) :
    e.IsOfHub := by
  unfold replyData at he
  split at he
  · obtain rfl := Except.error.inj he
    trivial
  · split at he
    · obtain rfl := Except.error.inj he
      trivial
    · split at he
      · obtain rfl := Except.error.inj he
        trivial
      · split at he
        · cases he
        · cases he
        · obtain rfl := Except.error.inj he
          trivial
        · obtain rfl := Except.error.inj he
          trivial

theorem isOfHub_of_readConfig {v : Value} (he : readConfig id v = .error e) : e.IsOfHub := by
  unfold readConfig at he
  split at he
  · cases he
  · obtain rfl := Except.error.inj he
    trivial

theorem failsAsHub_ask (h : RestHub) (server : Server σ) (method : Method) (path : String)
    (body : Option Value) : FailsAsHub (h.ask server method path body) := by
  refine .bind (.ofExcept fun _ => isOfHub_of_request) fun r => .bind .get fun line => ?_
  have hreply : FailsAsHub (ExceptT.lift (send server r) >>= fun reply =>
      ofExcept (usable r reply) >>= fun reply => ofExcept (replyData path reply)) :=
    .bind nofun fun _ => .bind (.ofExcept fun _ => isOfHub_of_usable) fun _ =>
      .ofExcept fun _ => isOfHub_of_replyData
  exact .ite (.bind (.throw trivial) fun _ => hreply) hreply

theorem failsAsHub_states (h : RestHub) (server : Server σ) : FailsAsHub (h.states server) := by
  refine .bind (failsAsHub_ask h server _ _ _) fun v => ?_
  split
  · exact .pure _
  · exact .throw trivial

theorem failsAsHub_fetch (h : RestHub) (server : Server σ) (id : String) :
    FailsAsHub (h.fetch server id) :=
  .bind (failsAsHub_ask h server _ _ _) fun _ => .ofExcept fun _ => isOfHub_of_readConfig

theorem failsAsHub_entityFor (h : RestHub) (server : Server σ) (id : String) :
    FailsAsHub (h.entityFor server id) :=
  .ite (.pure _) (.bind (failsAsHub_states h server) fun _ => .pure _)

theorem failsAsHub_put (h : RestHub) (server : Server σ) (id : String) (c : Config) :
    FailsAsHub (h.put server id c) :=
  .bind (failsAsHub_ask h server _ _ _) fun _ => .pure _

theorem failsAsHub (h : RestHub) (server : Server σ) : (h.hub server).FailsAsHub where
  get id := .bind (failsAsHub_fetch h server id) fun _ =>
    .bind (failsAsHub_states h server) fun _ => .pure _
  create c := .bind (failsAsHub_put h server c.id c) fun _ => .pure _
  update id c := failsAsHub_put h server id c
  delete _ := .bind (failsAsHub_ask h server _ _ _) fun _ => .pure _
  setEnabled id _ := .bind (failsAsHub_entityFor h server id) fun _ =>
    .bind (failsAsHub_ask h server _ _ _) fun _ => .pure _

end RestHub

end HomePortal
