import HomePortal.Proofs.Hub.Asking
import HomePortal.Proofs.Hub.Failure
import HomePortal.Proofs.Hub.Writing
/-!
What the operations of a hub in a file fail with. Each reads the file first. If its data cannot be
made they all fail with that fault. Else they fail with errors of the hub, or with what they meet in
the items: a number too long to be written out, or data too deep to be written. No operation that
fails has changed anything.
-/

namespace HomePortal

namespace Yaml

inductive Unmade (bytes : ByteArray) : Fault → Prop
  | undecodable (hbytes : String.fromUTF8? bytes = none) : Unmade bytes .undecodable
  | unread {text : String} {fault : Fault} (htext : String.fromUTF8? bytes = some text)
    (hread : readText (normalLines text.toList) = .error (.fault fault)) : Unmade bytes fault

theorem readBytes_eq_fault_iff {bytes : ByteArray} {fault : Fault} :
    readBytes bytes = .error (.fault fault) ↔ Unmade bytes fault := by
  unfold readBytes
  constructor
  · intro h
    split at h
    · next text htext => exact .unread htext h
    · next hbytes =>
      obtain rfl := Failure.fault.inj (Except.error.inj h)
      exact .undecodable hbytes
  · intro h
    cases h with
    | undecodable hbytes => rw [hbytes]
    | unread htext hread => rw [htext, ← hread]

end Yaml

namespace HubM

variable {σ α β : Type} {x : HubM σ α} {P : Failure → Prop}

def FailsClean (P : Failure → Prop) (x : HubM σ α) : Prop :=
  ∀ s e t, x.run s = (.error e, t) → t = s ∧ P e

namespace FailsClean

theorem pure (a : α) : FailsClean P (pure a : HubM σ α) :=
  nofun

theorem throw {e : Failure} (he : P e) : FailsClean P (throw e : HubM σ α) := by
  intro s e' t h
  obtain ⟨heq, rfl⟩ := Prod.mk.inj h
  obtain rfl := Except.error.inj heq
  exact ⟨rfl, he⟩

theorem ofExcept {y : Except Failure α} (hy : ∀ e, y = .error e → P e) :
    FailsClean P (ofExcept y : HubM σ α) := by
  intro s e t h
  rw [run_ofExcept] at h
  obtain ⟨he, rfl⟩ := Prod.mk.inj h
  exact ⟨rfl, hy e he⟩

/-- What comes first may only look. -/
theorem bind {f : α → HubM σ β} (hx : FailsClean P x) (hlooks : Leaves Eq x)
    (hf : ∀ a s, x.run s = (.ok a, s) → FailsClean P (f a)) : FailsClean P (x >>= f) := by
  intro s e t h
  obtain ⟨e', hrun, heq⟩ | ⟨a, u, hrun, hrest⟩ := run_bind_cases h
  · obtain rfl := Except.error.inj heq
    exact hx s e t hrun
  · obtain rfl : s = u := hlooks.of_run hrun
    exact hf a s hrun s e t hrest

theorem answer (hx : FailsClean P x) (b : β) : FailsClean P (x >>= fun _ => Pure.pure b) := by
  intro s e t h
  obtain ⟨e', hrun, heq⟩ | ⟨a, u, -, hpure⟩ := run_bind_cases h
  · obtain rfl := Except.error.inj heq
    exact hx s e t hrun
  · cases (Prod.mk.inj hpure).1

end FailsClean

end HubM

namespace FileHub

open HubM (FailsClean run_bind_cases run_bind_of_error run_bind_of_ok run_get_bind run_ofExcept)
open StoredItem (Flawless)

variable {h : FileHub} {f : Folder} {fault : Fault} {op : HubOperation} {w : HubWrite}
  {items new : List StoredItem} {e : Failure} {id : String}

/-! ### What an operation meets in the items -/

/-- A failure that an operation meets in the items of the file: one that is to be shown has a number
for a label that is not written out, the search for an id meets one that is not written out, or what
is to be stored cannot be written. -/
inductive Meets (F : Format) (items : List StoredItem) : HubOperation → Failure → Prop
  | unlisted {before after : List StoredItem} {i : StoredItem} {e : Failure}
    (hlisted : items.filter StoredItem.isListed = before ++ i :: after)
    (hbefore : ∀ j ∈ before, Config.HasLabels j.fields) (hread : i.read = .error e) :
    Meets F items .list e
  | unread {id : String} {first rest : List StoredItem} {i : StoredItem} {e : Failure}
    (hitems : items = first ++ i :: rest) (hfirst : PassedOver id first)
    (htext : i.hasIdText = true) (hid : i.idText = id) (hread : i.read = .error e) :
    Meets F items (.get id) e
  | endless {op : HubOperation} {id : String} (hid : op.soughtId? = some id)
    (hends : MeetsEndless id items) : Meets F items op (.fault .badValue)
  | unwritten {w : HubWrite} {new : List StoredItem} {fault : Fault}
    (hfound : ¬MeetsEndless w.soughtId items) (hwritten : w.written items = some new)
    (hwrite : F.write (new.map StoredItem.node) = .error fault) :
    Meets F items (.write w) (.fault fault)

theorem not_meetsEndless (hitems : Flawless items) : ¬MeetsEndless id items := by
  rintro ⟨first, i, rest, rfl, -, htext⟩
  have hi := hitems.hasIdText (List.mem_append_right first (List.mem_cons_self (l := rest)))
  rw [htext] at hi
  cases hi

/-- Nothing is met where all in the file, and in what is to be stored, can be written. -/
theorem not_meets {F : Format} (hwrites : F.WritesFlawless) (hitems : Flawless items)
    (hconfig : ∀ w, op = .write w → ∀ c ∈ w.config?, c.Flawless) : ¬Meets F items op e := by
  intro hmeets
  cases hmeets with
  | @unlisted before after i _ hlisted _ hread =>
    have hi : i ∈ items.filter StoredItem.isListed :=
      hlisted ▸ List.mem_append_right _ List.mem_cons_self
    rw [StoredItem.read_eq_ok.2 ⟨hitems.hasLabels (List.mem_filter.1 hi).1, rfl⟩] at hread
    cases hread
  | @unread _ first rest i _ heq _ _ _ hread =>
    have hi : i ∈ items := heq ▸ List.mem_append_right _ List.mem_cons_self
    rw [StoredItem.read_eq_ok.2 ⟨hitems.hasLabels hi, rfl⟩] at hread
    cases hread
  | endless _ hends => exact not_meetsEndless hitems hends
  | unwritten _ hwritten hwrite =>
    have hnew := HubWrite.flawless_of_written hwritten hitems (hconfig _ rfl)
    obtain ⟨bytes, hbytes⟩ := hnew.exists_write hwrites
    rw [hbytes] at hwrite
    cases hwrite

theorem mapM_read_eq_error : items.mapM StoredItem.read = .error e ↔
    ∃ before i after, items = before ++ i :: after ∧
      (∀ j ∈ before, Config.HasLabels j.fields) ∧ i.read = .error e := by
  simp only [mapM_eq_error, StoredItem.read_eq_ok, exists_and_left, exists_eq', and_true]

/-! ### Operations that fail -/

def FailsFor (F : Format) (items : List StoredItem) (op : HubOperation) (e : Failure) : Prop :=
  (∃ reason, e = .hub reason) ∨ Meets F items op e

theorem endless_of_search (hsearch : search items id = .error e) :
    e = .fault .badValue ∧ MeetsEndless id items := by
  obtain ⟨-, heq⟩ | ⟨_, _, _, -, -, -, -, heq⟩ | ⟨hends, heq⟩ := search_cases items id
  · cases heq.symm.trans hsearch
  · cases heq.symm.trans hsearch
  · exact ⟨Except.error.inj (hsearch.symm.trans heq), hends⟩

theorem first_of_search {found : StoredItem × Nat} (hsearch : search items id = .ok (some found)) :
    ∃ first rest, items = first ++ found.1 :: rest ∧ PassedOver id first ∧
      found.1.hasIdText = true ∧ found.1.idText = id := by
  obtain ⟨-, heq⟩ | ⟨first, i, rest, hitems, hfirst, htext, hid, heq⟩ | ⟨-, heq⟩ :=
    search_cases items id
  · cases heq.symm.trans hsearch
  · obtain rfl := Option.some.inj (Except.ok.inj (heq.symm.trans hsearch))
    exact ⟨first, rest, hitems, hfirst, htext, hid⟩
  · cases heq.symm.trans hsearch

theorem failsClean_search (hid : op.soughtId? = some id) :
    FailsClean (FailsFor h.format items op)
      (ofExcept (search items id) : HubM Folder (Option (StoredItem × Nat))) := by
  refine .ofExcept fun e he => ?_
  obtain ⟨rfl, hends⟩ := endless_of_search he
  exact .inr (.endless hid hends)

theorem failsClean_find (hid : op.soughtId? = some id) :
    FailsClean (FailsFor h.format items op) (find items id) := by
  refine .bind (failsClean_search hid) (.ofExcept _) fun found _ _ => ?_
  split
  · exact .pure _
  · exact .throw (.inl ⟨_, rfl⟩)

theorem search_of_find {found : StoredItem × Nat} {s t : Folder}
    (hrun : (find items id).run s = (.ok found, t)) : search items id = .ok (some found) := by
  rw [find] at hrun
  cases hsearch : search items id with
  | error e =>
    rw [hsearch] at hrun
    cases (Prod.mk.inj hrun).1
  | ok other =>
    rw [hsearch] at hrun
    cases other with
    | none => cases (Prod.mk.inj hrun).1
    | some entry =>
      obtain rfl := Except.ok.inj (Prod.mk.inj hrun).1
      rfl

theorem not_meetsEndless_of_search {found : Option (StoredItem × Nat)}
    (hsearch : search items id = .ok found) : ¬MeetsEndless id items := by
  intro hends
  rw [search_of_endless hends] at hsearch
  cases hsearch

theorem failsClean_store (hfound : ¬MeetsEndless w.soughtId items)
    (hwritten : w.written items = some new) :
    FailsClean (FailsFor h.format items (.write w)) (h.store new) := by
  intro s e t hrun
  cases hwrite : h.format.write (new.map StoredItem.node) with
  | error fault =>
    obtain ⟨he, rfl⟩ := Prod.mk.inj ((run_store_of_unwritten hwrite).symm.trans hrun)
    obtain rfl := Except.error.inj he
    exact ⟨rfl, .inr (.unwritten hfound hwritten hwrite)⟩
  | ok bytes =>
    obtain ⟨e', hput, hstore⟩ | ⟨g, -, hstore⟩ := run_store (f := s) hwrite
    · obtain ⟨he, rfl⟩ := Prod.mk.inj (hstore.symm.trans hrun)
      obtain rfl := Except.error.inj he
      unfold Folder.write at hput
      split at hput
      · exact ⟨rfl, .inl ⟨_, (Except.error.inj hput).symm⟩⟩
      · exact ⟨rfl, .inl ⟨_, (Except.error.inj hput).symm⟩⟩
      · cases hput
    · cases (Prod.mk.inj (hstore.symm.trans hrun)).1

theorem failsClean_change {change : List StoredItem → StoredItem → Nat → List StoredItem}
    (hwritten : w.written items = StoredItem.changeFirst items w.soughtId change) :
    FailsClean (FailsFor h.format items (.write w)) (find items w.soughtId >>= fun found =>
      h.store (change items found.1 found.2)) := by
  refine .bind (failsClean_find rfl) (leaves_find items _) fun found s hrun => ?_
  have hsearch := search_of_find hrun
  refine failsClean_store (not_meetsEndless_of_search hsearch) ?_
  rw [hwritten, StoredItem.changeFirst, StoredItem.first?_of_search hsearch]
  rfl

/-- An operation reads the items of the file, and fails in a clean way after that. -/
theorem exists_rest (h : FileHub) (op : HubOperation) : ∃ rest : List StoredItem → HubM Folder Unit,
    op.on h.hub = h.items >>= rest ∧
      ∀ items, FailsClean (FailsFor h.format items op) (rest items) := by
  cases op with
  | list =>
    refine ⟨_, bind_assoc _ _ _, fun items => .answer (.ofExcept fun e he => ?_) ()⟩
    obtain ⟨before, i, after, hlisted, hbefore, hread⟩ := mapM_read_eq_error.1 he
    exact .inr (.unlisted hlisted hbefore hread)
  | get id =>
    refine ⟨_, bind_assoc _ _ _, fun items => .answer ?_ ()⟩
    refine .bind (failsClean_find rfl) (leaves_find items id) fun found s hrun => ?_
    refine .ofExcept fun e he => ?_
    obtain ⟨first, rest, hitems, hfirst, htext, hid⟩ := first_of_search (search_of_find hrun)
    exact .inr (.unread hitems hfirst htext hid he)
  | write w =>
    obtain ⟨c, rfl⟩ | ⟨change, hon, hwritten⟩ := create_or_change w
    · refine ⟨_, bind_assoc _ _ _, fun items => .answer ?_ ()⟩
      refine .bind (failsClean_search rfl) (.ofExcept _) fun found s hrun => ?_
      rw [run_ofExcept] at hrun
      have hsearch : search items c.id = .ok found := (Prod.mk.inj hrun).1
      cases found with
      | some entry => exact .throw (.inl ⟨_, rfl⟩)
      | none =>
        refine FailsClean.answer (failsClean_store (w := .create c)
          (not_meetsEndless_of_search hsearch) ?_) c.id
        exact HubWrite.written_create (StoredItem.passedOver_of_search hsearch)
    · exact ⟨_, hon h, fun items => failsClean_change (hwritten items)⟩

/-! ### Operations that meet something -/

theorem find_of_first? {entry : StoredItem × Nat} (hfound : ¬MeetsEndless id items)
    (hfirst? : StoredItem.first? items id = some entry) : find items id = pure entry := by
  obtain ⟨hnone, -⟩ | ⟨first, i, rest, rfl, hfirst, htext, hid, -⟩ | ⟨hends, -⟩ :=
    search_cases items id
  · have hmem := List.fst_mem_of_mem_zipIdx (List.mem_of_find?_eq_some hfirst?)
    exact absurd (beq_iff_eq.1 (List.find?_some hfirst? :)) (hnone _ hmem).2
  · rw [StoredItem.first?_of_first (fun j hj => (hfirst j hj).2) hid] at hfirst?
    obtain rfl := Option.some.inj hfirst?
    exact find_of_first hfirst htext hid
  · exact absurd hends hfound

/-- A write whose id is found, or is free, fails as the writing of the new items does. -/
theorem run_of_written (hitems : h.items.run f = (.ok items, f))
    (hfound : ¬MeetsEndless w.soughtId items) (hwritten : w.written items = some new)
    (hwrite : h.format.write (new.map StoredItem.node) = .error fault) :
    (w.on h.hub).run f = (.error (.fault fault), f) := by
  have hstore : (h.store new).run f = (.error (.fault fault), f) := run_store_of_unwritten hwrite
  obtain ⟨c, rfl⟩ | ⟨change, hon, hchange⟩ := create_or_change w
  · rw [HubWrite.written, Option.ite_none_left_eq_some] at hwritten
    obtain ⟨hnew, heq⟩ := hwritten
    obtain rfl := Option.some.inj heq
    have hsearch : search items c.id = .ok none := by
      obtain ⟨-, hsearch⟩ | ⟨first, i, rest, rfl, -, -, hid, -⟩ | ⟨hends, -⟩ :=
        search_cases items c.id
      · exact hsearch
      · simp [hid] at hnew
      · exact absurd hends hfound
    have hcreate : (h.create c).run f = (.error (.fault fault), f) := by
      rw [create, run_bind_of_ok hitems, hsearch]
      exact run_bind_of_error hstore _
    exact run_bind_of_error hcreate _
  · rw [hchange] at hwritten
    obtain ⟨entry, hfirst?, rfl⟩ := Option.map_eq_some_iff.1 hwritten
    rw [hon, changeAt, run_bind_of_ok hitems, find_of_first? hfound hfirst?]
    exact hstore

theorem find_of_endless (hends : MeetsEndless id items) :
    find items id = throw (.fault .badValue) := by
  rw [find, search_of_endless hends]
  rfl

/-- An operation that looks for an id comes to nothing else when it meets one that is not written
out. -/
theorem run_of_endless (hitems : h.items.run f = (.ok items, f)) (hid : op.soughtId? = some id)
    (hends : MeetsEndless id items) : (op.on h.hub).run f = (.error (.fault .badValue), f) := by
  cases op with
  | list => cases hid
  | get id' =>
    obtain rfl := Option.some.inj hid
    have hget : (h.get id').run f = (.error (.fault .badValue), f) := by
      rw [get, run_bind_of_ok hitems, find_of_endless hends]
      rfl
    exact run_bind_of_error hget _
  | write w =>
    obtain rfl := Option.some.inj hid
    change (w.on h.hub).run f = _
    obtain ⟨c, rfl⟩ | ⟨change, hon, -⟩ := create_or_change w
    · have hcreate : (h.create c).run f = (.error (.fault .badValue), f) := by
        have hsearch : search items c.id = .error (.fault .badValue) := search_of_endless hends
        rw [create, run_bind_of_ok hitems, hsearch]
        rfl
      exact run_bind_of_error hcreate _
    · rw [hon, changeAt, run_bind_of_ok hitems, find_of_endless hends]
      rfl

theorem run_of_meets (hitems : h.items.run f = (.ok items, f)) (hmeets : Meets h.format items op e) :
    (op.on h.hub).run f = (.error e, f) := by
  cases hmeets with
  | unlisted hlisted hbefore hread =>
    have hlist : h.list.run f = (.error e, f) := by
      rw [list, run_bind_of_ok hitems, run_ofExcept,
        mapM_read_eq_error.2 ⟨_, _, _, hlisted, hbefore, hread⟩]
    exact run_bind_of_error hlist _
  | @unread id first rest i _ heq hfirst htext hid hread =>
    have hget : (h.get id).run f = (.error e, f) := by
      rw [get, run_bind_of_ok hitems, heq, find_of_first hfirst htext hid]
      change (ofExcept i.read : HubM Folder Automation).run f = _
      rw [run_ofExcept, hread]
    exact run_bind_of_error hget _
  | endless hid hends => exact run_of_endless hitems hid hends
  | unwritten hfound hwritten hwrite => exact run_of_written hitems hfound hwritten hwrite

/-! ### What cannot be read -/

def Faults (h : FileHub) (f : Folder) (fault : Fault) : Prop :=
  ∃ bytes, f.at? h.path = some (.file bytes) ∧ h.format.read bytes = .error (.fault fault)

def fault? (h : FileHub) (f : Folder) : Option Fault :=
  match f.at? h.path with
  | some (.file bytes) =>
    match h.format.read bytes with
    | .error (.fault fault) => some fault
    | _ => none
  | _ => none

theorem faults_of (hfault : h.fault? f = some fault) : h.Faults f fault := by
  unfold fault? at hfault
  split at hfault
  · split at hfault
    · obtain rfl := Option.some.inj hfault
      exact ⟨_, ‹_›, ‹_›⟩
    · cases hfault
  · cases hfault

/-- The items are read unless the file holds no list, or holds what no data can be made of. -/
theorem items_eq_error (hread : ReadsAsText h.format) {e : Failure} {t : Folder}
    (hrun : h.items.run f = (.error e, t)) :
    (∃ reason, e = .hub reason) ∨ ∃ fault, e = .fault fault ∧ h.Faults f fault := by
  rw [items, run_get_bind] at hrun
  cases hat : f.at? h.path with
  | none =>
    simp only [hat] at hrun
    cases (Prod.mk.inj hrun).1
  | some entry =>
    cases entry with
    | directory =>
      simp only [hat] at hrun
      exact .inl ⟨_, (Except.error.inj (Prod.mk.inj hrun).1).symm⟩
    | file bytes =>
      simp only [hat] at hrun
      cases hformat : h.format.read bytes with
      | error e' =>
        simp only [hformat] at hrun
        obtain rfl := Except.error.inj (Prod.mk.inj hrun).1
        have htext := hread bytes _ hformat
        unfold Yaml.IsTextFailure at htext
        split at htext
        · exact .inl ⟨_, rfl⟩
        · exact .inr ⟨_, rfl, bytes, hat, hformat⟩
        · exact htext.elim
      | ok node =>
        simp only [hformat] at hrun
        split at hrun
        · next heq => cases heq
        · cases (Prod.mk.inj hrun).1
        · split at hrun
          · cases (Prod.mk.inj hrun).1
          · exact .inl ⟨_, (Except.error.inj (Prod.mk.inj hrun).1).symm⟩

theorem run_of_faults (hfaults : h.Faults f fault) (op : HubOperation) :
    (op.on h.hub).run f = (.error (.fault fault), f) := by
  obtain ⟨bytes, hfile, hread⟩ := hfaults
  obtain ⟨rest, hop, -⟩ := h.exists_rest op
  have hitems : h.items.run f = (.error (.fault fault), f) := by
    rw [items, run_get_bind]
    simp only [hfile, hread]
    rfl
  rw [hop, run_bind_of_error hitems]

def HoldsUnmade (path : List String) (f : Folder) (fault : Fault) : Prop :=
  ∃ bytes, f.at? path = some (.file bytes) ∧ Yaml.Unmade bytes fault

theorem faults_iff {path : List String} :
    (FileHub.mk .yaml path).Faults f fault ↔ HoldsUnmade path f fault :=
  exists_congr fun _ => and_congr_right fun _ => Yaml.readBytes_eq_fault_iff

def FailsInHub (h : FileHub) (op : HubOperation) (f : Folder) : Prop :=
  ∀ e t, (op.on h.hub).run f = (.error e, t) → ∃ reason, e = .hub reason

end FileHub

end HomePortal
