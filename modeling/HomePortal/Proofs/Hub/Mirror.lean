import HomePortal.Proofs.Hub.File
import HomePortal.Proofs.Hub.Memory
import Mathlib.Data.List.Forall2
/-!
A hub in a file beside one in memory that holds the same automations: every operation comes to the
same outcome at both, and they hold the same automations after it.
-/

namespace HomePortal

/-! ### Two runs -/

namespace HubM

variable {σ τ α β : Type} {R : σ → τ → Prop} {s : σ} {t : τ}

def Agree (R : σ → τ → Prop) (x : HubM σ α) (y : HubM τ α) (s : σ) (t : τ) : Prop :=
  ∃ outcome s' t', x.run s = (outcome, s') ∧ y.run t = (outcome, t') ∧ R s' t'

namespace Agree

theorem pure (a : α) (h : R s t) : Agree R (pure a) (pure a) s t :=
  ⟨.ok a, s, t, rfl, rfl, h⟩

theorem throw (e : Failure) (h : R s t) :
    Agree R (throw e : HubM σ α) (throw e : HubM τ α) s t :=
  ⟨.error e, s, t, rfl, rfl, h⟩

/-- Sequences agree if their first parts do, and what follows does after the first one succeeds. -/
theorem bind {x : HubM σ α} {y : HubM τ α} {f : α → HubM σ β} {g : α → HubM τ β}
    (hxy : Agree R x y s t)
    (hfg : ∀ a s' t', x.run s = (.ok a, s') → R s' t' → Agree R (f a) (g a) s' t') :
    Agree R (x >>= f) (y >>= g) s t := by
  obtain ⟨outcome, s', t', hx, hy, hR⟩ := hxy
  cases outcome with
  | error e => exact ⟨.error e, s', t', run_bind_of_error hx f, run_bind_of_error hy g, hR⟩
  | ok a =>
    obtain ⟨outcome, s'', t'', hf, hg, hafter⟩ := hfg a s' t' hx hR
    rw [← run_bind_of_ok hx f] at hf
    rw [← run_bind_of_ok hy g] at hg
    exact ⟨outcome, s'', t'', hf, hg, hafter⟩

theorem map {x : HubM σ α} {y : HubM τ α} (f : α → β) (hxy : Agree R x y s t) :
    Agree R (f <$> x) (f <$> y) s t := by
  obtain ⟨outcome, s', t', hx, hy, hR⟩ := hxy
  refine ⟨outcome.map f, s', t', ?_, ?_, hR⟩
  · rw [run_map, hx]
  · rw [run_map, hy]

end Agree

end HubM

/-! ### Configs -/

def Memory.configs (m : Memory) : List Config :=
  m.map fun entry => entry.2.config

/-- What is written of these configs is read again as it was, whatever flags are kept with them. -/
def Format.RestoresConfigs (F : Format) (configs : List Config) : Prop :=
  ∀ ks : List Kept, ks.map Kept.config = configs → F.Restores (ks.map Kept.fields)

def Kept.choices : List Config → List (List Kept)
  | [] => [[]]
  | c :: rest =>
    [none, some true, some false].flatMap fun flag => (choices rest).map fun ks => ⟨c, flag⟩ :: ks

theorem Kept.mem_choices (ks : List Kept) : ks ∈ choices (ks.map Kept.config) := by
  induction ks with
  | nil => exact List.mem_singleton_self []
  | cons k rest ih =>
    have hflag : k.flag ∈ [none, some true, some false] := by
      obtain _ | _ | _ := k.flag <;> decide
    exact List.mem_flatMap.2 ⟨k.flag, hflag, List.mem_map_of_mem ih⟩

theorem Format.restoresConfigs_yaml {configs : List Config}
    (h : ((Kept.choices configs).all fun ks => Yaml.restores (ks.map Kept.fields)) = true) :
    Format.yaml.RestoresConfigs configs := by
  rintro ks rfl
  exact Format.restores_yaml (List.all_eq_true.1 h ks (Kept.mem_choices ks))

/-- Only the config counts of what is put. -/
theorem Memory.configs_put (m : Memory) (id : String) (a : Automation) :
    (m.put id a).configs = (m.put id ⟨none, true, a.config⟩).configs := by
  unfold put configs
  split
  · rw [List.map_map, List.map_map]
    refine List.map_congr_left fun entry _ => ?_
    by_cases hid : entry.1 = id
    · simp [hid]
    · simp [hid]
  · simp

/-! ### The same automations -/

structure Mirrors (entry : String × Automation) (k : Kept) : Prop where
  key : entry.1 = k.config.id
  config : entry.2.config = k.config
  enabled : entry.2.enabled = k.flag.getD true
  named : k.config.id ≠ ""
  normal : k.config.IsNormal
  entity : entry.2.entity = none ∨
    entry.2.entity = some ("automation." ++ k.config.id) ∧ k.config.title ≠ ""

namespace FileHub

open HubM (Agree)

variable {h : FileHub} {m : Memory} {f : Folder} {ks before after : List Kept} {k : Kept}
  {c : Config} {id : String} {a : Automation}

structure MirrorsHub (h : FileHub) (m : Memory) (f : Folder) : Prop where
  distinct : (m.map (·.1)).Nodup
  kept : ∃ ks, List.Forall₂ Mirrors m ks ∧ h.Keeps f ks

theorem configs_eq (hall : List.Forall₂ Mirrors m ks) : ks.map Kept.config = m.configs := by
  induction hall with
  | nil => rfl
  | cons hk _ ih => rw [List.map_cons, ih, ← hk.config]; rfl

theorem exists_mirrors_of_mem (hall : List.Forall₂ Mirrors m ks) (hk : k ∈ ks) :
    ∃ entry ∈ m, Mirrors entry k := by
  induction hall with
  | nil => exact absurd hk List.not_mem_nil
  | cons hfirst _ ih =>
    cases hk with
    | head => exact ⟨_, List.mem_cons_self, hfirst⟩
    | tail _ hk =>
      obtain ⟨entry, hmem, hmirrors⟩ := ih hk
      exact ⟨entry, List.mem_cons_of_mem _ hmem, hmirrors⟩

theorem exists_split_of_append {xs ys : Memory} {entry : String × Automation}
    (hall : List.Forall₂ Mirrors (xs ++ entry :: ys) ks) : ∃ before k after,
      ks = before ++ k :: after ∧ List.Forall₂ Mirrors xs before ∧ Mirrors entry k ∧
        List.Forall₂ Mirrors ys after := by
  induction xs generalizing ks with
  | nil =>
    obtain ⟨k, after, hk, hafter, rfl⟩ := List.forall₂_cons_left_iff.1 hall
    exact ⟨[], k, after, rfl, .nil, hk, hafter⟩
  | cons x rest ih =>
    obtain ⟨first, others, hfirst, hothers, rfl⟩ := List.forall₂_cons_left_iff.1 hall
    obtain ⟨before, k, after, rfl, hbefore, hk, hafter⟩ := ih hothers
    exact ⟨first :: before, k, after, rfl, .cons hfirst hbefore, hk, hafter⟩

structure Place (h : FileHub) (m : Memory) (f : Folder) (id : String) (a : Automation)
    (left right : Memory) (before : List Kept) (k : Kept) (after : List Kept) : Prop where
  put : ∀ b, m.put id b = left ++ (id, b) :: right
  remove : m.remove id = left ++ right
  left : List.Forall₂ Mirrors left before
  entry : Mirrors (id, a) k
  right : List.Forall₂ Mirrors right after
  keeps : h.Keeps f (before ++ k :: after)
  first : ∀ k' ∈ before, k'.config.id ≠ k.config.id

theorem MirrorsHub.exists_place (hmirrors : h.MirrorsHub m f) (ha : m.find? id = some a) :
    ∃ left right before k after, h.Place m f id a left right before k after := by
  obtain ⟨ks, hall, hkeeps⟩ := hmirrors.kept
  obtain ⟨left, right, rfl, hput, hremove⟩ := Memory.exists_split hmirrors.distinct ha
  obtain ⟨before, k, after, rfl, hleft, hk, hright⟩ := exists_split_of_append hall
  refine ⟨left, right, before, k, after, hput, hremove, hleft, hk, hright, hkeeps, ?_⟩
  intro k' hk' heq
  obtain ⟨entry, hentry, hmirror⟩ := exists_mirrors_of_mem hleft hk'
  have hdistinct := hmirrors.distinct
  rw [List.map_append, List.map_cons] at hdistinct
  refine (List.nodup_append.1 hdistinct).2.2 entry.1 (List.mem_map_of_mem hentry) id
    List.mem_cons_self ?_
  rw [hmirror.key, heq, ← hk.key]

theorem id_ne_of_find?_eq_none (hall : List.Forall₂ Mirrors m ks)
    (hnone : m.find? id = none) : ∀ k ∈ ks, k.config.id ≠ id := by
  intro k hk heq
  obtain ⟨entry, hentry, hmirror⟩ := exists_mirrors_of_mem hall hk
  have hany : m.any (·.1 == id) = true :=
    List.any_eq_true.2 ⟨entry, hentry, beq_iff_eq.2 (hmirror.key.trans heq)⟩
  obtain ⟨b, hb⟩ := Memory.any_key_iff.1 hany
  rw [hnone] at hb
  cases hb

/-! ### Operations -/

/-- Both answer with the same config, or both fail alike. -/
theorem MirrorsHub.get (hmirrors : h.MirrorsHub m f) (id : String) :
    (∃ a b, m.find? id = some a ∧ (h.get id).run f = (.ok b, f) ∧ b.config = a.config) ∨
      m.find? id = none ∧ (h.get id).run f = (.error (.hub (.noAutomation id)), f) := by
  cases hfind : m.find? id with
  | none =>
    obtain ⟨ks, hall, hkeeps⟩ := hmirrors.kept
    exact .inr ⟨rfl, hkeeps.run_get_of_not_mem (id_ne_of_find?_eq_none hall hfind)⟩
  | some a =>
    obtain ⟨left, right, before, k, after, hplace⟩ := hmirrors.exists_place hfind
    have hget := hplace.keeps.run_get hplace.first hplace.entry.normal
    rw [← hplace.entry.key] at hget
    exact .inl ⟨a, k.automation, rfl, hget, hplace.entry.config.symm⟩

/-- Where an automation stands in memory, another one with its key may be put. -/
theorem Place.mirrors_put {left right : Memory} (hmirrors : h.MirrorsHub m f)
    (hplace : h.Place m f id a left right before k after) {b : Automation} {k' : Kept} {g : Folder}
    (hb : Mirrors (id, b) k') (hg : h.Keeps g (before ++ k' :: after)) :
    h.MirrorsHub (m.put id b) g := by
  refine ⟨Memory.nodup_put hmirrors.distinct, _, ?_, hg⟩
  rw [hplace.put]
  exact List.rel_append hplace.left (.cons hb hplace.right)

theorem Place.configs_put {left right : Memory}
    (hplace : h.Place m f id a left right before k after) {b : Automation} {k' : Kept}
    (hb : Mirrors (id, b) k') :
    (before ++ k' :: after).map Kept.config = (m.put id b).configs := by
  rw [hplace.put]
  exact configs_eq (List.rel_append hplace.left (.cons hb hplace.right))

theorem MirrorsHub.update (hmarks : h.format.IgnoresMarks) (hmirrors : h.MirrorsHub m f)
    (ha : m.find? c.id = some a) (hc : c.IsNormal) (htitle : c.title ≠ "")
    (hrestores : h.format.RestoresConfigs (m.put c.id { a with config := c }).configs) :
    Agree h.MirrorsHub (Memory.hub.update c.id c) (h.update c.id c) m f := by
  obtain ⟨left, right, before, k, after, hplace⟩ := hmirrors.exists_place ha
  have hk := hplace.entry
  have hid : c.id = k.config.id := hk.key
  have hnew : Mirrors (c.id, { a with config := c }) ⟨c, k.flag⟩ :=
    ⟨rfl, rfl, hk.enabled, hid ▸ hk.named, hc, hk.entity.imp_right fun h => ⟨hid ▸ h.1, htitle⟩⟩
  obtain ⟨g, hrun, hg⟩ := hplace.keeps.run_update hmarks
    (hrestores _ (hplace.configs_put hnew)) hplace.first hid
  rw [← hid] at hrun
  exact ⟨.ok (), _, g, Memory.run_change_of_find? ha, hrun,
    hplace.mirrors_put hmirrors hnew hg⟩

theorem MirrorsHub.setEnabled (hmarks : h.format.IgnoresMarks) (hmirrors : h.MirrorsHub m f)
    (ha : m.find? id = some a) {b : Bool}
    (hrestores : h.format.RestoresConfigs (m.put id { a with enabled := b }).configs) :
    Agree h.MirrorsHub (Memory.hub.setEnabled id b) (h.setState id (.bool b)) m f := by
  obtain ⟨left, right, before, k, after, hplace⟩ := hmirrors.exists_place ha
  have hk := hplace.entry
  have hid : id = k.config.id := hk.key
  have hnew : Mirrors (id, { a with enabled := b }) ⟨k.config, some b⟩ :=
    ⟨hid, hk.config, rfl, hk.named, hk.normal, hk.entity⟩
  obtain ⟨g, hrun, hg⟩ := hplace.keeps.run_setState hmarks
    (hrestores _ (hplace.configs_put hnew)) hplace.first
  rw [← hid] at hrun
  exact ⟨.ok (), _, g, Memory.run_change_of_find? ha, hrun,
    hplace.mirrors_put hmirrors hnew hg⟩

theorem MirrorsHub.delete (hmarks : h.format.IgnoresMarks) (hmirrors : h.MirrorsHub m f)
    (ha : m.find? id = some a)
    (hrestores : h.format.RestoresConfigs (m.remove id).configs) :
    Agree h.MirrorsHub (Memory.hub.delete id) (h.delete id) m f := by
  obtain ⟨left, right, before, k, after, hplace⟩ := hmirrors.exists_place ha
  have hall : List.Forall₂ Mirrors (m.remove id) (before ++ after) := by
    rw [hplace.remove]
    exact List.rel_append hplace.left hplace.right
  obtain ⟨g, hrun, hg⟩ := hplace.keeps.run_delete hmarks
    (hrestores _ (configs_eq hall)) hplace.first
  rw [← hplace.entry.key] at hrun
  exact ⟨.ok (), _, g, Memory.run_change_of_find? ha, hrun,
    Memory.nodup_remove hmirrors.distinct id, _, hall, hg⟩

theorem MirrorsHub.create (hmarks : h.format.IgnoresMarks) (hmirrors : h.MirrorsHub m f)
    (hfresh : m.find? c.id = none) (hid : c.id ≠ "") (hc : c.IsNormal) (htitle : c.title ≠ "")
    (hrestores : h.format.RestoresConfigs
      (m.put c.id ⟨some ("automation." ++ c.id), true, c⟩).configs) :
    Agree h.MirrorsHub (Memory.hub.create c) (h.create c) m f := by
  obtain ⟨ks, hall, hkeeps⟩ := hmirrors.kept
  have hafter : List.Forall₂ Mirrors (m.put c.id ⟨some ("automation." ++ c.id), true, c⟩)
      (ks ++ [⟨c, none⟩]) := by
    rw [Memory.put_of_none hfresh]
    exact List.rel_append hall (.cons ⟨rfl, rfl, rfl, hid, hc, .inr ⟨rfl, htitle⟩⟩ .nil)
  obtain ⟨g, hrun, hg⟩ := hkeeps.run_create hmarks (hrestores _ (configs_eq hafter))
    (id_ne_of_find?_eq_none hall hfresh)
  exact ⟨.ok c.id, _, g, Memory.run_create c m, hrun, Memory.nodup_put hmirrors.distinct, _,
    hafter, hg⟩

/-- What is read of the file are the automations in memory, in their order. -/
theorem MirrorsHub.list (hmirrors : h.MirrorsHub m f) : ∃ ks, List.Forall₂ Mirrors m ks ∧
    h.list.run f = (.ok (ks.map Kept.automation), f) := by
  obtain ⟨ks, hall, hkeeps⟩ := hmirrors.kept
  refine ⟨ks, hall, hkeeps.run_list (fun k hk => ?_) (fun k hk => ?_)⟩
  · obtain ⟨entry, -, hmirror⟩ := exists_mirrors_of_mem hall hk
    exact hmirror.normal
  · obtain ⟨entry, -, hmirror⟩ := exists_mirrors_of_mem hall hk
    exact hmirror.named

end FileHub

end HomePortal
