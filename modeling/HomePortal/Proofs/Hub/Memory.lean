import HomePortal.Hub.Memory
import HomePortal.Proofs.Lookup
/-!
A hub in memory: what is found after something was put or removed, the outcome of each of its
operations, and the hubs that keep each automation under the id of its config.
-/

namespace HomePortal.Memory

variable {m : Memory} {id key : String}

theorem find?_nil : find? [] key = none :=
  rfl

theorem find?_cons {a : Automation} :
    find? ((id, a) :: m) key = if key = id then some a else m.find? key :=
  lookup_cons_eq

theorem find?_append {a : Automation} :
    find? (m ++ [(id, a)]) key = (m.find? key).or (if key = id then some a else none) := by
  induction m with
  | nil => exact find?_cons
  | cons entry rest ih =>
    obtain ⟨k, b⟩ := entry
    rw [List.cons_append, find?_cons, find?_cons, ih]
    split
    · rfl
    · rfl

/-- Changing what stands under one key leaves the other keys as they are. -/
theorem find?_map {a : Automation} :
    find? (m.map fun entry => if entry.1 == id then (id, a) else entry) key =
      if key = id then (m.find? id).map fun _ => a else m.find? key :=
  lookup_map_eq

theorem any_key_iff : m.any (·.1 == id) = true ↔ ∃ a, m.find? id = some a := by
  induction m with
  | nil => simp [find?_nil]
  | cons entry rest ih =>
    obtain ⟨k, b⟩ := entry
    rw [List.any_cons, Bool.or_eq_true, ih, find?_cons, beq_iff_eq, eq_comm]
    split
    · simp_all
    · simp_all

theorem find?_put (m : Memory) (id key : String) (a : Automation) :
    (m.put id a).find? key = if key = id then some a else m.find? key := by
  unfold put
  split
  · rename_i hany
    obtain ⟨b, hb⟩ := any_key_iff.1 hany
    rw [find?_map, hb, Option.map_some]
  · rename_i hany
    rw [find?_append]
    split
    · rename_i hkey
      subst hkey
      cases hfind : m.find? key with
      | none => rfl
      | some b => exact absurd (any_key_iff.2 ⟨b, hfind⟩) hany
    · exact Option.or_none

theorem find?_remove (m : Memory) (id key : String) :
    (m.remove id).find? key = if key = id then none else m.find? key := by
  unfold remove
  induction m with
  | nil => simp [find?_nil]
  | cons entry rest ih =>
    obtain ⟨k, b⟩ := entry
    by_cases hk : k = id
    · subst hk
      rw [List.filter_cons_of_neg (by simp), ih, find?_cons]
      split
      · rfl
      · rfl
    · rw [List.filter_cons_of_pos (by simp [hk]), find?_cons, find?_cons, ih]
      by_cases hkey : key = k
      · subst hkey
        simp [hk]
      · simp [hkey]

/-! The outcome of each operation, and what is stored after it. -/

theorem run_get (id : String) (m : Memory) : (hub.get id).run m = match m.find? id with
    | some a => (.ok a, m)
    | none => (.error (.hub (.noAutomation id)), m) := by
  change ((match m.find? id with
    | some a => pure a
    | none => throw (.hub (.noAutomation id)) : HubM Memory Automation)).run m = _
  split
  · rfl
  · rfl

theorem run_create (c : Config) (m : Memory) : (hub.create c).run m =
    (.ok c.id, m.put c.id ⟨some ("automation." ++ c.id), true, c⟩) :=
  rfl

theorem run_change (id : String) (f : Memory → Automation → Memory) (m : Memory) :
    (change id f).run m = match m.find? id with
      | some a => (.ok (), f m a)
      | none => (.error (.fault .unknownKey), m) := by
  change ((match m.find? id with
    | some a => set (f m a)
    | none => throw (.fault .unknownKey) : HubM Memory Unit)).run m = _
  split
  · rfl
  · rfl

theorem run_change_of_find? {f : Memory → Automation → Memory} {a : Automation}
    (ha : m.find? id = some a) : (change id f).run m = (.ok (), f m a) := by
  rw [run_change, ha]

/-! Each automation under the id of its config, once. -/

structure IsKeyed (m : Memory) : Prop where
  distinct : (m.map (·.1)).Nodup
  own : ∀ key a, (key, a) ∈ m → a.config.id = key

theorem mem_of_find? {a : Automation} (h : m.find? key = some a) : (key, a) ∈ m := by
  obtain ⟨before, after, rfl, -⟩ := List.lookup_eq_some_iff.1 h
  simp

theorem find?_of_mem {a : Automation} (hm : (m.map (·.1)).Nodup) (h : (key, a) ∈ m) :
    m.find? key = some a := by
  induction m with
  | nil => exact absurd h List.not_mem_nil
  | cons entry rest ih =>
    obtain ⟨k, b⟩ := entry
    rw [List.map_cons, List.nodup_cons] at hm
    obtain ⟨hk, hrest⟩ := hm
    rw [find?_cons]
    cases List.mem_cons.1 h with
    | inl heq =>
      obtain ⟨rfl, rfl⟩ := Prod.mk.inj heq
      exact if_pos rfl
    | inr hmem =>
      have hne : key ≠ k := by
        intro heq
        subst heq
        exact hk (List.mem_map.2 ⟨_, hmem, rfl⟩)
      rw [if_neg hne]
      exact ih hrest hmem

/-- Putting changes the keys only by a new one at the end. -/
theorem keys_put (m : Memory) (id : String) (a : Automation) : (m.put id a).map (·.1) =
    if id ∈ m.map (·.1) then m.map (·.1) else m.map (·.1) ++ [id] := by
  have hany : m.any (·.1 == id) = true ↔ id ∈ m.map (·.1) := by simp
  unfold put
  by_cases h : id ∈ m.map (·.1)
  · rw [if_pos (hany.2 h), if_pos h, List.map_map]
    refine List.map_congr_left fun entry _ => ?_
    by_cases hk : entry.1 = id
    · simp [hk]
    · simp [hk]
  · rw [if_neg (mt hany.1 h), if_neg h, List.map_append]
    rfl

theorem nodup_put {a : Automation} (h : (m.map (·.1)).Nodup) :
    ((m.put id a).map (·.1)).Nodup := by
  rw [keys_put]
  by_cases hid : id ∈ m.map (·.1)
  · rwa [if_pos hid]
  · rw [if_neg hid, List.nodup_append]
    refine ⟨h, by simp, fun k hk k' hk' heq => ?_⟩
    rw [List.mem_singleton] at hk'
    subst heq hk'
    exact hid hk

theorem IsKeyed.put {a : Automation} (h : m.IsKeyed) (ha : a.config.id = id) :
    (m.put id a).IsKeyed := by
  have hnodup : ((m.put id a).map (·.1)).Nodup := nodup_put h.distinct
  refine ⟨hnodup, fun key b hb => ?_⟩
  have hfind := find?_of_mem hnodup hb
  rw [find?_put] at hfind
  by_cases hkey : key = id
  · rw [if_pos hkey] at hfind
    obtain rfl := Option.some.inj hfind
    rw [ha, hkey]
  · rw [if_neg hkey] at hfind
    exact h.own key b (mem_of_find? hfind)

/-- The config under a key of such a hub has that key as its id. -/
theorem IsKeyed.id_of_find? {a : Automation} (h : m.IsKeyed) (ha : m.find? key = some a) :
    a.config.id = key :=
  h.own key a (mem_of_find? ha)

theorem put_of_find? {a b : Automation} (h : m.find? id = some b) :
    m.put id a = m.map fun entry => if entry.1 == id then (id, a) else entry :=
  if_pos (any_key_iff.2 ⟨b, h⟩)

theorem put_of_none {a : Automation} (h : m.find? id = none) : m.put id a = m ++ [(id, a)] := by
  refine if_neg fun hany => ?_
  obtain ⟨b, hb⟩ := any_key_iff.1 hany
  rw [h] at hb
  cases hb

theorem map_of_ne {a : Automation} (h : ∀ entry ∈ m, entry.1 ≠ id) :
    (m.map fun entry => if entry.1 == id then (id, a) else entry) = m := by
  have hkeep : ∀ entry ∈ m, (if entry.1 == id then (id, a) else entry) = entry := by
    intro entry hentry
    simp [h entry hentry]
  rw [List.map_congr_left hkeep, List.map_id']

/-- What is put last under a key is what counts. -/
theorem put_put (m : Memory) (id : String) (a b : Automation) :
    (m.put id a).put id b = m.put id b := by
  have hput : (m.put id a).find? id = some a := by rw [find?_put, if_pos rfl]
  rw [put_of_find? hput]
  cases hfind : m.find? id with
  | some c =>
    rw [put_of_find? hfind, put_of_find? hfind, List.map_map]
    refine List.map_congr_left fun entry _ => ?_
    by_cases hk : entry.1 = id
    · simp [hk]
    · simp [hk]
  | none =>
    have hne : ∀ entry ∈ m, entry.1 ≠ id := by
      intro entry hmem hk
      obtain ⟨c, hc⟩ := any_key_iff.1 (List.any_eq_true.2 ⟨entry, hmem, beq_iff_eq.2 hk⟩)
      rw [hfind] at hc
      cases hc
    rw [put_of_none hfind, put_of_none hfind, List.map_append, map_of_ne hne]
    simp

theorem nodup_remove (h : (m.map (·.1)).Nodup) (id : String) : ((m.remove id).map (·.1)).Nodup :=
  h.sublist (List.filter_sublist.map _)

/-- Where no key stands twice, putting and removing change one place. -/
theorem exists_split {a : Automation} (hm : (m.map (·.1)).Nodup) (ha : m.find? id = some a) :
    ∃ before after : Memory, m = before ++ (id, a) :: after ∧
      (∀ b, m.put id b = before ++ (id, b) :: after) ∧ m.remove id = before ++ after := by
  obtain ⟨before, after, rfl, hbefore⟩ := List.lookup_eq_some_iff.1 ha
  have hleft : ∀ entry ∈ before, entry.1 ≠ id := by
    intro entry hentry heq
    simpa [heq] using hbefore entry hentry
  have hright : ∀ entry ∈ after, entry.1 ≠ id := by
    rw [List.map_append, List.nodup_append, List.map_cons, List.nodup_cons] at hm
    intro entry hentry heq
    apply hm.2.1.1
    rw [← heq]
    exact List.mem_map.2 ⟨entry, hentry, rfl⟩
  refine ⟨before, after, rfl, fun b => ?_, ?_⟩
  · rw [put_of_find? ha, List.map_append, List.map_cons, map_of_ne hleft, map_of_ne hright]
    simp
  · have hkeep (rest : Memory) (hrest : ∀ entry ∈ rest, entry.1 ≠ id) :
        rest.filter (·.1 != id) = rest := by
      apply List.filter_eq_self.2
      intro entry hentry
      simpa using hrest entry hentry
    rw [remove, List.filter_append, List.filter_cons, hkeep before hleft, hkeep after hright]
    simp

end HomePortal.Memory
