import HomePortal.Hub.Path
import HomePortal.Proofs.Text.Parts
import Mathlib.Logic.Relation
import Mathlib.Tactic.SplitIfs
/-!
Where the names of files lead. A path is shortened until only names are left, and what is left does
not depend on the order. Either it lies below the directory, or the name is refused.
-/

namespace HomePortal.Path

open Relation (ReflTransGen)

structure IsName (step : String) : Prop where
  notEmpty : step ≠ ""
  notHere : step ≠ "."
  notBack : step ≠ ".."
  single : '/' ∉ step.toList

inductive Shortens : List String → List String → Prop
  | stay (before after : List String) {step : String} (hstep : step = "" ∨ step = ".") :
      Shortens (before ++ step :: after) (before ++ after)
  | back (before after : List String) {name : String} (hname : IsName name) :
      Shortens (before ++ name :: ".." :: after) (before ++ after)
  | root (after : List String) : Shortens (".." :: after) after

/-- Where a path leads from the root: by names alone. -/
structure LeadsTo (path full : List String) : Prop where
  shortens : ReflTransGen Shortens path full
  names : ∀ step ∈ full, IsName step

/-! ### Walking along a path -/

variable {before p q full base : List String} {step : String}

theorem walk_stay (h : step = "" ∨ step = ".") (p : List String) :
    walk before (step :: p) = walk before p := by
  obtain rfl | rfl := h <;> rfl

theorem walk_back (p : List String) : walk before (".." :: p) = walk (before.drop 1) p :=
  rfl

theorem walk_name (h : IsName step) (p : List String) :
    walk before (step :: p) = walk (step :: before) p := by
  simp [walk, h.notEmpty, h.notHere, h.notBack]

theorem walk_append (before p q : List String) :
    walk before (p ++ q) = walk (walk before p).reverse q := by
  induction p generalizing before with
  | nil => rw [List.nil_append, walk, List.reverse_reverse]
  | cons step p ih =>
    rw [List.cons_append, walk, walk]
    split_ifs
    · exact ih before
    · exact ih (before.drop 1)
    · exact ih (step :: before)

theorem walk_names (before : List String) (h : ∀ step ∈ p, IsName step) :
    walk before p = before.reverse ++ p := by
  induction p generalizing before with
  | nil => rw [walk, List.append_nil]
  | cons step p ih =>
    rw [walk_name (h step List.mem_cons_self), ih _ fun s hs => h s (.tail _ hs),
      List.reverse_cons, List.append_assoc, List.singleton_append]

/-- What is left out of a path changes nothing about where it leads. -/
theorem Shortens.walk_eq (h : Shortens p q) : walk [] p = walk [] q := by
  cases h with
  | stay before after hstep => rw [walk_append, walk_append, walk_stay hstep]
  | back before after hname =>
    rw [walk_append, walk_append, walk_name hname, walk_back, List.drop_one, List.tail_cons]
  | root after => rfl

/-- The names before a path and the path are shortened to where it leads. -/
theorem leadsTo_walk (hbefore : ∀ step ∈ before, IsName step)
    (hp : ∀ step ∈ p, '/' ∉ step.toList) : LeadsTo (before.reverse ++ p) (walk before p) := by
  induction p generalizing before with
  | nil =>
    rw [List.append_nil, walk]
    exact ⟨.refl, fun step hstep => hbefore step (List.mem_reverse.1 hstep)⟩
  | cons step p ih =>
    have hrest : ∀ step ∈ p, '/' ∉ step.toList := fun s hs => hp s (.tail _ hs)
    by_cases hstay : step = "" ∨ step = "."
    · obtain ⟨hshort, hnames⟩ := ih hbefore hrest
      rw [walk_stay hstay]
      exact ⟨.head (.stay _ _ hstay) hshort, hnames⟩
    by_cases hback : step = ".."
    · subst hback
      rw [walk_back]
      cases before with
      | nil =>
        obtain ⟨hshort, hnames⟩ := @ih [] nofun hrest
        exact ⟨.head (.root p) hshort, hnames⟩
      | cons name before =>
        rw [List.drop_one, List.tail_cons, List.reverse_cons, List.append_assoc,
          List.singleton_append]
        obtain ⟨hshort, hnames⟩ := ih (fun s hs => hbefore s (.tail _ hs)) hrest
        exact ⟨.head (.back _ _ (hbefore name List.mem_cons_self)) hshort, hnames⟩
    · obtain ⟨hempty, hhere⟩ := not_or.1 hstay
      have hname : IsName step := ⟨hempty, hhere, hback, hp step List.mem_cons_self⟩
      obtain ⟨hshort, hnames⟩ := ih (List.forall_mem_cons.2 ⟨hname, hbefore⟩) hrest
      rw [List.reverse_cons, List.append_assoc, List.singleton_append] at hshort
      rw [walk_name hname]
      exact ⟨hshort, hnames⟩

/-- A path leads to one place only, whatever is left out first. -/
theorem leadsTo_iff (hp : ∀ step ∈ p, '/' ∉ step.toList) : LeadsTo p full ↔ walk [] p = full := by
  constructor
  · intro h
    have hkept : walk [] p = walk [] full := by
      refine h.shortens.head_induction_on rfl ?_
      intro _ _ hstep _ heq
      exact hstep.walk_eq.trans heq
    rw [hkept, walk_names [] h.names, List.reverse_nil, List.nil_append]
  · intro h
    have hwalk : LeadsTo ([].reverse ++ p) (walk [] p) := leadsTo_walk nofun hp
    rw [← h]
    exact hwalk

/-! ### Files inside a directory -/

def joined (base : List String) (name : List Char) : List String :=
  if name.head? = some '/' then steps name else base ++ steps name

theorem not_mem_of_mem_steps {cs : List Char} (h : step ∈ steps cs) : '/' ∉ step.toList := by
  obtain ⟨part, hpart, rfl⟩ := List.mem_map.1 h
  rw [String.toList_ofList]
  exact Text.not_mem_of_mem_splitOn hpart

theorem leadsTo_joined_iff (hbase : ∀ step ∈ base, IsName step) (cs : List Char) :
    LeadsTo (joined base cs) full ↔ resolve base cs = full := by
  have hsteps : ∀ step ∈ steps cs, '/' ∉ step.toList := fun _ => not_mem_of_mem_steps
  unfold joined resolve
  by_cases hroot : cs.head? = some '/'
  · rw [if_pos hroot, if_pos (beq_iff_eq.2 hroot), leadsTo_iff hsteps]
  · rw [if_neg hroot, if_neg (mt beq_iff_eq.1 hroot), leadsTo_iff, walk_append,
      walk_names [] hbase, List.reverse_nil, List.nil_append]
    intro step hstep
    exact (List.mem_append.1 hstep).elim (fun h => (hbase step h).single) (hsteps step)

theorem mem_of_mem_relative {c : Char} {cs : List Char} (h : c ∈ relative cs) : c ∈ cs := by
  unfold relative at h
  split at h
  · exact List.mem_of_mem_drop h
  · exact h

theorem inside_eq {name : String} (hname : '\x00' ∉ name.toList) : inside base name =
    if relative name.toList = [] then .error (.hub .emptyName)
    else if base <+: resolve base (relative name.toList) ∧
        resolve base (relative name.toList) ≠ base then
      .ok ((resolve base (relative name.toList)).drop base.length)
    else .error (.hub (.outside (String.ofList (relative name.toList)))) := by
  have hnull : (relative name.toList).contains '\x00' = false :=
    Bool.eq_false_iff.2 fun h => hname (mem_of_mem_relative (List.contains_iff_mem.1 h))
  unfold inside
  simp only [hnull, List.isEmpty_iff, Bool.false_eq_true, if_false, Bool.and_eq_true,
    List.isPrefixOf_iff_prefix, bne_iff_ne]

/-- The path of a file goes on below its directory, by names alone. A name without a null character
is refused exactly if nothing is left of it without its slash, or if it leads to the directory
itself or out of it; and it is refused as a path. -/
theorem inside_exact {name : String} (hbase : ∀ step ∈ base, IsName step)
    (hname : '\x00' ∉ name.toList) :
    (∀ path, inside base name = .ok path →
      LeadsTo (joined base (relative name.toList)) (base ++ path) ∧ path ≠ []) ∧
    (∀ e, inside base name = .error e →
      ∃ reason : HubError, e = .hub reason ∧ reason.kind = .path) ∧
    ((∃ e, inside base name = .error e) ↔ relative name.toList = [] ∨
      ∃ full, LeadsTo (joined base (relative name.toList)) full ∧
        (full = base ∨ ¬base <+: full)) := by
  simp only [leadsTo_joined_iff hbase, inside_eq hname]
  by_cases hempty : relative name.toList = []
  · rw [if_pos hempty]
    refine ⟨nofun, fun e he => ?_, iff_of_true ⟨_, rfl⟩ (.inl hempty)⟩
    exact ⟨.emptyName, (Except.error.inj he).symm, rfl⟩
  rw [if_neg hempty]
  by_cases hbelow : base <+: resolve base (relative name.toList) ∧
      resolve base (relative name.toList) ≠ base
  · obtain ⟨path, hpath⟩ := hbelow.1
    rw [if_pos hbelow]
    refine ⟨fun path' hpath' => ?_, nofun, iff_of_false nofun ?_⟩
    · rw [← hpath, List.drop_left] at hpath'
      obtain rfl := Except.ok.inj hpath'
      refine ⟨hpath.symm, fun hnil => hbelow.2 ?_⟩
      rw [← hpath, hnil, List.append_nil]
    · rintro (h | ⟨full, rfl, hsame | hout⟩)
      · exact hempty h
      · exact hbelow.2 hsame
      · exact hout hbelow.1
  · rw [if_neg hbelow]
    refine ⟨nofun, fun e he => ?_, iff_of_true ⟨_, rfl⟩ (.inr ⟨_, rfl, ?_⟩)⟩
    · exact ⟨_, (Except.error.inj he).symm, rfl⟩
    · by_cases hsame : resolve base (relative name.toList) = base
      · exact .inl hsame
      · exact .inr fun hin => hbelow ⟨hin, hsame⟩

/-- A name that leaves its directory and comes back. -/
theorem inside_exact_return : (∀ step ∈ ["srv", "config"], IsName step) ∧
    '\x00' ∉ "/notes/../../config/x.yaml".toList ∧
    inside ["srv", "config"] "/notes/../../config/x.yaml" = .ok ["x.yaml"] ∧
    LeadsTo ["srv", "config", "notes", "..", "..", "config", "x.yaml"]
      ["srv", "config", "x.yaml"] := by
  have hsrv : IsName "srv" := ⟨by decide, by decide, by decide, by decide⟩
  have hconfig : IsName "config" := ⟨by decide, by decide, by decide, by decide⟩
  have hbase : ∀ step ∈ ["srv", "config"], IsName step :=
    List.forall_mem_cons.2 ⟨hsrv, List.forall_mem_cons.2 ⟨hconfig, nofun⟩⟩
  have hname : '\x00' ∉ "/notes/../../config/x.yaml".toList := by decide
  have hinside : inside ["srv", "config"] "/notes/../../config/x.yaml" = .ok ["x.yaml"] :=
    rfl
  exact ⟨hbase, hname, hinside, ((inside_exact hbase hname).1 _ hinside).1⟩

end HomePortal.Path
