import HomePortal.Proofs.Yaml.Node
import HomePortal.Yaml.Writer
/-!
What can be written, and how data is written of which every part stands in one place only: there are
no anchors, and what is written depends on the data alone.
-/

namespace HomePortal

/-! ### What cannot be written -/

def Value.within (room : Nat) (inside : Nat → Option Fault) : Option Fault :=
  match room with
  | 0 => some .tooDeep
  | room + 1 => inside room

def Scalar.flaw? (s : Scalar) : Option Fault :=
  if s.hasText then none else some .badValue

mutual

def Value.flaw? (room : Nat) : Value → Option Fault
  | .scalar s => s.flaw?
  | .list items => within room fun room => flawOfItems? room items
  | .pair a b => within room fun room => (a.flaw? room).or (b.flaw? room)
  | .set members => within room fun _ => members.findSome? Scalar.flaw?
  | .mapping entries => within room fun room => flawOfEntries? room entries

def Value.flawOfItems? (room : Nat) : List Value → Option Fault
  | [] => none
  | item :: rest => (item.flaw? room).or (flawOfItems? room rest)

def Value.flawOfEntries? (room : Nat) : List (Scalar × Value) → Option Fault
  | [] => none
  | (key, item) :: rest => key.flaw?.or ((item.flaw? room).or (flawOfEntries? room rest))

end

namespace Yaml

namespace Writer

open Node (Apart marks marksOfItems marksOfEntries ofValue ofValues ofEntries values valueEntries)

/-! ### The survey -/

namespace Survey

def having (s : Survey) (ms : List Nat) : Survey :=
  { s with met := ms.reverse ++ s.met }

structure Fresh (s : Survey) (ms : List Nat) : Prop where
  nodup : ms.Nodup
  new : ∀ m ∈ ms, m ∉ s.met

variable {s : Survey} {xs ys : List Nat}

theorem having_append (s : Survey) (xs ys : List Nat) :
    (s.having xs).having ys = s.having (xs ++ ys) := by
  simp [having]

theorem fresh_append (h : s.Fresh (xs ++ ys)) : s.Fresh xs ∧ (s.having xs).Fresh ys := by
  obtain ⟨hxs, hys, hdisjoint⟩ := List.nodup_append.1 h.nodup
  refine ⟨⟨hxs, fun m hm => h.new m (List.mem_append_left ys hm)⟩, hys, fun m hm hmet => ?_⟩
  cases List.mem_append.1 hmet with
  | inl hx => exact hdisjoint m (List.mem_reverse.1 hx) m hm rfl
  | inr hs => exact h.new m (List.mem_append_right xs hm) hs

theorem meet_of_fresh {mark : Option Nat} (h : s.Fresh mark.toList) :
    s.meet mark = (true, s.having mark.toList) := by
  cases mark with
  | none => rfl
  | some m =>
    have hnot : s.met.contains m = false := by
      simpa using h.new m (List.mem_singleton_self m)
    simp only [meet, hnot, Bool.not_false, if_true]
    rfl

theorem add_of_fresh {l : Leaf} (h : s.Fresh l.marks) : s.add l.mark = s.having l.marks := by
  rw [add, meet_of_fresh h]
  rfl

end Survey

def found (flaw : Option Fault) (s : Survey) : Except Fault Survey :=
  match flaw with
  | some fault => .error fault
  | none => .ok s

theorem found_bind {x y : Option Fault} {s t : Survey} {f : Survey → Except Fault Survey}
    (h : f s = found y t) : (found x s >>= f) = found (x.or y) t := by
  cases x with
  | none => exact h
  | some fault => rfl

open Survey (fresh_append having_append)
open Value (within)

theorem leaf_of_fresh {l : Leaf} {s : Survey} (h : s.Fresh l.marks) :
    s.leaf l = found l.scalar.flaw? (s.having l.marks) := by
  rw [Survey.leaf, Survey.add_of_fresh h, Scalar.flaw?]
  split <;> rfl

theorem leaves_of_fresh {members : List Leaf} {s : Survey}
    (h : s.Fresh (members.flatMap Leaf.marks)) : members.foldlM Survey.leaf s =
      found ((members.map Leaf.scalar).findSome? Scalar.flaw?)
        (s.having (members.flatMap Leaf.marks)) := by
  induction members generalizing s with
  | nil => rfl
  | cons l rest ih =>
    rw [List.flatMap_cons] at h ⊢
    obtain ⟨hl, hrest⟩ := fresh_append h
    rw [List.foldlM_cons, leaf_of_fresh hl, found_bind (ih hrest), having_append, List.map_cons,
      List.findSome?_cons]
    cases l.scalar.flaw? <;> rfl

theorem enter_of_fresh {mark : Option Nat} {s t : Survey} {inside : Nat → Survey → Except Fault Survey}
    {flaw : Nat → Option Fault} (h : s.Fresh mark.toList)
    (hinside : ∀ room, inside room (s.having mark.toList) = found (flaw room) t) (room : Nat) :
    s.enter mark room inside = found (within room flaw) t := by
  unfold Survey.enter
  rw [Survey.meet_of_fresh h]
  cases room with
  | zero => rfl
  | succ room => exact hinside room

mutual

/-- Of data of which every part stands in one place only, no mark is met again. -/
theorem survey_of_fresh {n : Node} {s : Survey} (h : s.Fresh (marks n)) (room : Nat) :
    survey room n s = found (n.value.flaw? room) (s.having (marks n)) := by
  cases n with
  | leaf l => exact leaf_of_fresh h
  | list mark items =>
    rw [marks] at h ⊢
    obtain ⟨hmark, hitems⟩ := fresh_append h
    refine enter_of_fresh hmark (fun room => ?_) room
    rw [surveyItems_of_fresh hitems, having_append]
  | pair a b =>
    rw [marks] at h ⊢
    obtain ⟨ha, hb⟩ := fresh_append h
    have hnone : s.Fresh (none : Option Nat).toList :=
      ⟨List.nodup_nil, fun _ h => absurd h List.not_mem_nil⟩
    refine enter_of_fresh hnone (fun room => ?_) room
    change (survey room a s >>= survey room b) = _
    rw [survey_of_fresh ha, found_bind (survey_of_fresh hb room), having_append]
  | set mark members =>
    rw [marks] at h ⊢
    obtain ⟨hmark, hmembers⟩ := fresh_append h
    refine enter_of_fresh hmark (fun _ => ?_) room
    rw [leaves_of_fresh hmembers, having_append]
  | mapping mark entries =>
    rw [marks] at h ⊢
    obtain ⟨hmark, hentries⟩ := fresh_append h
    refine enter_of_fresh hmark (fun room => ?_) room
    rw [surveyEntries_of_fresh hentries, having_append]
  | again mark isList => exact absurd h.nodup (by simp [marks])

theorem surveyItems_of_fresh {items : List Node} {s : Survey}
    (h : s.Fresh (marksOfItems items)) (room : Nat) : surveyItems room items s =
      found (Value.flawOfItems? room (values items)) (s.having (marksOfItems items)) := by
  cases items with
  | nil => rfl
  | cons item rest =>
    rw [marksOfItems] at h ⊢
    obtain ⟨hitem, hrest⟩ := fresh_append h
    rw [surveyItems, survey_of_fresh hitem, found_bind (surveyItems_of_fresh hrest room),
      having_append]
    rfl

theorem surveyEntries_of_fresh {entries : List (Leaf × Node)} {s : Survey}
    (h : s.Fresh (marksOfEntries entries)) (room : Nat) : surveyEntries room entries s =
      found (Value.flawOfEntries? room (valueEntries entries))
        (s.having (marksOfEntries entries)) := by
  cases entries with
  | nil => rfl
  | cons entry rest =>
    obtain ⟨key, item⟩ := entry
    rw [marksOfEntries] at h ⊢
    obtain ⟨hkey, h⟩ := fresh_append h
    obtain ⟨hitem, hrest⟩ := fresh_append h
    have hlater : (survey room item (s.having key.marks) >>= surveyEntries room rest) =
        found ((item.value.flaw? room).or (Value.flawOfEntries? room (valueEntries rest)))
          (s.having (key.marks ++ (marks item ++ marksOfEntries rest))) := by
      rw [survey_of_fresh hitem, found_bind (surveyEntries_of_fresh hrest room), having_append,
        having_append]
    rw [surveyEntries, leaf_of_fresh hkey, found_bind hlater]
    rfl

end

/-! What can be written part by part can be written where parts of it stand in several places. -/

theorem exists_leaf {l : Leaf} (h : l.scalar.flaw? = none) (s : Survey) : ∃ t, s.leaf l = .ok t := by
  unfold Scalar.flaw? at h
  unfold Survey.leaf
  split at h
  · rw [if_pos ‹_›]
    exact ⟨_, rfl⟩
  · cases h

theorem exists_leaves {members : List Leaf}
    (h : (members.map Leaf.scalar).findSome? Scalar.flaw? = none) (s : Survey) :
    ∃ t, members.foldlM Survey.leaf s = .ok t := by
  induction members generalizing s with
  | nil => exact ⟨s, rfl⟩
  | cons l rest ih =>
    rw [List.map_cons, List.findSome?_cons] at h
    split at h
    · cases h
    · next hl =>
      obtain ⟨t, ht⟩ := exists_leaf hl s
      obtain ⟨u, hu⟩ := ih h t
      exact ⟨u, by rw [List.foldlM_cons, ht]; exact hu⟩

theorem exists_enter {mark : Option Nat} {inside : Nat → Survey → Except Fault Survey}
    {flaw : Nat → Option Fault} {room : Nat} (h : within room flaw = none)
    (hinside : ∀ room s, flaw room = none → ∃ t, inside room s = .ok t) (s : Survey) :
    ∃ t, s.enter mark room inside = .ok t := by
  unfold Survey.enter
  cases room with
  | zero => cases h
  | succ room =>
    cases s.meet mark with
    | mk isNew s =>
      cases isNew with
      | false => exact ⟨s, rfl⟩
      | true => exact hinside room s h

mutual

theorem exists_survey {n : Node} {room : Nat} (h : n.value.flaw? room = none) (s : Survey) :
    ∃ t, survey room n s = .ok t := by
  cases n with
  | leaf l => exact exists_leaf h s
  | list mark items => exact exists_enter h (fun _ s hitems => exists_surveyItems hitems s) s
  | pair a b =>
    refine exists_enter h (fun room s hpair => ?_) s
    obtain ⟨ha, hb⟩ := Option.or_eq_none_iff.1 hpair
    obtain ⟨t, ht⟩ := exists_survey ha s
    obtain ⟨u, hu⟩ := exists_survey hb t
    exact ⟨u, by rw [ht]; exact hu⟩
  | set mark members => exact exists_enter h (fun _ s hmembers => exists_leaves hmembers s) s
  | mapping mark entries =>
    exact exists_enter h (fun _ s hentries => exists_surveyEntries hentries s) s
  | again mark isList => exact ⟨_, rfl⟩

theorem exists_surveyItems {items : List Node} {room : Nat}
    (h : Value.flawOfItems? room (values items) = none) (s : Survey) :
    ∃ t, surveyItems room items s = .ok t := by
  cases items with
  | nil => exact ⟨s, rfl⟩
  | cons item rest =>
    obtain ⟨hitem, hrest⟩ := Option.or_eq_none_iff.1 h
    obtain ⟨t, ht⟩ := exists_survey hitem s
    obtain ⟨u, hu⟩ := exists_surveyItems hrest t
    exact ⟨u, by rw [surveyItems, ht]; exact hu⟩

theorem exists_surveyEntries {entries : List (Leaf × Node)} {room : Nat}
    (h : Value.flawOfEntries? room (valueEntries entries) = none) (s : Survey) :
    ∃ t, surveyEntries room entries s = .ok t := by
  cases entries with
  | nil => exact ⟨s, rfl⟩
  | cons entry rest =>
    obtain ⟨key, item⟩ := entry
    obtain ⟨hkey, h⟩ := Option.or_eq_none_iff.1 h
    obtain ⟨hitem, hrest⟩ := Option.or_eq_none_iff.1 h
    obtain ⟨t, ht⟩ := exists_leaf hkey s
    obtain ⟨u, hu⟩ := exists_survey hitem t
    obtain ⟨v, hv⟩ := exists_surveyEntries hrest u
    exact ⟨v, by rw [surveyEntries, ht]; exact (congrArg (· >>= _) hu).trans hv⟩

end

/-! ### The page -/

theorem name_nil (s : Sheet) (mark : Option Nat) : s.name [] mark = (true, s) := by
  cases mark with
  | none => rfl
  | some m => rfl

/-- A leaf is written as its scalar is. -/
theorem putLeaf_nil (column : Nat) (folds : Bool) (l : Leaf) (s : Sheet) :
    putLeaf [] column folds l s = putLeaf [] column folds (.ofScalar l.scalar) s := by
  simp only [putLeaf, name_nil, Leaf.ofScalar]

theorem putKey_nil (column : Nat) (l : Leaf) (s : Sheet) :
    putKey [] column l s = putKey [] column (.ofScalar l.scalar) s := by
  unfold putKey
  dsimp only
  rw [putLeaf_nil _ false l, putLeaf_nil _ true l]
  rfl

theorem foldl_putMember_nil (column : Nat) (members : List Leaf) (s : Sheet) :
    members.foldl (putMember [] column) s =
      ((members.map Leaf.scalar).map Leaf.ofScalar).foldl (putMember [] column) s := by
  induction members generalizing s with
  | nil => rfl
  | cons l rest ih =>
    rw [List.foldl_cons, List.map_cons, List.map_cons, List.foldl_cons, ih]
    unfold putMember
    rw [putKey_nil _ l]

mutual

/-- Without anchors, only the data counts of a node that does not stand in itself. -/
theorem put_nil (column : Nat) (inMapping : Bool) {n : Node} (h : (marks n).Nodup) (s : Sheet) :
    put [] column inMapping n s = put [] column inMapping (ofValue n.value) s := by
  cases n with
  | leaf l => exact putLeaf_nil _ _ l s
  | list mark items =>
    have hempty : (ofValues (values items)).isEmpty = items.isEmpty := by
      cases items <;> rfl
    simp only [put, name_nil, Node.value, ofValue, hempty]
    rw [putItems_nil _ (List.nodup_append.1 h).2.1]
  | pair a b =>
    obtain ⟨ha, hb, -⟩ := List.nodup_append.1 h
    simp only [put, Node.value, ofValue]
    rw [put_nil _ _ ha, put_nil _ _ hb]
  | set mark members =>
    have hempty : ((members.map Leaf.scalar).map Leaf.ofScalar).isEmpty = members.isEmpty := by
      cases members <;> rfl
    simp only [put, name_nil, Node.value, ofValue, hempty]
    rw [foldl_putMember_nil]
  | mapping mark entries =>
    have hempty : (ofEntries (valueEntries entries)).isEmpty = entries.isEmpty := by
      cases entries <;> rfl
    simp only [put, name_nil, Node.value, ofValue, hempty]
    rw [putEntries_nil _ (List.nodup_append.1 h).2.1]
  | again mark isList => exact absurd h (by simp [marks])

theorem putItems_nil (column : Nat) {items : List Node} (h : (marksOfItems items).Nodup)
    (s : Sheet) : putItems [] column items s = putItems [] column (ofValues (values items)) s := by
  cases items with
  | nil => rfl
  | cons item rest =>
    obtain ⟨hitem, hrest, -⟩ := List.nodup_append.1 h
    simp only [putItems, values, ofValues]
    rw [put_nil _ _ hitem, putItems_nil _ hrest]

theorem putEntries_nil (column : Nat) {entries : List (Leaf × Node)}
    (h : (marksOfEntries entries).Nodup) (s : Sheet) :
    putEntries [] column entries s = putEntries [] column (ofEntries (valueEntries entries)) s := by
  cases entries with
  | nil => rfl
  | cons entry rest =>
    obtain ⟨key, item⟩ := entry
    obtain ⟨-, h, -⟩ := List.nodup_append.1 h
    obtain ⟨hitem, hrest, -⟩ := List.nodup_append.1 h
    simp only [putEntries, valueEntries, ofEntries]
    rw [putKey_nil _ key, put_nil _ _ hitem, putEntries_nil _ hrest]

end

end Writer

open Node (Apart)

def plainText (nodes : List Node) : String :=
  if nodes.isEmpty then "[]\n"
  else ((Writer.putItems [] 0 nodes ⟨Page.empty, []⟩).page.indentTo 0).text

/-- A list is written as its data is, if every part of it stands in one place only. -/
theorem writeList_of_apart {nodes : List Node} (h : Apart nodes) :
    writeList nodes =
      match (Value.list (Node.values nodes)).flaw? Writer.maxDepth with
      | some fault => .error fault
      | none => .ok (plainText (Node.ofValues (Node.values nodes))) := by
  have hempty : (Node.ofValues (Node.values nodes)).isEmpty = nodes.isEmpty := by
    cases nodes <;> rfl
  have hfresh : Writer.Survey.Fresh ⟨[], []⟩ (Node.marks (.list none nodes)) :=
    ⟨h, fun _ _ => List.not_mem_nil⟩
  rw [writeList, Writer.survey_of_fresh hfresh]
  change (Writer.found ((Value.list (Node.values nodes)).flaw? Writer.maxDepth) _ >>= _) = _
  cases (Value.list (Node.values nodes)).flaw? Writer.maxDepth with
  | some fault => rfl
  | none =>
    rw [plainText, hempty, ← Writer.putItems_nil 0 h]
    rfl

theorem writeList_ofValues (items : List Value) :
    writeList (Node.ofValues items) =
      match (Value.list items).flaw? Writer.maxDepth with
      | some fault => .error fault
      | none => .ok (plainText (Node.ofValues items)) := by
  rw [writeList_of_apart (Node.apart_ofValues items), Node.values_ofValues]

/-- What can be written part by part is written. -/
theorem exists_writeList {nodes : List Node}
    (h : (Value.list (Node.values nodes)).flaw? Writer.maxDepth = none) :
    ∃ text, writeList nodes = .ok text := by
  obtain ⟨s, hs⟩ := Writer.exists_survey (n := .list none nodes) h ⟨[], []⟩
  rw [writeList, hs]
  exact ⟨_, rfl⟩

end Yaml

end HomePortal
