import HomePortal.Http.Exchange
import HomePortal.Proofs.Text.Digit
import HomePortal.Proofs.Value.Text
/-!
What the body of a response holds is written out: an integer of too many digits is refused when the
body is read.
-/

namespace HomePortal

namespace Json

theorem bind_eq_ok {α β : Type} {x : Except Flaw α} {f : α → Except Flaw β} {b : β}
    (h : x >>= f = .ok b) : ∃ a, x = .ok a ∧ f a = .ok b := by
  cases x with
  | error e => cases h
  | ok a => exact ⟨a, rfl, h⟩

variable {cs rest : List Char} {v : Value}

theorem hasText_of_readNumber? (h : readNumber? cs = some (v, rest)) : v.hasText = true := by
  unfold readNumber? at h
  split at h
  rename_i negative body hsign
  extract_lets whole afterWhole at h
  have hdigits : ∀ c ∈ whole, c.isDigit = true := by
    intro c hc
    dsimp only [whole] at hc
    split at hc
    · obtain rfl := List.mem_singleton.1 hc
      rfl
    · exact List.all_eq_true.1 List.all_takeWhile c hc
  clear_value whole
  split at h
  split at h
  split at h
  · cases h
  · split at h
    · split at h
      · cases h
      · rename_i hlength
        obtain ⟨rfl, -⟩ := Prod.mk.inj (Option.some.inj h)
        refine (Value.hasText_scalar _).trans (Scalar.hasText_int_iff.2 ?_)
        have hsize := natOfDigits_lt hdigits (Nat.not_lt.1 hlength)
        split
        · rwa [Int.natAbs_neg, Int.natAbs_natCast]
        · rwa [Int.natAbs_natCast]
    · obtain ⟨rfl, -⟩ := Prod.mk.inj (Option.some.inj h)
      rfl

theorem hasText_of_readWord? (h : readWord? cs = some (v, rest)) : v.hasText = true := by
  have hwords : ∀ word ∈ words, word.2.hasText = true := by
    rw [words]
    simp only [List.forall_mem_cons]
    exact ⟨rfl, rfl, rfl, rfl, rfl, rfl, nofun⟩
  obtain ⟨word, hword, heq⟩ := Option.map_eq_some_iff.1 h
  obtain ⟨rfl, -⟩ := Prod.mk.inj heq
  exact hwords word (List.mem_of_find?_eq_some hword)

theorem hasText_of_readPlain
    (h : orMalformed ((readWord? cs).orElse fun _ => readNumber? cs) = .ok (v, rest)) :
    v.hasText = true := by
  cases hword : readWord? cs with
  | some found =>
    rw [hword] at h
    obtain rfl := Except.ok.inj h
    exact hasText_of_readWord? hword
  | none =>
    rw [hword, Option.orElse_none] at h
    cases hnumber : readNumber? cs with
    | some found =>
      rw [hnumber] at h
      obtain rfl := Except.ok.inj h
      exact hasText_of_readNumber? hnumber
    | none =>
      rw [hnumber] at h
      cases h

structure ReadsWritten (fuel : Nat) : Prop where
  value : ∀ {room cs v rest}, readValue fuel room cs = .ok (v, rest) → v.hasText = true
  items : ∀ {room done cs v rest}, Value.itemsHaveText done = true →
    readItems fuel room done cs = .ok (v, rest) → v.hasText = true
  entries : ∀ {room done cs v rest}, Value.entriesHaveText done = true →
    readEntries fuel room done cs = .ok (v, rest) → v.hasText = true

namespace ReadsWritten

variable {fuel room : Nat}

theorem zero : ReadsWritten 0 := by
  refine ⟨fun h => ?_, fun _ h => ?_, fun _ h => ?_⟩
  · unfold readValue at h
    cases h
  · unfold readItems at h
    cases h
  · unfold readEntries at h
    cases h

theorem readValue_succ (ih : ReadsWritten fuel) (h : readValue (fuel + 1) room cs = .ok (v, rest)) :
    v.hasText = true := by
  unfold readValue at h
  split at h
  · cases h
  · obtain ⟨⟨text, tail⟩, -, h⟩ := bind_eq_ok h
    obtain ⟨rfl, -⟩ := Prod.mk.inj (Except.ok.inj h)
    rfl
  · cases h
  · cases h
  · rename_i hfuel
    obtain rfl := Nat.succ.inj hfuel
    split at h
    · obtain ⟨rfl, -⟩ := Prod.mk.inj (Except.ok.inj h)
      rfl
    · have hnone : Value.itemsHaveText [] = true := rfl
      exact ih.items hnone h
  · rename_i hfuel
    obtain rfl := Nat.succ.inj hfuel
    split at h
    · obtain ⟨rfl, -⟩ := Prod.mk.inj (Except.ok.inj h)
      rfl
    · have hnone : Value.entriesHaveText [] = true := rfl
      exact ih.entries hnone h
  · exact hasText_of_readPlain h

theorem readItems_succ (ih : ReadsWritten fuel) {done : List Value}
    (hdone : Value.itemsHaveText done = true)
    (h : readItems (fuel + 1) room done cs = .ok (v, rest)) : v.hasText = true := by
  unfold readItems at h
  obtain ⟨⟨item, tail⟩, hitem, h⟩ := bind_eq_ok h
  have hitems := Value.itemsHaveText_iff.2
    (List.forall_mem_cons.2 ⟨ih.value hitem, Value.itemsHaveText_iff.1 hdone⟩)
  dsimp only at h
  split at h
  · exact ih.items hitems h
  · obtain ⟨rfl, -⟩ := Prod.mk.inj (Except.ok.inj h)
    exact Value.itemsHaveText_iff.2 fun v hv =>
      Value.itemsHaveText_iff.1 hitems v (List.mem_reverse.1 hv)
  · cases h

theorem readEntries_succ (ih : ReadsWritten fuel) {done : Entries}
    (hdone : Value.entriesHaveText done = true)
    (h : readEntries (fuel + 1) room done cs = .ok (v, rest)) : v.hasText = true := by
  unfold readEntries at h
  split at h
  · rename_i hfuel
    obtain rfl := Nat.succ.inj hfuel
    obtain ⟨⟨key, tail⟩, -, h⟩ := bind_eq_ok h
    dsimp only at h
    split at h
    · obtain ⟨⟨item, tail⟩, hitem, h⟩ := bind_eq_ok h
      have hentries := Value.entriesHaveText_set hdone (ih.value hitem) key
      dsimp only at h
      split at h
      · exact ih.entries hentries h
      · obtain ⟨rfl, -⟩ := Prod.mk.inj (Except.ok.inj h)
        exact hentries
      · cases h
    · cases h
  · cases h

end ReadsWritten

theorem readsWritten (fuel : Nat) : ReadsWritten fuel := by
  induction fuel with
  | zero => exact .zero
  | succ fuel ih => exact ⟨ih.readValue_succ, ih.readItems_succ, ih.readEntries_succ⟩

theorem hasText_of_read {text : String} (h : read text = .ok v) : v.hasText = true := by
  unfold read at h
  obtain ⟨⟨found, rest⟩, hread, h⟩ := bind_eq_ok h
  dsimp only at h
  split at h
  · obtain rfl := Except.ok.inj h
    exact (readsWritten _).value hread
  · cases h

end Json

theorem Http.Body.hasText_of_ofText {text : String} {v : Value}
    (h : Http.Body.ofText text = .value v) : v.hasText = true := by
  unfold ofText at h
  split at h
  · cases h
  · dsimp only at h
    split at h
    · rename_i hread
      obtain rfl := Http.Body.value.inj h
      exact Json.hasText_of_read hread
    · cases h

end HomePortal
