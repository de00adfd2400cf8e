import HomePortal.Http.Percent
import HomePortal.Proofs.Text.Ascii
/-!
Percent-encoded text. It decodes to the bytes of the text that was encoded, whichever characters
were kept, and holds no characters but those, percent signs and digits.
-/

namespace HomePortal

theorem Text.hexNumber?_hexDigit (b : UInt8) :
    hexNumber? [hexDigit (b.toNat / 16), hexDigit (b.toNat % 16)] = some b.toNat := by
  have hall : ∀ n : Fin 256, hexNumber? [hexDigit (n / 16), hexDigit (n % 16)] = some n.val := by
    decide +kernel
  exact hall ⟨b.toNat, b.toNat_lt⟩

theorem Text.isAlphanum_hexDigit {n : Nat} (hn : n < 16) : (hexDigit n).isAlphanum = true := by
  have hall : ∀ n : Fin 16, (hexDigit n).isAlphanum = true := by decide
  exact hall ⟨n, hn⟩

namespace Percent

variable {keeps : Char → Bool} {c : Char} {cs : List Char} {s t : String}

theorem toNat_lt_of_isUnreserved (hc : isUnreserved c = true) : c.toNat < 128 := by
  simp only [isUnreserved, Bool.or_eq_true, beq_iff_eq] at hc
  obtain (((halnum | rfl) | rfl) | rfl) | rfl := hc
  · exact Text.toNat_lt_of_isAsciiWord (Bool.or_eq_true_iff.2 (.inl halnum))
  · decide
  · decide
  · decide
  · decide

theorem decode_cons (hc : c ≠ '%') (rest : List Char) :
    decode (c :: rest) = String.utf8EncodeChar c ++ decode rest := by
  rw [decode]
  intro high low rest' heq
  exact absurd heq hc

theorem decode_encodeByte (b : UInt8) (rest : List Char) :
    decode (encodeByte b ++ rest) = b :: decode rest := by
  simp only [encodeByte, List.cons_append, List.nil_append]
  rw [decode, Text.hexNumber?_hexDigit]
  simp

theorem decode_encodeBytes (bytes : List UInt8) (rest : List Char) :
    decode (bytes.flatMap encodeByte ++ rest) = bytes ++ decode rest := by
  induction bytes with
  | nil => rfl
  | cons b bytes ih =>
    rw [List.flatMap_cons, List.append_assoc, decode_encodeByte, ih, List.cons_append]

/-- What is encoded decodes to its bytes, unless percent signs are kept. -/
theorem decode_encode (hkeeps : keeps '%' = false) (cs : List Char) :
    decode (encode keeps cs) = cs.flatMap String.utf8EncodeChar := by
  induction cs with
  | nil => rfl
  | cons c cs ih =>
    rw [encode, List.flatMap_cons, List.flatMap_cons, ← encode, ← ih, encodeChar]
    split
    · next hc =>
      have hne : c ≠ '%' := by
        rintro rfl
        exact absurd hc (by simp [hkeeps])
      rw [List.singleton_append, decode_cons hne]
    · rw [decode_encodeBytes]

theorem toByteArray_decode_encode (hkeeps : keeps '%' = false) (s : String) :
    (decode (encode keeps s.toList)).toByteArray = s.toByteArray := by
  rw [decode_encode hkeeps]
  change s.toList.utf8Encode = s.toByteArray
  rw [← String.toByteArray_ofList, String.ofList_toList]

theorem encode_injective (hkeeps : keeps '%' = false)
    (h : encode keeps s.toList = encode keeps t.toList) : s = t := by
  rw [← String.toByteArray_inj, ← toByteArray_decode_encode hkeeps, h,
    toByteArray_decode_encode hkeeps]

theorem encode_eq_self (h : ∀ c ∈ cs, keeps c = true) : encode keeps cs = cs := by
  induction cs with
  | nil => rfl
  | cons c cs ih =>
    rw [encode, List.flatMap_cons, ← encode, ih fun d hd => h d (.tail _ hd), encodeChar,
      if_pos (h c List.mem_cons_self), List.singleton_append]

theorem mem_encode (hc : c ∈ encode keeps cs) :
    keeps c = true ∨ c = '%' ∨ c.isAlphanum = true := by
  obtain ⟨d, -, hd⟩ := List.mem_flatMap.1 hc
  unfold encodeChar at hd
  split at hd
  · next hkept =>
    rw [List.mem_singleton.1 hd]
    exact .inl hkept
  · obtain ⟨b, -, hb⟩ := List.mem_flatMap.1 hd
    have hbyte := b.toNat_lt
    simp only [encodeByte, List.mem_cons, List.not_mem_nil, or_false] at hb
    obtain rfl | rfl | rfl := hb
    · exact .inr (.inl rfl)
    · exact .inr (.inr (Text.isAlphanum_hexDigit (by omega)))
    · exact .inr (.inr (Text.isAlphanum_hexDigit (by omega)))

end Percent

end HomePortal
