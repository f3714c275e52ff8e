import Ambient.Text.Blank
import Ambient.Text.Percent

namespace Ambient.Text.Percent

/-- An unreserved character or a percent sign. -/
def IsCoded (c : Char) : Prop :=
  c.toNat < 0x80 ∧ (c = '%' ∨ isUnreserved (UInt8.ofNat c.toNat) = true)

theorem isCoded_upperDigit (n : Fin 16) : IsCoded (upperDigit n) := by
  refine ⟨upperDigit_lt n, .inr ?_⟩
  revert n; decide

theorem isCoded_of_mem_encodeByte {b : UInt8} {c : Char} (h : c ∈ encodeByte b) : IsCoded c := by
  have small : b.toNat < 256 := b.toNat_lt
  rw [encodeByte] at h
  split at h
  next plain =>
    have ascii := toNat_lt_of_isUnreserved plain
    have code : (Char.ofNat b.toNat).toNat = b.toNat := toNat_char ⟨b.toNat, ascii⟩
    rw [List.mem_singleton.1 h]
    refine ⟨by omega, .inr ?_⟩
    rw [code, UInt8.ofNat_toNat]
    exact plain
  next =>
    simp only [List.mem_cons, List.not_mem_nil, or_false] at h
    rcases h with rfl | rfl | rfl
    · exact ⟨by decide, .inl rfl⟩
    · exact isCoded_upperDigit ⟨b.toNat / 16, by omega⟩
    · exact isCoded_upperDigit ⟨b.toNat % 16, by omega⟩

theorem isCoded_of_mem_encode {cs : List Char} {c : Char} (h : c ∈ encode cs) : IsCoded c := by
  obtain ⟨b, -, hc⟩ := List.mem_flatMap.1 h
  exact isCoded_of_mem_encodeByte hc

theorem IsCoded.not_blank {c : Char} (h : IsCoded c) : isBlank c = false := by
  obtain ⟨ascii, rfl | unreserved⟩ := h
  · decide
  · simp only [isUnreserved, Utf8.toNat_ofNat (Nat.lt_trans ascii (by decide)), Bool.or_eq_true,
      Bool.and_eq_true, decide_eq_true_eq, beq_iff_eq] at unreserved
    apply not_blank_of_visible <;> omega

theorem not_isCoded_comma : ¬ IsCoded ',' := by
  rintro ⟨-, h | h⟩ <;> exact absurd h (by decide)

theorem not_isCoded_equals : ¬ IsCoded '=' := by
  rintro ⟨-, h | h⟩ <;> exact absurd h (by decide)

theorem comma_not_mem_encode (cs : List Char) : ',' ∉ encode cs :=
  fun h => not_isCoded_comma (isCoded_of_mem_encode h)

theorem equals_not_mem_encode (cs : List Char) : '=' ∉ encode cs :=
  fun h => not_isCoded_equals (isCoded_of_mem_encode h)

theorem trim_encode (cs : List Char) : trim (encode cs) = encode cs :=
  trim_of_forall_not_blank fun _ h => (isCoded_of_mem_encode h).not_blank

end Ambient.Text.Percent
