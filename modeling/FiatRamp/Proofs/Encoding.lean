import FiatRamp.Url.Percent
import Mathlib.Tactic

/-!
# FiatRamp.Proofs.Encoding

Percent-encoding leaves alone what it has written.

The sets of characters that are encoded hold neither the percent sign nor a
digit that stands behind one (`Percent.SparesMarks`).  So all of an encoded text
is kept when it is encoded once more (`Percent.encode_encode`), and beside what
was in the text before it has percent signs and digits only
(`Percent.mem_of_mem_encode`).  A text without percent signs is decoded as itself.
-/

namespace FiatRamp

/-- The bytes of a character are bytes. -/
theorem Utf8.lt_of_mem_encodeChar {c : Char} {b : Nat} (h : b ∈ encodeChar c) : b < 256 := by
  have hchar : c.toNat < 0x110000 := by
    rcases c.valid with hlow | ⟨-, hhigh⟩
    · exact Nat.lt_trans hlow (by decide)
    · exact hhigh
  unfold encodeChar at h
  dsimp only at h
  split_ifs at h <;> simp only [List.mem_cons, List.not_mem_nil, or_false] at h <;> omega

namespace Percent

variable {set : Char → Bool} {c : Char} {cs : List Char} {b n : Nat}

/-- A character that stands for itself in a part with the given set. -/
def isKept (set : Char → Bool) (c : Char) : Bool := c.toNat < 0x80 && !set c

theorem isKept_iff : isKept set c = true ↔ c.toNat < 0x80 ∧ set c = false := by
  simp [isKept]

/-! ## Marks -/

/-- A character that encoding writes: a percent sign, or a digit behind one. -/
def IsMark (c : Char) : Prop := c = '%' ∨ ∃ n < 16, c = hexDigit n

/-- The set encodes nothing that encoding writes. -/
def SparesMarks (set : Char → Bool) : Prop := set '%' = false ∧ ∀ n < 16, set (hexDigit n) = false

theorem sparesMarks_fragmentSet : SparesMarks fragmentSet := by unfold SparesMarks; decide

theorem sparesMarks_pathSet : SparesMarks pathSet := by unfold SparesMarks; decide

theorem sparesMarks_userinfoSet : SparesMarks userinfoSet := by unfold SparesMarks; decide

theorem sparesMarks_specialQuerySet : SparesMarks specialQuerySet := by
  unfold SparesMarks
  decide

theorem toNat_hexDigit_lt (h : n < 16) : (hexDigit n).toNat < 0x80 := by
  revert h n
  decide

theorem SparesMarks.isKept (hset : SparesMarks set) (h : IsMark c) : isKept set c = true := by
  rw [isKept_iff]
  rcases h with rfl | ⟨n, hn, rfl⟩
  · exact ⟨by decide, hset.1⟩
  · exact ⟨toNat_hexDigit_lt hn, hset.2 n hn⟩

/-! ## Encoded texts -/

/-- A byte is written in marks. -/
theorem isMark_of_mem_encodeByte (hb : b < 256) (h : c ∈ encodeByte b) : IsMark c := by
  simp only [encodeByte, List.mem_cons, List.not_mem_nil, or_false] at h
  rcases h with rfl | rfl | rfl
  · exact .inl rfl
  · exact .inr ⟨b / 16, by omega, rfl⟩
  · exact .inr ⟨b % 16, by omega, rfl⟩

/-- What stands in an encoded text is kept from the text, or a mark. -/
theorem mem_of_mem_encode (h : c ∈ encode set cs) : (c ∈ cs ∧ isKept set c = true) ∨ IsMark c := by
  obtain ⟨d, hd, hc⟩ := List.mem_flatMap.1 h
  unfold encodeChar at hc
  split at hc
  · next hkept =>
      obtain rfl := List.mem_singleton.1 hc
      exact .inl ⟨hd, hkept⟩
  · obtain ⟨byte, hbyte, hmark⟩ := List.mem_flatMap.1 hc
    exact .inr (isMark_of_mem_encodeByte (Utf8.lt_of_mem_encodeChar hbyte) hmark)

/-- Nothing in an encoded text is encoded again. -/
theorem isKept_of_mem_encode (hset : SparesMarks set) (h : c ∈ encode set cs) :
    isKept set c = true := by
  rcases mem_of_mem_encode h with ⟨-, hkept⟩ | hmark
  · exact hkept
  · exact hset.isKept hmark

/-- A text of which all is kept is encoded as itself. -/
theorem encode_of_isKept (h : ∀ c ∈ cs, isKept set c = true) : encode set cs = cs := by
  induction cs with
  | nil => rfl
  | cons c cs ih =>
      have hc : encodeChar set c = [c] := if_pos (h c List.mem_cons_self)
      have hcs : encode set cs = cs := ih fun d hd => h d (List.mem_cons_of_mem c hd)
      unfold encode at hcs ⊢
      rw [List.flatMap_cons, hc, hcs, List.singleton_append]

/-- **Encoding twice is encoding once.** -/
theorem encode_encode (hset : SparesMarks set) (cs : List Char) :
    encode set (encode set cs) = encode set cs :=
  encode_of_isKept fun _ hc => isKept_of_mem_encode hset hc

/-! ## Decoding -/

/-- Without a percent sign there is nothing to decode. -/
theorem decode?_of_not_mem (h : '%' ∉ cs) : decode? cs = some cs := by
  unfold decode?
  induction cs with
  | nil => rfl
  | cons c cs ih =>
      rw [List.mem_cons, not_or] at h
      rw [decodeFrom?]
      · simp [ih h.2, Utf8.decode?]
      · rintro a b rest hc -
        exact h.1 hc.symm

end Percent

end FiatRamp
