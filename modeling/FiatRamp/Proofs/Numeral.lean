import FiatRamp.Decimal.Reader
import Mathlib.Data.Nat.Digits.Defs

/-!
# FiatRamp.Proofs.Numeral

Decimals as text, written and read back.

A decimal is written with exactly as many digits after the point as its scale
says, and a number of 96 bits with at most 28 such digits is read without
rounding.  So reading gives back what was written, its scale included
(`Decimal.ofText?_toText`), and two decimals have one text only if they are the
same (`Decimal.toText_injective`).
-/

namespace FiatRamp

namespace Decimal

/-! ## Digits -/

/-- Reading more digits never makes a number smaller. -/
theorem le_ofDigitChars (ds : List Char) (n : ℕ) : n ≤ Nat.ofDigitChars 10 ds n := by
  rw [Nat.ofDigitChars_eq_ofDigitChars_zero]
  have hpow : 0 < 10 ^ ds.length := by positivity
  exact le_trans (Nat.le_mul_of_pos_left n hpow) (Nat.le_add_right ..)

/-- A point is no digit. -/
theorem isDigit_point : '.'.isDigit = false := by decide

/-- Digits filled up with zeros are digits. -/
theorem isDigit_of_mem_paddedDigits {w n : ℕ} {c : Char} (h : c ∈ paddedDigits w n) :
    c.isDigit = true := by
  rw [paddedDigits, List.mem_append] at h
  cases h with
  | inl hzero =>
      obtain rfl := List.eq_of_mem_replicate hzero
      decide
  | inr hdigit => exact Nat.isDigit_of_mem_toDigits (by norm_num) (by norm_num) hdigit

/-- A number below `10 ^ w` is filled up to exactly `w` digits. -/
theorem length_paddedDigits {w n : ℕ} (hw : 0 < w) (hn : n < 10 ^ w) :
    (paddedDigits w n).length = w := by
  have hle := (Nat.length_toDigits_le_iff (b := 10) (by norm_num) hw).2 hn
  rw [paddedDigits, List.length_append, List.length_replicate]
  exact Nat.sub_add_cancel hle

/-- Zeros in front do not count; after a number `m` the digits shift it. -/
theorem ofDigitChars_paddedDigits {w n : ℕ} (m : ℕ) (hw : 0 < w) (hn : n < 10 ^ w) :
    Nat.ofDigitChars 10 (paddedDigits w n) m = 10 ^ w * m + n := by
  rw [Nat.ofDigitChars_eq_ofDigitChars_zero, length_paddedDigits hw hn, paddedDigits,
    Nat.ofDigitChars_append, Nat.ofDigitChars_replicate_zero, mul_zero,
    Nat.ofDigitChars_ten_toDigits]

/-! ## Scanning -/

/-- Digits are read as the number they stand for while it has room, each of them
after the point for one digit of scale. -/
theorem scan_append {ds rest : List Char} {units scale : ℕ} {point digits : Bool}
    (hds : ∀ c ∈ ds, c.isDigit = true) (hroom : Nat.ofDigitChars 10 ds units < unitsBound)
    (hscale : point = true → scale + ds.length ≤ maxScale) :
    scan units scale point digits (ds ++ rest) =
      scan (Nat.ofDigitChars 10 ds units) (if point then scale + ds.length else scale) point
        (digits || !ds.isEmpty) rest := by
  induction ds generalizing units scale digits with
  | nil => simp
  | cons c ds ih =>
      have hnext : Nat.ofDigitChars 10 (c :: ds) units =
          Nat.ofDigitChars 10 ds (units * 10 + digitOf c) := by
        rw [Nat.ofDigitChars_cons, mul_comm, digitOf]
      rw [hnext] at hroom ⊢
      have hdigit : c.isDigit = true := hds c List.mem_cons_self
      have hdigits : ∀ d ∈ ds, d.isDigit = true := fun d hd => hds d (List.mem_cons_of_mem _ hd)
      have hfits : ¬ unitsBound ≤ units * 10 + digitOf c :=
        Nat.not_le.2 (lt_of_le_of_lt (le_ofDigitChars ds _) hroom)
      rw [List.cons_append, scan, if_pos hdigit]
      cases point with
      | false => simp [hfits, ih hdigits hroom (by simp)]
      | true =>
          have hshort : scale + 1 + ds.length ≤ maxScale := by
            have := hscale rfl
            rw [List.length_cons] at this
            omega
          have hplace : ¬ maxScale ≤ scale := by omega
          simp [hfits, hplace, ih hdigits hroom (fun _ => hshort)]
          congr 1
          omega

/-- Digits alone are a whole number. -/
theorem scan_whole {ds : List Char} (hds : ∀ c ∈ ds, c.isDigit = true) (hne : ds ≠ [])
    (hroom : Nat.ofDigitChars 10 ds 0 < unitsBound) :
    scan 0 0 false false ds = some (Nat.ofDigitChars 10 ds 0, 0) := by
  have h := @scan_append ds [] 0 0 false false hds hroom (fun hpoint => by contradiction)
  rw [List.append_nil] at h
  simp [h, scan, hne]

/-- Digits around a point are a number with a fraction. -/
theorem scan_fraction {ds fs : List Char} (hds : ∀ c ∈ ds, c.isDigit = true) (hne : ds ≠ [])
    (hfs : ∀ c ∈ fs, c.isDigit = true) (hscale : fs.length ≤ maxScale)
    (hroom : Nat.ofDigitChars 10 fs (Nat.ofDigitChars 10 ds 0) < unitsBound) :
    scan 0 0 false false (ds ++ '.' :: fs) =
      some (Nat.ofDigitChars 10 fs (Nat.ofDigitChars 10 ds 0), fs.length) := by
  have hwhole : Nat.ofDigitChars 10 ds 0 < unitsBound :=
    lt_of_le_of_lt (le_ofDigitChars fs _) hroom
  have hread : (false || !ds.isEmpty) = true := by simp [hne]
  have hbefore := @scan_append ds ('.' :: fs) 0 0 false false hds hwhole
    (fun hpoint => by contradiction)
  have hpoint : ∀ units, scan units 0 false true ('.' :: fs) = scan units 0 true true fs := by
    intro units
    rw [scan, if_neg (by simp [isDigit_point])]
    simp
  have hafter := @scan_append fs [] (Nat.ofDigitChars 10 ds 0) 0 true true hfs hroom
    (fun _ => by rwa [Nat.zero_add])
  rw [List.append_nil] at hafter
  rw [hbefore, hread, if_neg Bool.false_ne_true, hpoint, hafter]
  simp [scan]

/-! ## Written decimals -/

/-- The digits of a decimal, without its sign. -/
def magnitudeChars (d : Decimal) : List Char :=
  Nat.toDigits 10 (d.units.natAbs / Nat.pow 10 d.scale) ++
    if d.scale = 0 then []
    else '.' :: paddedDigits d.scale (d.units.natAbs % Nat.pow 10 d.scale)

theorem toChars_eq (d : Decimal) :
    d.toChars = (if d.units < 0 then ['-'] else []) ++ d.magnitudeChars := by
  rw [toChars, magnitudeChars, List.append_assoc]

/-- The digits of a decimal are read as its magnitude and its scale. -/
theorem scan_magnitudeChars (d : Decimal) :
    scan 0 0 false false d.magnitudeChars = some (d.units.natAbs, d.scale) := by
  have hdigits : ∀ n c, c ∈ Nat.toDigits 10 n → c.isDigit = true := fun _ _ =>
    Nat.isDigit_of_mem_toDigits (by norm_num) (by norm_num)
  rw [magnitudeChars, Nat.pow_eq]
  by_cases hscale : d.scale = 0
  · have hroom : Nat.ofDigitChars 10 (Nat.toDigits 10 d.units.natAbs) 0 < unitsBound := by
      rw [Nat.ofDigitChars_ten_toDigits]
      exact d.natAbs_units_lt
    rw [if_pos hscale, hscale, pow_zero, Nat.div_one, List.append_nil,
      scan_whole (hdigits _) Nat.toDigits_ne_nil hroom, Nat.ofDigitChars_ten_toDigits]
  · have hpos : 0 < d.scale := Nat.pos_of_ne_zero hscale
    have hrest : d.units.natAbs % 10 ^ d.scale < 10 ^ d.scale := Nat.mod_lt _ (by positivity)
    -- the fraction continues the whole part to the magnitude
    have hvalue : Nat.ofDigitChars 10 (paddedDigits d.scale (d.units.natAbs % 10 ^ d.scale))
        (Nat.ofDigitChars 10 (Nat.toDigits 10 (d.units.natAbs / 10 ^ d.scale)) 0) =
          d.units.natAbs := by
      rw [Nat.ofDigitChars_ten_toDigits, ofDigitChars_paddedDigits _ hpos hrest]
      exact Nat.div_add_mod ..
    have hlength := length_paddedDigits hpos hrest
    rw [if_neg hscale, scan_fraction (hdigits _) Nat.toDigits_ne_nil
      (fun _ => isDigit_of_mem_paddedDigits) (by rw [hlength]; exact d.scale_le)
      (by rw [hvalue]; exact d.natAbs_units_lt), hvalue, hlength]

/-- The digits of a decimal start with a digit, which is no sign. -/
theorem splitSign_magnitudeChars (d : Decimal) :
    splitSign d.magnitudeChars = (false, d.magnitudeChars) := by
  obtain ⟨c, cs, hcons⟩ := List.exists_cons_of_ne_nil
    (Nat.toDigits_ne_nil (b := 10) (n := d.units.natAbs / Nat.pow 10 d.scale))
  have hdigit : c.isDigit = true :=
    Nat.isDigit_of_mem_toDigits (b := 10) (by norm_num) (by norm_num)
      (by rw [hcons]; exact List.mem_cons_self)
  have hminus : c ≠ '-' := by rintro rfl; contradiction
  have hplus : c ≠ '+' := by rintro rfl; contradiction
  rw [magnitudeChars, hcons, List.cons_append]
  unfold splitSign
  split
  · next h => simp_all
  · next h => simp_all
  · rfl

/-- **Reading back a decimal**: the plain form of a decimal is that decimal, with
the scale it was written with. -/
theorem ofPlain?_toChars (d : Decimal) : ofPlain? d.toChars = some d := by
  rw [ofPlain?, toChars_eq]
  by_cases hsign : d.units < 0
  · have hunits : -(d.units.natAbs : ℤ) = d.units := by omega
    rw [if_pos hsign, List.cons_append, List.nil_append]
    simp only [splitSign, scan_magnitudeChars, Option.bind_eq_bind, Option.bind_some, if_true]
    rw [hunits, ofUnits?_self]
  · have hunits : (d.units.natAbs : ℤ) = d.units := by omega
    rw [if_neg hsign, List.nil_append]
    simp only [splitSign_magnitudeChars, scan_magnitudeChars, Option.bind_eq_bind,
      Option.bind_some, Bool.false_eq_true, if_false]
    rw [hunits, ofUnits?_self]

@[simp] theorem ofText?_toText (d : Decimal) : ofText? d.toText = some d := by
  rw [ofText?, toText, String.toList_ofList, ofChars?, ofPlain?_toChars]
  rfl

/-- A text stands for one decimal. -/
theorem toText_injective : Function.Injective toText := by
  intro a b h
  have hread := congrArg ofText? h
  rw [ofText?_toText, ofText?_toText] at hread
  exact Option.some.inj hread

example : ofText? (Decimal.mk (-1050) 2 (by decide) (by decide)).toText =
    some ⟨-1050, 2, by decide, by decide⟩ := by decide

end Decimal

end FiatRamp
