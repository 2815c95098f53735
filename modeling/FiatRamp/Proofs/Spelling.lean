import FiatRamp.Proofs.Payments
import FiatRamp.Proofs.RoundTrip
import FiatRamp.Proofs.Safety
import Mathlib.Data.List.DropRight

/-!
# FiatRamp.Proofs.Spelling

The spellings of a currency code.

A text names a currency if one to ten letters and digits of ASCII are left once the
white space around it is gone (`Currency.exists_parse_iff`), and two texts name the same
currency if they differ at most in that white space and in case
(`Currency.parse_eq_iff_spellAlike`).  So what a vault stores under one spelling it
finds under all of them (`Vault.Furnished`).  `Currency.one_form_per_code` puts this
together.
-/

namespace FiatRamp

/-! ## White space around a text -/

/-- The code points of white space, one by one. -/
def whiteSpace : List Nat :=
  [0x9, 0xA, 0xB, 0xC, 0xD, 0x20, 0x85, 0xA0, 0x1680, 0x2000, 0x2001, 0x2002, 0x2003, 0x2004,
    0x2005, 0x2006, 0x2007, 0x2008, 0x2009, 0x200A, 0x2028, 0x2029, 0x202F, 0x205F, 0x3000]

theorem isBlank_iff {c : Char} : isBlank c = true ↔ c.toNat ∈ whiteSpace := by
  simp only [isBlank, blankRanges, whiteSpace, List.any_cons, List.any_nil, Bool.or_false,
    Bool.or_eq_true, Bool.and_eq_true, decide_eq_true_eq, List.mem_cons, List.not_mem_nil, or_false]
  omega

/-- `core` is `text` without the white space around it. -/
structure IsTrimmed (text core : List Char) : Prop where
  split : ∃ lead trail, text = lead ++ core ++ trail ∧ ∀ c ∈ lead ++ trail, c.toNat ∈ whiteSpace
  head : ∀ c ∈ core.head?, c.toNat ∉ whiteSpace
  last : ∀ c ∈ core.getLast?, c.toNat ∉ whiteSpace

/-- Dropping stops at once at an element that is not to be dropped. -/
theorem dropWhile_append_of_head? {p : α → Bool} {xs : List α} (ys : List α)
    (hne : xs ≠ []) (h : ∀ x ∈ xs.head?, p x = false) : (xs ++ ys).dropWhile p = xs ++ ys := by
  cases xs with
  | nil => contradiction
  | cons x xs => exact List.dropWhile_cons_of_neg (by simpa using h x rfl)

theorem isTrimmed_trimChars (text : List Char) : IsTrimmed text (trimChars text) where
  split := by
    refine ⟨text.takeWhile isBlank, (text.dropWhile isBlank).rtakeWhile isBlank, ?_, ?_⟩
    · have hsplit : trimChars text ++ (text.dropWhile isBlank).rtakeWhile isBlank =
          text.dropWhile isBlank := List.rdropWhile_append_rtakeWhile
      rw [List.append_assoc, hsplit, List.takeWhile_append_dropWhile]
    · intro c hc
      rw [← isBlank_iff]
      cases List.mem_append.1 hc with
      | inl hlead => exact List.mem_takeWhile_imp hlead
      | inr htrail => exact List.mem_rtakeWhile_imp htrail
  head := by
    intro c hc
    -- what is dropped at the end does not change how the text starts
    obtain ⟨trail, htrail⟩ : trimChars text <+: text.dropWhile isBlank := List.rdropWhile_prefix ..
    have hhead := List.head?_dropWhile_not isBlank text
    rw [← htrail, List.head?_append_of_ne_nil _ (by rintro hnil; simp [hnil] at hc), hc] at hhead
    rw [← isBlank_iff]
    simp [hhead]
  last := by
    intro c hc
    rw [← isBlank_iff]
    obtain ⟨hne, rfl⟩ := List.mem_getLast?_eq_getLast hc
    exact List.rdropWhile_last_not isBlank _ hne

/-- There is one way to trim a text. -/
theorem isTrimmed_iff {text core : List Char} : IsTrimmed text core ↔ trimChars text = core := by
  constructor
  · rintro ⟨⟨lead, trail, rfl, hblank⟩, hhead, hlast⟩
    simp only [← isBlank_iff, Bool.not_eq_true] at hblank hhead hlast
    have hlead : ∀ c ∈ lead, isBlank c := fun c hc => hblank c (List.mem_append_left _ hc)
    have htrail : ∀ c ∈ trail, isBlank c := fun c hc => hblank c (List.mem_append_right _ hc)
    rw [List.append_assoc, trimChars, List.dropWhile_append_of_pos hlead, trimEnd]
    by_cases hne : core = []
    · subst hne
      rw [List.nil_append, List.dropWhile_eq_nil_iff.2 htrail]
      rfl
    · have hreverse : ∀ c ∈ trail.reverse, isBlank c := fun c hc => htrail c (List.mem_reverse.1 hc)
      have hstop := dropWhile_append_of_head? (p := isBlank) [] (List.reverse_ne_nil_iff.2 hne)
        (by simpa using hlast)
      rw [dropWhile_append_of_head? trail hne hhead, List.reverse_append,
        List.dropWhile_append_of_pos hreverse]
      simpa using congrArg List.reverse hstop
  · rintro rfl
    exact isTrimmed_trimChars text

/-! ## Codes as people write them -/

/-- A capital or a digit of ASCII. -/
def IsCapitalOrDigit (c : Char) : Prop := ('A' ≤ c ∧ c ≤ 'Z') ∨ ('0' ≤ c ∧ c ≤ '9')

/-- One to ten letters or digits of ASCII. -/
structure IsWrittenCode (core : List Char) : Prop where
  nonempty : core ≠ []
  length_le : core.length ≤ 10
  ascii : ∀ c ∈ core, IsCapitalOrDigit c ∨ ('a' ≤ c ∧ c ≤ 'z')

theorem isCodeChar_iff_isCapitalOrDigit {c : Char} :
    isCodeChar c = true ↔ IsCapitalOrDigit c := by
  unfold isCodeChar Char.isUpper Char.isDigit
  simp [IsCapitalOrDigit, Char.le_def]

theorem isAlphanum_iff {c : Char} :
    c.isAlphanum = true ↔ IsCapitalOrDigit c ∨ ('a' ≤ c ∧ c ≤ 'z') := by
  rw [← isCodeChar_iff_isCapitalOrDigit]
  unfold Char.isAlphanum Char.isAlpha isCodeChar Char.isLower
  simp only [Char.le_def, Bool.or_eq_true, Bool.and_eq_true, decide_eq_true_eq]
  tauto

theorem isCodeText_iff {core : List Char} : isCodeText core = true ↔ IsWrittenCode core := by
  simp only [isCodeText, Bool.and_eq_true, Bool.not_eq_true', List.isEmpty_eq_false_iff,
    decide_eq_true_eq, List.all_eq_true, isAlphanum_iff]
  constructor
  · rintro ⟨⟨hne, hlength⟩, hascii⟩
    exact ⟨hne, hlength, hascii⟩
  · rintro ⟨hne, hlength, hascii⟩
    exact ⟨⟨hne, hlength⟩, hascii⟩

/-- Without the white space around them the texts differ at most in case. -/
def SpellAlike (s t : String) : Prop :=
  ∃ core core', IsTrimmed s.toList core ∧ IsTrimmed t.toList core' ∧
    core.map Char.toLower = core'.map Char.toLower

theorem spellAlike_iff {s t : String} :
    SpellAlike s t ↔
      (trimChars s.toList).map Char.toLower = (trimChars t.toList).map Char.toLower := by
  simp [SpellAlike, isTrimmed_iff]

instance (s t : String) : Decidable (SpellAlike s t) := decidable_of_iff _ spellAlike_iff.symm

theorem toNat_toUpper (c : Char) :
    c.toUpper.toNat = if 97 ≤ c.toNat ∧ c.toNat ≤ 122 then c.toNat - 32 else c.toNat := by
  have hword := c.val.toNat_lt
  unfold Char.toUpper Char.toNat
  simp only [UInt32.le_iff_toNat_le, Char.reduceVal, UInt32.reduceToNat]
  split
  · simp only [UInt32.toNat_add, UInt32.reduceSub, UInt32.reduceToNat]
    omega
  · rfl

theorem toNat_toLower (c : Char) :
    c.toLower.toNat = if 65 ≤ c.toNat ∧ c.toNat ≤ 90 then c.toNat + 32 else c.toNat := by
  unfold Char.toLower Char.toNat
  simp only [ge_iff_le, UInt32.le_iff_toNat_le, Char.reduceVal, UInt32.reduceToNat]
  split
  · simp only [UInt32.toNat_add, UInt32.reduceSub, UInt32.reduceToNat]
    omega
  · rfl

/-- Characters have the same capital if they have the same small letter. -/
theorem toUpper_eq_iff {c d : Char} : c.toUpper = d.toUpper ↔ c.toLower = d.toLower := by
  rw [← Char.toNat_inj, ← Char.toNat_inj, toNat_toUpper, toNat_toUpper, toNat_toLower,
    toNat_toLower]
  split_ifs <;> omega

theorem map_toUpper_eq_iff {cs ds : List Char} :
    cs.map Char.toUpper = ds.map Char.toUpper ↔ cs.map Char.toLower = ds.map Char.toLower := by
  induction cs generalizing ds with
  | nil => cases ds <;> simp
  | cons c cs ih => cases ds <;> simp [toUpper_eq_iff, ih]

namespace Currency

variable {s t : String} {a b : Currency}

theorem parse_eq_ok_iff : parse s = .ok a ↔ ofText? s = some a := by
  unfold parse
  cases ofText? s <;> simp

theorem toOption_parse (s : String) : (parse s).toOption = ofText? s := by
  unfold parse
  cases ofText? s <;> rfl

/-- A code is accepted exactly if it is written as one. -/
theorem exists_parse_iff :
    (∃ a, parse s = .ok a) ↔ ∃ core, IsTrimmed s.toList core ∧ IsWrittenCode core := by
  simp only [parse_eq_ok_iff, isTrimmed_iff, exists_eq_left', ← isCodeText_iff]
  by_cases h : isCodeText (trimChars s.toList) = true <;> simp [ofText?, h]

/-- **Two texts name one currency exactly if they are spelled alike.** -/
theorem parse_eq_iff_spellAlike (ha : parse s = .ok a) (hb : parse t = .ok b) :
    a = b ↔ SpellAlike s t := by
  have code_eq : ∀ {text : String} {c : Currency}, parse text = .ok c →
      c.code.toList = (trimChars text.toList).map Char.toUpper := by
    intro text c hc
    rw [parse_eq_ok_iff, ofText?] at hc
    split at hc <;> cases hc
    exact String.toList_ofList
  have hcode : a = b ↔ a.code.toList = b.code.toList :=
    ⟨fun h => h ▸ rfl, fun h => ext_code (String.toList_injective h)⟩
  rw [hcode, code_eq ha, code_eq hb, map_toUpper_eq_iff, spellAlike_iff]

end Currency

/-! ## What is stored under a spelling -/

/-- The last of what was stored under a spelling of the same code, the latest being first. -/
def latestAlike (stored : List (String × α)) (t : String) : Option α :=
  (stored.find? fun entry => SpellAlike entry.1 t).map Prod.snd

/-- What was stored under a spelling is kept under the currency it names. -/
def StoredAs (entry : Currency × α) (spelled : String × α) : Prop :=
  Currency.parse spelled.1 = .ok entry.1 ∧ entry.2 = spelled.2

/-- Something is found under a currency exactly if it was stored under a spelling of it. -/
theorem lookup_eq_latestAlike {entries : List (Currency × α)} {stored : List (String × α)}
    (h : List.Forall₂ StoredAs entries stored) {t : String} {b : Currency}
    (hb : Currency.parse t = .ok b) : entries.lookup b = latestAlike stored t := by
  induction h with
  | nil => rfl
  | @cons entry spelled _ _ hhead _ ih =>
      obtain ⟨hparse, hvalue⟩ := hhead
      have hsame := Currency.parse_eq_iff_spellAlike hparse hb
      rw [List.lookup_cons, ih, latestAlike, latestAlike, List.find?_cons]
      by_cases halike : SpellAlike spelled.1 t
      · simp [halike, hsame.2 halike, hvalue]
      · have hother : b ≠ entry.1 := fun heq => halike (hsame.1 heq.symm)
        simp [halike, beq_false_of_ne hother]

namespace Vault

/-- A vault in use: the limits and the fees that were stored in it and under which
spellings, the latest first.  Banks were linked and requests served at any time. -/
inductive Furnished (ids : Nat → String) :
    List (String × TransferLimits) → List (String × Money) → Vault → Prop
  | start {v : Vault} (limits : v.limits = []) (fees : v.fees = []) : Furnished ids [] [] v
  | limits {stored : List (String × TransferLimits)} {charged : List (String × Money)} {v : Vault}
      {s : String} {currency : Currency} (before : Furnished ids stored charged v)
      (spelled : Currency.parse s = .ok currency) (limits : TransferLimits) :
      Furnished ids ((s, limits) :: stored) charged (v.withLimits currency limits)
  | fee {stored : List (String × TransferLimits)} {charged : List (String × Money)} {v : Vault}
      {s : String} {fee : Money} (before : Furnished ids stored charged v)
      (spelled : Currency.parse s = .ok fee.currency) :
      Furnished ids stored ((s, fee) :: charged) (v.withFee fee)
  | bank {stored : List (String × TransferLimits)} {charged : List (String × Money)} {v : Vault}
      (before : Furnished ids stored charged v) (bank : LinkedBank) :
      Furnished ids stored charged (v.withBank bank)
  | served {stored : List (String × TransferLimits)} {charged : List (String × Money)}
      {v v' : Vault} {log : List Event} (before : Furnished ids stored charged v)
      (run : Run ids v log v') : Furnished ids stored charged v'

section

variable {ids : Nat → String} {stored : List (String × TransferLimits)}
  {charged : List (String × Money)} {v v' : Vault} {log : List Event} {event : Event}

theorem Serves.terms_eq (h : Serves ids v event v') : v'.limits = v.limits ∧ v'.fees = v.fees := by
  cases h <;> exact ⟨rfl, rfl⟩

/-- No request changes the limits and fees that were stored. -/
theorem Run.terms_eq (h : Run ids v log v') : v'.limits = v.limits ∧ v'.fees = v.fees := by
  induction h with
  | refl => exact ⟨rfl, rfl⟩
  | serve _ request ih =>
      obtain ⟨hlimits, hfees⟩ := (serves_ended ids _ request).terms_eq
      exact ⟨hlimits.trans ih.1, hfees.trans ih.2⟩
  | cutOff _ _ ih => exact ih

/-- Everything is kept under the currency that its spelling names. -/
theorem Furnished.storedAs (h : Furnished ids stored charged v) :
    List.Forall₂ StoredAs v.limits stored ∧ List.Forall₂ StoredAs v.fees charged := by
  induction h with
  | start hlimits hfees => rw [hlimits, hfees]; exact ⟨.nil, .nil⟩
  | limits _ hspelled _ ih => exact ⟨.cons ⟨hspelled, rfl⟩ ih.1, ih.2⟩
  | fee _ hspelled ih => exact ⟨ih.1, .cons ⟨hspelled, rfl⟩ ih.2⟩
  | bank _ _ ih => exact ih
  | served _ hrun ih => rwa [hrun.terms_eq.1, hrun.terms_eq.2]

/-- The vault names the limits and the fee that were last stored under a spelling of the
code of `s`.  It knows of no limits and asks no fee if none were. -/
structure AnswersSpelling (ids : Nat → String) (stored : List (String × TransferLimits))
    (charged : List (String × Money)) (v : Vault) (s : String) (currency : Currency) : Prop where
  limits : ∀ onlyOpenBanking,
    (custodian ids (.limits currency onlyOpenBanking) v).ended.1 =
      match latestAlike stored s with
      | some limits => .ok limits
      | none => .error (.notFound "transfer limits" currency.code)
  fee : (custodian ids (.withdrawalFee currency) v).ended.1 =
    .ok ((latestAlike charged s).getD (.zero currency))

theorem Furnished.answersSpelling (h : Furnished ids stored charged v) {s : String}
    {currency : Currency} (hspelled : Currency.parse s = .ok currency) :
    AnswersSpelling ids stored charged v s currency := by
  obtain ⟨hlimits, hfees⟩ := h.storedAs
  constructor
  · intro onlyOpenBanking
    rw [← lookup_eq_latestAlike hlimits hspelled]
    rfl
  · rw [← lookup_eq_latestAlike hfees hspelled]
    rfl

end

end Vault

/-- **A currency code has one form.**  A text is accepted exactly if one to ten letters or
digits of ASCII stand in it between white space, by decoding as well.  An accepted code
consists of capitals and digits and names itself, and two texts name the same currency
exactly if they are spelled alike.  So a vault in use finds under a text what it was last
given under a spelling of the same code, and nothing else. -/
theorem Currency.one_form_per_code (s t : String) :
    ((∃ a, parse s = .ok a) ↔ ∃ core, IsTrimmed s.toList core ∧ IsWrittenCode core) ∧
      ofJson? (.text s) = (parse s).toOption ∧
      ∀ a, parse s = .ok a →
        (∀ c ∈ a.code.toList, IsCapitalOrDigit c) ∧
        parse a.code = .ok a ∧ ofJson? (.text a.code) = some a ∧
        (∀ b, parse t = .ok b → (a = b ↔ SpellAlike s t)) ∧
        ∀ ids stored charged v, Vault.Furnished ids stored charged v →
          Vault.AnswersSpelling ids stored charged v s a := by
  refine ⟨exists_parse_iff, (toOption_parse s).symm, fun a ha => ?_⟩
  refine ⟨?_, parse_eq_ok_iff.2 a.ofText?_code, a.ofText?_code, ?_, ?_⟩
  · have hcode := a.isCode_code
    simp only [isCode, Bool.and_eq_true, List.all_eq_true] at hcode
    exact fun c hc => isCodeChar_iff_isCapitalOrDigit.1 (hcode.2 c hc)
  · exact fun b hb => parse_eq_iff_spellAlike ha hb
  · exact fun ids stored charged v hfurnished => hfurnished.answersSpelling ha

/-- A krone. -/
def Sample.krone : Money := .ofMajor 1 ⟨"NOK", by decide⟩

/-- Pounds between a space and an ideographic one: the limits that were stored under a
shorter text are found, the fee that was stored under kroner is not asked. -/
theorem Currency.one_form_per_code_pounds :
    let limits : TransferLimits := ⟨Sample.pounds 1, none⟩
    let v := (Vault.empty.withLimits Sample.sterling limits).withFee Sample.krone
    parse " gbp\u3000" = .ok Sample.sterling ∧ parse "GbP" = .ok Sample.sterling ∧
      SpellAlike " gbp\u3000" "GbP" ∧
      (Vault.custodian Nat.repr (.limits Sample.sterling true) v).ended.1 = .ok limits ∧
      (Vault.custodian Nat.repr (.withdrawalFee Sample.sterling) v).ended.1 =
        .ok (.zero Sample.sterling) := by
  intro limits v
  have hpounds : parse " gbp\u3000" = .ok Sample.sterling := by decide +kernel
  have hshorter : parse "GbP" = .ok Sample.sterling := by decide +kernel
  have hkrone : parse "nok" = .ok Sample.krone.currency := by decide +kernel
  obtain ⟨-, -, haccepted⟩ := one_form_per_code " gbp\u3000" "GbP"
  obtain ⟨-, -, -, hsame, hanswers⟩ := haccepted _ hpounds
  have hnew : Vault.Furnished Nat.repr [] [] .empty := .start rfl rfl
  have hvault := hanswers _ _ _ v (.fee (.limits hnew hshorter limits) hkrone)
  have halike : SpellAlike "GbP" " gbp\u3000" := by decide +kernel
  have hother : ¬ SpellAlike "nok" " gbp\u3000" := by decide +kernel
  refine ⟨hpounds, hshorter, (hsame _ hshorter).1 rfl, ?_, ?_⟩
  · simpa [latestAlike, halike] using hvault.limits true
  · simpa [latestAlike, hother] using hvault.fee

end FiatRamp
