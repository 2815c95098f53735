import FiatRamp.Text.Blank

/-!
# FiatRamp.Currency

Currency codes, fiat or crypto: one to ten ASCII letters or digits.

A code has one canonical form, in capitals and without blanks around it, and
`Currency` holds only that form; two currencies are the same exactly when
their codes are.
-/

namespace FiatRamp

/-- A capital letter or a digit of ASCII, the characters of a canonical code. -/
def isCodeChar (c : Char) : Bool := c.isUpper || c.isDigit

/-- A canonical currency code. -/
def isCode (cs : List Char) : Bool := !cs.isEmpty && cs.length ≤ 10 && cs.all isCodeChar

/-- A code as people may write it, once the blanks around it are gone. -/
def isCodeText (cs : List Char) : Bool := !cs.isEmpty && cs.length ≤ 10 && cs.all Char.isAlphanum

/-- Capitals turn every character of a written code into one of a canonical code. -/
theorem isCodeChar_toUpper {c : Char} (h : c.isAlphanum = true) : isCodeChar c.toUpper = true := by
  -- the classes of ASCII characters are bounds on code points
  have upper : ∀ d : Char, d.isUpper = decide ('A'.val ≤ d.val ∧ d.val ≤ 'Z'.val) := fun _ => rfl
  have lower : ∀ d : Char, d.isLower = (decide ('a'.val ≤ d.val) && decide (d.val ≤ 'z'.val)) :=
    fun _ => rfl
  have digit : ∀ d : Char, d.isDigit = (decide ('0'.val ≤ d.val) && decide (d.val ≤ '9'.val)) :=
    fun _ => rfl
  have alphanum : c.isAlphanum = (c.isUpper || c.isLower || c.isDigit) := rfl
  rw [alphanum] at h
  simp only [isCodeChar, upper, lower, digit, Bool.or_eq_true, Bool.and_eq_true, decide_eq_true_eq,
    UInt32.le_iff_toNat_le] at h ⊢
  have a : 'a'.val.toNat = 97 := rfl
  have z : 'z'.val.toNat = 122 := rfl
  unfold Char.toUpper
  split
  · rename_i lower
    simp only [UInt32.le_iff_toNat_le, UInt32.toNat_add] at lower ⊢
    have low := lower.1
    have high := lower.2
    left
    change 65 ≤ (c.val.toNat + 4294967264) % 4294967296 ∧
      (c.val.toNat + 4294967264) % 4294967296 ≤ 90
    omega
  · rename_i other
    simp only [UInt32.le_iff_toNat_le] at other
    have a' : UInt32.toNat 97 = 97 := rfl
    have z' : UInt32.toNat 122 = 122 := rfl
    omega

theorem isCode_map_toUpper {cs : List Char} (h : isCodeText cs = true) :
    isCode (cs.map Char.toUpper) = true := by
  simp only [isCodeText, isCode, Bool.and_eq_true, Bool.not_eq_true', List.isEmpty_eq_false_iff,
    decide_eq_true_eq, List.all_eq_true, List.length_map, ne_eq, List.map_eq_nil_iff,
    List.mem_map] at h ⊢
  refine ⟨h.1, ?_⟩
  rintro c ⟨d, hd, rfl⟩
  exact isCodeChar_toUpper (h.2 d hd)

/-- A currency, known by its canonical code. -/
structure Currency where
  /-- The code, in capitals. -/
  code : String
  /-- Only canonical codes are held. -/
  isCode_code : isCode code.toList = true
  deriving DecidableEq

namespace Currency

/-- Currencies are ordered by code. -/
instance : Ord Currency := ⟨fun a b => compare a.code b.code⟩

/-- The currency a text names, blanks around the code and case aside. -/
def ofText? (s : String) : Option Currency :=
  if h : isCodeText (trimChars s.toList) = true then
    some ⟨String.ofList ((trimChars s.toList).map Char.toUpper), by
      simpa using isCode_map_toUpper h⟩
  else none

theorem ext_code {a b : Currency} (h : a.code = b.code) : a = b := by
  cases a; cases b; cases h; rfl

/-- The currencies whose transfers a bank authorises through open banking. -/
def openBankingCodes : List String := ["EUR", "GBP"]

/-- Transfers in this currency are authorised through open banking. -/
def isOpenBanking (c : Currency) : Bool := openBankingCodes.contains c.code

end Currency

end FiatRamp
