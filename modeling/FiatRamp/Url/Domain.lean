import FiatRamp.Url.Address
import FiatRamp.Url.Domain.Label
import FiatRamp.Url.Punycode

/-!
# FiatRamp.Url.Domain

Domain names, and their form in ASCII.

A name is a list of labels with points between them.  In its canonical form
(`isCanonical`) everything is ASCII and in small letters, and a label beyond
ASCII stands in Punycode behind the mark `xn--`.  `toAscii?` brings what people
write into that form, and what is in that form stays as it is.
-/

namespace FiatRamp.Domain

/-- A character of ASCII. -/
def isAscii (c : Char) : Bool := c.toNat < 0x80

/-- A character that no domain name holds. -/
def isForbidden (c : Char) : Bool :=
  Percent.controls c ||
    [' ', '#', '%', '/', ':', '<', '>', '?', '@', '[', '\\', ']', '^', '|'].contains c

/-- The labels of a name. -/
def labels (name : List Char) : List (List Char) := Address.splitAt '.' name

/-! ## The canonical form -/

/-- The label that a label in ASCII stands for, if a name may have it. -/
def decodeLabel? (label : List Char) : Option (List Char) :=
  if Label.mark.isPrefixOf label then
    (Punycode.decode? (label.drop Label.mark.length)).filter Label.isValid
  else some label

/-- Where a label is written from right to left, every label keeps to one
direction. -/
def directionsAgree (labels : List (List Char)) : Bool :=
  !labels.any (·.any Label.isRightToLeft) || labels.all Label.keepsDirection

/-- A name in its canonical form. -/
def isCanonical (name : List Char) : Bool :=
  name.all (fun c => isAscii c && !isForbidden c && !c.isUpper) &&
  ((labels name).mapM decodeLabel?).any directionsAgree

/-! ## Into the canonical form -/

/-- A label in ASCII. -/
def encodeLabel (label : List Char) : List Char :=
  if label.all isAscii then label else Label.mark ++ Punycode.encode label

/-- Replaces, drops and composes the characters of a name as people write it. -/
def plain? (name : List Char) : Option (List Char) :=
  (name.mapM mapChar).map fun parts => Unicode.normalize parts.flatten

/-- What a name has to be in ASCII, if it has a canonical form. -/
def candidate? (name : List Char) : Option (List Char) :=
  if name.all isAscii then some (name.map Char.toLower)
  else (plain? name).map fun plain => ['.'].intercalate ((labels plain).map encodeLabel)

/-- The canonical form of a name. -/
def toAscii? (name : List Char) : Option (List Char) := (candidate? name).filter isCanonical

/-! ## Laws -/

/-- No capital of ASCII stays one. -/
theorem toLower_eq_self {c : Char} (h : c.isUpper = false) : c.toLower = c := by
  unfold Char.toLower
  split
  · rename_i upper
    have isUpper : c.isUpper = true := decide_eq_true upper
    rw [isUpper] at h
    cases h
  · rfl

/-- What is in canonical form stays as it is. -/
theorem toAscii?_of_isCanonical {name : List Char} (h : isCanonical name = true) :
    toAscii? name = some name := by
  have all : name.all (fun c => isAscii c && !isForbidden c && !c.isUpper) = true := by
    simp only [isCanonical, Bool.and_eq_true] at h
    exact h.1
  have ascii : name.all isAscii = true := by
    simp only [List.all_eq_true, Bool.and_eq_true] at all ⊢
    exact fun c hc => (all c hc).1.1
  have lower : name.map Char.toLower = name := by
    simp only [List.all_eq_true, Bool.and_eq_true, Bool.not_eq_true'] at all
    exact (List.map_congr_left fun c hc => toLower_eq_self (all c hc).2).trans (List.map_id name)
  simp [toAscii?, candidate?, ascii, lower, h]

/-- Every name that is accepted is in canonical form. -/
theorem isCanonical_of_toAscii? {name ascii : List Char} (h : toAscii? name = some ascii) :
    isCanonical ascii = true := (Option.filter_eq_some_iff.1 h).2

end FiatRamp.Domain
