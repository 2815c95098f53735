import FiatRamp.Proofs.Hosts
import FiatRamp.Toml.Reader

/-!
# FiatRamp.Proofs.FileText

Files written line by line, and read back.

A row (`Row`) is a header or an entry with a truth value, a number or a text.
It is written without blanks (`Row.toChars`); in a text, a character that may
not stand for itself is written as its number.  A block (`Block`) is a table of
such entries below its header.  Reading gives back what was written:

* `readBasic_escaped`: a text, whatever its characters;
* `ofWord?_toDigits`: a number that fits;
* `Row.readLine_toChars`: a row;
* `Row.ofText?_toChars`: the lines of a file of rows;
* `Block.ofText?_toChars`: the tables of a file of blocks.
-/

namespace FiatRamp.Toml

variable {c : Char} {cs rest word : List Char} {d n depth fuel : Nat}

/-! ## Characters as numbers -/

/-- A digit in hexadecimal, the `place`-th from the right. -/
def hexDigitAt (n place : Nat) : Char := (n / 16 ^ place % 16).digitChar

/-- A number in eight hexadecimal digits. -/
def hexDigits (n : Nat) : List Char :=
  [hexDigitAt n 7, hexDigitAt n 6, hexDigitAt n 5, hexDigitAt n 4,
    hexDigitAt n 3, hexDigitAt n 2, hexDigitAt n 1, hexDigitAt n 0]

theorem hexDigit_digitChar (h : d < 16) : hexDigit d.digitChar = d := by
  revert d
  decide

theorem isHexDigit_digitChar (h : d < 16) : isHexDigit d.digitChar = true := by
  revert d
  decide

theorem hexDigit_hexDigitAt (n place : Nat) : hexDigit (hexDigitAt n place) = n / 16 ^ place % 16 :=
  hexDigit_digitChar (Nat.mod_lt _ (by decide))

theorem ofDigits_hexDigits (h : n < 16 ^ 8) : ofDigits 16 (hexDigits n) = n := by
  simp only [ofDigits, hexDigits, List.foldl_cons, List.foldl_nil, hexDigit_hexDigitAt]
  omega

theorem isHexDigit_of_mem_hexDigits (h : c ∈ hexDigits n) : isHexDigit c = true := by
  have hdigit : ∀ place, isHexDigit (hexDigitAt n place) = true := fun place =>
    isHexDigit_digitChar (Nat.mod_lt _ (by decide))
  simp only [hexDigits, List.mem_cons, List.not_mem_nil, or_false] at h
  rcases h with rfl | rfl | rfl | rfl | rfl | rfl | rfl | rfl <;> exact hdigit _

/-- A character is the one its number stands for. -/
theorem hexChar?_hexDigits (c : Char) : hexChar? (hexDigits c.toNat) = some c := by
  have hvalid : c.toNat.isValidChar := c.valid
  have hlt : c.toNat < 16 ^ 8 := by
    rcases hvalid with h | ⟨-, h⟩ <;> omega
  have hall : (hexDigits c.toNat).all isHexDigit = true :=
    List.all_eq_true.2 fun d hd => isHexDigit_of_mem_hexDigits hd
  simp only [hexChar?, ofDigits_hexDigits hlt, hall, hvalid, dif_pos, if_true, Option.some.injEq]
  exact Char.ext (by simp [← Char.toNat_val])

/-! ## Texts -/

/-- A character inside double quotes: itself, or its number behind a backslash. -/
def escapeChar (c : Char) : List Char :=
  if isPlain c && c != '"' && c != '\\' then [c] else '\\' :: 'U' :: hexDigits c.toNat

/-- A text inside double quotes. -/
def escaped (cs : List Char) : List Char := cs.flatMap escapeChar

/-- A text is read back, whatever its characters. -/
theorem readBasic_escaped (cs rest : List Char) :
    readBasic (escaped cs ++ '"' :: rest) = some (cs, rest) := by
  induction cs with
  | nil => rfl
  | cons c cs ih =>
      rw [escaped, List.flatMap_cons, List.append_assoc, ← escaped]
      unfold escapeChar
      split
      · next hplain =>
          simp only [Bool.and_eq_true, bne_iff_ne, ne_eq] at hplain
          obtain ⟨⟨hc, hquote⟩, hslash⟩ := hplain
          simp [readBasic, hc, hslash, ih, consRead]
      · have hchar := hexChar?_hexDigits c
        simp only [hexDigits, List.cons_append, List.nil_append] at hchar ⊢
        simp [readBasic, hchar, ih, consRead]

/-- No quote is written for a character of a text. -/
theorem head?_escaped_ne (cs : List Char) : (escaped cs).head? ≠ some '"' := by
  cases cs with
  | nil => simp [escaped]
  | cons c cs =>
      rw [escaped, List.flatMap_cons]
      unfold escapeChar
      split <;> simp_all

/-- One quote opens a text of one line. -/
theorem readQuoted_escaped (cs rest : List Char) :
    readQuoted ('"' :: (escaped cs ++ '"' :: '\n' :: rest)) =
      some (String.ofList cs, '\n' :: rest) := by
  have hread := readBasic_escaped cs ('\n' :: rest)
  have hhead := head?_escaped_ne cs
  cases hcs : escaped cs with
  | nil =>
      rw [hcs] at hread
      simp only [List.nil_append] at hread ⊢
      simp [readQuoted, readQuoted.ofRead, hread]
  | cons d ds =>
      rw [hcs] at hread hhead
      have hd : d ≠ '"' := by simpa using hhead
      simp only [List.cons_append] at hread ⊢
      simp [readQuoted, readQuoted.ofRead, hread, hd]

/-! ## Words -/

theorem isWordChar_of_isDigit (h : c.isDigit = true) : isWordChar c = true := by
  simp [isWordChar, Char.isAlphanum, h]

/-- A word ends where the line does. -/
theorem readWord_append (h : ∀ c ∈ word, isWordChar c = true) :
    readWord (word ++ '\n' :: rest) = (Value.ofWord? word).map (·, '\n' :: rest) := by
  have hstop : isWordChar '\n' = false := by decide
  simp [readWord, List.span_eq_takeWhile_dropWhile, List.takeWhile_append_of_pos h,
    List.dropWhile_append_of_pos h, hstop]

/-- A word is no list, no table and no text. -/
theorem readValue_append (hne : word ≠ []) (h : ∀ c ∈ word, isWordChar c = true) :
    readValue depth (fuel + 1) (word ++ '\n' :: rest) =
      (Value.ofWord? word).map (·, '\n' :: rest) := by
  rw [← readWord_append h]
  cases word with
  | nil => contradiction
  | cons c cs =>
      have hc := h c List.mem_cons_self
      rw [List.cons_append]
      unfold readValue
      split <;> simp_all [isWordChar]

/-! ## Numbers -/

theorem word64?_ofNat (h : n < 2 ^ 63) : word64? n = some (.integer n) := by
  have hlow : -Nat.pow 2 63 ≤ (n : Int) := by
    have hpow : (0 : Int) ≤ Nat.pow 2 63 := Int.natCast_nonneg _
    omega
  have hhigh : (n : Int) < Nat.pow 2 63 := Int.ofNat_lt.2 h
  exact if_pos ⟨hlow, hhigh⟩

section Digits

variable (hcs : ∀ c ∈ cs, c.isDigit = true)
include hcs

/-- No digit is another character. -/
theorem not_mem_of_isDigit (hc : c.isDigit = false) : c ∉ cs := fun hmem => by
  simp [hcs c hmem] at hc

theorem ofDigits_ten : ofDigits 10 cs = Nat.ofDigitChars 10 cs 0 := by
  refine List.foldl_ext _ _ 0 fun n c hc => ?_
  simp [hexDigit, hcs c hc]

theorem digits?_of_isDigit (hne : cs ≠ []) : digits? Char.isDigit cs = some cs := by
  induction cs with
  | nil => exact absurd rfl hne
  | cons c cs ih =>
      have hc := hcs c List.mem_cons_self
      cases cs with
      | nil => simp [digits?, hc]
      | cons d ds =>
          have hd : d ≠ '_' := by
            rintro rfl
            exact absurd (hcs '_' (by simp)) (by decide)
          have hrest := ih (fun e he => hcs e (List.mem_cons_of_mem c he)) (by simp)
          simp [digits?, hc, hd, hrest]

/-- Digits alone are no date and no time. -/
theorem date?_of_isDigit : date? cs = none := by
  have hdash := not_mem_of_isDigit hcs (c := '-') (by decide)
  have hcolon := not_mem_of_isDigit hcs (c := ':') (by decide)
  have hdate : afterDate? cs = none := by
    unfold afterDate?
    split
    · simp at hdash
    · rfl
  have htime : afterTime? cs = none := by
    unfold afterTime?
    split
    · simp at hcolon
    · rfl
  simp [date?, isDate, hdate, htime]

theorem splitSign_of_isDigit : splitSign cs = (false, cs) := by
  have hminus := not_mem_of_isDigit hcs (c := '-') (by decide)
  have hplus := not_mem_of_isDigit hcs (c := '+') (by decide)
  unfold splitSign
  split
  · simp at hminus
  · simp at hplus
  · rfl

/-- Digits without a zero in front are a number in decimal. -/
theorem integer?_of_isDigit (hdigits : decimalDigits? cs = some cs)
    (hlt : Nat.ofDigitChars 10 cs 0 < 2 ^ 63) :
    integer? cs = some (.integer (Nat.ofDigitChars 10 cs 0)) := by
  have hx := not_mem_of_isDigit hcs (c := 'x') (by decide)
  have ho := not_mem_of_isDigit hcs (c := 'o') (by decide)
  have hb := not_mem_of_isDigit hcs (c := 'b') (by decide)
  unfold integer?
  split
  · simp at hx
  · simp at ho
  · simp at hb
  · rw [splitSign_of_isDigit hcs]
    dsimp only
    rw [hdigits, Option.bind_eq_bind, Option.bind_some, if_neg (by simp), ofDigits_ten hcs,
      word64?_ofNat hlt]

end Digits

theorem decimalDigits?_toDigits (n : Nat) :
    decimalDigits? (Nat.toDigits 10 n) = some (Nat.toDigits 10 n) := by
  have hdigit : ∀ c ∈ Nat.toDigits 10 n, c.isDigit = true := fun c hc =>
    Nat.isDigit_of_mem_toDigits (by decide) (by decide) hc
  cases n with
  | zero => rfl
  | succ n =>
      obtain ⟨c, cs, hcons, hc⟩ := Address.exists_toDigits_eq_cons (b := 10) (by decide) n.succ_pos
      have hread := digits?_of_isDigit hdigit (by simp [hcons])
      rw [hcons] at hread ⊢
      unfold decimalDigits?
      split <;> simp_all

/-- A number that 63 bits can hold is the word of its digits. -/
theorem ofWord?_toDigits (h : n < 2 ^ 63) :
    Value.ofWord? (Nat.toDigits 10 n) = some (.integer n) := by
  have hdigit : ∀ c ∈ Nat.toDigits 10 n, c.isDigit = true := fun c hc =>
    Nat.isDigit_of_mem_toDigits (by decide) (by decide) hc
  have hnumber : Nat.ofDigitChars 10 (Nat.toDigits 10 n) 0 = n := Nat.ofDigitChars_ten_toDigits
  have hinteger := integer?_of_isDigit hdigit (decimalDigits?_toDigits n) (by rwa [hnumber])
  have htrue : Nat.toDigits 10 n ≠ ['t', 'r', 'u', 'e'] := fun heq => by
    simpa using hdigit 't' (by simp [heq])
  have hfalse : Nat.toDigits 10 n ≠ ['f', 'a', 'l', 's', 'e'] := fun heq => by
    simpa using hdigit 'f' (by simp [heq])
  rw [hnumber] at hinteger
  simp [Value.ofWord?, htrue, hfalse, date?_of_isDigit hdigit, hinteger]

/-! ## Scalars -/

/-- A value that stands in one line, apart from dates and numbers with a point. -/
inductive Scalar where
  | bool (b : Bool)
  | integer (n : Nat)
  | text (s : String)
  deriving DecidableEq

namespace Scalar

def toValue : Scalar → Value
  | .bool b => .bool b
  | .integer n => .integer n
  | .text s => .text s

def toChars : Scalar → List Char
  | .bool true => ['t', 'r', 'u', 'e']
  | .bool false => ['f', 'a', 'l', 's', 'e']
  | .integer n => Nat.toDigits 10 n
  | .text s => '"' :: (escaped s.toList ++ ['"'])

/-- Files hold whole numbers of 64 bits with a sign. -/
def Fits : Scalar → Prop
  | .integer n => n < 2 ^ 63
  | _ => True

/-- A scalar is read back. -/
theorem readValue_toChars {s : Scalar} (depth fuel : Nat) (rest : List Char) (h : s.Fits) :
    readValue depth (fuel + 1) (s.toChars ++ '\n' :: rest) = some (s.toValue, '\n' :: rest) := by
  cases s with
  | bool b => cases b <;> exact readValue_append (by simp [toChars]) (by simp [toChars]; decide)
  | integer n =>
      have hword := ofWord?_toDigits h
      have hdigit : ∀ c ∈ Nat.toDigits 10 n, isWordChar c = true := fun c hc =>
        isWordChar_of_isDigit (Nat.isDigit_of_mem_toDigits (by decide) (by decide) hc)
      simp [toChars, toValue, readValue_append Nat.toDigits_ne_nil hdigit, hword]
  | text s =>
      have hread := readQuoted_escaped s.toList rest
      simp [toChars, toValue, readValue, hread]

theorem dropBlanks_toChars (s : Scalar) : dropBlanks (s.toChars ++ rest) = s.toChars ++ rest := by
  cases s with
  | bool b => cases b <;> rfl
  | integer n =>
      cases hdigits : Nat.toDigits 10 n with
      | nil => exact absurd hdigits Nat.toDigits_ne_nil
      | cons c cs =>
          have hc : c.isDigit = true :=
            Nat.isDigit_of_mem_toDigits (by decide) (by decide) (hdigits ▸ List.mem_cons_self)
          have hblank : isBlankChar c = false := by
            simp only [isBlankChar, Bool.or_eq_false_iff, beq_eq_false_iff_ne]
            constructor <;> rintro rfl <;> simp at hc
          simp [toChars, hdigits, dropBlanks, hblank]
  | text s => rfl

end Scalar

/-! ## Names -/

/-- A name that needs no quotes. -/
def IsName (name : String) : Prop :=
  name.toList ≠ [] ∧ name.toList.all isNameChar = true

instance (name : String) : Decidable (IsName name) := inferInstanceAs (Decidable (_ ∧ _))

section Names

variable {name : String}

/-- A character of a name is none of those that are not. -/
theorem ne_of_isNameChar (h : isNameChar c = true) (mark : Char)
    (hmark : isNameChar mark = false) : c ≠ mark := by
  rintro rfl
  simp [h] at hmark

theorem IsName.exists_cons (h : IsName name) :
    ∃ c cs, name.toList = c :: cs ∧ isNameChar c = true := by
  obtain ⟨c, cs, hcons⟩ := List.exists_cons_of_ne_nil h.1
  exact ⟨c, cs, hcons, List.all_eq_true.1 h.2 c (by simp [hcons])⟩

theorem dropBlanks_cons (h : isBlankChar c = false) : dropBlanks (c :: cs) = c :: cs := by
  simp [dropBlanks, h]

theorem isBlankChar_of_isNameChar (h : isNameChar c = true) : isBlankChar c = false := by
  have hspace := ne_of_isNameChar h ' ' (by decide)
  have htab := ne_of_isNameChar h '\t' (by decide)
  simp [isBlankChar, hspace, htab]

/-- A name is read up to the character behind it. -/
theorem readName_append (h : IsName name) {mark : Char} (hmark : isNameChar mark = false)
    (rest : List Char) : readName (name.toList ++ mark :: rest) = some (name, mark :: rest) := by
  have htake : (name.toList ++ mark :: rest).takeWhile isNameChar = name.toList := by
    simp [List.takeWhile_append_of_pos (List.all_eq_true.1 h.2), hmark]
  have hdrop : (name.toList ++ mark :: rest).dropWhile isNameChar = mark :: rest := by
    simp [List.dropWhile_append_of_pos (List.all_eq_true.1 h.2), hmark]
  obtain ⟨c, cs, hcons, hc⟩ := h.exists_cons
  rw [hcons, List.cons_append] at htake hdrop ⊢
  unfold readName
  split
  · next heq => exact absurd (List.cons.inj heq).1 (ne_of_isNameChar hc _ (by decide))
  · next heq => exact absurd (List.cons.inj heq).1 (ne_of_isNameChar hc _ (by decide))
  · have hname : String.ofList (c :: cs) = name := by rw [← hcons, String.ofList_toList]
    simp [htake, hdrop, hname]

/-- A path of one name is read up to the mark behind it. -/
theorem readPathWithin_append (h : IsName name) {mark : Char} (hmark : mark = '=' ∨ mark = ']')
    (bound : Nat) (rest : List Char) :
    readPathWithin (bound + 1) (name.toList ++ mark :: rest) = some ([name], mark :: rest) := by
  have hname : readName (dropBlanks (name.toList ++ mark :: rest)) = some (name, mark :: rest) := by
    have hstop : isNameChar mark = false := by rcases hmark with rfl | rfl <;> decide
    have hread := readName_append h hstop rest
    obtain ⟨c, cs, hcons, hc⟩ := h.exists_cons
    rw [hcons, List.cons_append] at hread ⊢
    rw [dropBlanks_cons (isBlankChar_of_isNameChar hc), hread]
  have hrest : dropBlanks (mark :: rest) = mark :: rest :=
    dropBlanks_cons (by rcases hmark with rfl | rfl <;> decide)
  rcases hmark with rfl | rfl <;> simp [readPathWithin, hname, hrest]

theorem readPath_append (h : IsName name) {mark : Char} (hmark : mark = '=' ∨ mark = ']')
    (rest : List Char) :
    readPath (name.toList ++ mark :: rest) = some ([name], mark :: rest) :=
  readPathWithin_append h hmark 78 rest

end Names

/-! ## Rows -/

/-- A line that is written without blanks. -/
inductive Row where
  | header (name : String)
  | entry (name : String) (value : Scalar)
  deriving DecidableEq

namespace Row

variable {row : Row} {rows : List Row}

def toLine : Row → Line
  | .header name => .header [name]
  | .entry name value => .entry [name] value.toValue

def toChars : Row → List Char
  | .header name => '[' :: (name.toList ++ [']', '\n'])
  | .entry name value => name.toList ++ '=' :: (value.toChars ++ ['\n'])

/-- The name needs no quotes, and the value fits. -/
def IsPlain : Row → Prop
  | .header name => IsName name
  | .entry name value => IsName name ∧ value.Fits

/-- **One row** is read back, up to the end of its line. -/
theorem readLine_toChars (rest : List Char) (h : row.IsPlain) :
    readLine (row.toChars ++ rest) = some (row.toLine, '\n' :: rest) := by
  cases row with
  | header name =>
      have hpath := readPath_append h (.inr rfl) ('\n' :: rest)
      obtain ⟨c, cs, hcons, hc⟩ := IsName.exists_cons h
      have hbracket := ne_of_isNameChar hc '[' (by decide)
      rw [hcons] at hpath
      simp only [List.cons_append] at hpath
      simp [toChars, toLine, hcons, readLine, hbracket, hpath]
  | entry name value =>
      have hpath := readPath_append h.1 (.inl rfl) (value.toChars ++ '\n' :: rest)
      have hvalue (fuel : Nat) := Scalar.readValue_toChars depthBound fuel rest h.2
      obtain ⟨c, cs, hcons, hc⟩ := h.1.exists_cons
      have hbracket := ne_of_isNameChar hc '[' (by decide)
      rw [hcons] at hpath
      simp only [List.cons_append] at hpath
      simp [toChars, toLine, hcons, readLine, hbracket, hpath, Scalar.dropBlanks_toChars, hvalue]

/-- A row begins with its name or with a bracket. -/
theorem exists_toChars_eq_cons (h : row.IsPlain) :
    ∃ c cs, row.toChars = c :: cs ∧ (isNameChar c = true ∨ c = '[') := by
  cases row with
  | header name => exact ⟨'[', _, rfl, .inr rfl⟩
  | entry name value =>
      obtain ⟨c, cs, hcons, hc⟩ := h.1.exists_cons
      exact ⟨c, _, by rw [toChars, hcons, List.cons_append], .inl hc⟩

/-- A line that begins as a row does is read as one. -/
theorem readLines_cons (hc : isNameChar c = true ∨ c = '[') :
    readLines (fuel + 1) (c :: cs) = (do
      let (line, rest) ← readLine (c :: cs)
      let lines ← readLines fuel (← afterLine? rest)
      return line :: lines) := by
  have hne (mark : Char) (hmark : isNameChar mark = false) (hbracket : mark ≠ '[') : c ≠ mark := by
    rcases hc with hc | rfl
    · exact ne_of_isNameChar hc mark hmark
    · exact hbracket.symm
  have hspace := hne ' ' (by decide) (by decide)
  have htab := hne '\t' (by decide) (by decide)
  have hbreak := hne '\n' (by decide) (by decide)
  have hreturn := hne '\r' (by decide) (by decide)
  have hcomment := hne '#' (by decide) (by decide)
  have hblank : dropBlanks (c :: cs) = c :: cs :=
    dropBlanks_cons (by simp [isBlankChar, hspace, htab])
  rw [readLines, hblank]
  split <;> simp_all

/-- Rows are read back one after the other. -/
theorem readLines_toChars (h : ∀ row ∈ rows, row.IsPlain) (hfuel : rows.length < fuel) :
    readLines fuel (rows.flatMap toChars) = some (rows.map toLine) := by
  induction rows generalizing fuel with
  | nil =>
      cases fuel with
      | zero => contradiction
      | succ fuel => rfl
  | cons row rows ih =>
      cases fuel with
      | zero => contradiction
      | succ fuel =>
          have hrow := h row List.mem_cons_self
          have hrows := ih (fun row hmem => h row (List.mem_cons_of_mem _ hmem))
            (Nat.lt_of_succ_lt_succ hfuel)
          have hline := readLine_toChars (rows.flatMap toChars) hrow
          have hend : afterLine? ('\n' :: rows.flatMap toChars) = some (rows.flatMap toChars) := by
            simp [afterLine?, dropBlanks, isBlankChar]
          obtain ⟨c, cs, hcons, hc⟩ := exists_toChars_eq_cons hrow
          rw [hcons, List.cons_append] at hline
          simp [hcons, readLines_cons hc, hline, hend, hrows]

theorem length_le_length_flatMap (h : ∀ row ∈ rows, row.IsPlain) :
    rows.length ≤ (rows.flatMap toChars).length := by
  have hpos : ∀ n ∈ rows.map fun row => row.toChars.length, 1 ≤ n := by
    simp only [List.mem_map, forall_exists_index, and_imp, forall_apply_eq_imp_iff₂]
    intro row hrow
    obtain ⟨c, cs, hcons, -⟩ := exists_toChars_eq_cons (h row hrow)
    simp [hcons]
  simpa [List.length_flatMap] using List.length_le_sum_of_one_le _ hpos

/-- Rows do not begin with the mark that some files begin with. -/
theorem head?_flatMap_ne (h : ∀ row ∈ rows, row.IsPlain) :
    (rows.flatMap toChars).head? ≠ some byteOrderMark := by
  cases rows with
  | nil => simp
  | cons row rows =>
      obtain ⟨c, cs, hcons, hc⟩ := exists_toChars_eq_cons (h row List.mem_cons_self)
      have hne : c ≠ byteOrderMark := by
        rcases hc with hc | rfl
        · exact ne_of_isNameChar hc _ (by decide)
        · decide
      simp [hcons, hne]

/-- **A file of rows** says what its lines say together. -/
theorem ofText?_toChars (h : ∀ row ∈ rows, row.IsPlain) :
    Value.ofText? (String.ofList (rows.flatMap toChars)) = Value.ofLines? (rows.map toLine) := by
  have hlines := readLines_toChars h (Nat.lt_succ_of_le (length_le_length_flatMap h))
  simp only [Value.ofText?, String.toList_ofList, head?_flatMap_ne h, if_false]
  rw [hlines, Option.bind_eq_bind, Option.bind_some]

end Row

/-! ## Tables that are filled -/

/-- Some named scalars as rows. -/
def scalarRows (fields : List (String × Scalar)) : List Row :=
  fields.map fun (name, scalar) => .entry name scalar

/-- Some named scalars as values. -/
def scalarFields (fields : List (String × Scalar)) : List (String × Value) :=
  fields.map fun (name, scalar) => (name, scalar.toValue)

/-- Some named scalars as the entries of a table. -/
def scalarEntries (fields : List (String × Scalar)) : List (Path × Value) :=
  fields.map fun (name, scalar) => ([name], scalar.toValue)

/-- Some named scalars as a table holds them while a file is read. -/
def scalarNodes (fields : List (String × Scalar)) : Entries :=
  fields.map fun (name, scalar) => (name, .value scalar.toValue)

namespace Entries

variable {entries : Entries} {name : String}

theorem lookup_eq_none (h : name ∉ entries.map Prod.fst) : entries.lookup name = none := by
  refine List.lookup_eq_none_iff.2 fun entry hentry => ?_
  rw [bne_iff_ne]
  rintro rfl
  exact h (List.mem_map_of_mem hentry)

/-- What has a new name comes last. -/
theorem put_of_notMem (h : name ∉ entries.map Prod.fst) (node : Node) :
    entries.put name node = entries ++ [(name, node)] := by
  induction entries with
  | nil => rfl
  | cons entry entries ih =>
      simp only [List.map_cons, List.mem_cons, not_or] at h
      have hne : ¬entry.1 = name := fun heq => h.1 heq.symm
      rw [put, if_neg hne, ih h.2, List.cons_append]

theorem insert_of_notMem (h : name ∉ entries.map Prod.fst) (value : Value) :
    insert value [name] entries = some (entries ++ [(name, .value value)]) := by
  simp [insert, lookup_eq_none h, put_of_notMem h]

/-- Scalars with new names are added one after the other. -/
theorem insertAll_scalarEntries (entries : Entries) {fields : List (String × Scalar)}
    (h : (entries.map Prod.fst ++ fields.map Prod.fst).Nodup) :
    insertAll (scalarEntries fields) entries = some (entries ++ scalarNodes fields) := by
  induction fields generalizing entries with
  | nil => simp [insertAll, scalarEntries, scalarNodes]
  | cons field fields ih =>
      obtain ⟨name, scalar⟩ := field
      have hnew : name ∉ entries.map Prod.fst := fun hmem =>
        (List.nodup_append.1 h).2.2 name hmem name (by simp) rfl
      have hrest := ih (entries ++ [(name, .value scalar.toValue)]) (by simpa using h)
      have hinsert := insert_of_notMem hnew scalar.toValue
      simp only [insertAll, scalarEntries, scalarNodes, List.map_cons, List.foldlM_cons] at hrest ⊢
      rw [hinsert, Option.bind_eq_bind, Option.bind_some, hrest]
      simp

end Entries

/-! ## Files of tables -/

/-- A table of scalars with its header. -/
structure Block where
  name : String
  fields : List (String × Scalar)

namespace Block

variable {block : Block} {blocks : List Block} {entries : Entries} {lines : List Line}

def rows (b : Block) : List Row := .header b.name :: scalarRows b.fields

def toValue (b : Block) : Value := .table (scalarFields b.fields)

/-- The names need no quotes and are different, and the values fit. -/
structure IsPlain (b : Block) : Prop where
  name : IsName b.name
  names : ∀ name ∈ b.fields.map Prod.fst, IsName name
  fits : ∀ field ∈ b.fields, field.2.Fits
  nodup : (b.fields.map Prod.fst).Nodup

theorem IsPlain.of_names (name : String) (names : List String) (hname : block.name = name)
    (hfields : block.fields.map Prod.fst = names)
    (h : IsName name ∧ (∀ name ∈ names, IsName name) ∧ names.Nodup)
    (hfits : ∀ field ∈ block.fields, field.2.Fits) : block.IsPlain := by
  subst hname hfields
  exact ⟨h.1, h.2.1, hfits, h.2.2⟩

theorem IsPlain.rows (h : block.IsPlain) {row : Row} (hrow : row ∈ block.rows) : row.IsPlain := by
  simp only [Block.rows, scalarRows, List.mem_cons, List.mem_map] at hrow
  rcases hrow with rfl | ⟨field, hfield, rfl⟩
  · exact h.name
  · exact ⟨h.names field.1 (List.mem_map_of_mem hfield), h.fits field hfield⟩

/-! ### Sections -/

/-- The section of a block in a file. -/
def toSection (b : Block) : Section := ⟨false, [b.name], scalarEntries b.fields⟩

/-- Entries stand below the header in front of them. -/
theorem sections_scalarRows (fields : List (String × Scalar)) (lines : List Line) :
    sections ((scalarRows fields).map Row.toLine ++ lines) =
      (scalarEntries fields ++ (sections lines).1, (sections lines).2) := by
  induction fields with
  | nil => rfl
  | cons field fields ih =>
      simp only [scalarRows, scalarEntries, List.map_cons, List.cons_append, Row.toLine,
        sections] at ih ⊢
      rw [ih]

theorem sections_rows (blocks : List Block) :
    sections ((blocks.flatMap rows).map Row.toLine) = ([], blocks.map toSection) := by
  induction blocks with
  | nil => rfl
  | cons block blocks ih =>
      simp only [List.flatMap_cons, rows, List.map_append, List.map_cons, List.cons_append,
        Row.toLine, sections, sections_scalarRows] at ih ⊢
      simp [ih, toSection]

/-! ### Tables -/

/-- What a file holds after the section of a block. -/
def toNode (b : Block) : String × Node := (b.name, .table .header (scalarNodes b.fields))

theorem addSection_toSection (h : block.name ∉ entries.map Prod.fst)
    (hnames : (block.fields.map Prod.fst).Nodup) :
    entries.addSection block.toSection = some (entries ++ [block.toNode]) := by
  have hfields := Entries.insertAll_scalarEntries [] hnames
  simp [Entries.addSection, toSection, toNode, Entries.descend, openTable, hfields,
    Entries.lookup_eq_none h, Entries.put_of_notMem h]

/-- Tables with new names are added one after the other. -/
theorem foldlM_addSection (entries : Entries) (hplain : ∀ b ∈ blocks, b.IsPlain)
    (h : (entries.map Prod.fst ++ blocks.map name).Nodup) :
    (blocks.map toSection).foldlM Entries.addSection entries =
      some (entries ++ blocks.map toNode) := by
  induction blocks generalizing entries with
  | nil => simp
  | cons block blocks ih =>
      have hnew : block.name ∉ entries.map Prod.fst := fun hmem =>
        (List.nodup_append.1 h).2.2 block.name hmem block.name (by simp) rfl
      have hadd := addSection_toSection hnew (hplain block List.mem_cons_self).nodup
      have hrest := ih (entries ++ [block.toNode])
        (fun b hb => hplain b (List.mem_cons_of_mem _ hb)) (by simpa [toNode] using h)
      rw [List.map_cons, List.foldlM_cons, hadd, Option.bind_eq_bind, Option.bind_some, hrest]
      simp

theorem entriesToFields_scalarNodes (fields : List (String × Scalar)) :
    entriesToFields (scalarNodes fields) = scalarFields fields := by
  induction fields with
  | nil => rfl
  | cons field fields ih =>
      simp only [scalarNodes, scalarFields, List.map_cons, entriesToFields, Node.toValue] at ih ⊢
      rw [ih]

theorem entriesToFields_toNode (blocks : List Block) :
    entriesToFields (blocks.map toNode) = blocks.map fun b => (b.name, b.toValue) := by
  induction blocks with
  | nil => rfl
  | cons block blocks ih =>
      simp [toNode, entriesToFields, Node.toValue, entriesToFields_scalarNodes, toValue, ih]

/-- **A file of tables** with different names says what the tables hold. -/
theorem ofText?_toChars (hplain : ∀ b ∈ blocks, b.IsPlain) (h : (blocks.map name).Nodup) :
    Value.ofText? (String.ofList ((blocks.flatMap rows).flatMap Row.toChars)) =
      some (.table (blocks.map fun b => (b.name, b.toValue))) := by
  have hrows : ∀ row ∈ blocks.flatMap rows, row.IsPlain := fun row hrow => by
    obtain ⟨block, hblock, hrow⟩ := List.mem_flatMap.1 hrow
    exact (hplain block hblock).rows hrow
  have htables := foldlM_addSection [] hplain h
  rw [Row.ofText?_toChars hrows, Value.ofLines?, sections_rows]
  simp [Entries.insertAll, htables, entriesToFields_toNode]

end Block

end FiatRamp.Toml
