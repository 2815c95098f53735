import FiatRamp.Proofs.Encoding
import FiatRamp.Url.Reader
import Mathlib.Data.List.TakeWhile

/-!
# FiatRamp.Proofs.Hosts

Hosts, written and read back.

A host that was read is of a form that is read as itself (`Host.IsSettled`): a
name in canonical form that looks like no number, an IPv4 address of 32 bits, or
an IPv6 address of eight groups.  Each is written so that reading it gives the
same host again (`Host.readHost_toChars`), an IPv6 address also where its longest
run of zeros is left out.
-/

namespace FiatRamp

namespace Address

variable {b n d : Nat} {c mark : Char} {cs : List Char}

/-! ## Splitting -/

theorem splitAt_eq_splitOn (mark : Char) (cs : List Char) : splitAt mark cs = cs.splitOn mark := by
  induction cs with
  | nil => rfl
  | cons c cs ih =>
      rw [splitAt, List.splitOn_cons_eq_if_modifyHead, ih]
      by_cases hc : c = mark
      · simp [hc]
      · obtain ⟨first, others, hcons⟩ := List.exists_cons_of_ne_nil (List.splitOn_ne_nil mark cs)
        simp [hc, hcons]

/-- Joining is undone by splitting. -/
theorem splitAt_intercalate {words : List (List Char)} (hne : words ≠ [])
    (hwords : ∀ w ∈ words, mark ∉ w) : splitAt mark ([mark].intercalate words) = words := by
  rw [splitAt_eq_splitOn, List.splitOn_intercalate mark hwords hne]

/-! ## Digits -/

/-- The digits of a number are written in small letters. -/
theorem exists_digitChar_of_mem_toDigits (hbase : 1 < b) (h : c ∈ Nat.toDigits b n) :
    ∃ d < b, c = d.digitChar := by
  induction n using Nat.strong_induction_on with
  | _ n ih =>
      rw [Nat.toDigits_eq_if hbase] at h
      split at h
      · next hlt => exact ⟨n, hlt, List.mem_singleton.1 h⟩
      · next hge =>
          have hdiv : n / b < n := Nat.div_lt_self (by omega) hbase
          rw [List.mem_append, List.mem_singleton] at h
          rcases h with hfront | rfl
          · exact ih (n / b) hdiv hfront
          · exact ⟨n % b, Nat.mod_lt n (by omega), rfl⟩

/-- Only zero is written with a zero in front. -/
theorem exists_toDigits_eq_cons (hbase : 1 < b) (hpos : 0 < n) :
    ∃ c cs, Nat.toDigits b n = c :: cs ∧ c ≠ '0' := by
  induction n using Nat.strong_induction_on with
  | _ n ih =>
      rw [Nat.toDigits_eq_if hbase]
      split
      · exact ⟨n.digitChar, [], rfl, by simp; omega⟩
      · next hge =>
          have hdiv : n / b < n := Nat.div_lt_self hpos hbase
          have hfront : 0 < n / b := Nat.div_pos (by omega) (by omega)
          obtain ⟨c, cs, hcons, hne⟩ := ih (n / b) hdiv hfront
          exact ⟨c, cs ++ [(n % b).digitChar], by rw [hcons]; rfl, hne⟩

theorem hexValue?_digitChar (h : d < 16) : Percent.hexValue? d.digitChar = some d := by
  revert d
  decide

/-- A digit continues the number in front of it. -/
theorem digitsValue?_concat {digit : Nat} (hcs : digitsValue? b cs = some n)
    (hvalue : Percent.hexValue? c = some digit) (hdigit : digit < b) :
    digitsValue? b (cs ++ [c]) = some (n * b + digit) := by
  unfold digitsValue? at hcs ⊢
  rw [List.foldlM_append, hcs]
  simp [hvalue, hdigit]

/-- A number is read back from its digits. -/
theorem digitsValue?_toDigits (hbase : 1 < b) (hlargest : b ≤ 16) (n : Nat) :
    digitsValue? b (Nat.toDigits b n) = some n := by
  induction n using Nat.strong_induction_on with
  | _ n ih =>
      rw [Nat.toDigits_eq_if hbase]
      split
      · next hlt =>
          have hvalue := hexValue?_digitChar (d := n) (by omega)
          simp [digitsValue?, hvalue, hlt]
      · next hge =>
          have hdiv : n / b < n := Nat.div_lt_self (by omega) hbase
          have hmod : n % b < b := Nat.mod_lt n (by omega)
          have hvalue := hexValue?_digitChar (d := n % b) (by omega)
          rw [digitsValue?_concat (ih (n / b) hdiv) hvalue hmod, Nat.div_add_mod']

/-- As many digits as there are bound what they stand for. -/
theorem lt_of_digitsValue? (h : digitsValue? b cs = some n) : n < b ^ cs.length := by
  suffices hfrom : ∀ (cs : List Char) (m : Nat),
      cs.foldlM (fun n c => do
        let digit ← Percent.hexValue? c
        if digit < b then some (n * b + digit) else none) m = some n →
      n < (m + 1) * b ^ cs.length by
    simpa using hfrom cs 0 h
  intro cs
  induction cs with
  | nil =>
      intro m hm
      cases hm
      simp
  | cons c cs ih =>
      intro m hm
      rw [List.foldlM_cons] at hm
      obtain ⟨next, hnext, hrest⟩ := Option.bind_eq_some_iff.1 hm
      obtain ⟨digit, -, hdigit⟩ := Option.bind_eq_some_iff.1 hnext
      split at hdigit
      · next hlt =>
          cases hdigit
          have hle : m * b + digit + 1 ≤ (m + 1) * b := by rw [Nat.add_mul]; omega
          calc n < (m * b + digit + 1) * b ^ cs.length := ih _ hrest
            _ ≤ (m + 1) * b * b ^ cs.length := Nat.mul_le_mul_right _ hle
            _ = (m + 1) * b ^ (c :: cs).length := by rw [List.length_cons, pow_succ']; ring
      · cases hdigit

/-! ## IPv4 -/

/-- A part is written without zeros in front, so it is read in decimal. -/
theorem ipv4Part?_toDigits (n : Nat) : ipv4Part? (Nat.toDigits 10 n) = some n := by
  have hvalue := digitsValue?_toDigits (b := 10) (by decide) (by decide) n
  rcases Nat.eq_zero_or_pos n with rfl | hpos
  · rfl
  · obtain ⟨c, cs, hcons, hne⟩ := exists_toDigits_eq_cons (b := 10) (by decide) hpos
    rw [hcons] at hvalue ⊢
    rw [ipv4Part?]
    · exact hvalue
    all_goals simp [hne]

/-- The four parts of an address. -/
def ipv4Parts (address : Nat) : List Nat :=
  [address / Nat.pow 256 3, address / Nat.pow 256 2 % 256, address / 256 % 256, address % 256]

theorem splitAt_ipv4ToChars (address : Nat) :
    splitAt '.' (Host.ipv4ToChars address) = (ipv4Parts address).map (Nat.toDigits 10) := by
  refine splitAt_intercalate (by simp) fun w hw hpoint => ?_
  obtain ⟨n, -, rfl⟩ := List.mem_map.1 hw
  have hdigit := Nat.isDigit_of_mem_toDigits (b := 10) (by decide) (by decide) hpoint
  cases hdigit

/-- No part of an address is empty. -/
theorem dropEmptyEnd_ipv4ToChars (address : Nat) :
    dropEmptyEnd (splitAt '.' (Host.ipv4ToChars address)) =
      (ipv4Parts address).map (Nat.toDigits 10) := by
  rw [splitAt_ipv4ToChars, dropEmptyEnd, if_neg]
  simp [ipv4Parts, Nat.toDigits_ne_nil]

theorem endsInNumber_ipv4ToChars (address : Nat) :
    endsInNumber (Host.ipv4ToChars address) = true := by
  have hpart := ipv4Part?_toDigits (address % 256)
  unfold endsInNumber
  dsimp only
  rw [dropEmptyEnd_ipv4ToChars, splitAt_ipv4ToChars]
  simp [ipv4Parts, hpart]

/-- **An IPv4 address is read back.** -/
theorem ipv4?_ipv4ToChars {address : Nat} (h : address < 256 ^ 4) :
    ipv4? (Host.ipv4ToChars address) = some address := by
  have hread : ((ipv4Parts address).map (Nat.toDigits 10)).mapM ipv4Part? =
      some (ipv4Parts address) := by
    simp [ipv4Parts, ipv4Part?_toDigits]
  unfold ipv4?
  dsimp only
  rw [dropEmptyEnd_ipv4ToChars, hread]
  simp [ipv4Parts]
  omega

/-- Bytes make up a number of as many bytes. -/
theorem foldl_byte_lt {bytes : List Nat} (h : ∀ byte ∈ bytes, byte ≤ 255) (m : Nat) :
    bytes.foldl (fun n part => n * 256 + part) m < (m + 1) * 256 ^ bytes.length := by
  induction bytes generalizing m with
  | nil => simp
  | cons byte bytes ih =>
      have hbyte := h byte List.mem_cons_self
      have hrest := ih (fun other hother => h other (List.mem_cons_of_mem byte hother))
        (m * 256 + byte)
      have hle : m * 256 + byte + 1 ≤ (m + 1) * 256 := by omega
      calc bytes.foldl (fun n part => n * 256 + part) (m * 256 + byte)
          < (m * 256 + byte + 1) * 256 ^ bytes.length := hrest
        _ ≤ (m + 1) * 256 * 256 ^ bytes.length := Nat.mul_le_mul_right _ hle
        _ = (m + 1) * 256 ^ (byte :: bytes).length := by
            rw [List.length_cons, pow_succ']
            ring

/-- Every part is read as one number. -/
theorem length_of_mapM {read : α → Option β} {xs : List α} {ys : List β}
    (h : xs.mapM read = some ys) : ys.length = xs.length := by
  induction xs generalizing ys with
  | nil =>
      cases h
      rfl
  | cons x xs ih =>
      rw [List.mapM_cons] at h
      obtain ⟨y, -, h⟩ := Option.bind_eq_some_iff.1 h
      obtain ⟨rest, hrest, h⟩ := Option.bind_eq_some_iff.1 h
      cases h
      simp [ih hrest]

/-- An address that was read has 32 bits. -/
theorem lt_of_ipv4? {address : Nat} (h : ipv4? cs = some address) : address < 256 ^ 4 := by
  unfold ipv4? at h
  dsimp only at h
  split at h
  · cases h
  next hlength =>
  obtain ⟨numbers, hnumbers, h⟩ := Option.bind_eq_some_iff.1 h
  obtain ⟨last, hlast, h⟩ := Option.bind_eq_some_iff.1 h
  split at h
  · cases h
  next hfits =>
  cases h
  rw [not_or, Bool.not_eq_true, List.any_eq_false, not_le] at hfits
  have hbytes : ∀ byte ∈ numbers.dropLast, byte ≤ 255 := fun byte hbyte => by
    simpa using hfits.1 byte hbyte
  have hhigh := foldl_byte_lt hbytes 0
  have hcount : numbers.dropLast.length ≤ 4 := by
    have hsame := length_of_mapM hnumbers
    rw [List.length_dropLast]
    omega
  generalize numbers.dropLast.foldl (fun n part => n * 256 + part) 0 = high at hhigh ⊢
  generalize numbers.dropLast.length = count at hhigh hcount hfits ⊢
  have hlow : last < 256 ^ (4 - count) := hfits.2
  calc high * 256 ^ (4 - count) + last < (high + 1) * 256 ^ (4 - count) := by
        rw [Nat.add_mul]
        omega
    _ ≤ 256 ^ count * 256 ^ (4 - count) := Nat.mul_le_mul_right _ (by omega)
    _ = 256 ^ 4 := by rw [← pow_add, Nat.add_sub_cancel' hcount]

/-! ## IPv6 -/

/-- A group has 16 bits. -/
theorem lt_of_group? (h : group? cs = some n) : n < 65536 := by
  unfold group? at h
  split at h
  · next hshort =>
      have hlt := lt_of_digitsValue? h
      have hpow : 16 ^ cs.length ≤ 16 ^ 4 := Nat.pow_le_pow_right (by decide) hshort.2
      omega
  · cases h

theorem le_of_strictPart? (h : strictPart? cs = some n) : n ≤ 255 := by
  unfold strictPart? at h
  split at h
  · dsimp only at h
    split at h
    · next hle =>
        cases h
        exact hle
    · cases h
  · cases h

/-- An IPv4 address at the end fills two groups. -/
theorem lt_of_embedded? {groups : List Nat} (h : embedded? cs = some groups) :
    ∀ group ∈ groups, group < 65536 := by
  unfold embedded? at h
  split at h
  · obtain ⟨a, ha, h⟩ := Option.bind_eq_some_iff.1 h
    obtain ⟨b, hb, h⟩ := Option.bind_eq_some_iff.1 h
    obtain ⟨c, hc, h⟩ := Option.bind_eq_some_iff.1 h
    obtain ⟨d, hd, h⟩ := Option.bind_eq_some_iff.1 h
    cases h
    have hlea := le_of_strictPart? ha
    have hleb := le_of_strictPart? hb
    have hlec := le_of_strictPart? hc
    have hled := le_of_strictPart? hd
    simp only [List.mem_cons, List.not_mem_nil, or_false]
    rintro group (rfl | rfl) <;> omega
  · cases h

theorem lt_of_groups? {isEnd : Bool} {words : List (List Char)} {groups : List Nat}
    (h : groups? isEnd words = some groups) : ∀ group ∈ groups, group < 65536 := by
  induction words generalizing groups with
  | nil =>
      cases h
      simp
  | cons word rest ih =>
      cases rest with
      | nil =>
          rw [groups?] at h
          split at h
          · exact lt_of_embedded? h
          · obtain ⟨group, hgroup, rfl⟩ := Option.map_eq_some_iff.1 h
            simpa using lt_of_group? hgroup
      | cons next rest =>
          rw [groups?] at h
          · obtain ⟨group, hgroup, h⟩ := Option.bind_eq_some_iff.1 h
            obtain ⟨others, hothers, rfl⟩ := Option.map_eq_some_iff.1 h
            simpa using ⟨lt_of_group? hgroup, ih hothers⟩
          · simp

theorem lt_of_groupList? {isEnd : Bool} {groups : List Nat}
    (h : groupList? isEnd cs = some groups) : ∀ group ∈ groups, group < 65536 := by
  unfold groupList? at h
  split at h
  · cases h
    simp
  · exact lt_of_groups? h

/-- An address that was read has eight groups of 16 bits. -/
theorem groups_of_ipv6? {pieces : List Nat} (h : ipv6? cs = some pieces) :
    pieces.length = 8 ∧ ∀ piece ∈ pieces, piece < 65536 := by
  unfold ipv6? at h
  split at h
  · obtain ⟨left, hleft, h⟩ := Option.bind_eq_some_iff.1 h
    obtain ⟨right, hright, h⟩ := Option.bind_eq_some_iff.1 h
    dsimp only at h
    split at h
    · cases h
      refine ⟨by simp; omega, fun piece hpiece => ?_⟩
      simp only [List.mem_append] at hpiece
      rcases hpiece with (hmem | hmem) | hmem
      · exact lt_of_groupList? hleft piece hmem
      · obtain rfl := List.eq_of_mem_replicate hmem
        decide
      · exact lt_of_groupList? hright piece hmem
    · cases h
  · obtain ⟨groups, hgroups, h⟩ := Option.bind_eq_some_iff.1 h
    split at h
    · next hlength =>
        cases h
        exact ⟨hlength, lt_of_groupList? hgroups⟩
    · cases h

/-- No digit of a group is a mark. -/
theorem not_mem_toDigits_sixteen (hmark : ∀ d < 16, d.digitChar ≠ mark) :
    mark ∉ Nat.toDigits 16 n := by
  intro hmem
  obtain ⟨d, hd, heq⟩ := exists_digitChar_of_mem_toDigits (b := 16) (by decide) hmem
  exact hmark d hd heq.symm

theorem colon_not_mem_toDigits : ':' ∉ Nat.toDigits 16 n :=
  not_mem_toDigits_sixteen (by decide)

theorem point_not_mem_toDigits : '.' ∉ Nat.toDigits 16 n :=
  not_mem_toDigits_sixteen (by decide)

theorem group?_toDigits (h : n < 65536) : group? (Nat.toDigits 16 n) = some n := by
  have hlength : (Nat.toDigits 16 n).length ≤ 4 :=
    (Nat.length_toDigits_le_iff (by decide) (by decide)).2 h
  rw [group?, if_pos ⟨Nat.toDigits_ne_nil, hlength⟩]
  exact digitsValue?_toDigits (by decide) (by decide) n

theorem groups?_toDigits {isEnd : Bool} {pieces : List Nat}
    (h : ∀ piece ∈ pieces, piece < 65536) :
    groups? isEnd (pieces.map (Nat.toDigits 16)) = some pieces := by
  induction pieces with
  | nil => rfl
  | cons piece rest ih =>
      have hpiece := group?_toDigits (h piece List.mem_cons_self)
      have hrest := ih fun other hother => h other (List.mem_cons_of_mem piece hother)
      cases rest with
      | nil => simp [groups?, hpiece, point_not_mem_toDigits]
      | cons next rest =>
          rw [List.map_cons, List.map_cons] at *
          rw [groups?]
          · simp [hpiece, hrest]
          · simp

theorem groupList?_piecesToChars {isEnd : Bool} {pieces : List Nat}
    (h : ∀ piece ∈ pieces, piece < 65536) :
    groupList? isEnd (piecesToChars pieces) = some pieces := by
  cases pieces with
  | nil => rfl
  | cons piece rest =>
      have hsplit : splitAt ':' (piecesToChars (piece :: rest)) =
          (piece :: rest).map (Nat.toDigits 16) := by
        refine splitAt_intercalate (by simp) fun w hw => ?_
        obtain ⟨p, -, rfl⟩ := List.mem_map.1 hw
        exact colon_not_mem_toDigits
      have hne : (piecesToChars (piece :: rest)).isEmpty = false := by
        cases rest <;> simp [piecesToChars, List.intercalate]
      rw [groupList?, hne, hsplit, groups?_toDigits h]
      rfl

/-! ## The gap -/

variable {pieces : List Nat} {tail : List Char}

theorem splitAtGap_nil_append (split : Option (List Char × List Char)) :
    (split.map fun (before, after) => ([] ++ before, after)) = split := by
  cases split <;> rfl

/-- There is no gap in a text without colons. -/
theorem splitAtGap_append (h : ':' ∉ cs) :
    splitAtGap (cs ++ tail) = (splitAtGap tail).map fun (before, after) => (cs ++ before, after) := by
  induction cs with
  | nil => exact (splitAtGap_nil_append _).symm
  | cons c cs ih =>
      rw [List.mem_cons, not_or] at h
      rw [List.cons_append, splitAtGap, ih h.2]
      · cases splitAtGap tail <;> simp
      · rintro rest rfl
        exact absurd rfl h.1

/-- One colon is no gap. -/
theorem splitAtGap_colon (h : c ≠ ':') :
    splitAtGap (':' :: c :: cs) =
      (splitAtGap (c :: cs)).map fun (before, after) => (':' :: before, after) := by
  rw [splitAtGap]
  intro rest _ heq
  simp only [List.cons.injEq] at heq
  exact h heq.1

theorem piecesToChars_singleton (piece : Nat) :
    piecesToChars [piece] = Nat.toDigits 16 piece := by
  simp [piecesToChars, List.intercalate]

theorem piecesToChars_cons_cons (piece next : Nat) (rest : List Nat) :
    piecesToChars (piece :: next :: rest) =
      Nat.toDigits 16 piece ++ ':' :: piecesToChars (next :: rest) := by
  simp [piecesToChars, List.intercalate]

/-- Pieces start with a digit. -/
theorem exists_piecesToChars_eq_cons (piece : Nat) (rest : List Nat) :
    ∃ c cs, piecesToChars (piece :: rest) = c :: cs ∧ c ≠ ':' := by
  obtain ⟨c, cs, hcons⟩ := List.exists_cons_of_ne_nil (Nat.toDigits_ne_nil (b := 16) (n := piece))
  have hc : c ≠ ':' := by
    rintro rfl
    have hcolon : ':' ∉ Nat.toDigits 16 piece := colon_not_mem_toDigits
    simp [hcons] at hcolon
  cases rest with
  | nil => exact ⟨c, cs, by rw [piecesToChars_singleton, hcons], hc⟩
  | cons next rest =>
      exact ⟨c, cs ++ ':' :: piecesToChars (next :: rest),
        by rw [piecesToChars_cons_cons, hcons, List.cons_append], hc⟩

/-- There is no gap between pieces. -/
theorem splitAtGap_piecesToChars :
    splitAtGap (piecesToChars pieces ++ tail) =
      (splitAtGap tail).map fun (before, after) => (piecesToChars pieces ++ before, after) := by
  induction pieces with
  | nil => exact (splitAtGap_nil_append _).symm
  | cons piece rest ih =>
      cases rest with
      | nil =>
          rw [piecesToChars_singleton]
          exact splitAtGap_append colon_not_mem_toDigits
      | cons next rest =>
          obtain ⟨c, cs, hcons, hc⟩ := exists_piecesToChars_eq_cons next rest
          rw [hcons, List.cons_append] at ih
          rw [piecesToChars_cons_cons, List.append_assoc, splitAtGap_append colon_not_mem_toDigits,
            hcons, List.cons_append, List.cons_append, splitAtGap_colon hc, ih]
          cases splitAtGap tail <;> simp

/-- What a fold keeps is as each of its steps keeps it. -/
theorem foldl_keeps {α : Type} {keep : Option α → α → Option α} {p q : α → Prop}
    (hkeep : ∀ best a, p a → (∀ b ∈ best, q b) → ∀ b ∈ keep best a, q b) {as : List α}
    (has : ∀ a ∈ as, p a) (best : Option α) (hbest : ∀ b ∈ best, q b) :
    ∀ b ∈ as.foldl keep best, q b := by
  induction as generalizing best with
  | nil => exact hbest
  | cons a as ih =>
      have hnext := hkeep best a (has a List.mem_cons_self) hbest
      exact ih (fun b hb => has b (List.mem_cons_of_mem a hb)) _ hnext

/-- The longest run of zeros is a run of two zeros or more. -/
theorem run_of_longestZeros {start length : Nat} (h : longestZeros pieces = some (start, length)) :
    2 ≤ length ∧ ((pieces.drop start).takeWhile (· == 0)).length = length := by
  have hruns : ∀ run ∈ (List.range pieces.length).map fun i =>
      (i, ((pieces.drop i).takeWhile (· == 0)).length),
      ((pieces.drop run.1).takeWhile (· == 0)).length = run.2 := by
    simp
  refine foldl_keeps (q := fun run => 2 ≤ run.2 ∧
    ((pieces.drop run.1).takeWhile (· == 0)).length = run.2) (fun best run hrun hbest b hb => ?_)
    hruns none (by simp) (start, length) h
  split_ifs at hb with hlong
  · split at hb <;> grind
  · exact hbest b hb

/-- Around a run of zeros stand the other pieces. -/
theorem eq_around_zeros {start length : Nat}
    (h : ((pieces.drop start).takeWhile (· == 0)).length = length) :
    pieces.take start ++ List.replicate length 0 ++ pieces.drop (start + length) = pieces := by
  have hzeros : (pieces.drop start).takeWhile (· == 0) = List.replicate length 0 := by
    rw [List.eq_replicate_iff]
    refine ⟨h, fun piece hpiece => ?_⟩
    simpa using List.mem_takeWhile_imp hpiece
  have hrest : pieces.drop (start + length) = (pieces.drop start).dropWhile (· == 0) := by
    conv_lhs => rw [← List.drop_drop, ← List.takeWhile_append_dropWhile (p := (· == 0))
      (l := pieces.drop start)]
    rw [← h, List.drop_left]
  rw [hrest, ← hzeros, List.append_assoc, List.takeWhile_append_dropWhile, List.take_append_drop]

/-- **An IPv6 address is read back**, zeros left out or not. -/
theorem ipv6?_ipv6ToChars (hlength : pieces.length = 8) (h : ∀ piece ∈ pieces, piece < 65536) :
    ipv6? (Host.ipv6ToChars pieces) = some pieces := by
  unfold Host.ipv6ToChars
  split
  · next start length hzeros =>
      obtain ⟨htwo, hrun⟩ := run_of_longestZeros hzeros
      have haround := eq_around_zeros hrun
      have hleft : groupList? false (piecesToChars (pieces.take start)) =
          some (pieces.take start) :=
        groupList?_piecesToChars fun piece hpiece => h piece (List.mem_of_mem_take hpiece)
      have hright : groupList? true (piecesToChars (pieces.drop (start + length))) =
          some (pieces.drop (start + length)) :=
        groupList?_piecesToChars fun piece hpiece => h piece (List.mem_of_mem_drop hpiece)
      have hsplit : splitAtGap (piecesToChars (pieces.take start) ++ [':', ':'] ++
          piecesToChars (pieces.drop (start + length))) =
          some (piecesToChars (pieces.take start), piecesToChars (pieces.drop (start + length))) := by
        rw [List.append_assoc, splitAtGap_piecesToChars]
        simp [splitAtGap]
      have hcount := congrArg List.length haround
      rw [List.length_append, List.length_append, List.length_replicate, hlength] at hcount
      have hgap : 8 - ((pieces.take start).length + (pieces.drop (start + length)).length) =
          length := by omega
      have hfew : (pieces.take start).length + (pieces.drop (start + length)).length ≤ 7 := by omega
      rw [ipv6?, hsplit]
      simp only [hleft, hright, Option.bind_eq_bind, Option.bind_some]
      rw [if_pos hfew, hgap, haround]
  · have hsplit : splitAtGap (piecesToChars pieces) = none := by
      rw [← List.append_nil (piecesToChars pieces), splitAtGap_piecesToChars]
      rfl
    rw [ipv6?, hsplit]
    simp [groupList?_piecesToChars h, hlength]

/-- Beside digits, a written IPv6 address holds colons only. -/
theorem mem_piecesToChars (h : c ∈ piecesToChars pieces) : c = ':' ∨ ∃ d < 16, c = d.digitChar := by
  induction pieces with
  | nil => cases h
  | cons piece rest ih =>
      cases rest with
      | nil =>
          rw [piecesToChars_singleton] at h
          exact .inr (exists_digitChar_of_mem_toDigits (by decide) h)
      | cons next rest =>
          rw [piecesToChars_cons_cons, List.mem_append, List.mem_cons] at h
          rcases h with hdigit | rfl | hrest
          · exact .inr (exists_digitChar_of_mem_toDigits (by decide) hdigit)
          · exact .inl rfl
          · exact ih hrest

theorem mem_ipv6ToChars (h : c ∈ Host.ipv6ToChars pieces) :
    c = ':' ∨ ∃ d < 16, c = d.digitChar := by
  unfold Host.ipv6ToChars at h
  split at h
  · simp only [List.mem_append, List.mem_cons, List.not_mem_nil, or_false] at h
    rcases h with (hleft | rfl | rfl) | hright
    · exact mem_piecesToChars hleft
    · exact .inl rfl
    · exact .inl rfl
    · exact mem_piecesToChars hright
  · exact mem_piecesToChars h

/-- Beside digits, a written IPv4 address holds points only. -/
theorem mem_ipv4ToChars {address : Nat} (h : c ∈ Host.ipv4ToChars address) :
    c = '.' ∨ ∃ d < 10, c = d.digitChar := by
  have hdigit : ∀ n, c ∈ Nat.toDigits 10 n → ∃ d < 10, c = d.digitChar := fun n hmem =>
    exists_digitChar_of_mem_toDigits (by decide) hmem
  simp only [Host.ipv4ToChars, List.intercalate, List.map_cons, List.map_nil,
    List.intersperse_cons_cons, List.intersperse_singleton, List.flatten_cons, List.flatten_nil,
    List.mem_append, List.mem_singleton, List.not_mem_nil, or_false] at h
  grind

end Address

/-! ## Names -/

namespace Domain

variable {c : Char} {cs : List Char}

/-- A character of a name in canonical form. -/
theorem of_mem_isCanonical (h : isCanonical cs = true) (hc : c ∈ cs) :
    isAscii c = true ∧ isForbidden c = false ∧ c.isUpper = false := by
  simp only [isCanonical, Bool.and_eq_true, List.all_eq_true, Bool.not_eq_true'] at h
  have hall := h.1 c hc
  exact ⟨hall.1.1, hall.1.2, hall.2⟩

/-- Nothing in ASCII is written from right to left. -/
theorem isRightToLeft_of_isAscii (h : isAscii c = true) : Label.isRightToLeft c = false := by
  have hlow : c.toNat < 0x80 := by simpa [isAscii] using h
  unfold Label.isRightToLeft Unicode.direction
  split_ifs <;> rfl

/-- A number is a label that stands for itself. -/
theorem decodeLabel?_toDigits (n : Nat) :
    decodeLabel? (Nat.toDigits 10 n) = some (Nat.toDigits 10 n) := by
  obtain ⟨c, cs, hcons⟩ := List.exists_cons_of_ne_nil (Nat.toDigits_ne_nil (b := 10) (n := n))
  have hdigit : c.isDigit = true :=
    Nat.isDigit_of_mem_toDigits (b := 10) (n := n) (by decide) (by decide) (by simp [hcons])
  have hx : c ≠ 'x' := by
    rintro rfl
    cases hdigit
  rw [hcons, decodeLabel?, if_neg]
  simpa [Label.mark] using fun heq => absurd heq.symm hx

/-- A written IPv4 address is in canonical form. -/
theorem isCanonical_ipv4ToChars (address : Nat) : isCanonical (Host.ipv4ToChars address) = true := by
  have hplain : ∀ c, c = '.' ∨ (∃ d < 10, c = d.digitChar) →
      isAscii c = true ∧ isForbidden c = false ∧ c.isUpper = false := by
    rintro c (rfl | ⟨d, hd, rfl⟩)
    · decide
    · revert d
      decide
  have hchars : ∀ c ∈ Host.ipv4ToChars address,
      isAscii c = true ∧ isForbidden c = false ∧ c.isUpper = false :=
    fun c hc => hplain c (Address.mem_ipv4ToChars hc)
  have hlabels : labels (Host.ipv4ToChars address) =
      (Address.ipv4Parts address).map (Nat.toDigits 10) := Address.splitAt_ipv4ToChars address
  have hdecoded : (labels (Host.ipv4ToChars address)).mapM decodeLabel? =
      some ((Address.ipv4Parts address).map (Nat.toDigits 10)) := by
    simp [hlabels, Address.ipv4Parts, decodeLabel?_toDigits]
  have hleft : ∀ n, ∀ c ∈ Nat.toDigits 10 n, Label.isRightToLeft c = false := fun n c hc =>
    isRightToLeft_of_isAscii (hplain c
      (.inr (Address.exists_digitChar_of_mem_toDigits (by decide) hc))).1
  have hagree : directionsAgree ((Address.ipv4Parts address).map (Nat.toDigits 10)) = true := by
    simp only [directionsAgree, Bool.or_eq_true, Bool.not_eq_true', List.any_eq_false]
    refine .inl fun label hlabel => ?_
    obtain ⟨n, -, rfl⟩ := List.mem_map.1 hlabel
    simpa using hleft n
  rw [isCanonical, hdecoded, Option.any_some, hagree, Bool.and_true, List.all_eq_true]
  intro c hc
  obtain ⟨hascii, hforbidden, hupper⟩ := hchars c hc
  simp [hascii, hforbidden, hupper]

end Domain

/-! ## Hosts -/

namespace Host

/-- A host that is read as itself. -/
def IsSettled : Host → Prop
  | .name text =>
    Domain.isCanonical text = true ∧ text ≠ [] ∧ Address.endsInNumber text = false
  | .ipv4 address => address < 256 ^ 4
  | .ipv6 pieces => pieces.length = 8 ∧ ∀ piece ∈ pieces, piece < 65536

variable {host : Host} {c : Char} {cs rest : List Char}

theorem isSettled_of_readBracketed (h : Url.readBracketed cs = .ok host) : host.IsSettled := by
  unfold Url.readBracketed at h
  split at h
  · split at h
    · next pieces hpieces =>
        cases h
        exact Address.groups_of_ipv6? hpieces
    · cases h
  · cases h

/-- What was read is read as itself. -/
theorem isSettled_of_readHost (h : Url.readHost cs = .ok host) : host.IsSettled := by
  unfold Url.readHost at h
  split at h
  · exact isSettled_of_readBracketed h
  · split at h
    · cases h
    · cases h
    · next name hempty hname =>
        obtain ⟨text, -, hascii⟩ := Option.bind_eq_some_iff.1 hname
        split at h
        · split at h
          · next address haddress =>
              cases h
              exact Address.lt_of_ipv4? haddress
          · cases h
        · next hnumber =>
            cases h
            have hne : name ≠ [] := by
              rintro rfl
              exact hempty rfl
            exact ⟨Domain.isCanonical_of_toAscii? hascii, hne, by simpa using hnumber⟩

/-- A name in canonical form is read without a change. -/
theorem readHost_of_isCanonical (h : Domain.isCanonical cs = true) (hne : cs ≠ []) :
    Url.readHost cs =
      if Address.endsInNumber cs then
        match Address.ipv4? cs with
        | some address => .ok (.ipv4 address)
        | none => .error .invalidIpv4
      else .ok (.name cs) := by
  have hpercent : '%' ∉ cs := fun hmem => by
    have hforbidden := (Domain.of_mem_isCanonical h hmem).2.1
    cases hforbidden
  have hread : (Percent.decode? cs).bind Domain.toAscii? = some cs := by
    rw [Percent.decode?_of_not_mem hpercent]
    exact Domain.toAscii?_of_isCanonical h
  unfold Url.readHost
  split
  · next rest =>
      have hforbidden := (Domain.of_mem_isCanonical h List.mem_cons_self).2.1
      cases hforbidden
  · rw [hread]
    cases cs with
    | nil => contradiction
    | cons c cs => rfl

theorem ipv4ToChars_ne_nil (address : Nat) : ipv4ToChars address ≠ [] := by
  simp [ipv4ToChars, List.intercalate]

/-- **A host is read back.** -/
theorem readHost_toChars (h : host.IsSettled) : Url.readHost host.toChars = .ok host := by
  cases host with
  | name text =>
      obtain ⟨hcanonical, hne, hnumber⟩ := h
      rw [toChars, readHost_of_isCanonical hcanonical hne, hnumber]
      rfl
  | ipv4 address =>
      rw [toChars, readHost_of_isCanonical (Domain.isCanonical_ipv4ToChars address)
        (ipv4ToChars_ne_nil address), Address.endsInNumber_ipv4ToChars,
        Address.ipv4?_ipv4ToChars h]
      rfl
  | ipv6 pieces =>
      have hread := Address.ipv6?_ipv6ToChars h.1 h.2
      simp [toChars, Url.readHost, Url.readBracketed, hread]

/-! ## Hosts in URLs -/

theorem toChars_ne_nil (h : host.IsSettled) : host.toChars ≠ [] := by
  cases host with
  | name text => exact h.2.1
  | ipv4 address => exact ipv4ToChars_ne_nil address
  | ipv6 pieces => exact List.cons_ne_nil _ _

/-- No host holds a character that ends it, or one that is dropped. -/
theorem mem_toChars (h : host.IsSettled) (hc : c ∈ host.toChars) :
    0x20 < c.toNat ∧ Url.endsAuthority true c = false ∧ c ≠ '@' := by
  have hcanonical : ∀ {text}, Domain.isCanonical text = true → c ∈ text →
      0x20 < c.toNat ∧ Url.endsAuthority true c = false ∧ c ≠ '@' := fun hname hmem => by
    have hforbidden := (Domain.of_mem_isCanonical hname hmem).2.1
    simp only [Domain.isForbidden, Percent.controls, Bool.or_eq_false_iff, decide_eq_false_iff_not,
      List.contains_eq_mem, List.mem_cons, List.not_mem_nil, or_false, not_or] at hforbidden
    have hblank : c.toNat ≠ 0x20 := fun heq => hforbidden.2.1 (Char.toNat_inj.1 heq)
    refine ⟨by omega, ?_, hforbidden.2.2.2.2.2.2.2.2.2.1⟩
    simp [Url.endsAuthority, Url.isSlash, hforbidden]
  cases host with
  | name text => exact hcanonical h.1 hc
  | ipv4 address => exact hcanonical (Domain.isCanonical_ipv4ToChars address) hc
  | ipv6 pieces =>
      simp only [toChars, List.mem_cons, List.mem_append, List.not_mem_nil, or_false] at hc
      rcases hc with (rfl | hmem) | rfl
      · decide
      · rcases Address.mem_ipv6ToChars hmem with rfl | ⟨d, hd, rfl⟩
        · decide
        · clear hcanonical hmem
          revert d
          decide
      · decide

/-- What is inside brackets, or holds no colon, is no port. -/
theorem splitPort_append {inBrackets : Bool}
    (h : ∀ c ∈ cs, c ≠ '[' ∧ c ≠ ']' ∧ (inBrackets = true ∨ c ≠ ':')) :
    Url.splitPort inBrackets (cs ++ rest) =
      (cs ++ (Url.splitPort inBrackets rest).1, (Url.splitPort inBrackets rest).2) := by
  induction cs with
  | nil => rfl
  | cons c cs ih =>
      have hrest := ih fun d hd => h d (List.mem_cons_of_mem c hd)
      obtain ⟨hopen, hclose, hcolon⟩ := h c List.mem_cons_self
      rw [List.cons_append, Url.splitPort, if_neg, if_neg hopen, if_neg hclose]
      · simp [hrest]
      · rintro ⟨rfl, houtside⟩
        rcases hcolon with hinside | hne
        · simp [hinside] at houtside
        · exact hne rfl

/-- The port is split off behind the host. -/
theorem splitPort_toChars (h : host.IsSettled) (hrest : Url.splitPort false rest = ([], rest)) :
    Url.splitPort false (host.toChars ++ rest) = (host.toChars, rest) := by
  have hname : ∀ {text}, Domain.isCanonical text = true →
      Url.splitPort false (text ++ rest) = (text, rest) := fun hcanonical => by
    rw [splitPort_append, hrest, List.append_nil]
    intro c hc
    have hforbidden := (Domain.of_mem_isCanonical hcanonical hc).2.1
    refine ⟨?_, ?_, .inr ?_⟩ <;>
    · rintro rfl
      cases hforbidden
  cases host with
  | name text => exact hname h.1
  | ipv4 address => exact hname (Domain.isCanonical_ipv4ToChars address)
  | ipv6 pieces =>
      have hinside : ∀ c ∈ ipv6ToChars pieces, c ≠ '[' ∧ c ≠ ']' ∧ (true = true ∨ c ≠ ':') := by
        intro c hc
        rcases Address.mem_ipv6ToChars hc with rfl | ⟨d, hd, rfl⟩
        · decide
        · clear hc
          revert d
          decide
      have hbehind : Url.splitPort true (ipv6ToChars pieces ++ ']' :: rest) =
          (ipv6ToChars pieces ++ (Url.splitPort true (']' :: rest)).1,
            (Url.splitPort true (']' :: rest)).2) := splitPort_append hinside
      simp only [toChars, List.cons_append, List.append_assoc, List.nil_append]
      rw [Url.splitPort]
      simp [hbehind, Url.splitPort, hrest]

end Host

end FiatRamp
