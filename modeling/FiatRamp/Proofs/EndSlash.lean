import FiatRamp.Proofs.Rereading

/-!
# FiatRamp.Proofs.EndSlash

A slash at the end of a path, in the text of a URL.

Where the path of a URL ends in its text (`Url.PathEnds`), a slash is written into
the text.  Reading cuts the text as before, with the slash at the end of the path:
scheme, host, query and fragment are read as they were, and the path has another
empty segment (`Url.ofText_slash`).  This is so for paths that do not end in a
slash already; a path of dots, or one that is not there at all, does once it was
read.
-/

namespace FiatRamp

/-! ## Where a text is cut -/

section

variable {p : Char → Bool} {c : Char} {cs rest : List Char}

/-- A character that is not dropped ends the search. -/
theorem dropWhile_append_of_stop (h : p c = false) :
    (cs ++ c :: rest).dropWhile p = cs.dropWhile p ++ c :: rest := by
  rw [List.dropWhile_append]
  split
  · next hempty =>
      rw [List.isEmpty_iff] at hempty
      rw [hempty, List.dropWhile_cons_of_neg (by simp [h]), List.nil_append]
  · rfl

/-- A text is kept as a whole, or up to a first character. -/
theorem forall_or_exists_stop (p : Char → Bool) (cs : List Char) :
    (∀ c ∈ cs, p c = true) ∨
      ∃ front c rest, cs = front ++ c :: rest ∧ (∀ d ∈ front, p d = true) ∧ p c = false := by
  cases hstop : cs.dropWhile p with
  | nil => exact .inl (List.dropWhile_eq_nil_iff.1 hstop)
  | cons c rest =>
      have hc : p c = false := by
        have hhead := List.head?_dropWhile_not p cs
        simpa [hstop] using hhead
      refine .inr ⟨cs.takeWhile p, c, rest, ?_, fun d hd => List.mem_takeWhile_imp hd, hc⟩
      rw [← hstop, List.takeWhile_append_dropWhile]

end

namespace Url

variable {c : Char} {cs x y z : List Char}

/-- The path of a URL ends between two parts of its text: behind it come query or
fragment, or the blanks around the URL. -/
structure PathEnds (x y : List Char) : Prop where
  before : '?' ∉ x ∧ '#' ∉ x
  behind : (∃ c ∈ y.head?, c = '?' ∨ c = '#') ∨
    ((∀ c ∈ y, isOuterBlank c = true) ∧ ∀ c ∈ x.getLast?, isOuterBlank c = false)

/-- A text starts with query or fragment, or is empty. -/
def StartsBehindPath (cs : List Char) : Prop := ∀ c ∈ cs.head?, c = '?' ∨ c = '#'

/-! ## Blanks -/

/-- A text without blanks in front of it, and in it. -/
def tidyFront (cs : List Char) : List Char := (cs.dropWhile isOuterBlank).filter (!isIgnored ·)

/-- A text without blanks behind it, and in it. -/
def tidyEnd (cs : List Char) : List Char :=
  ((cs.reverse.dropWhile isOuterBlank).reverse).filter (!isIgnored ·)

theorem isIgnored_of_not_isOuterBlank (h : isOuterBlank c = false) : isIgnored c = false := by
  simp only [isOuterBlank, decide_eq_false_iff_not] at h
  simp only [isIgnored, Bool.or_eq_false_iff, beq_eq_false_iff_ne]
  refine ⟨⟨?_, ?_⟩, ?_⟩ <;>
  · rintro rfl
    revert h
    decide

theorem tidyFront_concat (h : isOuterBlank c = false) : tidyFront (x ++ [c]) = tidyFront x ++ [c] := by
  rw [tidyFront, dropWhile_append_of_stop h]
  simp [tidyFront, isIgnored_of_not_isOuterBlank h]

theorem tidyEnd_cons (h : isOuterBlank c = false) : tidyEnd (c :: y) = c :: tidyEnd y := by
  rw [tidyEnd, List.reverse_cons, dropWhile_append_of_stop h]
  simp [tidyEnd, isIgnored_of_not_isOuterBlank h]

theorem tidyEnd_of_forall (h : ∀ c ∈ y, isOuterBlank c = true) : tidyEnd y = [] := by
  have hall : ∀ c ∈ y.reverse, isOuterBlank c = true := fun c hc => h c (List.mem_reverse.1 hc)
  rw [tidyEnd, List.dropWhile_eq_nil_iff.2 hall]
  rfl

/-- Blanks are dropped in front of a character that is none, and behind it. -/
theorem clean_append_cons (h : isOuterBlank c = false) :
    clean (x ++ c :: y) = tidyFront x ++ c :: tidyEnd y := by
  have hreversed : (x.dropWhile isOuterBlank ++ c :: y).reverse =
      y.reverse ++ c :: (x.dropWhile isOuterBlank).reverse := by simp
  rw [clean, dropWhile_append_of_stop h, hreversed, dropWhile_append_of_stop h]
  simp [tidyFront, tidyEnd, isIgnored_of_not_isOuterBlank h]

/-- A slash at the end of a path stays where it is. -/
theorem exists_clean (h : PathEnds x y) :
    ∃ front back, clean (x ++ y) = front ++ back ∧ clean (x ++ '/' :: y) = front ++ '/' :: back ∧
      ('?' ∉ front ∧ '#' ∉ front) ∧ StartsBehindPath back := by
  have hfront : '?' ∉ tidyFront x ∧ '#' ∉ tidyFront x :=
    ⟨fun hmem => h.before.1 ((List.dropWhile_sublist _).mem (List.mem_of_mem_filter hmem)),
      fun hmem => h.before.2 ((List.dropWhile_sublist _).mem (List.mem_of_mem_filter hmem))⟩
  refine ⟨tidyFront x, tidyEnd y, ?_, clean_append_cons (by decide), hfront, ?_⟩
  · rcases h.behind with ⟨c, hc, hmark⟩ | ⟨hblank, hlast⟩
    · obtain ⟨rest, rfl⟩ := List.head?_eq_some_iff.1 hc
      have hother : isOuterBlank c = false := by rcases hmark with rfl | rfl <;> decide
      rw [clean_append_cons hother, tidyEnd_cons hother]
    · rw [tidyEnd_of_forall hblank, List.append_nil]
      rcases List.eq_nil_or_concat' x with rfl | ⟨front, last, rfl⟩
      · rw [List.nil_append, clean, List.dropWhile_eq_nil_iff.2 hblank]
        rfl
      · have hother : isOuterBlank last = false := hlast last (by simp)
        rw [List.append_assoc, List.singleton_append, clean_append_cons hother,
          tidyEnd_of_forall hblank, tidyFront_concat hother]
  · rcases h.behind with ⟨c, hc, hmark⟩ | ⟨hblank, -⟩
    · obtain ⟨rest, rfl⟩ := List.head?_eq_some_iff.1 hc
      have hother : isOuterBlank c = false := by rcases hmark with rfl | rfl <;> decide
      rw [tidyEnd_cons hother]
      simpa [StartsBehindPath] using hmark
    · rw [tidyEnd_of_forall hblank]
      simp [StartsBehindPath]

/-! ## Schemes -/

theorem isSchemeChar_of_isAlpha (h : c.isAlpha = true) : isSchemeChar c = true := by
  simp [isSchemeChar, Char.isAlphanum, h]

/-- A scheme is a word in front of a colon that starts with a letter. -/
theorem splitScheme?_eq_some_iff {scheme rest : List Char} :
    splitScheme? cs = some (scheme, rest) ↔
      ∃ word, cs = word ++ ':' :: rest ∧ (∀ c ∈ word, isSchemeChar c = true) ∧
        (∃ c ∈ word.head?, c.isAlpha = true) ∧ scheme = word.map Char.toLower := by
  constructor
  · intro h
    cases cs with
    | nil => cases h
    | cons first others =>
        unfold splitScheme? at h
        dsimp only at h
        split at h
        · next halpha =>
            split at h
            · next behind hbehind =>
                cases h
                have hfirst := isSchemeChar_of_isAlpha halpha
                refine ⟨(first :: others).takeWhile isSchemeChar, ?_, ?_, ?_, rfl⟩
                · rw [← hbehind, List.takeWhile_append_dropWhile]
                · exact fun c hc => List.mem_takeWhile_imp hc
                · rw [List.takeWhile_cons_of_pos hfirst]
                  exact ⟨first, rfl, halpha⟩
            · cases h
        · cases h
  · rintro ⟨word, rfl, hword, ⟨first, hfirst, halpha⟩, rfl⟩
    obtain ⟨others, rfl⟩ := List.head?_eq_some_iff.1 hfirst
    have htaken : (first :: others ++ ':' :: rest).takeWhile isSchemeChar = first :: others :=
      takeWhile_append_cons hword (by decide)
    have hdropped : (first :: others ++ ':' :: rest).dropWhile isSchemeChar = ':' :: rest :=
      dropWhile_append_cons hword (by decide)
    unfold splitScheme?
    rw [List.cons_append] at htaken hdropped ⊢
    rw [hdropped, htaken]
    exact if_pos halpha

/-- What follows the path is no part of the scheme. -/
theorem exists_scheme_append {scheme rest : List Char} (hback : StartsBehindPath z)
    (h : splitScheme? (x ++ z) = some (scheme, rest)) :
    ∃ r, rest = r ++ z ∧ r ⊆ x ∧ ∀ z, splitScheme? (x ++ z) = some (scheme, r ++ z) := by
  obtain ⟨word, hsplit, hword, hfirst, rfl⟩ := splitScheme?_eq_some_iff.1 h
  rcases List.append_eq_append_iff.1 hsplit with ⟨front, rfl, hz⟩ | ⟨behind, rfl, hbehind⟩
  · have hstop : ∀ c ∈ z.head?, isSchemeChar c = false ∧ c ≠ ':' := fun c hc => by
      rcases hback c hc with rfl | rfl <;> decide
    cases front with
    | nil => 
        rw [hz] at hstop
        exact absurd rfl (hstop ':' rfl).2
    | cons c front =>
        rw [hz] at hstop
        have hkept := hword c (by simp)
        rw [(hstop c rfl).1] at hkept
        cases hkept
  · cases behind with
    | nil =>
        rw [List.nil_append] at hbehind
        rcases hback ':' (by rw [← hbehind]; rfl) with hmark | hmark <;> cases hmark
    | cons c r =>
        rw [List.cons_append, List.cons.injEq] at hbehind
        obtain ⟨rfl, rfl⟩ := hbehind
        refine ⟨r, rfl, fun c hc => by simp [hc], fun z => ?_⟩
        exact splitScheme?_eq_some_iff.2 ⟨word, by simp, hword, hfirst, rfl⟩

/-! ## Cutting -/

/-- Slashes behind the scheme end in front of the host. -/
theorem dropWhile_isSlash_append (hback : StartsBehindPath z) :
    (cs ++ z).dropWhile (isSlash true) = cs.dropWhile (isSlash true) ++ z := by
  cases z with
  | nil => rw [List.append_nil, List.append_nil]
  | cons c z =>
      refine dropWhile_append_of_stop ?_
      rcases hback c rfl with rfl | rfl <;> decide

/-- Path, query and fragment behind a text that is all path. -/
theorem readTail_append (hx : '?' ∉ x ∧ '#' ∉ x) (hback : StartsBehindPath z) :
    readTail true (x ++ z) = { readTail true z with path := x } := by
  have hother : ∀ {mark : Char}, mark ∉ x → ∀ c ∈ x, decide (c ≠ mark) = true := fun hmark c hc => by
    simpa using ne_of_mem_of_not_mem hc hmark
  have hpath : (z.takeWhile (· ≠ '#')).takeWhile (· ≠ '?') = [] := by
    cases z with
    | nil => rfl
    | cons c z => rcases hback c rfl with rfl | rfl <;> simp
  simp only [readTail]
  rw [List.takeWhile_append_of_pos (hother hx.2), List.dropWhile_append_of_pos (hother hx.2),
    List.takeWhile_append_of_pos (hother hx.1), List.dropWhile_append_of_pos (hother hx.1), hpath,
    List.append_nil]

/-! ## Paths -/

/-- One more segment stays one, unless the path ends in an empty one. -/
theorem resolve_concat {path segments : List (List Char)}
    (h : (resolve path segments).getLast? ≠ some []) (hne : segments ≠ []) :
    resolve path (segments ++ [[]]) = resolve path segments ++ [[]] := by
  induction segments generalizing path with
  | nil => contradiction
  | cons first rest ih =>
      cases rest with
      | nil => 
          have hdots : ∀ front : List (List Char), (front ++ [[]]).getLast? = some [] := fun front =>
            List.getLast?_concat
          simp only [List.singleton_append, resolve, List.isEmpty_nil, List.isEmpty_cons, if_true] at h ⊢
          split at h
          · exact absurd (hdots _) h
          next hdouble =>
          split at h
          · exact absurd (hdots _) h
          next hsingle =>
          rw [if_neg hdouble, if_neg hsingle, if_neg hdouble, if_neg hsingle,
            isSettledSegment_nil.doubleDot, isSettledSegment_nil.singleDot]
          rfl
      | cons next rest =>
          exact ih h (by simp)

theorem readSegments_concat (hlast : (readSegments true cs).getLast? ≠ some []) :
    readSegments true (cs ++ ['/']) = readSegments true cs ++ [[]] := by
  have hsplit : splitAtSlashes true (cs ++ ['/']) = splitAtSlashes true cs ++ [[]] := by
    rw [splitAtSlashes_eq_splitOnP, splitAtSlashes_eq_splitOnP,
      List.splitOnP_append_cons cs [] (by decide), List.splitOnP_nil]
  rw [readSegments, hsplit, List.map_append]
  refine resolve_concat hlast ?_
  simp [splitAtSlashes_eq_splitOnP, List.splitOnP_ne_nil]

/-- A slash at the end of a path is read as an empty segment. -/
theorem readPath_concat {list : List (List Char)} (h : readPath true cs = .segments list)
    (hlast : list.getLast? ≠ some []) : readPath true (cs ++ ['/']) = .segments (list ++ [[]]) := by
  cases cs with
  | nil =>
      cases h
      exact absurd rfl hlast
  | cons c cs =>
      rw [readPath] at h
      rw [List.cons_append, readPath]
      split at h
      · next hslash =>
          cases h
          rw [if_pos hslash, readSegments_concat hlast]
      · next hslash =>
          cases h
          rw [if_neg hslash, ← List.cons_append, readSegments_concat hlast]

/-! ## Whole URLs -/

/-- A text with a path behind its authority. -/
theorem readHierarchical_append {scheme front path : List Char}
    (hspecial : Scheme.isSpecial scheme = true)
    (hfront : ∀ c ∈ front, endsAuthority true c = false) (hc : endsAuthority true c = true)
    (hpath : '?' ∉ c :: path ∧ '#' ∉ c :: path) (hback : StartsBehindPath z) :
    readHierarchical scheme (front ++ (c :: path ++ z)) =
      (readAuthority scheme front false).map fun authority => {
        scheme
        username := authority.username
        password := authority.password
        host := some authority.host
        port := authority.port
        path := readPath true (c :: path)
        query := (readTail true z).query
        fragment := (readTail true z).fragment } := by
  have hinside : ∀ d ∈ front, (!endsAuthority true d) = true := fun d hd => by simp [hfront d hd]
  have htaken : (front ++ (c :: path ++ z)).takeWhile (!endsAuthority true ·) = front :=
    takeWhile_append_cons hinside (by simp [hc])
  have hdropped : (front ++ (c :: path ++ z)).dropWhile (!endsAuthority true ·) = c :: path ++ z :=
    dropWhile_append_cons hinside (by simp [hc])
  have hmore : (c :: path ++ z).isEmpty = false := rfl
  unfold readHierarchical
  dsimp only
  rw [hspecial, htaken, hdropped, readTail_append hpath hback, hmore]
  cases readAuthority scheme front false <;> rfl

/-- Without a slash behind the authority, the path is read as a slash. -/
theorem path_of_readHierarchical {scheme : List Char} {url : Url}
    (hspecial : Scheme.isSpecial scheme = true) (hcs : ∀ c ∈ cs, endsAuthority true c = false)
    (hback : StartsBehindPath z) (h : readHierarchical scheme (cs ++ z) = .ok url) :
    url.path = .segments [[]] := by
  have hdropped : (cs ++ z).dropWhile (!endsAuthority true ·) = z := by
    rw [List.dropWhile_append_of_pos (fun c hc => by simp [hcs c hc])]
    cases z with
    | nil => rfl
    | cons c z =>
        rw [List.dropWhile_cons_of_neg]
        rcases hback c rfl with rfl | rfl <;> decide
  have hempty : (readTail true z).path = [] := by
    rw [← List.nil_append z, readTail_append (by simp) hback]
  obtain ⟨authority, -, hurl⟩ := exists_of_bind h
  rw [hspecial] at hurl
  cases hurl
  rw [hdropped, hempty]
  rfl

/-- **A slash at the end of a path is read as one.** -/
theorem ofText_slash {url : Url} {list : List (List Char)} (hends : PathEnds x y)
    (h : ofText (String.ofList (x ++ y)) = .ok url) (hhttp : url.isHttp = true)
    (hpath : url.path = .segments list) (hlast : list.getLast? ≠ some []) :
    ofText (String.ofList (x ++ '/' :: y)) = .ok { url with path := .segments (list ++ [[]]) } := by
  have hscheme := hasHost_of_isHttp hhttp
  have hspecial := isSpecial_of_isHttp hhttp
  obtain ⟨front, back, hclean, hslash, hfront, hback⟩ := exists_clean hends
  rw [ofText, String.toList_ofList] at h ⊢
  obtain ⟨rest, hsplit, hread⟩ := exists_of_ofChars h hhttp
  rw [hclean] at hsplit
  obtain ⟨r, rfl, hr, hsame⟩ := exists_scheme_append hback hsplit
  rw [dropWhile_isSlash_append hback] at hread
  have hmarks : '?' ∉ r.dropWhile (isSlash true) ∧ '#' ∉ r.dropWhile (isSlash true) :=
    ⟨fun hmem => hfront.1 (hr ((List.dropWhile_sublist _).mem hmem)),
      fun hmem => hfront.2 (hr ((List.dropWhile_sublist _).mem hmem))⟩
  rcases forall_or_exists_stop (!endsAuthority true ·) (r.dropWhile (isSlash true)) with
    hinside | ⟨location, c, path, hcut, hinside, hc⟩
  · rw [path_of_readHierarchical hspecial (fun c hc => by simpa using hinside c hc) hback hread,
      UrlPath.segments.injEq] at hpath
    exact absurd (by rw [← hpath]; rfl) hlast
  · have hlocation : ∀ d ∈ location, endsAuthority true d = false := fun d hd => by
      simpa using hinside d hd
    have hend : endsAuthority true c = true := by simpa using hc
    have hkept : '?' ∉ c :: path ∧ '#' ∉ c :: path := by
      rw [hcut] at hmarks
      exact ⟨fun hmem => hmarks.1 (List.mem_append_right _ hmem),
        fun hmem => hmarks.2 (List.mem_append_right _ hmem)⟩
    have hlonger : '?' ∉ c :: (path ++ ['/']) ∧ '#' ∉ c :: (path ++ ['/']) := by
      simpa [and_assoc] using hkept
    have hslashes : (r ++ '/' :: back).dropWhile (isSlash true) =
        location ++ (c :: (path ++ ['/']) ++ back) := by
      rw [List.dropWhile_append, hcut, if_neg (by simp)]
      simp
    rw [hcut, List.append_assoc, readHierarchical_append hspecial hlocation hend hkept hback] at hread
    rw [ofChars, hslash, hsame]
    dsimp only
    rw [if_pos hscheme, hslashes,
      readHierarchical_append hspecial hlocation hend hlonger hback]
    cases hauthority : readAuthority url.scheme location false with
    | error => simp [hauthority, Except.map] at hread
    | ok authority =>
        rw [hauthority, Except.map, Except.ok.injEq] at hread
        have hsegments : readPath true (c :: path) = .segments list := by
          rw [← hpath, ← hread]
        have hconcat := readPath_concat hsegments hlast
        rw [List.cons_append] at hconcat
        rw [Except.map, hconcat, ← hread]

end Url

end FiatRamp
