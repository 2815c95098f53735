import FiatRamp.Proofs.Hosts
import Mathlib.Data.Bool.AllAny

/-!
# FiatRamp.Proofs.Rereading

URLs of the web, written and read back.

Reading brings every part of a URL to a form in which it is read as itself
(`Url.IsSettled`, `Url.isSettled_of_ofText`): encoded characters are not encoded
again, a path has no dot segments and no part holds the mark that ends it.  A URL
in that form is read back from what is written of it, part by part
(`Url.ofText_toText`).
-/

namespace FiatRamp

/-! ## Splitting -/

/-- Words with a mark in between are split at the marks, if no word holds one. -/
theorem splitOnP_intercalate {p : Char → Bool} {mark : Char} {words : List (List Char)}
    (hmark : p mark = true) (hne : words ≠ []) (hwords : ∀ w ∈ words, ∀ c ∈ w, p c = false) :
    ([mark].intercalate words).splitOnP p = words := by
  induction words with
  | nil => contradiction
  | cons w rest ih =>
      have hw : ∀ c ∈ w, p c = false := hwords w List.mem_cons_self
      cases rest with
      | nil =>
          have hsingle : [mark].intercalate [w] = w := by simp [List.intercalate]
          rw [hsingle, List.splitOnP_eq_singleton hw]
      | cons v rest =>
          have hrest := ih (by simp) fun u hu => hwords u (List.mem_cons_of_mem w hu)
          have hcons : [mark].intercalate (w :: v :: rest) =
              w ++ mark :: [mark].intercalate (v :: rest) := by
            simp [List.intercalate]
          rw [hcons, List.splitOnP_append_cons_of_forall_mem hw mark hmark, hrest]

/-- No word between marks holds one. -/
theorem of_mem_splitOnP {p : Char → Bool} {c : Char} {cs w : List Char} (hw : w ∈ cs.splitOnP p)
    (hc : c ∈ w) : p c = false := by
  induction cs generalizing w with
  | nil =>
      rw [List.splitOnP_nil, List.mem_singleton] at hw
      subst hw
      cases hc
  | cons d cs ih =>
      rw [List.splitOnP_cons_eq_if_modifyHead] at hw
      split at hw
      · rcases List.mem_cons.1 hw with rfl | hrest
        · cases hc
        · exact ih hrest hc
      · next hd =>
          obtain ⟨first, others, hcons⟩ := List.exists_cons_of_ne_nil (List.splitOnP_ne_nil p cs)
          rw [hcons, List.modifyHead_cons, List.mem_cons] at hw
          rw [hcons] at ih
          rcases hw with rfl | hother
          · rcases List.mem_cons.1 hc with rfl | hfirst
            · simpa using hd
            · exact ih List.mem_cons_self hfirst
          · exact ih (List.mem_cons_of_mem first hother) hc

theorem takeWhile_append_cons {p : Char → Bool} {c : Char} {cs rest : List Char}
    (hcs : ∀ d ∈ cs, p d = true) (hc : p c = false) : (cs ++ c :: rest).takeWhile p = cs := by
  rw [List.takeWhile_append_of_pos hcs, List.takeWhile_cons_of_neg (by simp [hc]), List.append_nil]

theorem dropWhile_append_cons {p : Char → Bool} {c : Char} {cs rest : List Char}
    (hcs : ∀ d ∈ cs, p d = true) (hc : p c = false) :
    (cs ++ c :: rest).dropWhile p = c :: rest := by
  rw [List.dropWhile_append_of_pos hcs, List.dropWhile_cons_of_neg (by simp [hc])]

namespace Percent

variable {set : Char → Bool} {c : Char} {cs : List Char}

/-- Where blanks are encoded, what is kept is no blank. -/
theorem lt_of_isKept (hblank : set ' ' = true) (hset : ∀ c, controls c = true → set c = true)
    (h : isKept set c = true) : 0x20 < c.toNat := by
  obtain ⟨-, hc⟩ := isKept_iff.1 h
  have hcontrol : controls c = false := by
    by_contra hcontrol
    rw [hset c (by simpa using hcontrol)] at hc
    cases hc
  have hother : c.toNat ≠ 0x20 := fun heq => by
    obtain rfl : c = ' ' := Char.toNat_inj.1 heq
    rw [hblank] at hc
    cases hc
  simp only [controls, Bool.or_eq_false_iff, decide_eq_false_iff_not] at hcontrol
  omega

theorem lt_of_isKept_fragmentSet (h : isKept fragmentSet c = true) : 0x20 < c.toNat :=
  lt_of_isKept (by decide) (fun c hc => by simp [fragmentSet, hc]) h

theorem lt_of_isKept_pathSet (h : isKept pathSet c = true) : 0x20 < c.toNat :=
  lt_of_isKept (by decide) (fun c hc => by simp [pathSet, fragmentSet, hc]) h

theorem lt_of_isKept_userinfoSet (h : isKept userinfoSet c = true) : 0x20 < c.toNat :=
  lt_of_isKept (by decide) (fun c hc => by simp [userinfoSet, pathSet, fragmentSet, hc]) h

theorem lt_of_isKept_specialQuerySet (h : isKept specialQuerySet c = true) : 0x20 < c.toNat :=
  lt_of_isKept (by decide) (fun c hc => by simp [specialQuerySet, querySet, hc]) h

theorem ne_of_isKept {mark : Char} (hmark : set mark = true) (h : isKept set c = true) :
    c ≠ mark := by
  rintro rfl
  rw [isKept, hmark] at h
  simp at h

end Percent

namespace Url

variable {c : Char} {cs rest : List Char} {segment : List Char} {path list : List (List Char)}

/-! ## Settled URLs -/

/-- A segment of a path that is read as itself. -/
structure IsSettledSegment (segment : List Char) : Prop where
  singleDot : isSingleDot segment = false
  doubleDot : isDoubleDot segment = false
  kept : ∀ c ∈ segment, Percent.isKept Percent.pathSet c = true ∧ isSlash true c = false

/-- A URL of the web that is read as itself. -/
structure IsSettled (url : Url) : Prop where
  isHttp : url.isHttp = true
  username : ∀ c ∈ url.username, Percent.isKept Percent.userinfoSet c = true
  password : ∀ c ∈ url.password, Percent.isKept Percent.userinfoSet c = true
  host : ∃ host, url.host = some host ∧ host.IsSettled
  port : ∀ port ∈ url.port, port ≤ 65535 ∧ Scheme.defaultPort? url.scheme ≠ some port
  path : ∃ list, url.path = .segments list ∧ list ≠ [] ∧ ∀ segment ∈ list, IsSettledSegment segment
  query : ∀ query ∈ url.query, ∀ c ∈ query, Percent.isKept Percent.specialQuerySet c = true
  fragment : ∀ fragment ∈ url.fragment, ∀ c ∈ fragment,
    Percent.isKept Percent.fragmentSet c = true

/-! ## Paths -/

theorem splitAtSlashes_eq_splitOnP (isSpecial : Bool) (cs : List Char) :
    splitAtSlashes isSpecial cs = cs.splitOnP (isSlash isSpecial) := by
  induction cs with
  | nil => rfl
  | cons c cs ih =>
      rw [splitAtSlashes, List.splitOnP_cons_eq_if_modifyHead, ih]
      obtain ⟨first, others, hcons⟩ :=
        List.exists_cons_of_ne_nil (List.splitOnP_ne_nil (isSlash isSpecial) cs)
      simp [hcons]

theorem isSettledSegment_nil : IsSettledSegment [] := by
  constructor <;> simp [isSingleDot, isDoubleDot]

/-- A segment that is no dot segment is settled by encoding it. -/
theorem isSettledSegment_of_kept
    (h : ∀ c ∈ segment, Percent.isKept Percent.pathSet c = true ∧ isSlash true c = false)
    (hdouble : ¬ isDoubleDot segment = true) (hsingle : ¬ isSingleDot segment = true) :
    IsSettledSegment segment :=
  ⟨by simpa using hsingle, by simpa using hdouble, h⟩

/-- What resolving leaves is settled. -/
theorem isSettledSegment_of_mem_resolve {segments : List (List Char)}
    (hpath : ∀ segment ∈ path, IsSettledSegment segment)
    (hsegments : ∀ segment ∈ segments, ∀ c ∈ segment,
      Percent.isKept Percent.pathSet c = true ∧ isSlash true c = false)
    (hmem : segment ∈ resolve path segments) : IsSettledSegment segment := by
  induction segments generalizing path with
  | nil => exact hpath segment hmem
  | cons first rest ih =>
      have hend : ∀ segment ∈ (if rest.isEmpty then [([] : List Char)] else []),
          IsSettledSegment segment := by
        cases rest <;> simp [isSettledSegment_nil]
      refine ih ?_ (fun other hother => hsegments other (List.mem_cons_of_mem first hother)) hmem
      intro other hother
      split at hother
      · rcases List.mem_append.1 hother with hkept | hlast
        · exact hpath other (List.mem_of_mem_dropLast hkept)
        · exact hend other hlast
      next hdouble =>
      split at hother
      · rcases List.mem_append.1 hother with hkept | hlast
        · exact hpath other hkept
        · exact hend other hlast
      next hsingle =>
      rcases List.mem_append.1 hother with hkept | hlast
      · exact hpath other hkept
      · obtain rfl := List.mem_singleton.1 hlast
        exact isSettledSegment_of_kept (hsegments other List.mem_cons_self) hdouble hsingle

/-- Resolving leaves a segment. -/
theorem resolve_ne_nil {segments : List (List Char)} (h : segments ≠ []) :
    resolve path segments ≠ [] := by
  induction segments generalizing path with
  | nil => contradiction
  | cons first rest ih =>
      cases rest with
      | nil =>
          simp only [resolve, List.isEmpty_nil, if_true]
          split_ifs <;> simp
      | cons next rest => exact ih (by simp)

/-- Nothing but dot segments is resolved. -/
theorem resolve_of_isSettledSegment {segments : List (List Char)}
    (h : ∀ segment ∈ segments, IsSettledSegment segment) :
    resolve path segments = path ++ segments := by
  induction segments generalizing path with
  | nil => rw [resolve, List.append_nil]
  | cons first rest ih =>
      have hfirst := h first List.mem_cons_self
      have hrest : resolve (path ++ [first]) rest = path ++ [first] ++ rest :=
        ih fun other hother => h other (List.mem_cons_of_mem first hother)
      simp only [resolve, hfirst.singleDot, hfirst.doubleDot, Bool.false_eq_true, if_false]
      rw [hrest, List.append_assoc, List.singleton_append]

/-- A path that was read has settled segments. -/
theorem settled_readPath (cs : List Char) :
    ∃ list, readPath true cs = .segments list ∧ list ≠ [] ∧
      ∀ segment ∈ list, IsSettledSegment segment := by
  have hread : ∀ cs, readSegments true cs ≠ [] ∧
      ∀ segment ∈ readSegments true cs, IsSettledSegment segment := by
    intro cs
    refine ⟨resolve_ne_nil ?_, fun segment hsegment =>
      isSettledSegment_of_mem_resolve (by simp) ?_ hsegment⟩
    · simp [splitAtSlashes_eq_splitOnP, List.splitOnP_ne_nil]
    · intro segment hsegment c hc
      obtain ⟨word, hword, rfl⟩ := List.mem_map.1 hsegment
      refine ⟨Percent.isKept_of_mem_encode Percent.sparesMarks_pathSet hc, ?_⟩
      rcases Percent.mem_of_mem_encode hc with ⟨hmem, -⟩ | rfl | ⟨n, hn, rfl⟩
      · rw [splitAtSlashes_eq_splitOnP] at hword
        exact of_mem_splitOnP hword hmem
      · decide
      · clear hc
        revert n
        decide
  cases cs with
  | nil => exact ⟨[[]], rfl, by simp, by simp [isSettledSegment_nil]⟩
  | cons c cs =>
      rw [readPath]
      split
      · exact ⟨readSegments true cs, rfl, hread cs⟩
      · exact ⟨readSegments true (c :: cs), rfl, hread (c :: cs)⟩

/-- Segments are written with slashes in between, and one in front. -/
theorem flatMap_slash_eq_intercalate (h : list ≠ []) :
    list.flatMap ('/' :: ·) = '/' :: ['/'].intercalate list := by
  induction list with
  | nil => contradiction
  | cons first rest ih =>
      cases rest with
      | nil => simp [List.intercalate]
      | cons next rest =>
          rw [List.flatMap_cons, ih (by simp)]
          simp [List.intercalate]

/-- **A path is read back.** -/
theorem readPath_toChars (hne : list ≠ []) (h : ∀ segment ∈ list, IsSettledSegment segment) :
    readPath true (UrlPath.segments list).toChars = .segments list := by
  have hsplit : splitAtSlashes true (['/'].intercalate list) = list := by
    rw [splitAtSlashes_eq_splitOnP]
    exact splitOnP_intercalate (by decide) hne fun segment hsegment c hc =>
      ((h segment hsegment).kept c hc).2
  have hencode : list.map (Percent.encode Percent.pathSet) = list := by
    rw [List.map_congr_left fun segment hsegment => Percent.encode_of_isKept fun c hc =>
      ((h segment hsegment).kept c hc).1, List.map_id']
  rw [UrlPath.toChars, flatMap_slash_eq_intercalate hne, readPath, if_pos (by decide),
    readSegments, hsplit, hencode, resolve_of_isSettledSegment h, List.nil_append]

/-! ## Queries and fragments -/

section

variable {mark : Char} (part : Option (List Char)) (h : mark ∉ cs)

include h

theorem takeWhile_marked : (cs ++ marked mark part).takeWhile (· ≠ mark) = cs := by
  have hcs : ∀ c ∈ cs, decide (c ≠ mark) = true := fun c hc => by
    simpa using ne_of_mem_of_not_mem hc h
  cases part with
  | none => rw [marked, List.append_nil, List.takeWhile_eq_self_iff.2 hcs]
  | some text => exact takeWhile_append_cons hcs (by simp)

/-- What follows a mark is there exactly if the mark is. -/
theorem behind?_marked : behind? ((cs ++ marked mark part).dropWhile (· ≠ mark)) = part := by
  have hcs : ∀ c ∈ cs, decide (c ≠ mark) = true := fun c hc => by
    simpa using ne_of_mem_of_not_mem hc h
  cases part with
  | none => 
      rw [marked, List.append_nil, List.dropWhile_eq_nil_iff.2 hcs]
      rfl
  | some text =>
      rw [marked, dropWhile_append_cons hcs (by simp)]
      rfl

end

/-- No path holds the mark of a query or a fragment. -/
theorem not_mem_toChars (h : ∀ segment ∈ list, IsSettledSegment segment) {mark : Char}
    (hmark : Percent.pathSet mark = true) (hslash : mark ≠ '/') :
    mark ∉ (UrlPath.segments list).toChars := by
  intro hmem
  obtain ⟨segment, hsegment, hmem⟩ := List.mem_flatMap.1 hmem
  rcases List.mem_cons.1 hmem with hfront | hinside
  · exact hslash hfront
  · exact Percent.ne_of_isKept hmark ((h segment hsegment).kept mark hinside).1 rfl

/-- **Path, query and fragment are cut apart again.** -/
theorem readTail_toChars {query fragment : Option (List Char)}
    (hpath : ∀ segment ∈ list, IsSettledSegment segment)
    (hquery : ∀ text ∈ query, ∀ c ∈ text, Percent.isKept Percent.specialQuerySet c = true)
    (hfragment : ∀ text ∈ fragment, ∀ c ∈ text, Percent.isKept Percent.fragmentSet c = true) :
    readTail true ((UrlPath.segments list).toChars ++ marked '?' query ++ marked '#' fragment) =
      { path := (UrlPath.segments list).toChars, query, fragment } := by
  have hquestion : '?' ∉ (UrlPath.segments list).toChars :=
    not_mem_toChars hpath (by decide) (by decide)
  have hhash : '#' ∉ (UrlPath.segments list).toChars ++ marked '?' query := by
    rw [List.mem_append, not_or]
    refine ⟨not_mem_toChars hpath (by decide) (by decide), ?_⟩
    cases query with
    | none => exact List.not_mem_nil
    | some text =>
        intro hmem
        rcases List.mem_cons.1 hmem with hfront | hinside
        · cases hfront
        · exact Percent.ne_of_isKept (by decide) (hquery text rfl '#' hinside) rfl
  have hquerySame : query.map (Percent.encode Percent.specialQuerySet) = query := by
    cases query with
    | none => rfl
    | some text => rw [Option.map_some, Percent.encode_of_isKept (hquery text rfl)]
  have hfragmentSame : fragment.map (Percent.encode Percent.fragmentSet) = fragment := by
    cases fragment with
    | none => rfl
    | some text => rw [Option.map_some, Percent.encode_of_isKept (hfragment text rfl)]
  simp only [readTail, if_true, takeWhile_marked fragment hhash, behind?_marked fragment hhash,
    takeWhile_marked query hquestion, behind?_marked query hquestion, hquerySame, hfragmentSame]

/-! ## User names and passwords -/

/-- User name and password, with a colon in between. -/
def credentials (username password : List Char) : List Char :=
  username ++ if password.isEmpty then [] else ':' :: password

/-- User name and password are told apart. -/
theorem readUserinfo_credentials {username password : List Char}
    (husername : ∀ c ∈ username, Percent.isKept Percent.userinfoSet c = true)
    (hpassword : ∀ c ∈ password, Percent.isKept Percent.userinfoSet c = true) :
    readUserinfo (credentials username password) = (username, password) := by
  have hcolon : ':' ∉ username := fun hmem =>
    Percent.ne_of_isKept (by decide) (husername ':' hmem) rfl
  have hmarked : credentials username password =
      username ++ marked ':' (if password.isEmpty then none else some password) := by
    unfold credentials
    split_ifs <;> rfl
  have htail : ∀ cs : List Char, cs.tail = (behind? cs).getD [] := fun cs => by cases cs <;> rfl
  rw [readUserinfo, hmarked, takeWhile_marked _ hcolon, htail, behind?_marked _ hcolon,
    Percent.encode_of_isKept husername]
  cases password with
  | nil => rfl
  | cons c cs => exact congrArg _ (Percent.encode_of_isKept hpassword)

/-- The last mark is the one in between, if none follows. -/
theorem splitAtLast?_append_cons {mark : Char} (h : mark ∉ rest) :
    splitAtLast? mark (cs ++ mark :: rest) = some (cs, rest) := by
  have hrest : ∀ c ∈ rest.reverse, decide (c ≠ mark) = true := fun c hc => by
    simpa using ne_of_mem_of_not_mem (List.mem_reverse.1 hc) h
  have hreversed : (cs ++ mark :: rest).reverse = rest.reverse ++ mark :: cs.reverse := by simp
  rw [splitAtLast?, if_pos (by simp), hreversed]
  dsimp only
  rw [dropWhile_append_cons hrest (by simp), takeWhile_append_cons hrest (by simp)]
  simp

/-- User name and password are cut off in front of the host. -/
theorem splitAtLast?_userinfoToChars {username password : List Char} (h : '@' ∉ rest) :
    (splitAtLast? '@' (userinfoToChars username password ++ rest)).getD
        ([], userinfoToChars username password ++ rest) =
      (credentials username password, rest) := by
  unfold userinfoToChars
  split
  · next hempty =>
      rw [Bool.and_eq_true, List.isEmpty_iff, List.isEmpty_iff] at hempty
      rw [hempty.1, hempty.2, List.nil_append, splitAtLast?, if_neg (by simpa using h)]
      rfl
  · have hinfo : username ++ (if password.isEmpty then [] else ':' :: password) ++ ['@'] ++ rest =
        credentials username password ++ '@' :: rest := by
      simp [credentials]
    rw [hinfo, splitAtLast?_append_cons h, Option.getD_some]

/-! ## Ports -/

/-- A port is read back, unless it is that of the scheme. -/
theorem readPort_toChars {scheme : List Char} {port : Option Nat}
    (h : ∀ p ∈ port, p ≤ 65535 ∧ Scheme.defaultPort? scheme ≠ some p) :
    readPort scheme ((portToChars port).tail.takeWhile (· ≠ '\\')) = .ok port := by
  cases port with
  | none => rfl
  | some port =>
      obtain ⟨hfits, hdefault⟩ := h port rfl
      have hdigits : ∀ c ∈ Nat.toDigits 10 port, c.isDigit = true := fun c hc =>
        Nat.isDigit_of_mem_toDigits (by decide) (by decide) hc
      have hall : (Nat.toDigits 10 port).all Char.isDigit = true := List.all_eq_true.2 hdigits
      have hwhole : (Nat.toDigits 10 port).takeWhile (· ≠ '\\') = Nat.toDigits 10 port := by
        rw [List.takeWhile_eq_self_iff]
        intro c hc
        have hdigit := hdigits c hc
        rw [decide_eq_true_eq]
        rintro rfl
        cases hdigit
      have hempty : (Nat.toDigits 10 port).isEmpty = false := by simp
      rw [portToChars, List.tail_cons, hwhole, readPort, hempty, hall,
        Nat.ofDigitChars_ten_toDigits]
      simp [hdefault, Nat.not_lt.2 hfits]

/-- A port stands behind a colon, so it is split off. -/
theorem splitPort_portToChars (port : Option Nat) :
    splitPort false (portToChars port) = ([], portToChars port) := by
  cases port <;> simp [portToChars, splitPort]

theorem mem_portToChars {port : Option Nat} (h : c ∈ portToChars port) :
    c = ':' ∨ c.isDigit = true := by
  cases port with
  | none => cases h
  | some port =>
      rcases List.mem_cons.1 h with rfl | hdigit
      · exact .inl rfl
      · exact .inr (Nat.isDigit_of_mem_toDigits (by decide) (by decide) hdigit)

/-! ## Authorities -/

theorem hasHost_of_isHttp {url : Url} (h : url.isHttp = true) :
    Scheme.hasHost url.scheme = true := by
  simp only [isHttp, Bool.or_eq_true, beq_iff_eq] at h
  rcases h with hscheme | hscheme <;> rw [hscheme] <;> decide

theorem isSpecial_of_isHttp {url : Url} (h : url.isHttp = true) :
    Scheme.isSpecial url.scheme = true := by
  rw [Scheme.isSpecial, hasHost_of_isHttp h, Bool.true_or]

/-- **User name, password, host and port are told apart again.** -/
theorem readAuthority_toChars {url : Url} {host : Host} (h : url.IsSettled)
    (hhost : host.IsSettled) (isLast : Bool) :
    readAuthority url.scheme
      (userinfoToChars url.username url.password ++ (host.toChars ++ portToChars url.port)) isLast =
      .ok { username := url.username, password := url.password, host, port := url.port } := by
  have hat : '@' ∉ host.toChars ++ portToChars url.port := by
    intro hmem
    rcases List.mem_append.1 hmem with hinside | hport
    · exact (Host.mem_toChars hhost hinside).2.2 rfl
    · rcases mem_portToChars hport with heq | hdigit
      · cases heq
      · cases hdigit
  have hnonempty : host.toChars ≠ [] := Host.toChars_ne_nil hhost
  have hread := Host.readHost_toChars hhost
  have hport := readPort_toChars h.port
  have hinfo := readUserinfo_credentials h.username h.password
  have hsplit := Host.splitPort_toChars hhost (splitPort_portToChars url.port)
  have hscheme := hasHost_of_isHttp h.isHttp
  have hempty : host.toChars.isEmpty = false := by simpa using hnonempty
  have hlocation : (host.toChars ++ portToChars url.port).isEmpty = false := by
    simp [hnonempty]
  unfold readAuthority
  rw [splitAtLast?_userinfoToChars hat]
  simp only [hinfo, hsplit, hscheme, hempty, hlocation, hread, hport]
  simp
  rfl

theorem mem_userinfoToChars {username password : List Char}
    (h : c ∈ userinfoToChars username password) :
    c ∈ username ∨ c ∈ password ∨ c = ':' ∨ c = '@' := by
  unfold userinfoToChars at h
  split_ifs at h <;> simp only [List.mem_append, List.mem_cons, List.not_mem_nil, or_false] at h
  all_goals grind

/-- Nothing in front of the path ends the authority, or is dropped. -/
theorem mem_authority {url : Url} {host : Host} (h : url.IsSettled) (hhost : host.IsSettled)
    (hc : c ∈ userinfoToChars url.username url.password ++ (host.toChars ++ portToChars url.port)) :
    0x20 < c.toNat ∧ endsAuthority true c = false := by
  have hkept : Percent.isKept Percent.userinfoSet c = true →
      0x20 < c.toNat ∧ endsAuthority true c = false := fun hkept => by
    have hne : ∀ mark, Percent.userinfoSet mark = true → c ≠ mark := fun mark hmark =>
      Percent.ne_of_isKept hmark hkept
    refine ⟨Percent.lt_of_isKept_userinfoSet hkept, ?_⟩
    simp [endsAuthority, isSlash, hne '/' (by decide), hne '\\' (by decide), hne '?' (by decide),
      hne '#' (by decide)]
  have hdigit : c.isDigit = true → 0x20 < c.toNat ∧ endsAuthority true c = false := fun hdigit => by
    have hlow : 0x30 ≤ c.toNat := by
      simp only [Char.isDigit, Bool.and_eq_true, decide_eq_true_eq] at hdigit
      exact hdigit.1
    refine ⟨by omega, ?_⟩
    simp only [endsAuthority, isSlash, Bool.or_eq_false_iff, Bool.true_and, beq_eq_false_iff_ne]
    refine ⟨⟨⟨?_, ?_⟩, ?_⟩, ?_⟩ <;>
    · rintro rfl
      cases hdigit
  simp only [List.mem_append] at hc
  rcases hc with huserinfo | hinside | hport
  · rcases mem_userinfoToChars huserinfo with husername | hpassword | rfl | rfl
    · exact hkept (h.username c husername)
    · exact hkept (h.password c hpassword)
    · decide
    · decide
  · exact ⟨(Host.mem_toChars hhost hinside).1, (Host.mem_toChars hhost hinside).2.1⟩
  · rcases mem_portToChars hport with rfl | hport
    · decide
    · exact hdigit hport

/-! ## Whole URLs -/

/-- Without blanks and control characters nothing is dropped. -/
theorem clean_of_forall (h : ∀ c ∈ cs, 0x20 < c.toNat) : clean cs = cs := by
  have hkept : ∀ c, 0x20 < c.toNat → ¬ isOuterBlank c = true ∧ isIgnored c = false := by
    intro c hc
    refine ⟨by simpa [isOuterBlank] using hc, ?_⟩
    simp only [isIgnored, Bool.or_eq_false_iff, beq_eq_false_iff_ne]
    refine ⟨⟨?_, ?_⟩, ?_⟩ <;>
    · rintro rfl
      revert hc
      decide
  have hfront : ∀ {cs : List Char}, (∀ c ∈ cs, 0x20 < c.toNat) → cs.dropWhile isOuterBlank = cs := by
    intro cs hcs
    rw [List.dropWhile_eq_self_iff]
    exact fun hlength => (hkept _ (hcs _ (List.getElem_mem hlength))).1
  have hback : ∀ c ∈ cs.reverse, 0x20 < c.toNat := fun c hc => h c (List.mem_reverse.1 hc)
  simp only [clean, hfront h, hfront hback, List.reverse_reverse]
  rw [List.filter_eq_self]
  exact fun c hc => by simp [(hkept c (h c hc)).2]

theorem splitScheme?_of_isHttp {url : Url} (h : url.isHttp = true) :
    splitScheme? (url.scheme ++ ':' :: rest) = some (url.scheme, rest) := by
  simp only [isHttp, Bool.or_eq_true, beq_iff_eq] at h
  rcases h with hscheme | hscheme <;> rw [hscheme] <;> rfl

/-- The part of a URL in front of its path. -/
def authorityOf (url : Url) (host : Host) : List Char :=
  userinfoToChars url.username url.password ++ (host.toChars ++ portToChars url.port)

/-- The part of a URL from its path on. -/
def tailOf (url : Url) : List Char :=
  url.path.toChars ++ marked '?' url.query ++ marked '#' url.fragment

theorem toChars_eq {url : Url} {host : Host} (h : url.host = some host) :
    url.toChars = url.scheme ++ ':' :: '/' :: '/' :: (url.authorityOf host ++ url.tailOf) := by
  simp [toChars, authorityToChars, h, authorityOf, tailOf]

/-- A settled URL has neither blanks nor control characters. -/
theorem lt_of_mem_toChars {url : Url} (h : url.IsSettled) (hc : c ∈ url.toChars) :
    0x20 < c.toNat := by
  obtain ⟨host, hurlHost, hhost⟩ := h.host
  obtain ⟨list, hpath, hne, hsegments⟩ := h.path
  have hscheme : c ∈ url.scheme → 0x20 < c.toNat := by
    have hhttp := h.isHttp
    simp only [isHttp, Bool.or_eq_true, beq_iff_eq] at hhttp
    have hplain : ∀ c ∈ Scheme.http ++ Scheme.https, 0x20 < c.toNat :=
      List.all_iff_forall_prop.1 (by decide)
    intro hmem
    refine hplain c (List.mem_append.2 ?_)
    rcases hhttp with heq | heq
    · exact .inl (heq ▸ hmem)
    · exact .inr (heq ▸ hmem)
  have hmarked : ∀ {mark : Char} {part : Option (List Char)}, 0x20 < mark.toNat →
      (∀ text ∈ part, c ∈ text → 0x20 < c.toNat) → c ∈ marked mark part → 0x20 < c.toNat := by
    intro mark part hmark hpart hmem
    cases part with
    | none => cases hmem
    | some text =>
        rcases List.mem_cons.1 hmem with rfl | hinside
        · exact hmark
        · exact hpart text rfl hinside
  rw [toChars_eq hurlHost, tailOf, hpath] at hc
  simp only [List.mem_append, List.mem_cons] at hc
  rcases hc with hmem | rfl | rfl | rfl | hmem | (hmem | hmem) | hmem
  · exact hscheme hmem
  · decide
  · decide
  · decide
  · exact (mem_authority h hhost hmem).1
  · obtain ⟨segment, hsegment, hinside⟩ := List.mem_flatMap.1 hmem
    rcases List.mem_cons.1 hinside with rfl | hinside
    · decide
    · exact Percent.lt_of_isKept_pathSet ((hsegments segment hsegment).kept c hinside).1
  · exact hmarked (by decide) (fun text htext hinside =>
      Percent.lt_of_isKept_specialQuerySet (h.query text htext c hinside)) hmem
  · exact hmarked (by decide) (fun text htext hinside =>
      Percent.lt_of_isKept_fragmentSet (h.fragment text htext c hinside)) hmem

/-- The part with the host is cut off again. -/
theorem readHierarchical_toChars {url : Url} {host : Host} (h : url.IsSettled)
    (hurlHost : url.host = some host) (hhost : host.IsSettled) :
    readHierarchical url.scheme (url.authorityOf host ++ url.tailOf) = .ok url := by
  obtain ⟨list, hpath, hne, hsegments⟩ := h.path
  have hinside : ∀ c ∈ url.authorityOf host, (!endsAuthority true c) = true := fun c hc => by
    simp [(mem_authority h hhost hc).2]
  obtain ⟨rest, htail⟩ : ∃ rest, url.tailOf = '/' :: rest := by
    rw [tailOf, hpath, UrlPath.toChars, flatMap_slash_eq_intercalate hne]
    exact ⟨_, rfl⟩
  have hspecial := isSpecial_of_isHttp h.isHttp
  have htaken : (url.authorityOf host ++ url.tailOf).takeWhile (!endsAuthority true ·) =
      url.authorityOf host := by
    rw [htail, takeWhile_append_cons hinside (by decide)]
  have hdropped : (url.authorityOf host ++ url.tailOf).dropWhile (!endsAuthority true ·) =
      url.tailOf := by
    rw [htail, dropWhile_append_cons hinside (by decide)]
  have hauthority := readAuthority_toChars h hhost url.tailOf.isEmpty
  have hparts := readTail_toChars hsegments h.query h.fragment
  have hread := readPath_toChars hne hsegments
  unfold readHierarchical
  dsimp only
  rw [hspecial, htaken, hdropped, authorityOf, hauthority]
  simp only [tailOf, hpath, hparts, hread, Except.bind, bind, pure, Except.pure]
  rw [← hurlHost, ← hpath]

/-- **A settled URL is read back.** -/
theorem ofText_toText {url : Url} (h : url.IsSettled) : ofText url.toText = .ok url := by
  obtain ⟨host, hurlHost, hhost⟩ := h.host
  have hclean : clean url.toChars = url.toChars := clean_of_forall fun c hc => lt_of_mem_toChars h hc
  have hslashes : (url.authorityOf host ++ url.tailOf).dropWhile (isSlash true) =
      url.authorityOf host ++ url.tailOf := by
    have hnonempty : url.authorityOf host ≠ [] := by
      simp [authorityOf, Host.toChars_ne_nil hhost]
    obtain ⟨c, cs, hcons⟩ := List.exists_cons_of_ne_nil hnonempty
    have hc := (mem_authority h hhost (c := c) (by rw [← authorityOf, hcons]; simp)).2
    rw [hcons, List.cons_append, List.dropWhile_cons_of_neg]
    simp only [endsAuthority, Bool.or_eq_false_iff] at hc
    simp [hc.1.1]
  rw [ofText, toText, String.toList_ofList, ofChars, hclean, toChars_eq hurlHost,
    splitScheme?_of_isHttp h.isHttp]
  dsimp only
  rw [if_pos (hasHost_of_isHttp h.isHttp), List.dropWhile_cons_of_pos (by decide),
    List.dropWhile_cons_of_pos (by decide), hslashes, readHierarchical_toChars h hurlHost hhost]

/-! ## What was read -/

/-- A port that was read fits, and is not that of the scheme. -/
theorem settled_readPort {scheme : List Char} {port : Option Nat}
    (h : readPort scheme cs = .ok port) :
    ∀ p ∈ port, p ≤ 65535 ∧ Scheme.defaultPort? scheme ≠ some p := by
  unfold readPort at h
  split at h
  · cases h
    exact fun p hp => absurd hp (by simp)
  · split at h
    · dsimp only at h
      split at h
      · cases h
      · next hfits =>
          cases h
          intro p hp
          split at hp
          · cases hp
          · next hdefault =>
              cases hp
              exact ⟨Nat.not_lt.1 hfits, hdefault⟩
    · cases h

/-- A part that is refused under a condition was not under it if it was read. -/
theorem of_guarded {ε α : Type} {p : Prop} [Decidable p] {e : ε} {refused read : Except ε α} {a : α}
    (h : (if p then throw e >>= fun _ : PUnit => refused else read) = .ok a) : read = .ok a := by
  split at h
  · cases h
  · exact h

theorem exists_of_bind {ε α β : Type} {read : Except ε α} {next : α → Except ε β} {b : β}
    (h : read >>= next = .ok b) : ∃ a, read = .ok a ∧ next a = .ok b := by
  cases read with
  | error e => cases h
  | ok a => exact ⟨a, rfl, h⟩

theorem settled_readAuthority {scheme : List Char} {isLast : Bool} {authority : Authority}
    (hscheme : Scheme.hasHost scheme = true)
    (h : readAuthority scheme cs isLast = .ok authority) :
    (∀ c ∈ authority.username, Percent.isKept Percent.userinfoSet c = true) ∧
      (∀ c ∈ authority.password, Percent.isKept Percent.userinfoSet c = true) ∧
      authority.host.IsSettled ∧
      ∀ p ∈ authority.port, p ≤ 65535 ∧ Scheme.defaultPort? scheme ≠ some p := by
  unfold readAuthority at h
  simp only [hscheme, if_true, Bool.true_and] at h
  generalize (splitAtLast? '@' cs).getD ([], cs) = parts at h
  obtain ⟨host, hhost, h⟩ := exists_of_bind (of_guarded (of_guarded h))
  obtain ⟨port, hport, h⟩ := exists_of_bind (of_guarded h)
  have hauthority := of_guarded h
  cases hauthority
  exact ⟨fun c hc => Percent.isKept_of_mem_encode Percent.sparesMarks_userinfoSet hc,
    fun c hc => Percent.isKept_of_mem_encode Percent.sparesMarks_userinfoSet hc,
    Host.isSettled_of_readHost hhost, settled_readPort hport⟩

theorem settled_readTail (cs : List Char) :
    (∀ text ∈ (readTail true cs).query, ∀ c ∈ text,
        Percent.isKept Percent.specialQuerySet c = true) ∧
      ∀ text ∈ (readTail true cs).fragment, ∀ c ∈ text,
        Percent.isKept Percent.fragmentSet c = true := by
  constructor
  · intro text htext c hc
    obtain ⟨query, -, rfl⟩ := Option.map_eq_some_iff.1 htext
    exact Percent.isKept_of_mem_encode Percent.sparesMarks_specialQuerySet hc
  · intro text htext c hc
    obtain ⟨fragment, -, rfl⟩ := Option.map_eq_some_iff.1 htext
    exact Percent.isKept_of_mem_encode Percent.sparesMarks_fragmentSet hc

theorem scheme_of_readHierarchical {scheme : List Char} {url : Url}
    (h : readHierarchical scheme cs = .ok url) : url.scheme = scheme := by
  obtain ⟨authority, -, hurl⟩ := exists_of_bind h
  cases hurl
  rfl

theorem scheme_of_readFile {url : Url} (h : readFile cs = .ok url) : url.scheme = Scheme.file := by
  unfold readFile at h
  dsimp only at h
  split at h
  · split at h
    · split at h
      · cases h
        rfl
      · obtain ⟨host, -, h⟩ := exists_of_bind h
        split at h <;>
        · cases h
          rfl
    · cases h
      rfl
  · cases h
    rfl

theorem scheme_of_readOther {scheme : List Char} {url : Url} (h : readOther scheme cs = .ok url) :
    url.scheme = scheme := by
  unfold readOther at h
  split at h
  · exact scheme_of_readHierarchical h
  · cases h
    rfl
  · cases h
    rfl

/-- A URL of the web was read behind its slashes. -/
theorem exists_of_ofChars {url : Url} (h : ofChars cs = .ok url) (hhttp : url.isHttp = true) :
    ∃ rest, splitScheme? (clean cs) = some (url.scheme, rest) ∧
      readHierarchical url.scheme (rest.dropWhile (isSlash true)) = .ok url := by
  have hscheme := hasHost_of_isHttp hhttp
  unfold ofChars at h
  split at h
  · cases h
  next scheme rest hsplit =>
  split at h
  · have heq := scheme_of_readHierarchical h
    exact ⟨rest, by rw [hsplit, heq], by rw [heq, h]⟩
  next hother =>
  split at h
  · rw [scheme_of_readFile h] at hscheme
    cases hscheme
  · rw [scheme_of_readOther h] at hscheme
    contradiction

/-- **What was read is settled.** -/
theorem isSettled_of_ofText {s : String} {url : Url} (h : ofText s = .ok url)
    (hhttp : url.isHttp = true) : url.IsSettled := by
  have hscheme := hasHost_of_isHttp hhttp
  have hspecial := isSpecial_of_isHttp hhttp
  obtain ⟨rest, -, hread⟩ := exists_of_ofChars h hhttp
  generalize rest.dropWhile (isSlash true) = location at hread
  generalize url.scheme = scheme at hscheme hspecial hread
  obtain ⟨hquery, hfragment⟩ := settled_readTail (location.dropWhile (!endsAuthority true ·))
  obtain ⟨authority, hauthority, hurl⟩ := exists_of_bind hread
  obtain ⟨husername, hpassword, hhost, hport⟩ := settled_readAuthority hscheme hauthority
  rw [hspecial] at hurl
  cases hurl
  exact ⟨hhttp, husername, hpassword, ⟨authority.host, rfl, hhost⟩, hport,
    settled_readPath _, hquery, hfragment⟩

end Url

end FiatRamp
