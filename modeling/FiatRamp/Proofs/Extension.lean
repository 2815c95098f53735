import FiatRamp.Proofs.EndSlash
import FiatRamp.Proofs.Readiness

/-!
# FiatRamp.Proofs.Extension

Callbacks extend the path of their base, and nothing else.

A base is settled, and so is its callback, which is why the callback is read back
as the base with a longer path.  On the written path the words of partner and
action stand behind what is left of it without a slash at its end
(`Url.withCallback`).  So a slash more or less there makes no difference, neither
in the URL nor in the text it is read from
(`RedirectBase.callback_extends_path`).
-/

namespace FiatRamp

namespace Url

variable {path segment : List Char} {list : List (List Char)}

/-! ## Written paths -/

/-- A path without the slash at its end, unless that is all of it. -/
def withoutEndSlash (path : List Char) : List Char :=
  if 1 < path.length ∧ path.getLast? = some '/' then path.dropLast else path

/-- A path with the words of a callback behind it. -/
def withCallback (path : List Char) : List Char :=
  (if withoutEndSlash path = ['/'] then [] else withoutEndSlash path) ++ "/yapily/pay".toList

theorem toChars_concat (list : List (List Char)) (segment : List Char) :
    (UrlPath.segments (list ++ [segment])).toChars =
      (UrlPath.segments list).toChars ++ '/' :: segment := by
  simp [UrlPath.toChars]

theorem toChars_segments_eq_nil_iff : (UrlPath.segments list).toChars = [] ↔ list = [] := by
  cases list <;> simp [UrlPath.toChars]

/-- Only the path of one empty segment is a single slash. -/
theorem toChars_segments_eq_slash_iff : (UrlPath.segments list).toChars = ['/'] ↔ list = [[]] := by
  cases list with
  | nil => simp [UrlPath.toChars]
  | cons first rest =>
      cases first <;> cases rest <;> simp [UrlPath.toChars]

/-- A path ends in a slash exactly if its last segment is empty. -/
theorem getLast?_toChars_iff (h : ∀ segment ∈ list, IsSettledSegment segment) :
    (UrlPath.segments list).toChars.getLast? = some '/' ↔ list.getLast? = some [] := by
  rcases List.eq_nil_or_concat' list with rfl | ⟨front, last, rfl⟩
  · simp [UrlPath.toChars]
  · rw [toChars_concat, List.getLast?_append_cons, List.getLast?_concat]
    have hlast := h last (by simp)
    constructor
    · intro hslash
      cases last with
      | nil => rfl
      | cons c cs =>
          rw [List.getLast?_cons_cons] at hslash
          have hmem := List.mem_of_getLast? hslash
          have hother := (hlast.kept '/' hmem).2
          cases hother
    · intro hempty
      rw [Option.some.injEq] at hempty
      rw [hempty]
      rfl

theorem dropEmptyEnd_concat (h : list ≠ []) : dropEmptyEnd (list ++ [[]]) = list := by
  have hlength : 0 < list.length := List.length_pos_iff.2 h
  have htwo : decide (2 ≤ (list ++ [[]]).length) = true := by
    rw [decide_eq_true_eq, List.length_append, List.length_singleton]
    omega
  rw [dropEmptyEnd, htwo, List.getLast?_concat, List.dropLast_concat]
  rfl

theorem dropEmptyEnd_of_ne (h : list.getLast? ≠ some []) : dropEmptyEnd list = list := by
  rw [dropEmptyEnd, if_neg (by simp [h])]

theorem withoutEndSlash_concat (h : path ≠ []) : withoutEndSlash (path ++ ['/']) = path := by
  have hlength : 0 < path.length := List.length_pos_iff.2 h
  have htwo : 1 < (path ++ ['/']).length := by
    rw [List.length_append, List.length_singleton]
    omega
  rw [withoutEndSlash, if_pos ⟨htwo, List.getLast?_concat⟩, List.dropLast_concat]

theorem withoutEndSlash_of_ne (h : path.getLast? ≠ some '/') : withoutEndSlash path = path := by
  rw [withoutEndSlash, if_neg (fun hslash => h hslash.2)]

/-- Dropping an empty last segment drops a slash. -/
theorem toChars_dropEmptyEnd (h : ∀ segment ∈ list, IsSettledSegment segment) :
    (UrlPath.segments (dropEmptyEnd list)).toChars =
      withoutEndSlash (UrlPath.segments list).toChars := by
  rcases List.eq_nil_or_concat' list with rfl | ⟨front, last, rfl⟩
  · rfl
  · by_cases hlast : last = []
    · subst hlast
      by_cases hfront : front = []
      · subst hfront
        rfl
      · have hwritten := toChars_segments_eq_nil_iff.not.2 hfront
        rw [dropEmptyEnd_concat hfront, toChars_concat, withoutEndSlash_concat hwritten]
    · have hother : (front ++ [last]).getLast? ≠ some [] := by simpa using hlast
      rw [dropEmptyEnd_of_ne hother, withoutEndSlash_of_ne ((getLast?_toChars_iff h).not.2 hother)]

theorem mem_of_mem_dropEmptyEnd (h : segment ∈ dropEmptyEnd list) : segment ∈ list := by
  unfold dropEmptyEnd at h
  split at h
  · exact List.mem_of_mem_dropLast h
  · exact h

/-- A segment is written behind the path, unless that is empty. -/
theorem toChars_pushSegment :
    (UrlPath.segments (pushSegment list segment)).toChars =
      (if (UrlPath.segments list).toChars = ['/'] then [] else (UrlPath.segments list).toChars) ++
        '/' :: segment := by
  simp only [toChars_segments_eq_slash_iff, pushSegment]
  split
  · simp [UrlPath.toChars]
  · exact toChars_concat list segment

theorem pushSegment_ne_nil : pushSegment list segment ≠ [] := by
  unfold pushSegment
  split <;> simp

theorem mem_of_mem_pushSegment {other : List Char} (h : other ∈ pushSegment list segment) :
    other ∈ list ∨ other = segment := by
  unfold pushSegment at h
  split at h
  · exact .inr (List.mem_singleton.1 h)
  · simpa using h

/-- Settled paths that are written alike are alike. -/
theorem segments_injective {other : List (List Char)} (hne : list ≠ []) (hother : other ≠ [])
    (h : ∀ segment ∈ list, IsSettledSegment segment)
    (hsettled : ∀ segment ∈ other, IsSettledSegment segment)
    (heq : (UrlPath.segments list).toChars = (UrlPath.segments other).toChars) : list = other := by
  have hread := readPath_toChars hne h
  rw [heq, readPath_toChars hother hsettled, UrlPath.segments.injEq] at hread
  exact hread.symm

end Url

namespace RedirectBase

variable {base : RedirectBase} {raw : String}

/-! ## Callbacks -/

/-- A base is settled. -/
theorem isSettled_of_ofText (h : ofText raw = .ok base) : base.url.IsSettled := by
  obtain ⟨hread, hhttp, -⟩ := ofText_eq_ok_iff.1 h
  exact Url.isSettled_of_ofText hread hhttp

theorem isSettledSegment_word (partner : BankPartner) (action : BankAction) :
    Url.IsSettledSegment partner.word.toList ∧ Url.IsSettledSegment action.word.toList := by
  cases partner
  cases action
  constructor <;> exact ⟨by decide, by decide, List.all_iff_forall_prop.1 (by decide)⟩

/-- A path with a callback at its end. -/
theorem extendPath_of_settled {list : List (List Char)}
    (h : ∀ segment ∈ list, Url.IsSettledSegment segment) :
    ∃ extended, extendPath .yapily .pay (.segments list) = .segments extended ∧ extended ≠ [] ∧
      (∀ segment ∈ extended, Url.IsSettledSegment segment) ∧
      (UrlPath.segments extended).toChars = Url.withCallback (UrlPath.segments list).toChars := by
  have hword := isSettledSegment_word .yapily .pay
  refine ⟨_, rfl, Url.pushSegment_ne_nil, fun segment hsegment => ?_, ?_⟩
  · rcases Url.mem_of_mem_pushSegment hsegment with hfront | rfl
    · rcases Url.mem_of_mem_pushSegment hfront with hkept | rfl
      · exact h segment (Url.mem_of_mem_dropEmptyEnd hkept)
      · exact hword.1
    · exact hword.2
  · have hdropped := Url.toChars_dropEmptyEnd h
    rw [Url.toChars_pushSegment, Url.toChars_pushSegment, hdropped, Url.withCallback, if_neg]
    · simp [BankPartner.word, BankAction.word]
    · intro heq
      have hlength := congrArg List.length heq
      simp [BankPartner.word] at hlength

/-- A callback is what is written of its base with a longer path, which is settled. -/
theorem exists_redirect (h : ofText raw = .ok base) :
    ∃ path, (base.callback .yapily .pay).redirectUrl = ({ base.url with path } : Url).toText ∧
      ({ base.url with path } : Url).IsSettled ∧
      path.toChars = Url.withCallback base.url.path.toChars := by
  have hbase := isSettled_of_ofText h
  obtain ⟨list, hlist, -, hsettled⟩ := hbase.path
  obtain ⟨extended, hextended, hne, hsegments, hwritten⟩ := extendPath_of_settled hsettled
  refine ⟨.segments extended, ?_, { hbase with path := ⟨extended, rfl, hne, hsegments⟩ }, ?_⟩
  · rw [callback, hlist, hextended]
  · rw [hwritten, hlist]

/-- A slash at the end of the path makes no difference to the callback. -/
theorem callback_of_slash {text : String} {other : RedirectBase} (h : ofText raw = .ok base)
    (hother : ofText text = .ok other) (hslash : base.url.path.toChars.getLast? ≠ some '/')
    (hurl : other.url = { base.url with path := other.url.path })
    (hpath : other.url.path.toChars = base.url.path.toChars ++ ['/']) :
    other.callback .yapily .pay = base.callback .yapily .pay := by
  obtain ⟨list, hlist, hne, hsettled⟩ := (isSettled_of_ofText h).path
  obtain ⟨longer, hlonger, hsome, hsettled'⟩ := (isSettled_of_ofText hother).path
  rw [hlist] at hslash hpath
  rw [hlonger, ← Url.toChars_concat] at hpath
  have hlast : list.getLast? ≠ some [] := (Url.getLast?_toChars_iff hsettled).not.1 hslash
  have hconcat : ∀ segment ∈ list ++ [[]], Url.IsSettledSegment segment := by
    simpa [or_imp, forall_and] using ⟨hsettled, Url.isSettledSegment_nil⟩
  obtain rfl := Url.segments_injective hsome (by simp) hsettled' hconcat hpath
  have hextended : extendPath .yapily .pay other.url.path =
      extendPath .yapily .pay base.url.path := by
    rw [hlist, hlonger, extendPath, extendPath, Url.dropEmptyEnd_concat hne,
      Url.dropEmptyEnd_of_ne hlast]
  rw [callback, callback, hextended, hurl]

/-- A slash written at the end of the path gives another base. -/
theorem exists_ofText_slash {x y : List Char} (h : ofText (String.ofList (x ++ y)) = .ok base)
    (hends : Url.PathEnds x y) (hslash : base.url.path.toChars.getLast? ≠ some '/') :
    ∃ other, ofText (String.ofList (x ++ '/' :: y)) = .ok other ∧
      other.url = { base.url with path := other.url.path } ∧
      other.url.path.toChars = base.url.path.toChars ++ ['/'] := by
  obtain ⟨hread, hhttp, hhost⟩ := ofText_eq_ok_iff.1 h
  obtain ⟨list, hlist, -, hsettled⟩ := (isSettled_of_ofText h).path
  rw [hlist] at hslash
  have hlast : list.getLast? ≠ some [] := (Url.getLast?_toChars_iff hsettled).not.1 hslash
  have hlonger := Url.ofText_slash hends hread hhttp hlist hlast
  refine ⟨⟨{ base.url with path := .segments (list ++ [[]]) }⟩, ?_, rfl, ?_⟩
  · exact ofText_eq_ok_iff.2 ⟨hlonger, hhttp, hhost⟩
  · rw [hlist]
    exact Url.toChars_concat list []

/-- **A callback only extends the path of its base**: it is read as the base with another
path, in which the callback stands behind what the path of the base is without a slash at
its end.  So if that path has none, a base that differs by such a slash only has the same
callback, also where the slash is written into the text of the base. -/
theorem callback_extends_path (h : ofText raw = .ok base) :
    (∃ path, Url.ofText (base.callback .yapily .pay).redirectUrl = .ok { base.url with path } ∧
      path.toChars = Url.withCallback base.url.path.toChars) ∧
    (base.url.path.toChars.getLast? ≠ some '/' →
      (∀ text other, ofText text = .ok other →
        other.url = { base.url with path := other.url.path } →
        other.url.path.toChars = base.url.path.toChars ++ ['/'] →
        other.callback .yapily .pay = base.callback .yapily .pay) ∧
      ∀ x y, raw = String.ofList (x ++ y) → Url.PathEnds x y →
        ∃ other, ofText (String.ofList (x ++ '/' :: y)) = .ok other ∧
          other.callback .yapily .pay = base.callback .yapily .pay) := by
  refine ⟨?_, fun hslash => ⟨fun text other hother hurl hpath => ?_, ?_⟩⟩
  · obtain ⟨path, hredirect, hsettled, hwritten⟩ := exists_redirect h
    exact ⟨path, hredirect ▸ Url.ofText_toText hsettled, hwritten⟩
  · exact callback_of_slash h hother hslash hurl hpath
  · rintro x y rfl hends
    obtain ⟨other, hother, hurl, hpath⟩ := exists_ofText_slash h hends hslash
    exact ⟨other, hother, callback_of_slash h hother hslash hurl hpath⟩

/-- User name, port, query and fragment stay where they are. -/
theorem callback_extends_path_with_query :
    ∃ base, ofText "https://me@Wallet.test:8443/ob?x=1#f" = .ok base ∧
      (base.callback .yapily .pay).redirectUrl =
        "https://me@wallet.test:8443/ob/yapily/pay?x=1#f" ∧
      (∃ path, Url.ofText (base.callback .yapily .pay).redirectUrl = .ok { base.url with path } ∧
        path.toChars = "/ob/yapily/pay".toList) ∧
      ∃ other, ofText "https://me@Wallet.test:8443/ob/?x=1#f" = .ok other ∧
        other.callback .yapily .pay = base.callback .yapily .pay := by
  let base : RedirectBase := ⟨{
    scheme := Scheme.https
    username := ['m', 'e']
    password := []
    host := some (.name "wallet.test".toList)
    port := some 8443
    path := .segments [['o', 'b']]
    query := some ['x', '=', '1']
    fragment := some ['f'] }⟩
  have hbase : ofText "https://me@Wallet.test:8443/ob?x=1#f" = .ok base := by decide +kernel
  have hends : Url.PathEnds "https://me@Wallet.test:8443/ob".toList "?x=1#f".toList :=
    ⟨by decide, .inl ⟨'?', rfl, .inl rfl⟩⟩
  obtain ⟨hextended, hslash⟩ := callback_extends_path hbase
  exact ⟨base, hbase, by decide +kernel, hextended, (hslash (by decide)).2 _ _ rfl hends⟩

end RedirectBase

end FiatRamp
