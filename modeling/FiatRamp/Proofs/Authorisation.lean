import FiatRamp.Proofs.Extension
import FiatRamp.Proofs.Payments

/-!
# FiatRamp.Proofs.Authorisation

Authorisation pages and the payments they are for.

A vault writes the id of a payment behind the whole of its callback, as if that
ended with its path.  What stands there is read as part of the last part that the
callback has (`Url.withPaymentId`, `Url.ofText_append_paymentId`).  So the id is a
parameter of the page if the base of callbacks has neither query nor fragment, and
only then, unless the base has that very parameter itself
(`Vault.pages_carry_payment_ids`).  Scheme, host, port and path are those of the
callback in any case.
-/

namespace FiatRamp

namespace Url

variable {c : Char} {cs id query text : List Char} {name value : List Nat}

/-! ## Parameters of a query -/

/-- The bytes that a text in a query stands for. -/
def formBytes : List Char → List Nat
  | [] => []
  | '%' :: a :: b :: rest =>
    match Percent.byte? a b with
    | some byte => byte :: formBytes rest
    | none => 0x25 :: formBytes (a :: b :: rest)
  | c :: rest => (if c = '+' then [0x20] else Utf8.encodeChar c) ++ formBytes rest

/-- A parameter: its name in front of the first equals sign, and its value. -/
def parameter (piece : List Char) : List Nat × List Nat :=
  (formBytes (piece.takeWhile (· ≠ '=')), formBytes (piece.dropWhile (· ≠ '=')).tail)

/-- The parameters of a query, with ampersands in between. -/
def parameters (query : List Char) : List (List Nat × List Nat) :=
  ((Address.splitAt '&' query).filter (· ≠ [])).map parameter

/-- The name of the parameter with a payment id. -/
def paymentName : List Char := "payment_id".toList

/-- The parameter with a payment id. -/
def paymentParameter (id : List Char) : List Nat × List Nat :=
  (Utf8.encode paymentName, Utf8.encode id)

/-- A URL has a payment id among the parameters of its query. -/
def Carries (url : Url) (id : List Char) : Prop :=
  ∃ query ∈ url.query, paymentParameter id ∈ parameters query

/-- Where a URL leads: scheme, host and port, be it that of the scheme. -/
def origin (url : Url) : List Char × Option Host × Option Nat :=
  (url.scheme, url.host, url.port <|> Scheme.defaultPort? url.scheme)

/-! ## Ids in URLs -/

/-- An id of letters, digits and hyphens, as they are given out at random. -/
def IsPlain (id : List Char) : Prop := ∀ c ∈ id, c.isAlphanum = true ∨ c = '-'

theorem toNat_lt_of_isAlphanum (h : c.isAlphanum = true ∨ c = '-') : c.toNat < 128 := by
  rcases h with hletter | rfl
  · unfold Char.isAlphanum Char.isAlpha Char.isUpper Char.isLower Char.isDigit at hletter
    simp only [Bool.or_eq_true, Bool.and_eq_true, decide_eq_true_eq, UInt32.le_iff_toNat_le,
      ge_iff_le] at hletter
    have hvalue : c.toNat = c.val.toNat := rfl
    have hlast : 'z'.val.toNat = 122 := rfl
    have hcapital : 'Z'.val.toNat = 90 := rfl
    have hdigit : '9'.val.toNat = 57 := rfl
    omega
  · decide

/-- An id is written into a URL as it is. -/
theorem kept_of_plain (h : c.isAlphanum = true ∨ c = '-') :
    Percent.isKept Percent.specialQuerySet c = true ∧ Percent.isKept Percent.fragmentSet c = true ∧
      c ∉ ['&', '=', '%', '+', '?'] ∧ Utf8.encodeChar c = [c.toNat] := by
  have hall : ∀ n < 128, ((Char.ofNat n).isAlphanum = true ∨ Char.ofNat n = '-') →
      Percent.isKept Percent.specialQuerySet (Char.ofNat n) = true ∧
        Percent.isKept Percent.fragmentSet (Char.ofNat n) = true ∧
        Char.ofNat n ∉ ['&', '=', '%', '+', '?'] ∧
        Utf8.encodeChar (Char.ofNat n) = [(Char.ofNat n).toNat] := by
    decide +kernel
  have hat := hall c.toNat (toNat_lt_of_isAlphanum h)
  rw [Char.ofNat_toNat] at hat
  exact hat h

/-! ## Bytes of a query -/

/-- Without marks a text stands for its own bytes. -/
theorem formBytes_eq_encode (h : ∀ c ∈ cs, c ≠ '%' ∧ c ≠ '+') : formBytes cs = Utf8.encode cs := by
  induction cs with
  | nil => rfl
  | cons c cs ih =>
      have hc := h c List.mem_cons_self
      have hcs := ih fun d hd => h d (List.mem_cons_of_mem c hd)
      rw [formBytes, if_neg hc.2, hcs]
      · rfl
      · rintro a b rest heq -
        exact hc.1 heq

/-- No question mark is taken for a digit behind a percent sign. -/
theorem ne_question_of_byte? {a b : Char} {byte : Nat} (h : Percent.byte? a b = some byte) :
    a ≠ '?' ∧ b ≠ '?' := by
  obtain ⟨high, hhigh, h⟩ := Option.bind_eq_some_iff.1 h
  obtain ⟨low, hlow, -⟩ := Option.bind_eq_some_iff.1 h
  constructor
  · rintro rfl
    cases hhigh
  · rintro rfl
    cases hlow

/-- A question mark stands for itself. -/
theorem mem_formBytes (h : '?' ∈ cs) : 0x3F ∈ formBytes cs := by
  induction cs using formBytes.induct with
  | case1 => cases h
  | case2 a b rest byte hbyte ih =>
      obtain ⟨ha, hb⟩ := ne_question_of_byte? hbyte
      have hrest : '?' ∈ rest := by
        simpa [ha.symm, hb.symm] using h
      rw [formBytes, hbyte]
      exact List.mem_cons_of_mem byte (ih hrest)
  | case3 a b rest hbyte ih =>
      have hrest : '?' ∈ a :: b :: rest := by simpa using h
      rw [formBytes, hbyte]
      exact List.mem_cons_of_mem 0x25 (ih hrest)
  | case4 c rest hother ih =>
      rw [formBytes, List.mem_append]
      · rcases List.mem_cons.1 h with rfl | hrest
        · exact .inl (by decide)
        · exact .inr (ih hrest)
      · exact hother

/-! ## Parameters behind others -/

/-- A text without marks lengthens the last piece. -/
theorem splitAt_append {mark : Char} (h : mark ∉ text) (cs : List Char) :
    ∃ front last, Address.splitAt mark cs = front ++ [last] ∧
      Address.splitAt mark (cs ++ text) = front ++ [last ++ text] := by
  induction cs with
  | nil =>
      refine ⟨[], [], rfl, ?_⟩
      rw [List.nil_append, Address.splitAt_eq_splitOn, List.splitOn_eq_singleton h]
      rfl
  | cons c cs ih =>
      obtain ⟨front, last, hcs, happend⟩ := ih
      rw [List.cons_append, Address.splitAt, Address.splitAt, hcs, happend]
      split
      · exact ⟨[] :: front, last, rfl, rfl⟩
      · cases front with
        | nil => exact ⟨[], c :: last, rfl, rfl⟩
        | cons first others => exact ⟨(c :: first) :: others, last, rfl, rfl⟩

/-- A question mark in a piece is in the name or in the value. -/
theorem mem_parameter (h : '?' ∈ cs) :
    0x3F ∈ (parameter cs).1 ∨ 0x3F ∈ (parameter cs).2 := by
  rw [← List.takeWhile_append_dropWhile (p := (· ≠ '=')) (l := cs), List.mem_append] at h
  rcases h with hname | hbehind
  · exact .inl (mem_formBytes hname)
  · refine .inr (mem_formBytes ?_)
    have hhead := List.head?_dropWhile_not (· ≠ '=') cs
    generalize cs.dropWhile (· ≠ '=') = behind at hbehind hhead ⊢
    cases behind with
    | nil => cases hbehind
    | cons c rest =>
        have hc : c = '=' := by simpa using hhead
        rcases List.mem_cons.1 hbehind with heq | hrest
        · rw [hc] at heq
          cases heq
        · exact hrest

/-- Neither name nor value of a payment id has a question mark. -/
theorem not_mem_paymentParameter (h : IsPlain id) :
    0x3F ∉ (paymentParameter id).1 ∧ 0x3F ∉ (paymentParameter id).2 := by
  refine ⟨show 0x3F ∉ Utf8.encode paymentName by decide, fun hmem => ?_⟩
  obtain ⟨c, hc, hbyte⟩ := List.mem_flatMap.1 hmem
  obtain ⟨-, -, hmarks, hencoded⟩ := kept_of_plain (h c hc)
  rw [hencoded, List.mem_singleton] at hbyte
  have hquestion : c = '?' := Char.toNat_inj.1 hbyte.symm
  exact hmarks (by simp [hquestion])

/-- The parameter with a payment id, as it is written. -/
def paymentText (id : List Char) : List Char := paymentName ++ '=' :: id

theorem mem_paymentText (h : IsPlain id) (hc : c ∈ paymentText id) :
    Percent.isKept Percent.specialQuerySet c = true ∧ Percent.isKept Percent.fragmentSet c = true ∧
      c ≠ '&' := by
  have hword : ∀ c ∈ paymentName ++ ['='], Percent.isKept Percent.specialQuerySet c = true ∧
      Percent.isKept Percent.fragmentSet c = true ∧ c ≠ '&' :=
    List.all_iff_forall_prop.1 (by decide)
  rw [paymentText, ← List.singleton_append, ← List.append_assoc] at hc
  rcases List.mem_append.1 hc with hmem | hmem
  · exact hword c hmem
  · obtain ⟨hquery, hfragment, hmarks, -⟩ := kept_of_plain (h c hmem)
    exact ⟨hquery, hfragment, fun heq => hmarks (by simp [heq])⟩

/-- A parameter that a query has with an id written behind it, it has without. -/
theorem mem_parameters_of_append (h : IsPlain id)
    (hmem : paymentParameter id ∈ parameters (query ++ '?' :: paymentText id)) :
    paymentParameter id ∈ parameters query := by
  have hplain : '&' ∉ '?' :: paymentText id := by
    intro hamp
    rcases List.mem_cons.1 hamp with heq | htext
    · cases heq
    · exact (mem_paymentText h htext).2.2 rfl
  obtain ⟨front, last, hquery, happend⟩ := splitAt_append hplain query
  obtain ⟨piece, hpiece, hparameter⟩ := List.mem_map.1 hmem
  rw [happend] at hpiece
  obtain ⟨hpiece, hne⟩ := List.mem_filter.1 hpiece
  rcases List.mem_append.1 hpiece with hfront | hlast
  · refine List.mem_map.2 ⟨piece, List.mem_filter.2 ⟨?_, hne⟩, hparameter⟩
    rw [hquery]
    exact List.mem_append_left _ hfront
  · exfalso
    obtain rfl := List.mem_singleton.1 hlast
    have hquestion : '?' ∈ last ++ '?' :: paymentText id := by simp
    rcases mem_parameter hquestion with hname | hvalue
    · rw [hparameter] at hname
      exact (not_mem_paymentParameter h).1 hname
    · rw [hparameter] at hvalue
      exact (not_mem_paymentParameter h).2 hvalue

/-- An id that makes up the query is its only parameter. -/
theorem parameters_paymentText (h : IsPlain id) :
    parameters (paymentText id) = [paymentParameter id] := by
  have hamp : '&' ∉ paymentText id := fun hmem => (mem_paymentText h hmem).2.2 rfl
  have hsplit : Address.splitAt '&' (paymentText id) = [paymentText id] := by
    rw [Address.splitAt_eq_splitOn, List.splitOn_eq_singleton hamp]
  have hword : ∀ c ∈ paymentName, decide (c ≠ '=') = true :=
    List.all_iff_forall_prop.1 (by decide)
  have hname : formBytes paymentName = Utf8.encode paymentName :=
    formBytes_eq_encode (List.all_iff_forall_prop.1 (by decide))
  have hvalue : formBytes id = Utf8.encode id := formBytes_eq_encode fun c hc => by
    obtain ⟨-, -, hmarks, -⟩ := kept_of_plain (h c hc)
    exact ⟨fun heq => hmarks (by simp [heq]), fun heq => hmarks (by simp [heq])⟩
  have hparameter : parameter (paymentText id) = paymentParameter id := by
    rw [parameter, paymentText, takeWhile_append_cons hword (by decide),
      dropWhile_append_cons hword (by decide), List.tail_cons, hname, hvalue, paymentParameter]
  have hne : paymentText id ≠ [] := by simp [paymentText]
  rw [parameters, hsplit, List.filter_cons_of_pos (by simpa using hne), List.filter_nil,
    List.map_singleton, hparameter]

/-! ## An id behind a URL -/

/-- What a URL is read as with a payment id written behind it. -/
def withPaymentId (url : Url) (id : List Char) : Url :=
  match url.fragment, url.query with
  | some fragment, _ => { url with fragment := some (fragment ++ '?' :: paymentText id) }
  | none, some query => { url with query := some (query ++ '?' :: paymentText id) }
  | none, none => { url with query := some (paymentText id) }

theorem toChars_withPaymentId (url : Url) (id : List Char) :
    (url.withPaymentId id).toChars = url.toChars ++ '?' :: paymentText id := by
  unfold withPaymentId
  split
  · next fragment hfragment => simp [toChars, authorityToChars, marked, hfragment]
  · next query hfragment hquery => simp [toChars, authorityToChars, marked, hfragment, hquery]
  · next hfragment hquery => simp [toChars, authorityToChars, marked, hfragment, hquery]

theorem IsSettled.withPaymentId {url : Url} (h : url.IsSettled) (hid : IsPlain id) :
    (url.withPaymentId id).IsSettled := by
  have hbehind : ∀ {set : Char → Bool} {part : List Char}, Percent.isKept set '?' = true →
      (∀ c ∈ paymentText id, Percent.isKept set c = true) →
      (∀ c ∈ part, Percent.isKept set c = true) →
      ∀ c ∈ part ++ '?' :: paymentText id, Percent.isKept set c = true := by
    intro set part hquestion htext hpart c hc
    rcases List.mem_append.1 hc with hmem | hmem
    · exact hpart c hmem
    · rcases List.mem_cons.1 hmem with rfl | hmem
      · exact hquestion
      · exact htext c hmem
  have hquerySet : ∀ c ∈ paymentText id, Percent.isKept Percent.specialQuerySet c = true :=
    fun c hc => (mem_paymentText hid hc).1
  have hfragmentSet : ∀ c ∈ paymentText id, Percent.isKept Percent.fragmentSet c = true :=
    fun c hc => (mem_paymentText hid hc).2.1
  unfold Url.withPaymentId
  split
  · next fragment hfragment =>
      refine { h with fragment := fun text htext => ?_ }
      obtain rfl := Option.some.inj htext
      exact hbehind (by decide) hfragmentSet (h.fragment fragment hfragment)
  · next query hfragment hquery =>
      refine { h with query := fun text htext => ?_ }
      obtain rfl := Option.some.inj htext
      exact hbehind (by decide) hquerySet (h.query query hquery)
  · refine { h with query := fun text htext => ?_ }
    obtain rfl := Option.some.inj htext
    exact hquerySet

/-- **An id behind a URL is read as a part of its last part.** -/
theorem ofText_append_paymentId {url : Url} (h : url.IsSettled) (hid : IsPlain id) :
    ofText (url.toText ++ String.ofList ('?' :: paymentText id)) = .ok (url.withPaymentId id) := by
  have hread := ofText_toText (h.withPaymentId hid)
  rwa [toText, toChars_withPaymentId, String.ofList_append] at hread

end Url

/-! ## Pages -/

/-- A page is the callback with the payment id written behind it. -/
theorem TransferRecord.page_eq {record : TransferRecord} {callback : Callback} {page : String}
    {authoriseAfter fetches : UInt32} (hcallback : record.callback = some callback)
    (hpage : (record.charge authoriseAfter fetches).authorisationUrl = some page) :
    page = callback.redirectUrl ++
      String.ofList ('?' :: Url.paymentText record.paymentId.toList) := by
  have hmark : "?payment_id=".toList = '?' :: Url.paymentName ++ ['='] := by decide
  unfold charge at hpage
  dsimp only at hpage
  split at hpage
  · rw [hcallback, Option.map_some, Option.some.injEq] at hpage
    rw [← hpage, ← String.toList_inj]
    simp [hmark, Url.paymentText]
  · cases hpage

namespace Vault

variable {ids : Nat → String} {v₀ v : Vault} {log : List Event}

/-- The id of a transfer was given out. -/
theorem Run.exists_paymentId_eq (h : Run ids v₀ log v) (fresh : Function.Injective ids)
    (new : v₀.IsNew) {start : Event} {record : TransferRecord} (hmem : start ∈ log)
    (hstart : start.transfer? = some record) : ∃ k, record.paymentId = ids k := by
  have hrecorded := h.recorded fresh new
  have haccepted : record ∈ v.accepted := hrecorded.mem_accepted.2 ⟨start, hmem, hstart⟩
  have hgiven : record.paymentId ∈ v.given :=
    List.mem_append_left _ (List.mem_map_of_mem haccepted)
  obtain ⟨k, -, hk⟩ := hrecorded.issued _ hgiven
  exact ⟨k, hk⟩

/-- What a page is for a payment: it leads where the callback leads, and tells the id of
the payment if the base has neither query nor fragment, but else only if the base does. -/
structure IsPage (base redirect url : Url) (id : List Char) : Prop where
  origin : url.origin = redirect.origin
  path : url.path = redirect.path
  carries : base.query = none → base.fragment = none →
    url.query.map Url.parameters = some [Url.paymentParameter id]
  misses : base.query ≠ none ∨ base.fragment ≠ none → url.Carries id → base.Carries id

/-- A page for a payment is a callback with the id behind it. -/
theorem isPage_withPaymentId {base redirect : Url} {id : List Char} (hid : Url.IsPlain id)
    (hquery : redirect.query = base.query) (hfragment : redirect.fragment = base.fragment) :
    IsPage base redirect (redirect.withPaymentId id) id := by
  unfold Url.withPaymentId
  constructor
  · split <;> rfl
  · split <;> rfl
  · intro hnoQuery hnoFragment
    rw [← hquery] at hnoQuery
    rw [← hfragment] at hnoFragment
    simp only [hnoQuery, hnoFragment, Option.map_some, Url.parameters_paymentText hid]
  · rintro hpart ⟨query, hmem, hcarried⟩
    split at hmem
    · exact ⟨query, hquery ▸ hmem, hcarried⟩
    · next own hnone hown =>
        obtain rfl := Option.some.inj hmem
        exact ⟨own, by rw [← hquery, hown]; rfl, Url.mem_parameters_of_append hid hcarried⟩
    · next hnoFragment hnoQuery =>
        rw [← hquery, ← hfragment] at hpart
        rcases hpart with hsome | hsome
        · contradiction
        · contradiction

/-- **Pages carry the ids of their payments** if the base of callbacks has neither query nor
fragment.  If it has, a page that was offered still leads where the callback leads, but the
id is no parameter of it, unless the base has that parameter itself. -/
theorem pages_carry_payment_ids {c : Config} (hvalid : c.isValid = true)
    (fresh : Function.Injective ids) (plain : ∀ k, Url.IsPlain (ids k).toList) (new : v₀.IsNew) :
    ∃ base, RedirectBase.ofText c.banking.callbackBaseUrl = .ok base ∧
      ∀ log v, Run ids v₀ log v → ∀ before start since charge after record page,
        log = before ++ start :: (since ++ ⟨.charge record.paymentId, .ok charge⟩ :: after) →
        start.transfer? = some record → record.callback = some (base.callback .yapily .pay) →
        charge.authorisationUrl = some page →
          ∃ redirect url, Url.ofText (base.callback .yapily .pay).redirectUrl = .ok redirect ∧
            Url.ofText page = .ok url ∧ IsPage base.url redirect url record.paymentId.toList := by
  obtain ⟨base, hbase⟩ := ((Config.works_of_isValid c).2 hvalid).base
  refine ⟨base, hbase, ?_⟩
  rintro log v hrun before start since charge after record page rfl hstart hcallback hpage
  obtain ⟨k, hid⟩ := hrun.exists_paymentId_eq fresh new (by simp) hstart
  have hplain : Url.IsPlain record.paymentId.toList := hid ▸ plain k
  have hcharge := Except.ok.inj (hrun.charge_of_accepted fresh new hstart)
  rw [hcharge] at hpage
  obtain ⟨path, hredirect, hsettled, -⟩ := RedirectBase.exists_redirect hbase
  refine ⟨{ base.url with path }, _, ?_, ?_, isPage_withPaymentId hplain rfl rfl⟩
  · rw [hredirect, Url.ofText_toText hsettled]
  · rw [TransferRecord.page_eq hcallback hpage, hredirect,
      Url.ofText_append_paymentId hsettled hplain]

end Vault

namespace Sample

theorem isPlain_tickets (k : Nat) : Url.IsPlain (tickets k).toList := by
  intro c hc
  rw [tickets, String.toList_ofList] at hc
  obtain rfl := List.eq_of_mem_replicate hc
  exact .inl (by decide)

theorem isCode_euro : isCode "EUR".toList = true := by decide

/-- A payment of five euros. -/
def paid (callback : Callback) : TransferRecord :=
  ⟨"i", "one", .ofMajor 5 ⟨"EUR", isCode_euro⟩, some callback⟩

/-- Its charge, with a page. -/
def charged (callback : Callback) : Charge := (paid callback).charge 0 1

/-- A payment with a callback, whose charge is fetched once. -/
def fetched (callback : Callback) : List Vault.Event :=
  [⟨payment "one" (some callback), .ok "i"⟩, ⟨.charge "i", .ok (charged callback)⟩]

theorem run_fetched (callback : Callback) :
    ∃ v, Vault.Run tickets Vault.empty (fetched callback) v := by
  have hrun : Vault.Run tickets Vault.empty _ _ :=
    .serve (.serve .refl (payment "one" (some callback))) (.charge "i")
  exact ⟨_, hrun⟩

end Sample

namespace Vault

/-- Behind a base that ends with its path the id is the only parameter. -/
theorem pages_carry_payment_ids_of_path :
    ∃ base page url, RedirectBase.ofText "https://w.test/ob" = .ok base ∧
      (∃ v, Run Sample.tickets empty (Sample.fetched (base.callback .yapily .pay)) v) ∧
      (Sample.charged (base.callback .yapily .pay)).authorisationUrl = some page ∧
      page = "https://w.test/ob/yapily/pay?payment_id=i" ∧ Url.ofText page = .ok url ∧
      url.query.map Url.parameters = some [Url.paymentParameter ['i']] := by
  let c : Config := { banking := { callbackBaseUrl := "https://w.test/ob" } }
  have hvalid : c.isValid = true := by decide +kernel
  have hnew : empty.IsNew := ⟨rfl, rfl, rfl⟩
  obtain ⟨base, hbase, hpages⟩ :=
    pages_carry_payment_ids hvalid Sample.tickets_injective Sample.isPlain_tickets hnew
  obtain ⟨v, hrun⟩ := Sample.run_fetched (base.callback .yapily .pay)
  obtain ⟨redirect, url, -, hurl, hpage⟩ := hpages _ v hrun [] _ [] _ []
    (Sample.paid (base.callback .yapily .pay)) _ rfl rfl rfl rfl
  have hread : RedirectBase.ofText "https://w.test/ob" = .ok ⟨{
      scheme := Scheme.https
      username := []
      password := []
      host := some (.name "w.test".toList)
      port := none
      path := .segments [['o', 'b']]
      query := none
      fragment := none }⟩ := by decide +kernel
  obtain rfl := Except.ok.inj (hbase.symm.trans hread)
  exact ⟨_, _, url, hbase, ⟨v, hrun⟩, rfl, by decide +kernel, hurl, hpage.carries rfl rfl⟩

/-- Behind a base with a query the id is part of another parameter. -/
theorem page_misses_payment_id :
    ∃ (c : Config) (base : RedirectBase) (page : String) (url : Url),
      c.banking.callbackBaseUrl = "https://w.test/ob?x=1" ∧ c.isValid = true ∧
      RedirectBase.ofText c.banking.callbackBaseUrl = .ok base ∧
      (∃ v, Run Sample.tickets empty (Sample.fetched (base.callback .yapily .pay)) v) ∧
      (Sample.charged (base.callback .yapily .pay)).authorisationUrl = some page ∧
      page = "https://w.test/ob/yapily/pay?x=1?payment_id=i" ∧ Url.ofText page = .ok url ∧
      ¬ url.Carries ['i'] := by
  let base : RedirectBase := ⟨{
    scheme := Scheme.https
    username := []
    password := []
    host := some (.name "w.test".toList)
    port := none
    path := .segments [['o', 'b']]
    query := some "x=1".toList
    fragment := none }⟩
  let url : Url := { base.url with
    path := .segments ["ob".toList, "yapily".toList, "pay".toList]
    query := some "x=1?payment_id=i".toList }
  have hmissed : ¬ url.Carries ['i'] := by
    rintro ⟨query, hquery, hmem⟩
    obtain rfl := Option.some.inj hquery
    revert hmem
    decide +kernel
  exact ⟨{ banking := { callbackBaseUrl := "https://w.test/ob?x=1" } }, base, _, url, rfl,
    by decide +kernel, by decide +kernel, Sample.run_fetched _, rfl, by decide +kernel,
    by decide +kernel, hmissed⟩

end Vault

end FiatRamp
