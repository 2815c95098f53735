import FiatRamp.Codec.Account
import FiatRamp.Codec.Config
import FiatRamp.Codec.Transfer
import FiatRamp.Proofs.Numeral
import Mathlib.Tactic.Positivity

/-!
# FiatRamp.Proofs.RoundTrip

Exchanged data, written and read back.

Decoding what was encoded gives the same value, for all data that is exchanged
and for the configuration (`exchanged_faithfully`).  The proofs follow the
nesting of the formats: currencies and decimals, then words, options and lists,
then records field by field and variants by their tag.
-/

namespace FiatRamp

open Json

/-- Decoding gives back what was encoded.  What was decoded from any other form
is so from then on. -/
structure Faithful (encode : α → Json) (decode : Json → Option α) : Prop where
  /-- Nothing is lost. -/
  read_back : ∀ a, decode (encode a) = some a
  /-- Writing anew what was read does not change it. -/
  settled : ∀ j, (decode j).bind (fun a => decode (encode a)) = decode j

theorem Faithful.of_read_back {encode : α → Json} {decode : Json → Option α}
    (h : ∀ a, decode (encode a) = some a) : Faithful encode decode where
  read_back := h
  settled j := by simp [h]

/-- A record has a field for an option, null exactly where the option is absent. -/
def WritesOption (encode : α → Json) (name : String) (option : α → Option β) : Prop :=
  ∀ a, ∃ j, (encode a).field? name = some j ∧ (j = .null ↔ option a = none)

/-! ## Currencies -/

theorem isCodeChar_iff {c : Char} :
    isCodeChar c = true ↔ (48 ≤ c.toNat ∧ c.toNat ≤ 57) ∨ (65 ≤ c.toNat ∧ c.toNat ≤ 90) := by
  unfold isCodeChar Char.isUpper Char.isDigit
  simp only [Bool.or_eq_true, Bool.and_eq_true, decide_eq_true_eq, ge_iff_le,
    UInt32.le_iff_toNat_le]
  exact or_comm

/-- No character of a canonical code is a blank. -/
theorem isBlank_of_isCodeChar {c : Char} (h : isCodeChar c = true) : isBlank c = false := by
  rw [isCodeChar_iff] at h
  simp only [isBlank, blankRanges, List.any_cons, List.any_nil, Bool.or_false,
    Bool.or_eq_false_iff, Bool.and_eq_false_iff, decide_eq_false_iff_not]
  omega

theorem isAlphanum_of_isCodeChar {c : Char} (h : isCodeChar c = true) : c.isAlphanum = true := by
  rw [isCodeChar, Bool.or_eq_true] at h
  unfold Char.isAlphanum Char.isAlpha
  cases h with
  | inl h => simp [h]
  | inr h => simp [h]

/-- The characters of a canonical code are capitals already. -/
theorem toUpper_of_isCodeChar {c : Char} (h : isCodeChar c = true) : c.toUpper = c := by
  rw [isCodeChar_iff] at h
  have hlower : ¬ (97 ≤ c.toNat ∧ c.toNat ≤ 122) := by omega
  unfold Char.toUpper
  rw [dif_neg]
  simp only [UInt32.le_iff_toNat_le]
  exact hlower

/-- A text without blanks has none to trim. -/
theorem trimChars_of_forall {cs : List Char} (h : ∀ c ∈ cs, isBlank c = false) :
    trimChars cs = cs := by
  have hdrop : ∀ ds : List Char, (∀ c ∈ ds, isBlank c = false) → ds.dropWhile isBlank = ds := by
    intro ds hds
    cases ds with
    | nil => rfl
    | cons d ds => simp [hds d List.mem_cons_self]
  rw [trimChars, hdrop cs h, trimEnd, hdrop _ (fun c hc => h c (List.mem_reverse.1 hc)),
    List.reverse_reverse]

/-- A currency is the one its code names. -/
@[simp] theorem Currency.ofText?_code (c : Currency) : Currency.ofText? c.code = some c := by
  have hcode := c.isCode_code
  simp only [isCode, Bool.and_eq_true, Bool.not_eq_true', decide_eq_true_eq,
    List.all_eq_true] at hcode
  obtain ⟨⟨hne, hlength⟩, hchars⟩ := hcode
  have htrim : trimChars c.code.toList = c.code.toList :=
    trimChars_of_forall fun d hd => isBlank_of_isCodeChar (hchars d hd)
  have htext : isCodeText c.code.toList = true := by
    simp only [isCodeText, Bool.and_eq_true, Bool.not_eq_true', decide_eq_true_eq,
      List.all_eq_true]
    exact ⟨⟨hne, hlength⟩, fun d hd => isAlphanum_of_isCodeChar (hchars d hd)⟩
  have hupper : c.code.toList.map Char.toUpper = c.code.toList := by
    conv_rhs => rw [← List.map_id c.code.toList]
    exact List.map_congr_left fun d hd => toUpper_of_isCodeChar (hchars d hd)
  rw [ofText?, dif_pos (by rw [htrim]; exact htext)]
  have hread : String.ofList ((trimChars c.code.toList).map Char.toUpper) = c.code := by
    rw [htrim, hupper, String.ofList_toList]
  exact congrArg some (ext_code hread)

/-! ## Single values -/

@[simp] theorem Currency.ofJson?_toJson (c : Currency) : Currency.ofJson? c.toJson = some c :=
  c.ofText?_code

@[simp] theorem Decimal.ofJson?_toJson (d : Decimal) : Decimal.ofJson? d.toJson = some d :=
  d.ofText?_toText

namespace Json

@[simp] theorem asText?_text (s : String) : asText? (.text s) = some s := rfl

@[simp] theorem asBool?_bool (b : Bool) : asBool? (.bool b) = some b := rfl

@[simp] theorem asUInt32?_ofUInt32 (n : UInt32) : asUInt32? (ofUInt32 n) = some n := by
  have hroom : (n.toNat : ℤ) < (Nat.pow 2 32 : ℕ) := by exact_mod_cast n.toNat_lt
  rw [ofUInt32, asUInt32?, if_pos ⟨by positivity, hroom⟩]
  simp

@[simp] theorem asUInt64?_ofUInt64 (n : UInt64) : asUInt64? (ofUInt64 n) = some n := by
  have hroom : (n.toNat : ℤ) < (Nat.pow 2 64 : ℕ) := by exact_mod_cast n.toNat_lt
  rw [ofUInt64, asUInt64?, if_pos ⟨by positivity, hroom⟩]
  simp

/-! ## Words, options and lists -/

/-- A word is read as the value it stands for, if no other has it. -/
theorem asWord?_word (dialect : Dialect) {all : List α} {word : α → String}
    (hword : Function.Injective word) {a : α} (ha : a ∈ all) :
    asWord? dialect all word (.text (word a)) = some a := by
  rw [asWord?]
  induction all with
  | nil => contradiction
  | cons b all ih =>
      by_cases hb : word b = word a
      · rw [hword hb]
        simp
      · have ha' : a ∈ all := (List.mem_cons.1 ha).resolve_left fun hab => hb (by rw [hab])
        simp [hb, ih ha']

/-- An option is read back where null stands for no value. -/
theorem asOption?_ofOption {encode : α → Json} {decode : Json → Option α}
    (h : ∀ a, decode (encode a) = some a) (hnull : ∀ a, encode a ≠ .null) (o : Option α) :
    asOption? decode (ofOption encode o) = some o := by
  cases o with
  | none => rfl
  | some a =>
      rw [ofOption, asOption?]
      · rw [h a, Option.map_some]
      · exact hnull a

theorem asOption?_ofText (o : Option String) :
    asOption? asText? (ofOption .text o) = some o :=
  asOption?_ofOption asText?_text (by simp) o

theorem asOption?_ofUInt64 (o : Option UInt64) :
    asOption? asUInt64? (ofOption ofUInt64 o) = some o :=
  asOption?_ofOption asUInt64?_ofUInt64 (by simp [ofUInt64]) o

theorem ofOption_eq_null_iff {encode : α → Json} (hnull : ∀ a, encode a ≠ .null) (o : Option α) :
    ofOption encode o = .null ↔ o = none := by
  cases o with
  | none => simp [ofOption]
  | some a => simp [ofOption, hnull a]

/-- A list is read back in its order. -/
theorem asList?_map {encode : α → Json} {decode : Json → Option α}
    (h : ∀ a, decode (encode a) = some a) (l : List α) :
    asList? decode (.list (l.map encode)) = some l := by
  rw [asList?]
  induction l with
  | nil => rfl
  | cons a l ih => simp [h, ih]

/-! ## Records -/

section

variable {fields : List (String × Json)} {name : String} {decode : Json → Option α} {j : Json}

/-- A reader finds every field it asks for and gives `a`. -/
def Reads (fields : List (String × Json)) (read : FieldReader α) (a : α) : Prop :=
  read (.named fields) = some (a, .named fields)

theorem Reads.pure (a : α) : Reads fields (Pure.pure a) a := rfl

theorem Reads.required {read : α → FieldReader β} {a : α} {b : β}
    (hj : fields.lookup name = some j) (ha : decode j = some a) (hb : Reads fields (read a) b) :
    Reads fields (required name decode >>= read) b := by
  have hfield : Json.required name decode (.named fields) = some (a, .named fields) := by
    simp [Json.required, hj, ha]
  show (Json.required name decode (.named fields)).bind _ = _
  rw [hfield]
  exact hb

theorem Reads.optional {read : Option α → FieldReader β} {o : Option α} {b : β}
    (hj : fields.lookup name = some j) (ho : asOption? decode j = some o)
    (hb : Reads fields (read o) b) : Reads fields (optional name decode >>= read) b := by
  have hfield : Json.optional name decode (.named fields) = some (o, .named fields) := by
    simp [Json.optional, hj, ho]
  show (Json.optional name decode (.named fields)).bind _ = _
  rw [hfield]
  exact hb

/-- What a field would be by default does not count where it was found. -/
theorem Reads.defaulted {fallback : α} {read : α → FieldReader β} {a : α} {b : β}
    (hj : fields.lookup name = some j) (ha : decode j = some a) (hb : Reads fields (read a) b) :
    Reads fields (defaulted name fallback decode >>= read) b := by
  have hfield : Json.defaulted name fallback decode (.named fields) = some (a, .named fields) := by
    simp [Json.defaulted, hj, ha]
  show (Json.defaulted name fallback decode (.named fields)).bind _ = _
  rw [hfield]
  exact hb

theorem Reads.asRecord? {dialect : Dialect} {read : FieldReader α} {a : α}
    (h : Reads fields read a) : asRecord? dialect read (.record fields) = some a := by
  rw [Json.asRecord?, h, Option.map_some]

/-- The tag names the variant, which is read from the fields beside it. -/
theorem asTagged?_cons {tag kind : String} (variant : String → Json → Option α)
    (h : ∀ field ∈ fields, field.1 ≠ tag) :
    asTagged? tag variant (.record ((tag, .text kind) :: fields)) =
      variant kind (.record fields) := by
  have hfilter : fields.filter (·.1 != tag) = fields :=
    List.filter_eq_self.2 fun field hfield => by simpa using h field hfield
  simp [asTagged?, hfilter]

end

end Json

/-! ## Money -/

theorem Money.ofJson?_toJson (m : Money) : Money.ofJson? m.toJson = some m :=
  Reads.asRecord? <|
    .required rfl m.value.ofJson?_toJson <|
    .required rfl m.currency.ofJson?_toJson <|
    .pure m

theorem Money.toJson_ne_null (m : Money) : m.toJson ≠ .null := by simp [Money.toJson]

theorem Money.asOption?_ofOption (m : Option Money) :
    asOption? Money.ofJson? (ofOption Money.toJson m) = some m :=
  Json.asOption?_ofOption Money.ofJson?_toJson Money.toJson_ne_null m

/-! ## Accounts -/

theorem Wallet.ofJson?_fields (a : Wallet) : Wallet.ofJson? (.record a.fields) = some a :=
  Reads.asRecord? <|
    .required rfl (asText?_text a.label) <|
    .required rfl a.asset.ofJson?_toJson <|
    .optional rfl (asOption?_ofText a.address) <|
    .required rfl a.balance.ofJson?_toJson <|
    .pure a

theorem BankAccount.ofJson?_fields (a : BankAccount) :
    BankAccount.ofJson? (.record a.fields) = some a :=
  Reads.asRecord? <|
    .required rfl (asText?_text a.id) <|
    .required rfl (asText?_text a.label) <|
    .required rfl (asText?_text a.accountNumber) <|
    .required rfl (asText?_text a.accountType) <|
    .required rfl a.currency.ofJson?_toJson <|
    .pure a

theorem FiatAccount.ofJson?_fields (a : FiatAccount) :
    FiatAccount.ofJson? (.record a.fields) = some a :=
  Reads.asRecord? <|
    .required rfl (asText?_text a.label) <|
    .required rfl a.currency.ofJson?_toJson <|
    .required rfl a.balance.ofJson?_toJson <|
    .pure a

/-- An account of any kind is read back. -/
theorem Account.ofJson?_toJson (a : Account) : Account.ofJson? a.toJson = some a := by
  cases a with
  | wallet a =>
      rw [Account.ofJson?, Account.toJson, asTagged?_cons _ (by simp [Wallet.fields])]
      simp [a.ofJson?_fields]
  | bank a =>
      rw [Account.ofJson?, Account.toJson, asTagged?_cons _ (by simp [BankAccount.fields])]
      simp [a.ofJson?_fields]
  | fiat a =>
      rw [Account.ofJson?, Account.toJson, asTagged?_cons _ (by simp [FiatAccount.fields])]
      simp [a.ofJson?_fields]

/-! ## Words -/

theorem BankPartner.ofJson?_toJson (dialect : Dialect) (p : BankPartner) :
    BankPartner.ofJson? dialect p.toJson = some p :=
  asWord?_word dialect (fun _ _ _ => rfl) (List.mem_singleton.2 rfl)

theorem TransferAction.ofJson?_toJson (dialect : Dialect) (a : TransferAction) :
    TransferAction.ofJson? dialect a.toJson = some a :=
  asWord?_word dialect (fun a b h => by cases a <;> cases b <;> simp_all [word])
    (by cases a <;> simp [all])

theorem FeeLevel.ofJson?_toJson (l : FeeLevel) : FeeLevel.ofJson? l.toJson = some l :=
  asWord?_word .json (fun a b h => by cases a <;> cases b <;> simp_all [word])
    (by cases l <;> simp [all])

theorem Verdict.ofJson?_toJson (v : Verdict) : Verdict.ofJson? v.toJson = some v :=
  asWord?_word .json (fun a b h => by cases a <;> cases b <;> simp_all [dataWord])
    (by cases v <;> simp [all])

theorem Stage.ofJson?_toJson (s : Stage) : Stage.ofJson? s.toJson = some s :=
  asWord?_word .json (fun a b h => by cases a <;> cases b <;> simp_all [word])
    (by cases s <;> simp [all])

theorem DelayStrategy.ofJson?_toJson (dialect : Dialect) (s : DelayStrategy) :
    DelayStrategy.ofJson? dialect s.toJson = some s :=
  asWord?_word dialect (fun a b h => by cases a <;> cases b <;> simp_all [word])
    (by cases s <;> simp)

/-! ## Answers of the custodian -/

theorem TransferLimits.ofJson?_toJson (l : TransferLimits) :
    TransferLimits.ofJson? l.toJson = some l :=
  Reads.asRecord? <|
    .required rfl l.min.ofJson?_toJson <|
    .optional rfl (Money.asOption?_ofOption l.max) <|
    .pure l

theorem Charge.ofJson?_toJson (c : Charge) : Charge.ofJson? c.toJson = some c :=
  Reads.asRecord? <|
    .required rfl (asText?_text c.paymentId) <|
    .required rfl (asText?_text c.linkedBankId) <|
    .required rfl c.amount.ofJson?_toJson <|
    .optional rfl (asOption?_ofText c.authorisationUrl) <|
    .pure c

theorem LinkedBank.ofJson?_toJson (dialect : Dialect) (b : LinkedBank) :
    LinkedBank.ofJson? dialect b.toJson = some b :=
  Reads.asRecord? <|
    .required rfl (asText?_text b.id) <|
    .required rfl (asText?_text b.name) <|
    .required rfl (asText?_text b.accountNumber) <|
    .required rfl (asText?_text b.accountType) <|
    .required rfl b.currency.ofJson?_toJson <|
    .required rfl (b.partner.ofJson?_toJson dialect) <|
    .pure b

theorem Approval.ofJson?_fields (dialect : Dialect) (a : Approval) :
    Approval.ofJson? dialect (.record a.fields) = some a :=
  Reads.asRecord? <|
    .required rfl (asText?_text a.paymentId) <|
    .required rfl (asText?_text a.authorisationUrl) <|
    .required rfl (a.linkedBank.ofJson?_toJson dialect) <|
    .required rfl a.amount.ofJson?_toJson <|
    .pure a

/-! ## Transfers -/

theorem FeeSelection.ofJson?_toJson (s : FeeSelection) :
    FeeSelection.ofJson? s.toJson = some s :=
  Reads.asRecord? <|
    .required rfl s.selected.ofJson?_toJson <|
    .required rfl (asList?_map FeeLevel.ofJson?_toJson s.available) <|
    .optional rfl (asOption?_ofUInt64 s.customAmount) <|
    .pure s

/-- The name of each kind of limit is a word of its own. -/
theorem Limit.asWord?_kind (kind : String) (h : kind ∈ kinds) :
    asWord? .json kinds id (.text kind) = some kind :=
  asWord?_word .json Function.injective_id h

/-- A limit is written with its value beside the kind, if it has one. -/
theorem Limit.ofJson?_toJson (l : Limit) : Limit.ofJson? l.toJson = some l := by
  cases l with
  | unknown =>
      have hkind := asWord?_kind "unknown" (by simp [kinds])
      simp [Limit.ofJson?, Limit.toJson, List.lookup_cons, hkind, ofParts?]
  | unbounded =>
      have hkind := asWord?_kind "unbounded" (by simp [kinds])
      simp [Limit.ofJson?, Limit.toJson, List.lookup_cons, hkind, ofParts?]
  | limited bound =>
      have hkind := asWord?_kind "limited" (by simp [kinds])
      simp [Limit.ofJson?, Limit.toJson, List.lookup_cons, hkind, ofParts?, bound.ofJson?_toJson]

/-- Each line of a summary is read back from the fields beside its type. -/
theorem Confirmation.ofJson?_toJson (c : Confirmation) :
    Confirmation.ofJson? c.toJson = some c := by
  cases c with
  | paymentMethod label accountNumber accountType action =>
      rw [Confirmation.ofJson?, Confirmation.toJson, asTagged?_cons _ (by simp)]
      exact Reads.asRecord? <|
        .required rfl (asText?_text label) <|
        .required rfl (asText?_text accountNumber) <|
        .required rfl (asText?_text accountType) <|
        .required rfl (action.ofJson?_toJson .tagged) <|
        .pure (paymentMethod label accountNumber accountType action)
  | source label =>
      rw [Confirmation.ofJson?, Confirmation.toJson, asTagged?_cons _ (by simp)]
      exact Reads.asRecord? <| .required rfl (asText?_text label) <| .pure (source label)
  | target label action =>
      rw [Confirmation.ofJson?, Confirmation.toJson, asTagged?_cons _ (by simp)]
      exact Reads.asRecord? <|
        .required rfl (asText?_text label) <|
        .required rfl (action.ofJson?_toJson .tagged) <|
        .pure (target label action)
  | estimatedCompletion =>
      rw [Confirmation.ofJson?, Confirmation.toJson, asTagged?_cons _ (by simp)]
      rfl
  | fee charged =>
      rw [Confirmation.ofJson?, Confirmation.toJson, asTagged?_cons _ (by simp)]
      exact Reads.asRecord? <| .required rfl charged.ofJson?_toJson <| .pure (fee charged)
  | amount moved isImportant =>
      rw [Confirmation.ofJson?, Confirmation.toJson, asTagged?_cons _ (by simp)]
      exact Reads.asRecord? <|
        .required rfl moved.ofJson?_toJson <|
        .required rfl (asBool?_bool isImportant) <|
        .pure (amount moved isImportant)
  | total sum =>
      rw [Confirmation.ofJson?, Confirmation.toJson, asTagged?_cons _ (by simp)]
      exact Reads.asRecord? <| .required rfl sum.ofJson?_toJson <| .pure (total sum)

theorem TransferResult.ofJson?_toJson (r : TransferResult) :
    TransferResult.ofJson? r.toJson = some r := by
  cases r with
  | payment id amount =>
      rw [TransferResult.ofJson?, TransferResult.toJson, asTagged?_cons _ (by simp)]
      exact Reads.asRecord? <|
        .required rfl (asText?_text id) <|
        .required rfl amount.ofJson?_toJson <|
        .pure (payment id amount)
  | order id amount =>
      rw [TransferResult.ofJson?, TransferResult.toJson, asTagged?_cons _ (by simp)]
      exact Reads.asRecord? <|
        .required rfl (asText?_text id) <|
        .required rfl amount.ofJson?_toJson <|
        .pure (order id amount)

/-- The fields of an approval stand beside the type. -/
theorem FollowUp.ofJson?_toJson (f : FollowUp) : FollowUp.ofJson? f.toJson = some f := by
  cases f with
  | completed =>
      rw [FollowUp.ofJson?, FollowUp.toJson, asTagged?_cons _ (by simp)]
      rfl
  | needsApproval approval =>
      rw [FollowUp.ofJson?, FollowUp.toJson, asTagged?_cons _ (by simp [Approval.fields])]
      simp [approval.ofJson?_fields .tagged]

theorem Pending.ofJson?_toJson (p : Pending) : Pending.ofJson? p.toJson = some p :=
  Reads.asRecord? <|
    .required rfl p.amount.ofJson?_toJson <|
    .required rfl p.totalBalance.ofJson?_toJson <|
    .required rfl p.availableBalance.ofJson?_toJson <|
    .required rfl p.feeForFullAvailable.ofJson?_toJson <|
    .required rfl p.feeAmount.ofJson?_toJson <|
    .required rfl p.selectedFiat.ofJson?_toJson <|
    .required rfl p.minLimit.ofJson?_toJson <|
    .required rfl p.maxLimit.ofJson?_toJson <|
    .required rfl p.feeSelection.ofJson?_toJson <|
    .required rfl p.verdict.ofJson?_toJson <|
    .required rfl (asList?_map Confirmation.ofJson?_toJson p.confirmations) <|
    .required rfl p.stage.ofJson?_toJson <|
    .pure p

/-! ## Configuration -/

theorem PollConfig.ofJson?_toJson (dialect : Dialect) (c : PollConfig) :
    PollConfig.ofJson? dialect c.toJson = some c := by
  rw [PollConfig.ofJson?, PollConfig.toJson]
  exact Reads.asRecord? <|
    .defaulted rfl (asUInt32?_ofUInt32 c.maxAttempts) <|
    .defaulted rfl (asUInt64?_ofUInt64 c.intervalMs) <|
    .defaulted rfl (c.strategy.ofJson?_toJson dialect) <|
    .defaulted rfl (asUInt64?_ofUInt64 c.maxIntervalMs) <|
    .defaulted rfl (asOption?_ofUInt64 c.timeoutSecs) <|
    .pure c

theorem TimeoutConfig.ofJson?_toJson (dialect : Dialect) (c : TimeoutConfig) :
    TimeoutConfig.ofJson? dialect c.toJson = some c := by
  rw [TimeoutConfig.ofJson?, TimeoutConfig.toJson]
  exact Reads.asRecord? <|
    .defaulted rfl (asUInt64?_ofUInt64 c.limitsSecs) <|
    .defaulted rfl (asUInt64?_ofUInt64 c.submissionSecs) <|
    .defaulted rfl (asUInt64?_ofUInt64 c.lookupSecs) <|
    .pure c

theorem BankingConfig.ofJson?_toJson (dialect : Dialect) (c : BankingConfig) :
    BankingConfig.ofJson? dialect c.toJson = some c := by
  rw [BankingConfig.ofJson?, BankingConfig.toJson]
  exact Reads.asRecord? <| .defaulted rfl (asText?_text c.callbackBaseUrl) <| .pure c

theorem ObservabilityConfig.ofJson?_toJson (dialect : Dialect) (c : ObservabilityConfig) :
    ObservabilityConfig.ofJson? dialect c.toJson = some c := by
  rw [ObservabilityConfig.ofJson?, ObservabilityConfig.toJson]
  exact Reads.asRecord? <|
    .defaulted rfl (asText?_text c.logLevel) <|
    .defaulted rfl (asBool?_bool c.withTarget) <|
    .pure c

/-- A configuration is read back from any format it may stand in. -/
theorem Config.ofJson?_toJson (dialect : Dialect) (c : Config) :
    Config.ofJson? dialect c.toJson = some c :=
  Reads.asRecord? <|
    .defaulted rfl (c.poll.ofJson?_toJson dialect) <|
    .defaulted rfl (c.timeouts.ofJson?_toJson dialect) <|
    .defaulted rfl (c.banking.ofJson?_toJson dialect) <|
    .defaulted rfl (c.observability.ofJson?_toJson dialect) <|
    .pure c

/-! ## Options -/

/-- The field under the name of an option is null exactly where the option is absent. -/
theorem WritesOption.of_field {encode : α → Json} {name : String} {option : α → Option β}
    (part : β → Json) (hnull : ∀ b, part b ≠ .null)
    (hfield : ∀ a, (encode a).field? name = some (ofOption part (option a))) :
    WritesOption encode name option :=
  fun a => ⟨_, hfield a, ofOption_eq_null_iff hnull (option a)⟩

theorem Account.writesOption_address :
    WritesOption (fun a : Wallet => (Account.wallet a).toJson) "address" Wallet.address :=
  .of_field .text (by simp) fun _ => rfl

theorem TransferLimits.writesOption_max :
    WritesOption TransferLimits.toJson "max" TransferLimits.max :=
  .of_field Money.toJson Money.toJson_ne_null fun _ => rfl

theorem Charge.writesOption_authorisationUrl :
    WritesOption Charge.toJson "authorisation_url" Charge.authorisationUrl :=
  .of_field .text (by simp) fun _ => rfl

theorem FeeSelection.writesOption_customAmount :
    WritesOption FeeSelection.toJson "custom_amount" FeeSelection.customAmount :=
  .of_field ofUInt64 (by simp [ofUInt64]) fun _ => rfl

theorem PollConfig.writesOption_timeoutSecs :
    WritesOption PollConfig.toJson "timeout_secs" PollConfig.timeoutSecs :=
  .of_field ofUInt64 (by simp [ofUInt64]) fun _ => rfl

/-! ## All data -/

/-- **Nothing is lost in exchange**: every transfer, account, line of a summary, limit,
answer of the custodian, result and configuration is read back from the form it is
written in as the very same value, so with the scale of each decimal, the variant of
each choice and the order of each list.  Whatever else was read is so from then on.
An option is always written, as null where it is absent. -/
theorem exchanged_faithfully :
    (Faithful Pending.toJson Pending.ofJson? ∧
      Faithful Account.toJson Account.ofJson? ∧
      Faithful Confirmation.toJson Confirmation.ofJson? ∧
      Faithful Limit.toJson Limit.ofJson? ∧
      Faithful TransferLimits.toJson TransferLimits.ofJson? ∧
      Faithful Charge.toJson Charge.ofJson? ∧
      Faithful TransferResult.toJson TransferResult.ofJson? ∧
      Faithful FollowUp.toJson FollowUp.ofJson? ∧
      ∀ dialect, Faithful Config.toJson (Config.ofJson? dialect)) ∧
    WritesOption (fun a : Wallet => (Account.wallet a).toJson) "address" Wallet.address ∧
    WritesOption TransferLimits.toJson "max" TransferLimits.max ∧
    WritesOption Charge.toJson "authorisation_url" Charge.authorisationUrl ∧
    WritesOption FeeSelection.toJson "custom_amount" FeeSelection.customAmount ∧
    WritesOption PollConfig.toJson "timeout_secs" PollConfig.timeoutSecs := by
  refine ⟨⟨.of_read_back Pending.ofJson?_toJson, .of_read_back Account.ofJson?_toJson,
    .of_read_back Confirmation.ofJson?_toJson, .of_read_back Limit.ofJson?_toJson,
    .of_read_back TransferLimits.ofJson?_toJson, .of_read_back Charge.ofJson?_toJson,
    .of_read_back TransferResult.ofJson?_toJson, .of_read_back FollowUp.ofJson?_toJson,
    fun dialect => .of_read_back (Config.ofJson?_toJson dialect)⟩, ?_⟩
  exact ⟨Account.writesOption_address, TransferLimits.writesOption_max,
    Charge.writesOption_authorisationUrl, FeeSelection.writesOption_customAmount,
    PollConfig.writesOption_timeoutSecs⟩

example : (PollConfig.ofJson? .json (.record [])).map (·.timeoutSecs) = some (some 150) := rfl

example : (PollConfig.ofJson? .json (.record [("timeout_secs", .null)])).map (·.timeoutSecs) =
    some none := rfl

end FiatRamp
