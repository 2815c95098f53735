import FiatRamp.Config.File
import FiatRamp.Proofs.FileText
import FiatRamp.Proofs.Readiness
import FiatRamp.Proofs.RoundTrip

/-!
# FiatRamp.Proofs.Expressible

Which configurations a file can describe.

Every setting has a place in a file, and one that is missing has its default.
TOML has no null, so of an option that is present by default a file can only say
another value.  The deadline of a session is such an option:

* `Config.parse_fileText`: the file with all settings of a configuration is read
  with them, and with the default deadline where there is none;
* `Config.timeoutSecs_ne_none_of_parse`: whatever a file says, sessions have a
  deadline;
* `Config.described_iff_deadline`: so a valid configuration can be described if
  its sessions have one, and only then.
-/

namespace FiatRamp

/-! ## What files hold -/

namespace Json

/-- A value that stands in a configuration file. -/
def IsFiled (j : Json) : Prop := ∃ v : Toml.Value, v.toJson = j

theorem IsFiled.ne_null {j : Json} (h : j.IsFiled) : j ≠ .null := by
  obtain ⟨v, rfl⟩ := h
  exact v.toJson_ne_null

/-- All the values of a record that is decoded stand in a configuration file. -/
def Fields.IsFiled : Fields → Prop
  | .named fields => ∀ field ∈ fields, field.2.IsFiled
  | .inOrder items => ∀ item ∈ items, item.IsFiled

theorem isFiled_of_mem_listToJson {items : List Toml.Value} {j : Json}
    (h : j ∈ Toml.listToJson items) : j.IsFiled := by
  induction items with
  | nil => simp [Toml.listToJson] at h
  | cons item items ih =>
      rcases List.mem_cons.1 h with rfl | hrest
      · exact ⟨item, rfl⟩
      · exact ih hrest

theorem isFiled_of_mem_fieldsToJson {fields : List (String × Toml.Value)} {field : String × Json}
    (h : field ∈ Toml.fieldsToJson fields) : field.2.IsFiled := by
  induction fields with
  | nil => simp [Toml.fieldsToJson] at h
  | cons first fields ih =>
      rcases List.mem_cons.1 h with rfl | hrest
      · exact ⟨first.2, rfl⟩
      · exact ih hrest

variable {α β : Type} {fields rest : Fields} {a : α} {b : β}

/-- What is decoded beside the fields that remain. -/
theorem of_decoded {decode : Json → Option α} {j : Json} {between : Fields}
    (h : (do return (← decode j, between)) = some (a, rest)) :
    decode j = some a ∧ between = rest := by
  obtain ⟨a, hdecode, heq⟩ := Option.bind_eq_some_iff.1 h
  obtain ⟨rfl, rfl⟩ := Prod.mk.inj (Option.some.inj heq)
  exact ⟨hdecode, rfl⟩

/-- A field has its fallback, or what a value in the file stands for. -/
theorem of_defaulted {name : String} {fallback : α} {decode : Json → Option α}
    (hfields : fields.IsFiled) (h : defaulted name fallback decode fields = some (a, rest)) :
    rest.IsFiled ∧ (a = fallback ∨ ∃ j, j.IsFiled ∧ decode j = some a) := by
  cases fields with
  | named fields =>
      cases hlookup : fields.lookup name with
      | none =>
          simp only [defaulted, hlookup, Option.some.injEq, Prod.mk.injEq] at h
          obtain ⟨rfl, rfl⟩ := h
          exact ⟨hfields, .inl rfl⟩
      | some j =>
          simp only [defaulted, hlookup] at h
          obtain ⟨hdecode, rfl⟩ := of_decoded h
          obtain ⟨before, behind, rfl, -⟩ := List.lookup_eq_some_iff.1 hlookup
          exact ⟨hfields, .inr ⟨j, hfields (name, j) (by simp), hdecode⟩⟩
  | inOrder items =>
      cases items with
      | nil =>
          simp only [defaulted, Option.some.injEq, Prod.mk.injEq] at h
          obtain ⟨rfl, rfl⟩ := h
          exact ⟨hfields, .inl rfl⟩
      | cons item items =>
          obtain ⟨hdecode, rfl⟩ := of_decoded h
          obtain ⟨hitem, hitems⟩ := List.forall_mem_cons.1 hfields
          exact ⟨hitems, .inr ⟨item, hitem, hdecode⟩⟩

/-- The first of several fields. -/
theorem exists_of_defaulted {name : String} {fallback : α} {decode : Json → Option α}
    {next : α → FieldReader β} (hfields : fields.IsFiled)
    (h : (defaulted name fallback decode >>= next) fields = some (b, rest)) :
    ∃ a between, between.IsFiled ∧ (a = fallback ∨ ∃ j, j.IsFiled ∧ decode j = some a) ∧
      next a between = some (b, rest) := by
  obtain ⟨⟨a, between⟩, hfirst, hnext⟩ := Option.bind_eq_some_iff.1 h
  obtain ⟨hbetween, ha⟩ := of_defaulted hfields hfirst
  exact ⟨a, between, hbetween, ha, hnext⟩

/-- A record in a file is read from values in the file. -/
theorem of_asRecord? {dialect : Dialect} {read : FieldReader α} {j : Json} (hj : j.IsFiled)
    (h : asRecord? dialect read j = some a) :
    ∃ fields rest, fields.IsFiled ∧ read fields = some (a, rest) := by
  obtain ⟨v, rfl⟩ := hj
  cases v with
  | date written =>
      have hfields : Fields.IsFiled (.named [(Toml.dateField, .text written)]) := fun field h => by
        obtain rfl := List.mem_singleton.1 h
        exact ⟨.text written, rfl⟩
      obtain ⟨⟨a, rest⟩, hread, rfl⟩ := Option.map_eq_some_iff.1 h
      exact ⟨_, rest, hfields, hread⟩
  | list items =>
      have hfields : Fields.IsFiled (.inOrder (Toml.listToJson items)) := fun item hitem =>
        isFiled_of_mem_listToJson hitem
      simp only [Toml.Value.toJson, asRecord?] at h
      obtain ⟨⟨a', rest⟩, hread, ha⟩ := Option.bind_eq_some_iff.1 h
      have heq : a' = a := by
        split at ha
        · next heq => cases heq; simp_all
        · next heq => cases heq; simp_all
      exact ⟨_, rest, hfields, heq ▸ hread⟩
  | table fields =>
      have hfields : Fields.IsFiled (.named (Toml.fieldsToJson fields)) := fun field hfield =>
        isFiled_of_mem_fieldsToJson hfield
      obtain ⟨⟨a, rest⟩, hread, rfl⟩ := Option.map_eq_some_iff.1 h
      exact ⟨_, rest, hfields, hread⟩
  | _ => simp [Toml.Value.toJson, asRecord?] at h

/-- Where there is no null, an option is present. -/
theorem ne_none_of_asOption? {decode : Json → Option α} {j : Json} {o : Option α}
    (hj : j.IsFiled) (h : asOption? decode j = some o) : o ≠ none := by
  cases j with
  | null => exact absurd rfl hj.ne_null
  | _ =>
      rintro rfl
      simp [asOption?] at h

end Json

/-- A field that is not written has its fallback. -/
theorem Json.Reads.absent {α β : Type} {fields : List (String × Json)} {name : String}
    {fallback : α} {decode : Json → Option α} {read : α → FieldReader β} {b : β}
    (h : fields.lookup name = none) (hb : Reads fields (read fallback) b) :
    Reads fields (Json.defaulted name fallback decode >>= read) b := by
  have hfield : Json.defaulted name fallback decode (.named fields) =
      some (fallback, .named fields) := by
    simp [Json.defaulted, h]
  show (Json.defaulted name fallback decode (.named fields)).bind _ = _
  rw [hfield]
  exact hb

open Json

/-! ## Settings in a file -/

def PollConfig.block (c : PollConfig) : Toml.Block where
  name := "poll"
  fields :=
    [("max_attempts", .integer c.maxAttempts.toNat), ("interval_ms", .integer c.intervalMs.toNat),
      ("strategy", .text c.strategy.word), ("max_interval_ms", .integer c.maxIntervalMs.toNat)] ++
      c.timeoutSecs.toList.map fun secs => ("timeout_secs", .integer secs.toNat)

theorem PollConfig.isPlain_block {c : PollConfig} (hattempts : c.maxAttempts.toNat < 2 ^ 63)
    (hinterval : c.intervalMs.toNat < 2 ^ 63) (hcap : c.maxIntervalMs.toNat < 2 ^ 63)
    (htimeout : ∀ secs ∈ c.timeoutSecs, secs.toNat < 2 ^ 63) : c.block.IsPlain := by
  have hnames : c.block.fields.map Prod.fst =
      ["max_attempts", "interval_ms", "strategy", "max_interval_ms"] ++
        c.timeoutSecs.toList.map fun _ => "timeout_secs" := by
    simp [block, Function.comp_def]
  refine .of_names "poll" _ rfl hnames ?_ ?_
  · cases c.timeoutSecs with
    | none => decide
    | some secs => simp only [Option.toList, List.map_cons, List.map_nil]; decide
  · simp only [block, List.forall_mem_append, List.forall_mem_cons, List.forall_mem_map]
    exact ⟨⟨hattempts, hinterval, trivial, hcap, by simp⟩, fun secs hsecs =>
      htimeout secs (Option.mem_toList.1 hsecs)⟩

def TimeoutConfig.block (c : TimeoutConfig) : Toml.Block where
  name := "timeouts"
  fields := [("limits_secs", .integer c.limitsSecs.toNat),
    ("submission_secs", .integer c.submissionSecs.toNat),
    ("lookup_secs", .integer c.lookupSecs.toNat)]

def BankingConfig.block (c : BankingConfig) : Toml.Block where
  name := "banking"
  fields := [("callback_base_url", .text c.callbackBaseUrl)]

def ObservabilityConfig.block (c : ObservabilityConfig) : Toml.Block where
  name := "observability"
  fields := [("log_level", .text c.logLevel), ("with_target", .bool c.withTarget)]

namespace Config

variable {c : Config} {text : String}

/-- All settings, an option only where it is present. -/
def blocks (c : Config) : List Toml.Block :=
  [c.poll.block, c.timeouts.block, c.banking.block, c.observability.block]

/-- A file with all settings. -/
def fileText (c : Config) : String :=
  .ofList ((c.blocks.flatMap Toml.Block.rows).flatMap Toml.Row.toChars)

/-- The whole numbers of a configuration. -/
def wholeNumbers (c : Config) : List Nat :=
  [c.poll.maxAttempts.toNat, c.poll.intervalMs.toNat, c.poll.maxIntervalMs.toNat] ++
    c.poll.timeoutSecs.toList.map UInt64.toNat ++
    [c.timeouts.limitsSecs.toNat, c.timeouts.submissionSecs.toNat, c.timeouts.lookupSecs.toNat]

/-- Its whole numbers are such as a file can hold. -/
def Fits (c : Config) : Prop := ∀ n ∈ c.wholeNumbers, n < 2 ^ 63

instance (c : Config) : Decidable c.Fits := inferInstanceAs (Decidable (∀ n ∈ c.wholeNumbers, _))

theorem isPlain_of_mem_blocks (h : c.Fits) {b : Toml.Block} (hb : b ∈ c.blocks) : b.IsPlain := by
  simp only [Fits, wholeNumbers, List.forall_mem_append, List.forall_mem_cons] at h
  obtain ⟨⟨⟨hattempts, hinterval, hcap, -⟩, htimeout⟩, hlimits, hsubmission, hlookup, -⟩ := h
  simp only [blocks, List.mem_cons, List.not_mem_nil, or_false] at hb
  rcases hb with rfl | rfl | rfl | rfl
  · exact PollConfig.isPlain_block hattempts hinterval hcap (by simpa using htimeout)
  · refine .of_names "timeouts" ["limits_secs", "submission_secs", "lookup_secs"] rfl rfl
      (by decide) ?_
    simp only [TimeoutConfig.block, List.forall_mem_cons]
    exact ⟨hlimits, hsubmission, hlookup, by simp⟩
  · refine .of_names "banking" ["callback_base_url"] rfl rfl (by decide) ?_
    simp [BankingConfig.block, Toml.Scalar.Fits]
  · refine .of_names "observability" ["log_level", "with_target"] rfl rfl (by decide) ?_
    simp [ObservabilityConfig.block, Toml.Scalar.Fits]

theorem nodup_blocks (c : Config) : (c.blocks.map Toml.Block.name).Nodup := by
  show ["poll", "timeouts", "banking", "observability"].Nodup
  decide

end Config

/-- The session has the deadline it has by default if it has none. -/
def PollConfig.withDeadline (c : PollConfig) : PollConfig :=
  { c with timeoutSecs := c.timeoutSecs <|> ({} : PollConfig).timeoutSecs }

theorem PollConfig.toJson_block (c : PollConfig) :
    c.block.toValue.toJson =
      .record ([("max_attempts", ofUInt32 c.maxAttempts), ("interval_ms", ofUInt64 c.intervalMs),
        ("strategy", c.strategy.toJson), ("max_interval_ms", ofUInt64 c.maxIntervalMs)] ++
        c.timeoutSecs.toList.map fun secs => ("timeout_secs", ofUInt64 secs)) := by
  obtain ⟨maxAttempts, intervalMs, strategy, maxIntervalMs, timeoutSecs⟩ := c
  cases timeoutSecs <;> rfl

theorem PollConfig.ofJson?_block (c : PollConfig) :
    PollConfig.ofJson? .file c.block.toValue.toJson = some c.withDeadline := by
  rw [PollConfig.toJson_block]
  obtain ⟨maxAttempts, intervalMs, strategy, maxIntervalMs, timeoutSecs⟩ := c
  cases timeoutSecs with
  | none =>
      rw [PollConfig.ofJson?]
      exact Reads.asRecord? <|
        .defaulted rfl (asUInt32?_ofUInt32 maxAttempts) <|
        .defaulted rfl (asUInt64?_ofUInt64 intervalMs) <|
        .defaulted rfl (strategy.ofJson?_toJson .file) <|
        .defaulted rfl (asUInt64?_ofUInt64 maxIntervalMs) <|
        .absent rfl <|
        .pure _
  | some secs => exact PollConfig.ofJson?_toJson .file ⟨_, _, _, _, some secs⟩

def Config.withDeadline (c : Config) : Config := { c with poll := c.poll.withDeadline }

theorem Config.ofJson?_blocks (c : Config) :
    Config.ofJson? .file (Toml.Value.table (c.blocks.map fun b => (b.name, b.toValue))).toJson =
      some c.withDeadline :=
  Reads.asRecord? <|
    .defaulted rfl c.poll.ofJson?_block <|
    .defaulted rfl (c.timeouts.ofJson?_toJson .file) <|
    .defaulted rfl (c.banking.ofJson?_toJson .file) <|
    .defaulted rfl (c.observability.ofJson?_toJson .file) <|
    .pure _

/-! ## Sessions without a deadline -/

variable {c : Config} {text : String}

/-- Whatever a table in a file says, it gives a session a deadline. -/
theorem PollConfig.timeoutSecs_ne_none {poll : PollConfig} {j : Json} (hj : j.IsFiled)
    (h : PollConfig.ofJson? .file j = some poll) : poll.timeoutSecs ≠ none := by
  obtain ⟨fields, rest, hfields, h⟩ := of_asRecord? hj h
  obtain ⟨maxAttempts, fields, hfields, -, h⟩ := exists_of_defaulted hfields h
  obtain ⟨intervalMs, fields, hfields, -, h⟩ := exists_of_defaulted hfields h
  obtain ⟨strategy, fields, hfields, -, h⟩ := exists_of_defaulted hfields h
  obtain ⟨maxIntervalMs, fields, hfields, -, h⟩ := exists_of_defaulted hfields h
  obtain ⟨timeoutSecs, fields, -, htimeout, h⟩ := exists_of_defaulted hfields h
  obtain ⟨rfl, -⟩ := Prod.mk.inj (Option.some.inj h)
  rcases htimeout with rfl | ⟨j, hj, hdecode⟩
  · simp
  · exact ne_none_of_asOption? hj hdecode

theorem Config.timeoutSecs_ne_none {j : Json} (hj : j.IsFiled)
    (h : Config.ofJson? .file j = some c) : c.poll.timeoutSecs ≠ none := by
  obtain ⟨fields, rest, hfields, h⟩ := of_asRecord? hj h
  obtain ⟨poll, fields, hfields, hpoll, h⟩ := exists_of_defaulted hfields h
  obtain ⟨timeouts, fields, hfields, -, h⟩ := exists_of_defaulted hfields h
  obtain ⟨banking, fields, hfields, -, h⟩ := exists_of_defaulted hfields h
  obtain ⟨observability, fields, -, -, h⟩ := exists_of_defaulted hfields h
  obtain ⟨rfl, -⟩ := Prod.mk.inj (Option.some.inj h)
  rcases hpoll with rfl | ⟨j, hj, hdecode⟩
  · simp
  · exact PollConfig.timeoutSecs_ne_none hj hdecode

theorem Config.parse_eq_ok_iff :
    Config.parse text = .ok c ↔ Config.ofFileText? text = some c ∧ c.isValid = true := by
  unfold parse
  cases ofFileText? text with
  | none => simp
  | some d =>
      simp only [checked, isValid, Option.some.injEq]
      split <;> grind

/-- No file describes a configuration whose sessions have no deadline. -/
theorem Config.timeoutSecs_ne_none_of_parse (h : Config.parse text = .ok c) :
    c.poll.timeoutSecs ≠ none := by
  obtain ⟨hread, -⟩ := Config.parse_eq_ok_iff.1 h
  obtain ⟨v, -, hdecode⟩ := Option.bind_eq_some_iff.1 hread
  exact Config.timeoutSecs_ne_none ⟨v, rfl⟩ hdecode

/-! ## Files for configurations -/

theorem PollConfig.issues_withDeadline {poll : PollConfig} (h : poll.issues = []) :
    poll.withDeadline.issues = [] := by
  rw [PollConfig.issues_eq_nil_iff] at h ⊢
  obtain ⟨hattempts, hcap, htimeout⟩ := h
  refine ⟨hattempts, hcap, ?_⟩
  cases hsecs : poll.timeoutSecs with
  | none => simp [PollConfig.withDeadline, hsecs]
  | some secs => simpa [PollConfig.withDeadline, hsecs] using htimeout

theorem Config.isValid_withDeadline (h : c.isValid = true) : c.withDeadline.isValid = true := by
  rw [Config.isValid_iff] at h ⊢
  exact ⟨PollConfig.issues_withDeadline h.1, h.2⟩

theorem PollConfig.withDeadline_eq_self {poll : PollConfig} (h : poll.timeoutSecs ≠ none) :
    poll.withDeadline = poll := by
  obtain ⟨maxAttempts, intervalMs, strategy, maxIntervalMs, timeoutSecs⟩ := poll
  cases timeoutSecs with
  | none => contradiction
  | some secs => rfl

theorem Config.withDeadline_eq_self (h : c.poll.timeoutSecs ≠ none) : c.withDeadline = c := by
  rw [Config.withDeadline, PollConfig.withDeadline_eq_self h]

/-- The file with all settings is read with them, and with a deadline in any case. -/
theorem Config.parse_fileText (hvalid : c.isValid = true) (hfits : c.Fits) :
    Config.parse c.fileText = .ok c.withDeadline := by
  have hplain : ∀ b ∈ c.blocks, b.IsPlain := fun b hb => Config.isPlain_of_mem_blocks hfits hb
  have htext := Toml.Block.ofText?_toChars hplain c.nodup_blocks
  refine Config.parse_eq_ok_iff.2 ⟨?_, Config.isValid_withDeadline hvalid⟩
  rw [ofFileText?, fileText, htext, Option.bind_eq_bind, Option.bind_some, c.ofJson?_blocks]

/-- **A file describes a configuration if sessions have a deadline**, and only then. -/
theorem Config.described_iff_deadline (hvalid : c.isValid = true) (hfits : c.Fits) :
    (∃ text, Config.parse text = .ok c) ↔ c.poll.timeoutSecs ≠ none := by
  constructor
  · rintro ⟨text, h⟩
    exact Config.timeoutSecs_ne_none_of_parse h
  · intro h
    have hparse := Config.parse_fileText hvalid hfits
    rw [Config.withDeadline_eq_self h] at hparse
    exact ⟨c.fileText, hparse⟩

/-- Sessions that take their time. -/
def Sample.patient : Config where
  poll :=
    { strategy := .exponential
      maxIntervalMs := 3600000
      timeoutSecs := some 9223372036854775807 }
  banking := { callbackBaseUrl := "https://w.test/the \"bank\"?x=\t1" }

theorem Config.described_iff_deadline_patient :
    Sample.patient.isValid = true ∧ Sample.patient.Fits ∧
      ∃ text, Config.parse text = .ok Sample.patient := by
  have hvalid : Sample.patient.isValid = true := by decide +kernel
  have hfits : Sample.patient.Fits := by decide
  exact ⟨hvalid, hfits, (Config.described_iff_deadline hvalid hfits).2 (by decide)⟩

/-- Sessions that only end with their attempts. -/
def Sample.endless : Config where
  poll := { timeoutSecs := none }

/-- Sessions may have no deadline, but no file says so. -/
theorem Config.endless_not_described :
    Sample.endless.isValid = true ∧ Sample.endless.Fits ∧
      Sample.endless.poll.settings.timeout = none ∧
      ∀ text, Config.parse text ≠ .ok Sample.endless := by
  have hvalid : Sample.endless.isValid = true := by decide +kernel
  have hfits : Sample.endless.Fits := by decide
  exact ⟨hvalid, hfits, rfl, fun text h => Config.timeoutSecs_ne_none_of_parse h rfl⟩

end FiatRamp
