import FiatRamp.Config.Validation
import Mathlib.Tactic

/-!
# FiatRamp.Proofs.Readiness

What a configuration that passes its check can be relied on for.

The check and the maker of callbacks look at the base URL separately, and only
the second asks whether anything can be resolved against it.  They agree all the
same, since what follows the scheme of a URL with a host are slashes
(`RedirectBase.ofText_eq_ok_iff`).  Nothing else that is made from a checked
configuration has to be brought into bounds, and no wait is shorter than the
interval (`Config.works_of_isValid`).
-/

namespace FiatRamp

/-! ## The base of callbacks -/

/-- Slashes follow the scheme of a URL with a host. -/
theorem Url.cannotBeBase_of_hasHost {url : Url} (h : url.hasHost = true) :
    url.cannotBeBase = false := by
  unfold hasHost at h
  unfold cannotBeBase authorityToChars
  cases hhost : url.host with
  | none => simp [hhost] at h
  | some host => rfl

/-- A base is a URL of the web with a host. -/
theorem RedirectBase.ofText_eq_ok_iff {raw : String} {base : RedirectBase} :
    ofText raw = .ok base ↔
      Url.ofText raw = .ok base.url ∧ base.url.isHttp = true ∧ base.url.hasHost = true := by
  unfold ofText
  cases Url.ofText raw with
  | error cause => simp
  | ok url =>
      obtain ⟨own⟩ := base
      simp only [Except.ok.injEq]
      constructor
      · intro h
        split at h
        · cases h
        · next hsuits =>
            cases h
            simp only [Bool.or_eq_true, Bool.not_eq_true', not_or, Bool.not_eq_false] at hsuits
            exact ⟨rfl, hsuits.1⟩
      · rintro ⟨rfl, hhttp, hhost⟩
        simp [hhttp, hhost, Url.cannotBeBase_of_hasHost hhost]

namespace BankingConfig

variable {c : BankingConfig}

/-- **The two checks of the base agree**: nothing is wrong with it if callbacks can be made
from it. -/
theorem issues_eq_nil_iff :
    c.issues = [] ↔ ∃ base, RedirectBase.ofText c.callbackBaseUrl = .ok base := by
  simp only [RedirectBase.ofText_eq_ok_iff]
  unfold issues
  cases Url.ofText c.callbackBaseUrl with
  | error cause => simp
  | ok url =>
      simp only [Except.ok.injEq]
      constructor
      · intro h
        split at h
        · cases h
        split at h
        · cases h
        next hhttp hhost => exact ⟨⟨url⟩, rfl, by simpa using hhttp, by simpa using hhost⟩
      · rintro ⟨base, rfl, hhttp, hhost⟩
        simp [hhttp, hhost]

/-- What is wrong with banking is wrong with the base of callbacks. -/
theorem field_of_mem_issues {issue : ConfigIssue} (h : issue ∈ c.issues) :
    issue.field = "banking.callback_base_url" := by
  unfold issues at h
  split at h
  · obtain rfl := List.mem_singleton.1 h
    rfl
  split at h
  · obtain rfl := List.mem_singleton.1 h
    rfl
  split at h
  · obtain rfl := List.mem_singleton.1 h
    rfl
  · cases h

end BankingConfig

/-! ## The other settings -/

theorem ConfigIssue.mem_onlyIf {condition : Bool} {issue other : ConfigIssue} :
    other ∈ onlyIf condition issue ↔ condition = true ∧ other = issue := by
  unfold onlyIf
  cases condition <;> simp

theorem ConfigIssue.onlyIf_eq_nil_iff {condition : Bool} {issue : ConfigIssue} :
    onlyIf condition issue = [] ↔ condition = false := by
  unfold onlyIf
  cases condition <;> simp

theorem PollConfig.issues_eq_nil_iff {c : PollConfig} :
    c.issues = [] ↔ c.maxAttempts ≠ 0 ∧
      (c.strategy = .exponential → c.intervalMs ≤ c.maxIntervalMs) ∧ c.timeoutSecs ≠ some 0 := by
  simp [issues, ConfigIssue.onlyIf_eq_nil_iff]

theorem TimeoutConfig.issues_eq_nil_iff {c : TimeoutConfig} :
    c.issues = [] ↔ c.limitsSecs ≠ 0 ∧ c.submissionSecs ≠ 0 ∧ c.lookupSecs ≠ 0 := by
  simp [issues, ConfigIssue.onlyIf_eq_nil_iff]

namespace Config

variable {c : Config}

theorem isValid_iff : c.isValid = true ↔
    c.poll.issues = [] ∧ c.timeouts.issues = [] ∧ c.banking.issues = [] ∧
      c.observability.issues = [] := by
  simp [isValid, issues]

/-- The base of callbacks is named by its own issues only. -/
theorem forall_field_ne_iff :
    (∀ issue ∈ c.issues, issue.field ≠ "banking.callback_base_url") ↔ c.banking.issues = [] := by
  constructor
  · intro h
    refine List.eq_nil_iff_forall_not_mem.2 fun issue hissue => ?_
    refine h issue ?_ (BankingConfig.field_of_mem_issues hissue)
    simp [issues, hissue]
  · intro h issue hissue
    simp only [issues, PollConfig.issues, TimeoutConfig.issues, ObservabilityConfig.issues, h,
      List.append_nil, List.mem_append, ConfigIssue.mem_onlyIf] at hissue
    obtain ((((⟨-, rfl⟩ | ⟨-, rfl⟩) | ⟨-, rfl⟩) | ((⟨-, rfl⟩ | ⟨-, rfl⟩) | ⟨-, rfl⟩)) | ⟨-, rfl⟩) :=
      hissue
    all_goals simp [ConfigIssue.field]

end Config

/-! ## Waits -/

namespace Delay

variable {baseMillis maxMillis : UInt64} {attempt draw : Nat}

theorem one_le_saturatedPower (n : Nat) : 1 ≤ saturatedPower n := by
  unfold saturatedPower
  split
  · decide
  · exact Nat.one_le_two_pow

theorem toNat_le_maxWord (n : UInt64) : n.toNat ≤ maxWord := Nat.le_sub_one_of_lt n.toNat_lt

/-- The least wait of any attempt is the base or more, unless the cap lies below it. -/
theorem base_le_leastMillis (hcap : baseMillis ≤ maxMillis) (hattempt : 1 ≤ attempt) :
    baseMillis.toNat ≤ leastMillis attempt baseMillis maxMillis := by
  rw [leastMillis, if_neg (by omega)]
  refine le_min (le_min ?_ (toNat_le_maxWord baseMillis)) (UInt64.le_iff_toNat_le.1 hcap)
  exact Nat.le_mul_of_pos_right _ (one_le_saturatedPower _)

theorem leastMillis_le_maxWord : leastMillis attempt baseMillis maxMillis ≤ maxWord := by
  unfold leastMillis
  split
  · exact Nat.zero_le _
  · exact (min_le_right _ _).trans (toNat_le_maxWord maxMillis)

/-- The random part only makes a wait longer, also where there are no more milliseconds. -/
theorem leastMillis_le_backoffMillis :
    leastMillis attempt baseMillis maxMillis ≤ backoffMillis attempt baseMillis maxMillis draw :=
  le_min (Nat.le_add_right _ _) leastMillis_le_maxWord

end Delay

/-- No wait is shorter than the interval, unless its cap is. -/
theorem PollConfig.interval_le_after {c : PollConfig} {attempt draw : Nat}
    (hcap : c.strategy = .exponential → c.intervalMs ≤ c.maxIntervalMs) (hattempt : 1 ≤ attempt) :
    .ofMillis c.intervalMs.toNat ≤ c.settings.delay.after attempt draw := by
  change _ ≤ c.delay.after attempt draw
  unfold delay
  cases hstrategy : c.strategy with
  | fixed => exact le_rfl
  | exponential =>
      exact Nat.mul_le_mul_right _
        ((Delay.base_le_leastMillis (hcap hstrategy) hattempt).trans
          Delay.leastMillis_le_backoffMillis)

/-! ## Checked configurations -/

/-- What is made from a configuration works as it stands. -/
structure Config.Works (c : Config) : Prop where
  /-- Callbacks can be made. -/
  base : ∃ base, RedirectBase.ofText c.banking.callbackBaseUrl = .ok base
  /-- The number of attempts is the one that was set. -/
  maxAttempts : c.poll.settings.maxAttempts = c.poll.maxAttempts.toNat
  maxAttempts_pos : 1 ≤ c.poll.settings.maxAttempts
  timeout_pos : ∀ timeout, c.poll.settings.timeout = some timeout → 0 < timeout
  limits_pos : 0 < c.timeouts.deadlines.limits
  submission_pos : 0 < c.timeouts.deadlines.submission
  lookup_pos : 0 < c.timeouts.deadlines.lookup
  /-- No wait is shorter than the interval. -/
  waits : ∀ attempt draw, 1 ≤ attempt →
    .ofMillis c.poll.intervalMs.toNat ≤ c.poll.settings.delay.after attempt draw

/-- A number of seconds that is not zero is a span of time. -/
theorem Duration.ofSecs_pos {secs : UInt64} (h : secs ≠ 0) : 0 < ofSecs secs.toNat := by
  refine Nat.mul_pos (Nat.pos_of_ne_zero fun hzero => h ?_) (by decide)
  exact UInt64.toNat_inj.1 hzero

/-- **A checked configuration works**: callbacks can be made from the base of any
configuration exactly if no issue names it, and if there is no issue at all, everything
else that is made from the configuration works as it stands. -/
theorem Config.works_of_isValid (c : Config) :
    ((∃ base, RedirectBase.ofText c.banking.callbackBaseUrl = .ok base) ↔
      ∀ issue ∈ c.issues, issue.field ≠ "banking.callback_base_url") ∧
    (c.isValid = true → c.Works) := by
  refine ⟨BankingConfig.issues_eq_nil_iff.symm.trans forall_field_ne_iff.symm, fun hvalid => ?_⟩
  obtain ⟨hpoll, htimeouts, hbanking, -⟩ := isValid_iff.1 hvalid
  obtain ⟨hattempts, hcap, htimeout⟩ := PollConfig.issues_eq_nil_iff.1 hpoll
  obtain ⟨hlimits, hsubmission, hlookup⟩ := TimeoutConfig.issues_eq_nil_iff.1 htimeouts
  have hpositive : 1 ≤ c.poll.maxAttempts.toNat :=
    Nat.one_le_iff_ne_zero.2 fun hzero => hattempts (UInt32.toNat_inj.1 hzero)
  have hkept : c.poll.settings.maxAttempts = c.poll.maxAttempts.toNat := max_eq_left hpositive
  constructor
  · exact BankingConfig.issues_eq_nil_iff.1 hbanking
  · exact hkept
  · exact hkept ▸ hpositive
  · intro timeout hset
    obtain ⟨secs, hsecs, rfl⟩ := Option.map_eq_some_iff.1 hset
    refine Duration.ofSecs_pos fun hzero => htimeout ?_
    rw [hsecs, hzero]
  · exact Duration.ofSecs_pos hlimits
  · exact Duration.ofSecs_pos hsubmission
  · exact Duration.ofSecs_pos hlookup
  · exact fun attempt draw => PollConfig.interval_le_after hcap

/-- Waits of the longest interval, doubled more than four thousand million times, are no
shorter than the interval. -/
theorem Config.works_of_isValid_longest :
    let c : Config := { poll := {
      maxAttempts := 4294967295, intervalMs := 18446744073709551615, strategy := .exponential,
      maxIntervalMs := 18446744073709551615 } }
    c.isValid = true ∧ (∃ base, RedirectBase.ofText c.banking.callbackBaseUrl = .ok base) ∧
      c.poll.settings.maxAttempts = 4294967295 ∧
      ∀ draw, .ofMillis 18446744073709551615 ≤ c.poll.settings.delay.after 4294967295 draw := by
  intro c
  have hvalid : c.isValid = true := by decide +kernel
  have hworks := (Config.works_of_isValid c).2 hvalid
  exact ⟨hvalid, hworks.base, hworks.maxAttempts, fun draw => hworks.waits _ draw (by decide)⟩

end FiatRamp
