import FiatRamp.Proofs.Records
import FiatRamp.Proofs.Safety

/-!
# FiatRamp.Proofs.Answer

What the answer of an execution says about the submission.

A caller who is told of a failure must know whether money is on its way.  An
execution succeeds, or fails after the submission, exactly if the custodian
accepted the submission in time, and then its answer names the id; it fails
otherwise exactly if the submission failed or was never made
(`Flow.execute_tells_truth`).
-/

namespace FiatRamp

namespace Sample

/-- A vault with limits in pounds and one bank. -/
def vault : Vault :=
  (Vault.empty.withLimits sterling ⟨pounds 1, some (pounds 500)⟩).withBank
    (answer (.linkedBank "bank"))

/-- The engine that deposits from the bank into the fiat account. -/
def deposit : Engine Vault := .deposit (context (Vault.custodian Nat.repr)) bank cash

end Sample

namespace Flow

/-- The answer says that a submission was accepted. -/
def TellsOfSubmission (answer : Except FlowError FlowAnswer) : Prop :=
  (∃ value, answer = .ok value) ∨ ∃ failure, answer = .error (.postSubmission failure)

/-- The answer names a submission that was accepted by its id, wherever it has one. -/
inductive Names (id : String) : Except FlowError FlowAnswer → Prop where
  | succeeded {result : TransferResult} (named : result.id = id) :
      Names id (.ok (.outcome (.succeeded result)))
  | awaitingApproval {result : TransferResult} {approval : Approval} (named : result.id = id)
      (approved : approval.paymentId = id) :
      Names id (.ok (.outcome (.awaitingApproval result approval)))
  | unfinished {failure : FollowUpError} (named : failure.transferId = id) :
      Names id (.error (.postSubmission failure))

theorem Names.tellsOfSubmission {id : String} {answer : Except FlowError FlowAnswer}
    (h : Names id answer) : TellsOfSubmission answer := by
  cases h with
  | succeeded | awaitingApproval => exact .inl ⟨_, rfl⟩
  | unfinished => exact .inr ⟨_, rfl⟩

/-! ## How an execution ends -/

/-- How an execution ends, as far as the submission is concerned. -/
inductive Execution (ctx : EngineContext σ) (route : Route) (s : FlowState σ)
    (cancel : Option Duration) : Except FlowError FlowAnswer → FlowState σ → Prop where
  /-- There is no submission. -/
  | stopped {error : FlowError} {t : FlowState σ}
      (requests : t.world.requests = s.world.requests)
      (backend : t.world.backend = s.world.backend)
      (before : ∀ failure, error ≠ .postSubmission failure)
      (running : ∀ cause, error = .engine cause → t.pending.stage ≠ .failed) :
      Execution ctx route s cancel (.error error) t
  | notAccepted {cause : EngineError} {t : FlowState σ} (legal : s.pending.stage = .confirmed)
      (reply : s.reply ctx route = .error cause) (failed : t.pending.stage = .failed)
      (requests : t.world.requests =
        s.world.requests ++ [(route.submission ctx s.pending).request])
      (backend : t.world.backend = (s.submitted ctx route).backend) :
      Execution ctx route s cancel (.error (.engine cause)) t
  | accepted {id : String} {answer : Except FlowError FlowAnswer} {t : FlowState σ}
      {more : List Request} (reply : s.reply ctx route = .ok id) (names : Names id answer)
      (requests : t.world.requests =
        s.world.requests ++ (route.submission ctx s.pending).request :: more)
      (quiet : ∀ request ∈ more, request.isSubmission = false)
      (backend : t.world.backend = (s.followed ctx route id cancel).2.backend) :
      Execution ctx route s cancel answer t

section

variable {ctx : EngineContext σ} {route : Route} {s t : FlowState σ} {cancel : Option Duration}
  {answer : Except FlowError FlowAnswer}

/-- Every execution stops early, is not accepted, or is accepted and named. -/
theorem Ends.execution (h : Ends ctx route s (.execute cancel) answer t) :
    Execution ctx route s cancel answer t := by
  cases h with
  | refused hrefused =>
      cases hrefused with
      | finished | illegal => exact .stopped rfl rfl (by simp) (by simp)
  | unassessed _ hlegal =>
      refine .stopped ?_ rfl (by simp) fun _ _ => ?_
      · simp [FlowState.counting]
      · have hstage : s.pending.stage = .confirmed := by simpa [FlowCall.stages] using hlegal
        simp [FlowState.counting, hstage]
  | notExecutable =>
      refine .stopped ?_ rfl (by simp) (by simp)
      simp [FlowState.enter, FlowState.counting, FlowState.judged]
  | notAccepted hlegal _ hreply => exact .notAccepted hlegal hreply rfl rfl rfl
  | @completed _ id _ _ hreply =>
      obtain ⟨more, hmore, hquiet⟩ := requests_followed ctx route s id cancel
      exact .accepted hreply (.succeeded (Route.id_result ..)) hmore hquiet rfl
  | @approved _ id _ _ _ hreply happroved =>
      obtain ⟨more, hmore, hquiet⟩ := requests_followed ctx route s id cancel
      exact .accepted hreply
        (.awaitingApproval (Route.id_result ..) (Route.paymentId_of_followUp happroved)) hmore
        hquiet rfl
  | @unfinished _ id _ _ _ hreply =>
      obtain ⟨more, hmore, hquiet⟩ := requests_followed ctx route s id cancel
      exact .accepted hreply (.unfinished rfl) hmore hquiet rfl

/-- The answer of an execution tells what became of the submission, among the
requests `asked` it made of the custodian. -/
structure TellsTruth (ctx : EngineContext σ) (s : FlowState σ)
    (answer : Except FlowError FlowAnswer) (t : FlowState σ) (asked : List Request) : Prop where
  requests : t.world.requests = s.world.requests ++ asked
  /-- A submission comes first, so it meets the custodian as it is in `s`, and it is
  the only one. -/
  first : asked = [] ∨ ∃ (submission : Submission) (more : List Request),
    asked = submission.request :: more ∧ ∀ request ∈ more, request.isSubmission = false
  /-- Success, and failure after the submission, mean that it was accepted in time. -/
  submitted_iff : TellsOfSubmission answer ↔
    ∃ (submission : Submission) (id : String), submission.request ∈ asked ∧
      submission.Accepted ctx.custodian ctx.deadlines s.world.backend id
  /-- The answer names the id under which the submission was accepted. -/
  names : ∀ (submission : Submission) (id : String), submission.request ∈ asked →
    submission.Accepted ctx.custodian ctx.deadlines s.world.backend id → Names id answer
  /-- A failed step with which the flow has failed means that the submission was made
  and not accepted in time. -/
  failed_iff : ((∃ cause, answer = .error (.engine cause)) ∧ s.pending.stage ≠ .failed ∧
      t.pending.stage = .failed) ↔
    ∃ submission : Submission, submission.request ∈ asked ∧
      ∀ id, ¬ submission.Accepted ctx.custodian ctx.deadlines s.world.backend id
  /-- Every other error means that nothing was submitted. -/
  stopped : ∀ error, answer = .error error → (∀ failure, error ≠ .postSubmission failure) →
    (∀ cause, error = .engine cause → t.pending.stage ≠ .failed) →
    ∀ request ∈ asked, request.isSubmission = false

theorem TellsTruth.of_stopped {error : FlowError} (hrequests : t.world.requests = s.world.requests)
    (hbefore : ∀ failure, error ≠ .postSubmission failure)
    (hrunning : ∀ cause, error = .engine cause → t.pending.stage ≠ .failed) :
    TellsTruth ctx s (.error error) t [] := by
  constructor
  · rw [hrequests, List.append_nil]
  · exact .inl rfl
  · simp [TellsOfSubmission, hbefore]
  · simp
  · simp only [List.not_mem_nil, false_and, exists_false, iff_false, not_and]
    rintro ⟨cause, hcause⟩ _
    exact hrunning cause (Except.error.inj hcause)
  · simp

theorem TellsTruth.of_not_accepted {submission : Submission} {cause : EngineError}
    (hnot : ∀ id, ¬ submission.Accepted ctx.custodian ctx.deadlines s.world.backend id)
    (hrunning : s.pending.stage ≠ .failed) (hfailed : t.pending.stage = .failed)
    (hrequests : t.world.requests = s.world.requests ++ [submission.request]) :
    TellsTruth ctx s (.error (.engine cause)) t [submission.request] := by
  have honly : ∀ other : Submission, other.request ∈ [submission.request] → other = submission :=
    fun other hmem => Submission.eq_of_request_mem (by simp) hmem
  constructor
  · exact hrequests
  · exact .inr ⟨submission, [], rfl, by simp⟩
  · simp only [TellsOfSubmission, reduceCtorEq, exists_false, Except.error.injEq, or_self, false_iff]
    rintro ⟨other, id, hmem, hid⟩
    rw [honly other hmem] at hid
    exact hnot id hid
  · intro other id hmem hid
    rw [honly other hmem] at hid
    exact (hnot id hid).elim
  · exact ⟨fun _ => ⟨submission, List.mem_singleton_self _, hnot⟩,
      fun _ => ⟨⟨cause, rfl⟩, hrunning, hfailed⟩⟩
  · intro error herror _ hother
    exact (hother cause (Except.error.inj herror).symm hfailed).elim

theorem TellsTruth.of_accepted {submission : Submission} {id : String} {more : List Request}
    (haccepted : submission.Accepted ctx.custodian ctx.deadlines s.world.backend id)
    (hnames : Names id answer)
    (hrequests : t.world.requests = s.world.requests ++ submission.request :: more)
    (hquiet : ∀ request ∈ more, request.isSubmission = false) :
    TellsTruth ctx s answer t (submission.request :: more) := by
  have honly : ∀ other : Submission, other.request ∈ submission.request :: more →
      other = submission := fun other hmem => Submission.eq_of_request_mem hquiet hmem
  constructor
  · exact hrequests
  · exact .inr ⟨submission, more, rfl, hquiet⟩
  · exact ⟨fun _ => ⟨submission, id, List.mem_cons_self, haccepted⟩,
      fun _ => hnames.tellsOfSubmission⟩
  · intro other otherId hmem hother
    rw [honly other hmem] at hother
    rw [hother.unique haccepted]
    exact hnames
  · constructor
    · rintro ⟨⟨cause, rfl⟩, _⟩
      cases hnames
    · rintro ⟨other, hmem, hnot⟩
      rw [honly other hmem] at hnot
      exact (hnot id haccepted).elim
  · intro error herror hbefore
    subst herror
    cases hnames with
    | unfinished => exact (hbefore _ rfl).elim

/-- However an execution ends, its answer tells the truth. -/
theorem Execution.tellsTruth (h : Execution ctx route s cancel answer t) :
    ∃ asked, TellsTruth ctx s answer t asked := by
  cases h with
  | stopped hrequests _ hbefore hrunning => exact ⟨_, .of_stopped hrequests hbefore hrunning⟩
  | notAccepted hlegal hreply hfailed hrequests =>
      refine ⟨_, .of_not_accepted (fun id hid => ?_) (by simp [hlegal]) hfailed hrequests⟩
      cases hreply.symm.trans (Submission.reply_eq_ok_iff.2 hid)
  | accepted hreply hnames hrequests hquiet =>
      exact ⟨_, .of_accepted (Submission.reply_eq_ok_iff.1 hreply) hnames hrequests hquiet⟩

end

/-! ## What an execution leaves in the vault -/

section

variable {ctx : EngineContext Vault} {ids : Nat → String} {route : Route} {s t : FlowState Vault}
  {cancel : Option Duration} {answer : Except FlowError FlowAnswer}

/-- An execution adds the record of a submission that was accepted, and no other. -/
theorem Execution.records (hctx : ctx.custodian = Vault.custodian ids)
    (h : Execution ctx route s cancel answer t) :
    (∃ id, Names id answer ∧ id = ids s.world.backend.issued ∧
        t.world.backend.records.Perm
          (⟨id, route.bank.id, s.pending.amount⟩ :: s.world.backend.records)) ∨
      ¬ TellsOfSubmission answer ∧ t.world.backend.records = s.world.backend.records := by
  have hsubmitted : (s.submitted ctx route).backend =
      (((route.submission ctx s.pending).work (Vault.custodian ids) s.world.backend).within
        ctx.deadlines.submission).ended.2 := by
    rw [← hctx]
    cases route <;> rfl
  cases h with
  | stopped _ hbackend hbefore =>
      refine .inr ⟨?_, by rw [hbackend]⟩
      simp [TellsOfSubmission, hbefore]
  | notAccepted _ hreply _ _ hbackend =>
      refine .inr ⟨by simp [TellsOfSubmission], ?_⟩
      rw [hbackend, hsubmitted, Vault.within_of_not_accepted]
      rintro id hid
      have hok := Submission.reply_eq_ok_iff.2 hid
      rw [← hctx] at hok
      cases hreply.symm.trans hok
  | @accepted id _ _ _ hreply hnames _ _ hbackend =>
      obtain ⟨hwithin, hended⟩ := Submission.reply_eq_ok_iff.1 hreply
      rw [hctx] at hwithin hended
      obtain ⟨hid, hrecords⟩ := Vault.records_of_accepted hended
      rw [Vault.recordOf, Route.bankId_submission, Route.amount_submission] at hrecords
      refine .inl ⟨id, hnames, hid, ?_⟩
      have hkeeps := Vault.keeps_records ids (s.submitted ctx route).backend.records
      rw [← hctx] at hkeeps
      have hfollowed := Route.followUp_preserves hkeeps route id cancel rfl
      rw [hbackend]
      refine (List.Perm.of_eq ?_).trans hrecords
      rw [← Work.ended_within_of_endsWithin hwithin, ← hsubmitted]
      exact hfollowed

end

/-- **Answers tell the truth**: for either engine, after every history and whatever
the custodian does, the answer of an execution tells what became of the
submission.  Against a vault that gives out fresh ids, the execution adds one
record, of the pending amount, the linked bank and the id of the answer, if its
answer tells of a submission, and none if it does not. -/
theorem execute_tells_truth :
    (∀ {σ : Type} (ctx : EngineContext σ) (e : Engine σ), e.IsBuiltIn ctx →
      ∀ w₀ p₀ history s, History e w₀ p₀ history s → ∀ cancel,
        ∃ asked, TellsTruth ctx s ((FlowCall.execute cancel).apply e s).1
          ((FlowCall.execute cancel).apply e s).2 asked) ∧
    ∀ (ctx : EngineContext Vault) (ids : Nat → String), ctx.custodian = Vault.custodian ids →
      ∀ e : Engine Vault, e.IsBuiltIn ctx →
      ∀ w₀ p₀ history s, History e w₀ p₀ history s →
        (∀ record ∈ s.world.backend.records, record.id ≠ ids s.world.backend.issued) →
        ∀ cancel,
          let answer := ((FlowCall.execute cancel).apply e s).1
          let t := ((FlowCall.execute cancel).apply e s).2
          (TellsOfSubmission answer →
            ∃ id bank, Names id answer ∧ (e.source = .bank bank ∨ e.target = .bank bank) ∧
              s.world.backend.Gains t.world.backend ⟨id, bank.id, s.pending.amount⟩) ∧
          (¬ TellsOfSubmission answer →
            t.world.backend.records = s.world.backend.records) := by
  constructor
  · intro σ ctx e builtIn w₀ p₀ history s h cancel
    obtain ⟨route, rfl⟩ := h.exists_route builtIn
    exact (ends_apply ctx route s (.execute cancel)).execution.tellsTruth
  · intro ctx ids hctx e builtIn w₀ p₀ history s h fresh cancel
    obtain ⟨route, rfl⟩ := h.exists_route builtIn
    have hbank : (route.engine ctx).source = .bank route.bank ∨
        (route.engine ctx).target = .bank route.bank := by
      cases route with
      | deposit => exact .inl rfl
      | withdrawal => exact .inr rfl
    rcases (ends_apply ctx route s (.execute cancel)).execution.records hctx with
      ⟨id, hnames, hid, hrecords⟩ | ⟨hnot, hrecords⟩
    · rw [← hid] at fresh
      exact ⟨fun _ => ⟨id, route.bank, hnames, hbank, .of_perm hrecords fresh⟩,
        fun hnot => (hnot hnames.tellsOfSubmission).elim⟩
    · exact ⟨fun htells => (hnot htells).elim, fun _ => hrecords⟩

/-- A deposit of five pounds, which waits for its approval, is told of by the id under
which the vault has accepted it. -/
theorem execute_tells_truth_five_pounds :
    ∃ p₀ history s asked,
      History Sample.deposit (.start Sample.vault) p₀ history s ∧
        TellsTruth (Sample.context (Vault.custodian Nat.repr)) s
          ((FlowCall.execute none).apply Sample.deposit s).1
          ((FlowCall.execute none).apply Sample.deposit s).2 asked ∧
        ∃ id, Names id ((FlowCall.execute none).apply Sample.deposit s).1 ∧
          s.world.backend.Gains ((FlowCall.execute none).apply Sample.deposit s).2.world.backend
            ⟨id, "bank", Sample.pounds 5⟩ := by
  have hbuiltIn : Sample.deposit.IsBuiltIn (Sample.context (Vault.custodian Nat.repr)) :=
    ⟨Sample.bank, Sample.cash, .inl rfl⟩
  have hstart : start Sample.deposit (.start Sample.vault) = (.ok _, _) := rfl
  have hhistory := history_drive hstart Sample.confirming
  obtain ⟨htruth, hvault⟩ := execute_tells_truth
  obtain ⟨asked, hasked⟩ := htruth _ _ hbuiltIn _ _ _ _ hhistory none
  obtain ⟨htold, -⟩ := hvault _ _ rfl _ hbuiltIn _ _ _ _ hhistory (by decide +kernel) none
  obtain ⟨id, bank, hnames, hbank, hgains⟩ := htold (.inl ⟨_, rfl⟩)
  rcases hbank with hbank | hbank
  · cases hbank
    exact ⟨_, _, _, asked, hhistory, hasked, id, hnames, hgains⟩
  · cases hbank

end Flow

end FiatRamp
