import FiatRamp.Proofs.Conclusion
import FiatRamp.Proofs.Vetting

/-!
# FiatRamp.Proofs.Pipeline

The way of a flow through its stages.

A call enters two stages at most, and each of them only from where it may
(`Flow.LegalStep`, `Flow.Concludes.isPath`).  Which calls stand behind a stage
can be read off the history: nothing is executed unless what was put in place
last has passed and was confirmed after that (`Flow.Approved`,
`Flow.History.backed`).  `Flow.stages_are_legal` puts this together.
-/

namespace FiatRamp

/-- An update of the amount or of the fee that was accepted. -/
def FlowEvent.isUpdate : FlowEvent → Bool
  | (.updateAmount _, .ok _) | (.updateFeeLevel .., .ok _) => true
  | _ => false

/-- A validation, whatever came of it. -/
def FlowEvent.isValidation : FlowEvent → Bool
  | (.validate, _) => true
  | _ => false

@[simp] theorem FlowEvent.isUpdate_error (call : FlowCall) (error : FlowError) :
    FlowEvent.isUpdate (call, .error error) = false := by
  cases call <;> rfl

namespace Flow

/-! ## Legal steps -/

/-- A call enters the stage `target`, and may do so from the stage `source`. -/
structure LegalStep (call : FlowCall) (answer : Except FlowError FlowAnswer)
    (source target : Stage) : Prop where
  started : target ≠ .uninitialised
  running : target.isTerminal = false → source ∈ beforeSubmission
  validated : target = .validated → call = .validate ∧ answer = .ok (.verdict .canExecute)
  confirmed : target = .confirmed →
    call = .buildConfirmations ∧ answer = .ok .done ∧ source ∈ [.validated, .confirmed]
  executing : target = .executing → (∃ cancel, call = .execute cancel) ∧ source = .confirmed
  ended : target.isTerminal = true → source = .executing

/-- A stage follows another in some call. -/
def Follows (source target : Stage) : Prop := ∃ call answer, LegalStep call answer source target

/-- The stages that are entered on the way from one stage to another. -/
structure IsPath (step : Stage → Stage → Prop) (source : Stage) (path : List Stage)
    (target : Stage) : Prop where
  legal : (source :: path).IsChain step
  last : (source :: path).getLast? = some target

/-- Paths follow on one another. -/
theorem IsPath.append {step : Stage → Stage → Prop} {source between target : Stage}
    {path later : List Stage} (h : IsPath step source path between)
    (hlater : IsPath step between later target) : IsPath step source (path ++ later) target := by
  obtain ⟨before, hbefore⟩ := List.getLast?_eq_some_iff.1 h.last
  have hpath : source :: (path ++ later) = before ++ [between] ++ later := by
    rw [← List.cons_append, hbefore]
  have hlegal := h.legal
  rw [hbefore] at hlegal
  constructor
  · rw [hpath]
    exact hlegal.append_overlap hlater.legal (by simp)
  · rw [hpath, List.append_assoc, List.getLast?_append, List.singleton_append, hlater.last]
    rfl

namespace LegalStep

variable {call : FlowCall} {answer : Except FlowError FlowAnswer} {source target : Stage}

/-- The way back is open from every stage before the submission. -/
theorem back (hlegal : source ∈ beforeSubmission)
    (htarget : target = .amountEntry ∨ target = .feeSelected) :
    LegalStep call answer source target := by
  rcases htarget with rfl | rfl <;> constructor <;> simp [Stage.isTerminal, hlegal]

theorem validate (hlegal : source ∈ beforeSubmission) :
    LegalStep .validate (.ok (.verdict .canExecute)) source .validated := by
  constructor <;> simp [Stage.isTerminal, hlegal]

theorem confirm (hlegal : source ∈ [.validated, .confirmed]) :
    LegalStep .buildConfirmations (.ok .done) source .confirmed := by
  have hbefore := mem_beforeSubmission hlegal
  constructor <;> simp_all [Stage.isTerminal]

theorem execute (cancel : Option Duration) :
    LegalStep (.execute cancel) answer .confirmed .executing := by
  constructor <;> simp [Stage.isTerminal, beforeSubmission]

theorem finish (hended : target.isTerminal = true) : LegalStep call answer .executing target := by
  cases target <;> simp only [Stage.isTerminal, Bool.false_eq_true] at hended <;>
    constructor <;> simp [Stage.isTerminal]

end LegalStep

/-- A stage at which a flow can stand between two calls. -/
def AtRest (stage : Stage) : Prop := stage ≠ .uninitialised ∧ stage ≠ .executing

section

variable {e : Engine σ} {s : FlowState σ} {call : FlowCall}
  {answer : Except FlowError FlowAnswer} {p : Pending} {entered : List Stage}

/-- A flow that settles has ended. -/
theorem Settles.isTerminal {stage : Stage} (h : Settles answer stage) :
    stage.isTerminal = true := by
  cases h <;> rfl

/-- Every stage a call enters is entered legally, and the flow is left at the last. -/
theorem Concludes.isPath (h : Concludes e s call answer p entered) :
    IsPath (LegalStep call answer) s.pending.stage entered p.stage := by
  cases h with
  | finished | illegal | barred => exact ⟨.singleton _, rfl⟩
  | amountUpdated hlegal | stopped hlegal =>
      exact ⟨.cons_cons (.back hlegal (.inl rfl)) (.singleton _), rfl⟩
  | feeUpdated hlegal => exact ⟨.cons_cons (.back hlegal (.inr rfl)) (.singleton _), rfl⟩
  | validated hlegal => exact ⟨.cons_cons (.validate hlegal) (.singleton _), rfl⟩
  | confirmed hlegal => exact ⟨.cons_cons (.confirm hlegal) (.singleton _), rfl⟩
  | notExecutable hlegal =>
      rw [hlegal]
      exact ⟨.cons_cons (.back (by simp [beforeSubmission]) (.inl rfl)) (.singleton _), rfl⟩
  | settled hlegal _ _ hsettles =>
      rw [hlegal]
      exact ⟨.cons_cons (.execute _) (.cons_cons (.finish hsettles.isTerminal) (.singleton _)), rfl⟩

/-- No call stops on the way. -/
theorem Concludes.atRest (h : Concludes e s call answer p entered) (hs : AtRest s.pending.stage) :
    AtRest p.stage := by
  cases h with
  | finished | illegal | barred => exact hs
  | amountUpdated | feeUpdated | validated | stopped | confirmed | notExecutable =>
      constructor <;> simp
  | settled _ _ _ hsettles => cases hsettles <;> constructor <;> simp

/-- Only an execution enters the stage of executions, and only from a confirmation. -/
theorem Concludes.of_executing (h : Concludes e s call answer p entered)
    (hentered : .executing ∈ entered) : s.pending.stage = .confirmed := by
  cases h with
  | settled hlegal => exact hlegal
  | finished | illegal | barred | amountUpdated | feeUpdated | validated | stopped | confirmed
  | notExecutable => simp at hentered

/-- The calls that come too early at a stage. -/
def TooEarly (stage : Stage) (call : FlowCall) : Prop :=
  (call = .buildConfirmations ∧ stage ∈ [.amountEntry, .feeSelected]) ∨
    ((∃ cancel, call = .execute cancel) ∧ stage ∈ [.amountEntry, .feeSelected, .validated])

/-- Between two calls these are all the calls on a running flow that are not at their stages. -/
theorem tooEarly_iff {stage : Stage} (hrest : AtRest stage) :
    TooEarly stage call ↔ stage.isTerminal = false ∧ stage ∉ call.stages := by
  obtain ⟨hstarted, hsettled⟩ := hrest
  cases call <;> cases stage <;>
    simp_all [TooEarly, FlowCall.stages, beforeSubmission, Stage.isTerminal]

/-- Illegal transitions are the calls that come too early. -/
theorem Concludes.illegalTransition_iff (h : Concludes e s call answer p entered)
    (hrest : AtRest s.pending.stage) (stage : Stage) (operation : FlowOperation) :
    answer = .error (.illegalTransition stage operation) ↔
      stage = s.pending.stage ∧ operation = call.operation ∧ TooEarly s.pending.stage call := by
  rw [tooEarly_iff hrest]
  constructor
  · intro hanswer
    cases h with
    | illegal hrunning houtside =>
        cases hanswer
        exact ⟨rfl, rfl, hrunning, houtside⟩
    | settled _ _ _ hsettles => cases hsettles <;> cases hanswer
    | finished | barred | amountUpdated | feeUpdated | validated | stopped | confirmed
    | notExecutable => cases hanswer
  · rintro ⟨rfl, rfl, hrunning, houtside⟩
    cases h with
    | illegal => rfl
    | finished hended => simp [hrunning] at hended
    | barred hlegal | amountUpdated hlegal | feeUpdated hlegal | validated hlegal | stopped hlegal
    | confirmed hlegal => exact (houtside hlegal).elim
    | notExecutable hlegal | settled hlegal => simp [FlowCall.stages, hlegal] at houtside

end

/-! ## Stage histories -/

section

variable {e : Engine σ} {s t : FlowState σ} {history : List FlowEvent}

/-- The stages of a run are a path. -/
theorem Run.isPath (h : Run e s history t) (leaves : e.LeavesStages) :
    ∃ path, t.world.stages = s.world.stages ++ path ∧
      IsPath Follows s.pending.stage path t.pending.stage := by
  induction h with
  | refl => exact ⟨[], (List.append_nil _).symm, .singleton _, rfl⟩
  | @call _ t _ call ih =>
      obtain ⟨path, hpath, hlegal⟩ := ih
      obtain ⟨entered, hconcludes, hentered⟩ := concludes_apply e t call
      -- which call it is no longer matters once the stages are put together
      have hnext : IsPath Follows t.pending.stage entered (call.apply e t).2.pending.stage :=
        ⟨hconcludes.isPath.legal.imp fun _ _ hstep => ⟨_, _, hstep⟩, hconcludes.isPath.last⟩
      refine ⟨path ++ entered, ?_, hlegal.append hnext⟩
      rw [hentered leaves, hpath, List.append_assoc]
  | meanwhile _ _ _ ih => exact ih

/-- Every run ends where a flow can stand. -/
theorem Run.atRest (h : Run e s history t) (hs : AtRest s.pending.stage) :
    AtRest t.pending.stage := by
  induction h with
  | refl => exact hs
  | @call _ t _ call ih =>
      obtain ⟨entered, hconcludes, -⟩ := concludes_apply e t call
      exact hconcludes.atRest ih
  | meanwhile _ _ _ ih => exact ih

/-- A flow starts at the entry of the amount, and counts that. -/
theorem stage_of_start {w w₁ : World σ} {p : Pending} (h : start e w = (.ok p, w₁)) :
    p.stage = .amountEntry ∧ (e.LeavesStages → w₁.stages = w.stages ++ [.amountEntry]) := by
  unfold start at h
  cases hrun : e.initialise.run.run w with
  | mk result after =>
      rw [hrun] at h
      cases result with
      | error => cases h
      | ok opened =>
          cases h
          refine ⟨rfl, fun leaves => ?_⟩
          have hafter := leaves.initialise w
          rw [hrun] at hafter
          rw [World.stages_record, hafter]
          rfl

end

/-! ## What stands behind a stage -/

/-- Since the last update the transfer has passed. -/
def Passed (history : List FlowEvent) : Prop :=
  ∃ before since : List FlowEvent,
    history = before ++ (.validate, .ok (.verdict .canExecute)) :: since ∧
      ∀ event ∈ since, event.isUpdate = false

/-- Since the last update the transfer has passed, it was confirmed after that, and
then not validated again. -/
def Approved (history : List FlowEvent) : Prop :=
  ∃ before since : List FlowEvent,
    history = before ++ (.buildConfirmations, .ok .done) :: since ∧ Passed before ∧
      ∀ event ∈ since, event.isUpdate = false ∧ event.isValidation = false

section

variable {history : List FlowEvent} {event : FlowEvent}

theorem passed_concat (history : List FlowEvent) :
    Passed (history ++ [(.validate, .ok (.verdict .canExecute))]) :=
  ⟨history, [], rfl, by simp⟩

theorem Passed.concat (h : Passed history) (hupdate : event.isUpdate = false) :
    Passed (history ++ [event]) := by
  obtain ⟨before, since, rfl, hsince⟩ := h
  refine ⟨before, since ++ [event], by simp, ?_⟩
  simpa [or_imp, forall_and, hupdate] using hsince

theorem Passed.confirm (h : Passed history) :
    Approved (history ++ [(.buildConfirmations, .ok .done)]) :=
  ⟨history, [], rfl, h, by simp⟩

theorem Approved.concat (h : Approved history) (hupdate : event.isUpdate = false)
    (hvalidation : event.isValidation = false) : Approved (history ++ [event]) := by
  obtain ⟨before, since, rfl, hbefore, hsince⟩ := h
  refine ⟨before, since ++ [event], by simp, hbefore, ?_⟩
  simpa [or_imp, forall_and, hupdate, hvalidation] using hsince

theorem Approved.passed (h : Approved history) : Passed history := by
  obtain ⟨_, since, rfl, ⟨before, between, rfl, hbetween⟩, hsince⟩ := h
  refine ⟨before, between ++ (.buildConfirmations, .ok .done) :: since, by simp, ?_⟩
  simp only [List.mem_append, List.mem_cons]
  rintro event (hmem | rfl | hmem)
  · exact hbetween event hmem
  · rfl
  · exact (hsince event hmem).1

end

/-- The history has what the stage takes. -/
structure Backed (history : List FlowEvent) (stage : Stage) : Prop where
  validated : stage = .validated → Passed history
  confirmed : stage = .confirmed → Approved history

/-- Other stages than those two take nothing. -/
theorem Backed.of_ne {history : List FlowEvent} {stage : Stage} (hvalidated : stage ≠ .validated)
    (hconfirmed : stage ≠ .confirmed) : Backed history stage where
  validated h := (hvalidated h).elim
  confirmed h := (hconfirmed h).elim

section

variable {ctx : EngineContext σ} {route : Route} {p₀ : Pending} {history : List FlowEvent}
  {s t : FlowState σ} {call : FlowCall} {answer : Except FlowError FlowAnswer}

/-- A validation of what was confirmed does not fail. -/
theorem Vetted.isValidation_eq_false (hs : Vetted route p₀ history s.pending) {error : FlowError}
    (h : Refuses route s.pending call error) (hconfirmed : s.pending.stage = .confirmed) :
    FlowEvent.isValidation (call, .error error) = false := by
  have hadmits := hs.assessed (by simp [hconfirmed])
  cases call with
  | validate =>
      exact (h.not_admits (by simp [hconfirmed, FlowCall.stages, beforeSubmission])
        ⟨_, hadmits⟩).elim
  | updateAmount | updateFeeLevel | buildConfirmations | execute => rfl

/-- **Every call keeps the stage backed.** -/
theorem Ends.backed (h : Ends ctx route s call answer t) (hs : Vetted route p₀ history s.pending)
    (hb : Backed history s.pending.stage) :
    Backed (history ++ [(call, answer)]) t.pending.stage := by
  cases h with
  | refused hrefused =>
      constructor
      · exact fun hstage => (hb.validated hstage).concat (by simp)
      · exact fun hstage => (hb.confirmed hstage).concat (by simp)
          (hs.isValidation_eq_false hrefused hstage)
  | unassessed _ _ hfails =>
      -- what has passed would pass again
      have hunvetted : s.pending.stage ∉ [.validated, .confirmed] := by
        intro hstage
        rw [hs.assessed hstage] at hfails
        cases hfails
      have hcounting : (s.counting route).pending = s.pending := rfl
      rw [hcounting]
      exact .of_ne (fun hstage => hunvetted (by simp [hstage]))
        (fun hstage => hunvetted (by simp [hstage]))
  | amountUpdated | feeUpdated | notExecutable =>
      exact .of_ne (by simp [FlowState.enter]) (by simp [FlowState.enter])
  | @validated verdict =>
      by_cases hpass : verdict = .canExecute
      · subst hpass
        exact ⟨fun _ => passed_concat history, by simp [FlowState.enter]⟩
      · exact .of_ne (by simp [FlowState.enter, hpass]) (by simp [FlowState.enter, hpass])
  | confirmed hlegal =>
      have hpassed : Passed history := by
        simp only [List.mem_cons, List.not_mem_nil, or_false] at hlegal
        rcases hlegal with hstage | hstage
        · exact hb.validated hstage
        · exact (hb.confirmed hstage).passed
      exact ⟨by simp [FlowState.enter], fun _ => hpassed.confirm⟩
  | notAccepted | completed | approved | unfinished =>
      exact .of_ne (by simp [FlowState.ended, FlowState.enter])
        (by simp [FlowState.ended, FlowState.enter])

/-- Every run keeps the stage backed. -/
theorem Run.backed (h : Run (route.engine ctx) s history t) (hs : Vetted route p₀ [] s.pending)
    (hb : Backed [] s.pending.stage) : Backed history t.pending.stage := by
  induction h with
  | refl => exact hb
  | call hrun call ih => exact (ends_apply ctx route _ call).backed (hrun.vetted hs) ih
  | meanwhile _ _ _ ih => exact ih

/-- After every history the stage is backed. -/
theorem History.backed {w₀ : World σ} (h : History (route.engine ctx) w₀ p₀ history s) :
    Backed history s.pending.stage := by
  obtain ⟨w₁, hstart, hrun⟩ := h
  have hentry := (stage_of_start hstart).1
  exact hrun.backed (vetted_of_start hstart) (.of_ne (by simp [hentry]) (by simp [hentry]))

end

/-- **The stages of a flow are legal**: over its whole history it goes from the entry of
the amount from stage to stage as it may, and never stops on the way.  Each call enters
its stages legally, and executes only what was approved.  Calls that come too early, and
only these, are illegal transitions. -/
theorem stages_are_legal {ctx : EngineContext σ} {e : Engine σ} (builtIn : e.IsBuiltIn ctx)
    {w₀ : World σ} {p₀ : Pending} {history : List FlowEvent} {s : FlowState σ}
    (h : History e w₀ p₀ history s) :
    AtRest s.pending.stage ∧
      (∃ path, s.world.stages = w₀.stages ++ .amountEntry :: path ∧
        IsPath Follows .amountEntry path s.pending.stage) ∧
      ∀ call answer t, call.apply e s = (answer, t) →
        (∃ entered, t.world.stages = s.world.stages ++ entered ∧
          IsPath (LegalStep call answer) s.pending.stage entered t.pending.stage ∧
          (.executing ∈ entered → Approved history)) ∧
        ∀ stage operation, answer = .error (.illegalTransition stage operation) ↔
          stage = s.pending.stage ∧ operation = call.operation ∧ TooEarly s.pending.stage call := by
  have leaves := builtIn.leavesStages
  obtain ⟨route, rfl⟩ := h.exists_route builtIn
  have hbacked := h.backed
  obtain ⟨w₁, hstart, hrun⟩ := h
  obtain ⟨hentry, hcounted⟩ := stage_of_start hstart
  have hrest : AtRest s.pending.stage := hrun.atRest (by simp [AtRest, hentry])
  obtain ⟨path, hpath, hlegal⟩ := hrun.isPath leaves
  refine ⟨hrest, ⟨path, ?_, ?_⟩, fun call answer t hcall => ?_⟩
  · rw [hpath, hcounted leaves, List.append_assoc, List.singleton_append]
  · rw [← hentry]
    exact hlegal
  · obtain ⟨entered, hconcludes, hentered⟩ := concludes_apply (route.engine ctx) s call
    rw [hcall] at hconcludes hentered
    exact ⟨⟨entered, hentered leaves, hconcludes.isPath,
      fun hexecuting => hbacked.confirmed (hconcludes.of_executing hexecuting)⟩,
      hconcludes.illegalTransition_iff hrest⟩

/-- Five pounds are executed once they have passed and were confirmed. -/
theorem stages_are_legal_five_pounds :
    ∃ p₀ history s,
      History Sample.withdrawal (.start ()) p₀ history s ∧
        s.world.stages = [.amountEntry, .amountEntry, .validated, .confirmed] ∧
        ((FlowCall.execute none).apply Sample.withdrawal s).2.world.stages =
          s.world.stages ++ [.executing, .succeeded] ∧
        Approved history := by
  have hstart : start Sample.withdrawal (.start ()) = (.ok _, _) := rfl
  have hhistory := history_drive hstart Sample.confirming
  obtain ⟨-, -, hcalls⟩ := stages_are_legal Sample.isBuiltIn_withdrawal hhistory
  obtain ⟨⟨entered, hstages, -, happroved⟩, -⟩ := hcalls (.execute none) _ _ rfl
  have hentered : entered = [.executing, .succeeded] :=
    List.append_cancel_left (hstages.symm.trans (by decide +kernel))
  subst hentered
  exact ⟨_, _, _, hhistory, by decide +kernel, hstages, happroved (by simp)⟩

end Flow

end FiatRamp
