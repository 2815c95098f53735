import FiatRamp.Proofs.Rounding
import FiatRamp.Proofs.Safety

/-!
# FiatRamp.Proofs.Overspend

How much a withdrawal can take from the balance.

Amount and fee are added as decimals, and a sum that needs more than 96 bits is
rounded, so what is held against the balance may be less than what leaves the
account.  A rounded total within the balance hides an overspend in one case
only: it is the balance itself, and it was rounded down to it
(`Money.add_worth_le_iff`).  The case exists (`Flow.overspends_balance`).
-/

namespace FiatRamp

/-- A rounded value is at most half a unit of its last digit below the exact one. -/
theorem Decimal.Rounds.sub_le {x : ℚ} {r : Decimal} (h : Rounds x r) :
    x - r.toRat ≤ 1 / 2 / 10 ^ r.scale := by
  have hpos := ten_pow_pos r.scale
  have hunits : r.toRat * 10 ^ r.scale = r.units := div_mul_cancel₀ _ hpos.ne'
  have hnear := (abs_le.1 h.nearest).1
  rw [← hunits] at hnear
  rw [le_div_iff₀ hpos, sub_mul]
  linarith

namespace Money

variable {a b total bound : Money}

theorem rounds_of_add (h : a.add b = .ok total) :
    Decimal.Rounds (a.worth + b.worth) total.value :=
  Decimal.rounds_of_add? (add_eq_ok_iff.1 h).2.2

/-- **A sum and a bound**: a total that keeps a bound stands for a sum that keeps it,
unless the total is the bound and was rounded down to it. -/
theorem add_worth_le_iff (h : a.add b = .ok total) (hle : total.worth ≤ bound.worth) :
    a.worth + b.worth ≤ bound.worth ↔
      ¬ (total.worth = bound.worth ∧ total.worth < a.worth + b.worth) := by
  constructor
  · rintro hsum ⟨htotal, hlt⟩
    rw [htotal] at hlt
    exact absurd hsum (not_le.2 hlt)
  · intro hnot
    by_contra hsum
    have hlt := not_le.1 hsum
    exact hnot ⟨(rounds_of_add h).eq_of_le_of_lt hle hlt, lt_of_le_of_lt hle hlt⟩

end Money

namespace Sample

/-- Five pounds with 28 digits after the point, and `units` of the last of them more. -/
def fivePounds (units : Int) (h : units.natAbs ≤ 1) : Money :=
  ⟨⟨50000000000000000000000000000 + units, 28, by rw [Nat.pow_eq]; omega, le_refl 28⟩, sterling⟩

/-- A custodian that charges a little more than five pounds for a withdrawal. -/
def charging : Custodian Unit := fun request backend =>
  match request with
  | .withdrawalFee _ => .done (.ok (fivePounds 1 le_rfl)) backend
  | request => obliging request backend

/-- The engine that withdraws from an account that holds ten pounds. -/
def tightWithdrawal : Engine Unit :=
  .withdrawal (context charging) (.fiat ⟨"Cash", sterling, pounds 10⟩) bank

end Sample

namespace Flow

/-- **How far a withdrawal overspends**: whenever a call after any history asks for a
withdrawal, the balance covers the total of amount and fee.  It covers their exact
sum too unless the total is the balance and was rounded down to it, and what is
missing then is at most half a unit of the last digit of the total. -/
theorem covers_iff_of_withdraw_asked {ctx : EngineContext σ} {e : Engine σ}
    (builtIn : e.IsBuiltIn ctx) {w₀ : World σ} {p₀ : Pending} {history : List FlowEvent}
    {s : FlowState σ} (h : History e w₀ p₀ history s) (call : FlowCall) :
    ∃ asked, (call.apply e s).2.world.requests = s.world.requests ++ asked ∧
      ∀ bankId amount, .withdraw bankId amount ∈ asked →
        let fee := s.pending.feeAmount
        let balance := s.pending.availableBalance
        ∃ total, amount.add fee = .ok total ∧ total.worth ≤ balance.worth ∧
          (amount.worth + fee.worth ≤ balance.worth ↔
            ¬ (total.worth = balance.worth ∧ total.worth < amount.worth + fee.worth)) ∧
          amount.worth + fee.worth - balance.worth ≤ 1 / 2 / 10 ^ total.value.scale := by
  obtain ⟨route, rfl⟩ := h.exists_route builtIn
  obtain ⟨asked, hasked, rfl | ⟨more, rfl, hquiet, -, -, hpassed, -⟩⟩ :=
    (ends_apply ctx route s call).asked
  · exact ⟨[], hasked, by simp⟩
  · refine ⟨_, hasked, fun bankId amount hmem => ?_⟩
    have horder : (Submission.order bankId amount).request ∈
        (route.submission ctx s.pending).request :: more := hmem
    have hsubmission := Submission.eq_of_request_mem hquiet horder
    cases route with
    | deposit => cases hsubmission
    | withdrawal fiat bank agree =>
        cases hsubmission
        obtain ⟨-, hbalance⟩ := Route.assess_eq_canExecute_iff.1 hpassed
        obtain ⟨total, htotal, hgreater⟩ :=
          Pending.classifyBalance_eq_canExecute_iff.1 (hbalance rfl)
        have hle : total.worth ≤ s.pending.availableBalance.worth := by
          simpa using (Money.isGreater_eq_ok_iff.1 hgreater).2
        refine ⟨total, htotal, hle, Money.add_worth_le_iff htotal hle, ?_⟩
        have hsum := (Money.rounds_of_add htotal).sub_le
        change _ - total.worth ≤ _ at hsum
        linarith

/-- The balance covers five pounds and the fee for them. -/
theorem covers_iff_of_withdraw_asked_five_pounds :
    ∃ p₀ history s total,
      History Sample.withdrawal (.start ()) p₀ history s ∧
        .withdraw "bank" (Sample.pounds 5) ∈
          ((FlowCall.execute none).apply Sample.withdrawal s).2.world.requests ∧
        (Sample.pounds 5).add s.pending.feeAmount = .ok total ∧
        ((Sample.pounds 5).worth + s.pending.feeAmount.worth ≤ s.pending.availableBalance.worth ↔
          ¬ (total.worth = s.pending.availableBalance.worth ∧
            total.worth < (Sample.pounds 5).worth + s.pending.feeAmount.worth)) := by
  have hstart : start Sample.withdrawal (.start ()) = (.ok _, _) := rfl
  have hhistory := history_drive hstart Sample.confirming
  obtain ⟨asked, hasked, hcovers⟩ :=
    covers_iff_of_withdraw_asked Sample.isBuiltIn_withdrawal hhistory (.execute none)
  have hrequest : asked = [.withdraw "bank" (Sample.pounds 5)] :=
    List.append_cancel_left (hasked.symm.trans (by decide +kernel))
  subst hrequest
  obtain ⟨total, htotal, -, hiff, -⟩ := hcovers _ _ (List.mem_singleton_self _)
  refine ⟨_, _, _, total, hhistory, ?_, htotal, hiff⟩
  rw [hasked]
  simp

/-- **An overspend**: a withdrawal of five pounds for a little more than five pounds
goes through although the account holds only ten. -/
theorem overspends_balance :
    ∃ p₀ history s,
      History Sample.tightWithdrawal (.start ()) p₀ history s ∧
        .withdraw "bank" (Sample.fivePounds 0 (by decide)) ∈
          ((FlowCall.execute none).apply Sample.tightWithdrawal s).2.world.requests ∧
        s.pending.availableBalance.worth <
          (Sample.fivePounds 0 (by decide)).worth + s.pending.feeAmount.worth := by
  have hstart : start Sample.tightWithdrawal (.start ()) = (.ok _, _) := rfl
  have hhistory := history_drive hstart
    [.updateAmount (Sample.fivePounds 0 (by decide)), .validate, .buildConfirmations]
  refine ⟨_, _, _, hhistory, by decide +kernel, ?_⟩
  change (Sample.pounds 10).worth <
    (Sample.fivePounds 0 (by decide)).worth + (Sample.fivePounds 1 le_rfl).worth
  have hten : (Sample.pounds 10).value.units = 10 := by decide
  simp only [Money.worth, Decimal.toRat, hten, Sample.fivePounds]
  norm_num [Sample.pounds, Money.ofMajor, Decimal.ofInt64]

end Flow

end FiatRamp
