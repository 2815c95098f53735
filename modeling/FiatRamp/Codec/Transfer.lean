import FiatRamp.Codec.Bank
import FiatRamp.Transfer.Pending
import FiatRamp.Transfer.Result

/-!
# FiatRamp.Codec.Transfer

The exchange form of transfers and of what the custodian says about them.
-/

namespace FiatRamp

open Json

/-! ## Answers of the custodian -/

def TransferLimits.toJson (l : TransferLimits) : Json :=
  .record [("min", l.min.toJson), ("max", ofOption Money.toJson l.max)]

def TransferLimits.ofJson? : Json → Option TransferLimits :=
  asRecord? .json do
    let min ← required "min" Money.ofJson?
    let max ← optional "max" Money.ofJson?
    return { min, max }

def Charge.toJson (c : Charge) : Json :=
  .record [("payment_id", .text c.paymentId), ("linked_bank_id", .text c.linkedBankId),
    ("amount", c.amount.toJson), ("authorisation_url", ofOption .text c.authorisationUrl)]

def Charge.ofJson? : Json → Option Charge :=
  asRecord? .json do
    let paymentId ← required "payment_id" asText?
    let linkedBankId ← required "linked_bank_id" asText?
    let amount ← required "amount" Money.ofJson?
    let authorisationUrl ← optional "authorisation_url" asText?
    return { paymentId, linkedBankId, amount, authorisationUrl }

/-! ## Words -/

def TransferAction.toJson (a : TransferAction) : Json := .text a.word

def TransferAction.ofJson? (dialect : Dialect) : Json → Option TransferAction :=
  asWord? dialect TransferAction.all TransferAction.word

def FeeLevel.toJson (l : FeeLevel) : Json := .text l.word

def FeeLevel.ofJson? : Json → Option FeeLevel := asWord? .json FeeLevel.all FeeLevel.word

def Verdict.toJson (v : Verdict) : Json := .text v.dataWord

def Verdict.ofJson? : Json → Option Verdict := asWord? .json Verdict.all Verdict.dataWord

def Stage.toJson (s : Stage) : Json := .text s.word

def Stage.ofJson? : Json → Option Stage := asWord? .json Stage.all Stage.word

/-! ## Parts of a transfer -/

def FeeSelection.toJson (s : FeeSelection) : Json :=
  .record [("selected", s.selected.toJson), ("available", .list (s.available.map FeeLevel.toJson)),
    ("custom_amount", ofOption ofUInt64 s.customAmount)]

/-- Any choice is read, also of a level that is not on offer. -/
def FeeSelection.ofJson? : Json → Option FeeSelection :=
  asRecord? .json do
    let selected ← required "selected" FeeLevel.ofJson?
    let available ← required "available" (asList? FeeLevel.ofJson?)
    let customAmount ← optional "custom_amount" asUInt64?
    return { selected, available, customAmount }

def Limit.toJson : Limit → Json
  | .unknown => .record [("kind", .text "unknown")]
  | .unbounded => .record [("kind", .text "unbounded")]
  | .limited bound => .record [("kind", .text "limited"), ("value", bound.toJson)]

/-- The limit of a kind, with what is written under `value`. -/
def Limit.ofParts? (value : Option Json) : String → Option Limit
  | "unknown" => if value.all isNull then some .unknown else none
  | "unbounded" => if value.all isNull then some .unbounded else none
  | "limited" => (value.bind Money.ofJson?).map .limited
  | _ => none
where
  /-- Nothing is written but null. -/
  isNull : Json → Bool
    | .null => true
    | _ => false

def Limit.kinds : List String := ["unknown", "unbounded", "limited"]

def Limit.ofJson? : Json → Option Limit
  | .record fields => do
    let kind ← asWord? .json Limit.kinds id (← fields.lookup "kind")
    Limit.ofParts? (fields.lookup "value") kind
  | .list [kind, value] => do Limit.ofParts? (some value) (← asWord? .json Limit.kinds id kind)
  | _ => none

def Confirmation.toJson : Confirmation → Json
  | .paymentMethod label accountNumber accountType action =>
    .record [("type", .text "payment_method"), ("label", .text label),
      ("account_number", .text accountNumber), ("account_type", .text accountType),
      ("action", action.toJson)]
  | .source label => .record [("type", .text "from"), ("label", .text label)]
  | .target label action =>
    .record [("type", .text "to"), ("label", .text label), ("action", action.toJson)]
  | .estimatedCompletion => .record [("type", .text "estimated_completion")]
  | .fee charged => .record [("type", .text "fee_amount"), ("fee", charged.toJson)]
  | .amount moved isImportant =>
    .record [("type", .text "amount"), ("amount", moved.toJson), ("is_important", .bool isImportant)]
  | .total sum => .record [("type", .text "total"), ("total", sum.toJson)]

def Confirmation.ofJson? : Json → Option Confirmation :=
  asTagged? "type" fun
    | "payment_method", rest => rest |> asRecord? .tagged do
      let label ← required "label" asText?
      let accountNumber ← required "account_number" asText?
      let accountType ← required "account_type" asText?
      let action ← required "action" (TransferAction.ofJson? .tagged)
      return .paymentMethod label accountNumber accountType action
    | "from", rest => rest |> asRecord? .tagged do return .source (← required "label" asText?)
    | "to", rest => rest |> asRecord? .tagged do
      let label ← required "label" asText?
      let action ← required "action" (TransferAction.ofJson? .tagged)
      return .target label action
    | "estimated_completion", rest => asEmpty? .estimatedCompletion rest
    | "fee_amount", rest => rest |> asRecord? .tagged do return .fee (← required "fee" Money.ofJson?)
    | "amount", rest => rest |> asRecord? .tagged do
      let amount ← required "amount" Money.ofJson?
      let isImportant ← required "is_important" asBool?
      return .amount amount isImportant
    | "total", rest => rest |> asRecord? .tagged do return .total (← required "total" Money.ofJson?)
    | _, _ => none

/-! ## Results -/

def TransferResult.toJson : TransferResult → Json
  | .payment id amount =>
    .record [("type", .text "hashed"), ("tx_id", .text id), ("amount", amount.toJson)]
  | .order id amount =>
    .record [("type", .text "unhashed"), ("order_id", .text id), ("amount", amount.toJson)]

def TransferResult.ofJson? : Json → Option TransferResult :=
  asTagged? "type" fun
    | "hashed", rest => rest |> asRecord? .tagged do
      let id ← required "tx_id" asText?
      let amount ← required "amount" Money.ofJson?
      return .payment id amount
    | "unhashed", rest => rest |> asRecord? .tagged do
      let id ← required "order_id" asText?
      let amount ← required "amount" Money.ofJson?
      return .order id amount
    | _, _ => none

def FollowUp.toJson : FollowUp → Json
  | .completed => .record [("type", .text "completed")]
  | .needsApproval approval => .record (("type", .text "needs_approval") :: approval.fields)

def FollowUp.ofJson? : Json → Option FollowUp :=
  asTagged? "type" fun
    | "completed", rest => asEmpty? .completed rest
    | "needs_approval", rest => (Approval.ofJson? .tagged rest).map .needsApproval
    | _, _ => none

/-! ## Transfers -/

/-- The fields of a transfer. -/
def Pending.fields (p : Pending) : List (String × Json) :=
  [("amount", p.amount.toJson), ("total_balance", p.totalBalance.toJson),
    ("available_balance", p.availableBalance.toJson),
    ("fee_for_full_available", p.feeForFullAvailable.toJson),
    ("fee_amount", p.feeAmount.toJson), ("selected_fiat", p.selectedFiat.toJson),
    ("min_limit", p.minLimit.toJson), ("max_limit", p.maxLimit.toJson),
    ("fee_selection", p.feeSelection.toJson), ("validation_state", p.verdict.toJson),
    ("confirmations", .list (p.confirmations.map Confirmation.toJson)), ("stage", p.stage.toJson)]

def Pending.toJson (p : Pending) : Json := .record p.fields

def Pending.ofJson? : Json → Option Pending :=
  asRecord? .json do
    let amount ← required "amount" Money.ofJson?
    let totalBalance ← required "total_balance" Money.ofJson?
    let availableBalance ← required "available_balance" Money.ofJson?
    let feeForFullAvailable ← required "fee_for_full_available" Money.ofJson?
    let feeAmount ← required "fee_amount" Money.ofJson?
    let selectedFiat ← required "selected_fiat" Currency.ofJson?
    let minLimit ← required "min_limit" Limit.ofJson?
    let maxLimit ← required "max_limit" Limit.ofJson?
    let feeSelection ← required "fee_selection" FeeSelection.ofJson?
    let verdict ← required "validation_state" Verdict.ofJson?
    let confirmations ← required "confirmations" (asList? Confirmation.ofJson?)
    let stage ← required "stage" Stage.ofJson?
    return { amount, totalBalance, availableBalance, feeForFullAvailable, feeAmount, selectedFiat,
             minLimit, maxLimit, feeSelection, verdict, confirmations, stage }

end FiatRamp
