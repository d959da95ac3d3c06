import Sidecar.Ports.Python

/-!
# Settings and tiers

`Settings` holds the values that pydantic has validated, with the bounds it
checked as fields.  A tier table is any `dict` from Stripe price ids to tiers;
`TIERS` is the one the repository ships.
-/

namespace Sidecar.Ports.Config

open Sidecar.Ports.Python

/-- `Settings`, as far as the worker and the receiver read it. -/
structure Settings where
  stripeWebhookSecret : String
  metronomeDefaultRateCardId : String
  workerMaxAttempts : Int
  workerRetryBaseSeconds : PyFloat
  workerRetryCapSeconds : PyFloat
  workerMaxAttempts_ge : 1 ≤ workerMaxAttempts
  workerRetryBaseSeconds_ge : (PyFloat.fin 1).le workerRetryBaseSeconds = true
  workerRetryCapSeconds_ge : (PyFloat.fin 1).le workerRetryCapSeconds = true

/-- `RecurrenceFrequency`. -/
inductive RecurrenceFrequency where
  | MONTHLY | QUARTERLY | ANNUAL | WEEKLY
deriving DecidableEq, Repr

/-- `frequency.lower()`. -/
def RecurrenceFrequency.lower : RecurrenceFrequency → String
  | .MONTHLY => "monthly"
  | .QUARTERLY => "quarterly"
  | .ANNUAL => "annual"
  | .WEEKLY => "weekly"

/-- `Tier`: what a price grants in each period. -/
structure Tier where
  name : String
  creditAmountPerPeriod : Int
  metronomeCreditProductId : String
  metronomeCreditTypeId : String
  recurrenceFrequency : RecurrenceFrequency
deriving DecidableEq, Repr

/-- `dict[str, Tier]`. -/
abbrev TierTable := List (String × Tier)

/-- `TIERS`, with the placeholders the repository ships. -/
def TIERS : TierTable :=
  [ ("price_REPLACE_ME_startup",
      { name := "startup"
        creditAmountPerPeriod := 10000000
        metronomeCreditProductId := "REPLACE_ME_startup_credit_product_uuid"
        metronomeCreditTypeId := "REPLACE_ME_credit_type_uuid"
        recurrenceFrequency := .MONTHLY })
  , ("price_REPLACE_ME_stepup",
      { name := "step_up"
        creditAmountPerPeriod := 100000000
        metronomeCreditProductId := "REPLACE_ME_stepup_credit_product_uuid"
        metronomeCreditTypeId := "REPLACE_ME_credit_type_uuid"
        recurrenceFrequency := .MONTHLY })
  , ("price_REPLACE_ME_higher_annual",
      { name := "higher"
        creditAmountPerPeriod := 200000000
        metronomeCreditProductId := "REPLACE_ME_higher_credit_product_uuid"
        metronomeCreditTypeId := "REPLACE_ME_credit_type_uuid"
        recurrenceFrequency := .ANNUAL }) ]

/-- `UnknownTierError`, with its message. -/
def unknownTierError (stripePriceId : String) : PyExc :=
  .unknownTierError (s!"Stripe price ID {pyRepr stripePriceId} is not configured in " ++
    "sidecar.config.tiers.TIERS. Add an entry there and redeploy.")

/-- `lookup_tier`. -/
def lookupTier (tiers : TierTable) (stripePriceId : String) : Except PyExc Tier :=
  match tiers.lookup stripePriceId with
  | some tier => .ok tier
  | none => .error (unknownTierError stripePriceId)

end Sidecar.Ports.Config
