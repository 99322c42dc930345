import OxideArb.Risk.Sizing

/-!
# Validation of the risk configuration

Checks of `validate_risk_config` with the fields and texts of their errors, without the warnings.
-/

namespace OxideArb.Risk

inductive ConfigValidationError
  | invalidKellyFraction (value : Decimal)
  | invalidValue (field detail : String)
deriving DecidableEq, Repr

def errorIf (c : Prop) [Decidable c] (e : ConfigValidationError) : List ConfigValidationError :=
  if c then [e] else []

@[simp]
theorem errorIf_eq_nil {c : Prop} [Decidable c] {e : ConfigValidationError} :
    errorIf c e = [] ↔ ¬ c := by
  unfold errorIf
  split <;> simp_all

def validateRiskSizing (kelly : QuarterKellyCalculator) : List ConfigValidationError :=
  errorIf (kelly.kellyFraction ≤ 0 ∨ 1 < kelly.kellyFraction)
      (.invalidKellyFraction kelly.kellyFraction) ++
    errorIf (kelly.maxKellyFraction ≤ 0 ∨ 1 < kelly.maxKellyFraction)
      (.invalidValue "risk.kelly.max_kelly" "must be in (0, 1]") ++
    errorIf (kelly.minEdgeBps < 0 ∨ 10000 < kelly.minEdgeBps)
      (.invalidValue "risk.kelly.min_edge_bps" "must be in [0, 10000] basis points") ++
    errorIf (kelly.minProbabilityConfidence < 0 ∨ 1 < kelly.minProbabilityConfidence)
      (.invalidValue "risk.kelly.min_probability_confidence" "must be in [0, 1]") ++
    errorIf (kelly.minCalibrationSamples = 0 ∨ kelly.maxProbabilityStalenessSecs = 0)
      (.invalidValue "risk.kelly"
        "min_calibration_samples and max_probability_staleness_secs must be >= 1")

/-- The drawdown part of `validate_risk_operations`. -/
def validateDrawdown (guard : DrawdownGuard) : List ConfigValidationError :=
  errorIf (guard.maxDrawdownPct ≤ 0 ∨ 100 < guard.maxDrawdownPct)
      (.invalidValue "risk.drawdown.max_drawdown_pct" "must be in (0, 100]") ++
    errorIf (guard.reductionFactor ≤ 0 ∨ 1 < guard.reductionFactor)
      (.invalidValue "risk.drawdown.drawdown_reduction_factor" "must be in (0, 1]")

def validateCircuitBreaker (cb : CircuitBreakerConfig) : List ConfigValidationError :=
  ([("risk.circuit_breaker.l1_cooldown_secs", cb.l1CooldownSecs),
    ("risk.circuit_breaker.l2_cooldown_secs", cb.l2CooldownSecs),
    ("risk.circuit_breaker.l3_cooldown_secs", cb.l3CooldownSecs),
    ("risk.circuit_breaker.l4_cooldown_secs", cb.l4CooldownSecs),
    ("risk.circuit_breaker.recovery_observation_secs", cb.recoveryObservationSecs),
    ("risk.circuit_breaker.max_cooldown_secs", cb.maxCooldownSecs)].flatMap fun (field, val) =>
      errorIf (val = 0) (.invalidValue field "must be > 0")) ++
    errorIf (cb.halfOpenProbes = 0) (.invalidValue "risk.circuit_breaker.half_open_probes"
      "must be >= 1 (the recovery FSM needs at least one probe)") ++
    errorIf (cb.maxCooldownSecs < cb.l2CooldownSecs)
      (.invalidValue "risk.circuit_breaker.max_cooldown_secs"
        "must be >= l2_cooldown_secs (it caps the L2 exponential back-off)")

end OxideArb.Risk
