import OxideArb.ControlFactor.Payload

/-!
# Publications

A publication names the factors that are in force together, in shadow or live.
-/

namespace OxideArb.ControlFactor

inductive PublicationMode
  | shadow
  | published
deriving DecidableEq, Repr

def PublicationMode.asStr : PublicationMode → String
  | .shadow => "shadow"
  | .published => "published"

inductive PublicationStatus
  | pending
  | active
  | superseded
  | expired
  | rolledBack
  | rejected
deriving DecidableEq, Repr

structure ControlFactorPublication where
  publicationId : FactorPublicationId
  mode : PublicationMode
  factorIds : List ControlFactorId
  previousPublicationId : Option FactorPublicationId
  status : PublicationStatus
  effectiveFrom : DateTime
  expiresAt : DateTime
  approvedBy : Option String
  approvalReason : String
  publicationHash : String
deriving DecidableEq, Repr

inductive GovernanceError
  | emptyPublication
  | invalidPublicationWindow
  | factorSetMismatch
  | factorNotReadyForPublication (factorId mode expected actual : String)
  | factorValue (source : FactorValueError)
  | publicationHashMismatch (expected actual : String)
  | rollbackTargetMissing
  | riskExpansionNotApproved
deriving DecidableEq, Repr

/-- `factor_status_for_mode`: the status a publication gives its members. -/
def PublicationMode.targetFactorStatus : PublicationMode → FactorStatus
  | .shadow => .shadow
  | .published => .published

def PublicationMode.requiredMemberStatus : PublicationMode → FactorStatus
  | .shadow => .candidate
  | .published => .shadow

namespace ControlFactorPublication

def validateMember (publication : ControlFactorPublication) (factor : ControlFactorValue) :
    Except GovernanceError Unit := do
  if !publication.factorIds.contains factor.factorId then .error .factorSetMismatch
  if factor.status ≠ publication.mode.requiredMemberStatus then
    .error (.factorNotReadyForPublication factor.factorId.raw publication.mode.asStr
      publication.mode.requiredMemberStatus.asStr factor.status.asStr)
  (factor.validateForTransition publication.mode.targetFactorStatus).mapError .factorValue

def validateForActivation (publication : ControlFactorPublication)
    (factors : List ControlFactorValue) : Except GovernanceError Unit := do
  if publication.factorIds.isEmpty then .error .emptyPublication
  if publication.expiresAt ≤ publication.effectiveFrom then .error .invalidPublicationWindow
  if publication.factorIds.length ≠ factors.length then .error .factorSetMismatch
  factors.forM publication.validateMember

end ControlFactorPublication

end OxideArb.ControlFactor
