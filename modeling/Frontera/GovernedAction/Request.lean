import Frontera.GovernedAction.Identifiers

/-! The request that the kernel decided on, as a governance record keeps it. -/

namespace Frontera.GovernedAction

open Frontera.Text Frontera.Monetary Frontera.Grant
open Frontera.Payment (isAsciiDigit isAsciiLowercase)

structure GovernanceProfileReference where
  id : String
  version : Int
  digest : String

structure GovernedActionSemantics where
  (actionClass resourceClass : String)
  governanceProfile : GovernanceProfileReference

inductive GovernedParameterBoundKind where
  | exact | maximum

structure DeclaredGovernedParameter where
  parameter : GovernedParameter
  bound : GovernedParameterBoundKind

structure KernelAction where
  (type resourceScope : String)
  (counterpartyId amount currency : Option String)
  semantics : Option GovernedActionSemantics
  governedParameters : Option (List DeclaredGovernedParameter)

structure KernelEvaluationRequest where
  (requestId actorId trustDomainId organizationId : String)
  action : KernelAction
  context : Option (Json String)
  requestedAt : String
  correlationId : Option String

end Frontera.GovernedAction
