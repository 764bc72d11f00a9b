import ProofAgent.ControlledReact.ArtifactBinding

/-! # Binding a tool proposal

The binder turns the planner's proposal into the parameters that are executed: a
system-generated parameter gets its value from the run, any other one the
proposal's value, and nothing else is let through. -/
namespace ProofAgent

open Base

namespace ToolProposalParameterBinder

/-- `_binding_error`. -/
def bindingError (message remediation : String) : ReactError :=
  .proofAgent "PA_TOOL_PROPOSAL_001" message remediation

/-- `_require_interface`. -/
def requireInterface (scope : EffectiveToolProposalScope) (toolName : Option String) :
    Except ReactError ToolProposalInterface :=
  orRaise (scope.toolInterfaces.find? fun interface => some interface.toolContractId = toolName)
    (bindingError "tool proposal target is outside Effective Tool Proposal Scope."
      "Propose only tools admitted into Effective Tool Proposal Scope.")

variable (rt : Runtime)

/-- `_stable_digest`. -/
def stableDigest (value : Json) : String := "sha256:" ++ rt.sha256 value.canonical

/-- `_system_parameter_value`. -/
def systemParameterValue (runId actionId toolContractId : String) (parameter : ToolProposalParameter) :
    String :=
  if parameter.name = "idempotency_key" then runId ++ ":" ++ actionId ++ ":" ++ toolContractId
  else stableDigest rt (.obj [("run_id", .str runId), ("action_id", .str actionId),
    ("tool_contract_id", .str toolContractId), ("parameter", .str parameter.name)])

/-- The value that one parameter of the interface is bound to; `none` when it is
optional and was not proposed. -/
def parameterValue (runId : String) (action : ReActActionProposal)
    (interface : ToolProposalInterface) (parameter : ToolProposalParameter) :
    Except ReactError (Option Json) :=
  if parameter.valueSource = .systemGenerated then
    .ok (some (.str (systemParameterValue rt runId action.actionId interface.toolContractId parameter)))
  else match action.parameters.get? parameter.name with
    | some value => .ok (some value)
    | none =>
      if parameter.required then
        .error (bindingError "tool proposal is missing required parameter."
          "Ask for the missing value before proposing the tool.")
      else .ok none

/-- The entries of a list of pairs; a later one replaces an earlier one. -/
def dictOf (entries : List (String × Json)) : FrozenDict :=
  entries.foldl (fun m entry => m.insert entry.1 entry.2) .empty

def bind (runId : String) (action : ReActActionProposal) (scope : EffectiveToolProposalScope) :
    Except ReactError BoundToolProposal := do
  let interface ← requireInterface scope action.targetToolName
  require (∀ parameter ∈ interface.parameters, parameter.valueSource = .systemGenerated →
      action.parameters.has parameter.name = false)
    (bindingError "tool proposal includes planner-supplied system-generated parameter."
      "Remove system-generated parameters from planner proposals.")
  let values ← interface.parameters.mapM fun parameter => do
    let value ← parameterValue rt runId action interface parameter
    return (parameter, value)
  require (∀ key ∈ action.parameters.keys, ∃ parameter ∈ interface.parameters, parameter.name = key)
    (bindingError "tool proposal includes unsupported parameter."
      "Use only parameters exposed by the Tool Proposal Interface.")
  let bound := values.filterMap fun p => p.2.map fun value => (p.1, value)
  let parameters := dictOf (bound.map fun p => (p.1.name, p.2))
  return { actionId := action.actionId
           toolContractId := interface.toolContractId
           parameters
           parameterSources := dictOf (bound.map fun p => (p.1.name, .str p.1.valueSource.value))
           parameterDigest := stableDigest rt parameters.json
           scopeDigest := some scope.schemaDigest }

/-! ## What a binding says -/

variable {rt}

/-- What `bind` returns was bound by the interface of the proposed tool, and the
proposal gave no value for a system-generated parameter. -/
structure BoundBy (rt : Runtime) (runId : String) (action : ReActActionProposal)
    (scope : EffectiveToolProposalScope) (bound : BoundToolProposal) : Prop where
  inScope : action.targetToolName = some bound.toolContractId ∧
    bound.toolContractId ∈ scope.toolContractIds
  proposed : bound.actionId = action.actionId
  digest : bound.parameterDigest = stableDigest rt bound.parameters.json
  system : ∃ interface ∈ scope.toolInterfaces, interface.toolContractId = bound.toolContractId ∧
    ∀ parameter ∈ interface.parameters, parameter.valueSource = .systemGenerated →
      action.parameters.has parameter.name = false

theorem bind_ok {runId : String} {action : ReActActionProposal} {scope : EffectiveToolProposalScope}
    {bound : BoundToolProposal} (h : bind rt runId action scope = .ok bound) :
    BoundBy rt runId action scope bound := by
  unfold bind at h
  obtain ⟨interface, hi, h₁⟩ := Base.bind_ok h
  obtain ⟨_, hsystem, h₂⟩ := Base.bind_ok h₁
  obtain ⟨values, _, h₃⟩ := Base.bind_ok h₂
  obtain ⟨_, _, h₄⟩ := Base.bind_ok h₃
  cases pure_ok h₄
  have hfind := orRaise_ok hi
  have hmem := List.mem_of_find?_eq_some hfind
  have hname := List.find?_some hfind
  refine ⟨⟨?_, List.mem_map.mpr ⟨_, hmem, rfl⟩⟩, rfl, rfl, interface, hmem, rfl, require_ok hsystem⟩
  exact (of_decide_eq_true hname).symm

end ToolProposalParameterBinder

end ProofAgent
