import ShaderLiterals.Check.Validator
import ShaderLiterals.Literal.Extraction
import ShaderLiterals.Text.Quoted

/-! # Why a check or a listing is broken off -/

namespace ShaderLiterals

inductive CheckFault where
  | cannotOpen (path : String) (cause : Files.Fault)
  | cannotExtract (path : String) (cause : ExtractFault)
  | cannotValidate (name : String) (cause : ValidatorFault)
  | brokenSink
deriving DecidableEq, Repr

namespace CheckFault

def message : CheckFault → String
  | cannotOpen path _ => "could not open " ++ Quoted.quote path
  | cannotExtract path _ => "could not extract shaders from " ++ Quoted.quote path
  | cannotValidate name _ => "could not validate " ++ name
  | brokenSink => "sink is broken"

/-- What lies behind the fault, the nearest cause first. -/
def causes : CheckFault → List String
  | cannotOpen _ cause => [cause.message]
  | cannotExtract _ cause => [cause.message, cause.causeMessage]
  | cannotValidate _ cause => cause.chain
  | brokenSink => []

end CheckFault

end ShaderLiterals
