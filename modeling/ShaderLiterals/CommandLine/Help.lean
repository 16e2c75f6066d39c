import ShaderLiterals.CommandLine.Settings
import ShaderLiterals.Text.Plain

/-! # The help text -/

namespace ShaderLiterals.CommandLine

/-- The column at which options are described. -/
def helpColumn : Nat := 39

/-- Lines after the first one of a description start in its column. -/
def indentHelp (text : String) : String :=
  String.ofList <| text.toList.flatMap fun c =>
    if c = '\n' then '\n' :: List.replicate helpColumn ' ' else [c]

/-- The help text, which shows the validator that the environment names.  A control sequence that
the name leaves open reaches to the next option. -/
def help (blank : Plain.Blank) (environment : Option String) : String :=
  "Validates GLSL shaders embedded as string literals in source files\n\n" ++
  "Usage: shader_check [OPTIONS] [PATHS]...\n\n" ++
  "Arguments:\n" ++
  "  [PATHS]...  Files to scan; directories are searched recursively [default: " ++
  defaultPath ++ "]\n\n" ++
  "Options:\n" ++
  "      --validator <validator>          Shader compiler used to check each shader [env: " ++
  variableName ++ "=" ++
  Plain.strip blank (indentHelp (environment.getD "") ++ "] [default: " ++ defaultValidator ++
    "]\n      ") ++
  "--validator-arg <validator-arg>  " ++
  "Extra argument for the validator, placed before the shader path\n" ++
  "      --extension <extension>          Extension of files to scan inside directories " ++
  "[default: " ++ defaultExtension ++ "]\n" ++
  "      --list                           " ++
  "List the embedded shaders instead of validating them\n" ++
  "  -h, --help                           Print help\n"

end ShaderLiterals.CommandLine
