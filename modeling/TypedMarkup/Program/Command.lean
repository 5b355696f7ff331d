import TypedMarkup.Artifact.Output
import TypedMarkup.Program.Filter
import TypedMarkup.Program.Options

namespace TypedMarkup

open Storage

structure Outcome where
  code : Nat
  output : String
  deriving DecidableEq, Repr

def helpText : String :=
  "\n".intercalate
    ["Generate the HTML and SVG element builders and their smoke tests",
     "",
     "Usage: html-codegen [OPTIONS]",
     "",
     "Options:",
     "      --out-dir <OUT_DIR>            Directory the generated files are written to [default: .]",
     "      --runtime-path <RUNTIME_PATH>  Module providing the element runtime, relative to the generated",
     "                                     builder module [default: super]",
     "      --check                        Only check that the generated files are up to date. Nothing is",
     "                                     written",
     "  -v                                 Enable verbose logging",
     "  -h, --help                         Print help",
     "  -V, --version                      Print version",
     ""]

def versionText : String :=
  "html-codegen 0.1.0\n"

def GenerationError.causes : GenerationError → List String
  | e@(missingKey _) => [e.message]
  | e@(runtimePath _ cause) => [e.message, cause.message]
  | e@(code cause) => [e.message, cause.message]

def StorageError.causes (e : StorageError) : List String :=
  [e.message, e.fault.message]

def failing (causes : List String) : Script Nat :=
  .report ⟨.program, .error, ": ".intercalate causes, []⟩ (.done 1)

def succeeding (message : String) (fields : List (String × String)) : Script Nat :=
  .report ⟨.program, .info, message, fields⟩ (.done 0)

namespace Options

def check? (dir : String) (a : Artifacts) : Script Nat :=
  (a.stale dir).bind fun
    | .error e => failing ("failed to compare the generated files" :: e.causes)
    | .ok [] => succeeding "generated files are up to date" []
    | .ok paths =>
      failing [toString paths.length ++ " generated file(s) are out of date, rerun html-codegen"]

def write (dir : String) (a : Artifacts) : Script Nat :=
  (a.write dir).bind fun
    | .error e => failing (("failed to write into " ++ dir) :: e.causes)
    | .ok paths => succeeding "done" [("files", toString paths.length)]

def carryOut (o : Options) : Script Nat :=
  o.config.generating.bind fun
    | .error e => failing ("failed to generate the element builders" :: e.causes)
    | .ok a => if o.check then check? o.config.outDir a else write o.config.outDir a

end Options

def command (args : List String) (filter : Option String) : Script Outcome :=
  match Request.ofArguments args with
  | .help => .done ⟨0, helpText⟩
  | .version => .done ⟨0, versionText⟩
  | .misuse => .done ⟨2, ""⟩
  | .generate o =>
    (o.carryOut.showing (filterOf filter o.verbose).shows).bind fun code => .done ⟨code, ""⟩

end TypedMarkup
