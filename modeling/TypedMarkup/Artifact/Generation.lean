import TypedMarkup.Artifact.Smoke
import TypedMarkup.Code.Grammar
import TypedMarkup.Storage.Path
import TypedMarkup.Vocabulary.Builtin

namespace TypedMarkup

open Code Layout

structure Config where
  outDir : String
  builderFile : String
  testFile : String
  runtimePath : String
  deriving DecidableEq, Repr

namespace Config

def standard : Config :=
  ⟨".", "html_gen.rs", "html_gen_test.rs", "super"⟩

def builderPath (c : Config) : String :=
  Path.join c.outDir c.builderFile

def testPath (c : Config) : String :=
  Path.join c.outDir c.testFile

end Config

structure Artifact where
  fileName : String
  contents : String
  deriving DecidableEq, Repr

structure Artifacts where
  builder : Artifact
  tests : Artifact
  deriving DecidableEq, Repr

def Artifacts.toList (a : Artifacts) : List Artifact :=
  [a.builder, a.tests]

inductive GenerationError where
  | missingKey (e : MissingKey)
  | runtimePath (path : String) (cause : ReadError)
  | code (cause : ReadError)
  deriving DecidableEq, Repr

def GenerationError.message : GenerationError → String
  | missingKey e => e.message
  | runtimePath path cause =>
    "Invalid runtime path " ++ Text.quoted path ++ ": " ++ cause.message
  | code cause => "Generated code is not valid Rust: " ++ cause.message

def Config.modulePath (c : Config) : Except GenerationError ModulePath :=
  match ModulePath.parse c.runtimePath with
  | .error e => .error (.runtimePath c.runtimePath e)
  | .ok p => .ok p

def builderText (path : String) (t : Table) : String :=
  textOf (builderLines path t)

def smokeText (t : Table) : String :=
  textOf (smokeLines t)

def checked (ts : List Token) (text : String) : Except GenerationError String :=
  match Grammar.readAll Grammar.file ts with
  | .error e => .error (.code e)
  | .ok () => .ok text

def Table.render (t : Table) (c : Config) : Except GenerationError Artifacts := do
  let path ← c.modulePath
  let builder ← checked (builderTokens c.runtimePath t) (builderText path.text t)
  let tests ← checked (smokeTokens t) (smokeText t)
  return ⟨⟨c.builderFile, builder⟩, ⟨c.testFile, tests⟩⟩

def Config.generateFrom (c : Config) : Except MissingKey Table → Except GenerationError Artifacts
  | .error e => .error (.missingKey e)
  | .ok t => t.render c

def Config.generate (c : Config) : Except GenerationError Artifacts :=
  c.generateFrom (Table.builtin .builtin)

end TypedMarkup
