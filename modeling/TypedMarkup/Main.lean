import TypedMarkup.Program.Command

namespace TypedMarkup

open Storage

def codeOf : IO.Error → Option UInt32
  | .noFileOrDirectory _ code _ | .inappropriateType _ code _ | .alreadyExists _ code _
  | .invalidArgument _ code _ | .noSuchThing _ code _ | .resourceExhausted _ code _ => some code
  | .resourceBusy code _ | .unsatisfiedConstraints code _ | .otherError code _ => some code
  | _ => none

def faultOf (e : IO.Error) : Fault :=
  match codeOf e with
  | some 2 => .notFound
  | some 16 => .busy
  | some 17 => .exists
  | some 20 => .notDirectory
  | some 21 => .isDirectory
  | some 22 => .invalid
  | some 36 => .nameTooLong
  | _ => .other (toString e)

def attempt {α : Type} (act : IO α) : IO (Except Fault α) := do
  match ← act.toBaseIO with
  | .ok x => return .ok x
  | .error e => return .error (faultOf e)

def Storage.Script.perform {α : Type} : Script α → IO α
  | .done x => return x
  | .read p k => do (k (← attempt (IO.FS.readBinFile p))).perform
  | .write p b k => do (k (← attempt (IO.FS.writeBinFile p b))).perform
  | .rename p q k => do (k (← attempt (IO.FS.rename p q))).perform
  | .remove p k => do (k (← attempt (IO.FS.removeFile p))).perform
  | .report r k => do
    IO.eprintln r.text
    k.perform

def usage : String :=
  "Usage: html-codegen [OPTIONS]\n\nFor more information, try '--help'."

end TypedMarkup

open TypedMarkup in
def main (args : List String) : IO UInt32 := do
  let outcome ← (command args (← IO.getEnv "HTML_CODEGEN_LOG")).perform
  IO.print outcome.output
  if outcome.code = 2 then IO.eprintln usage
  return outcome.code.toUInt32
