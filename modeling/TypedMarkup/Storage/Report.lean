import TypedMarkup.Text.Visible

namespace TypedMarkup.Storage

inductive Level where
  | error
  | warn
  | info
  | debug
  deriving DecidableEq, Repr

def Level.name : Level → String
  | error => "ERROR"
  | warn => "WARN"
  | info => "INFO"
  | debug => "DEBUG"

inductive Origin where
  | program
  | catalogs
  | elements
  | output
  deriving DecidableEq, Repr

def Origin.name : Origin → String
  | program => "html_codegen"
  | catalogs => "html_codegen::catalog"
  | elements => "html_codegen::elements"
  | output => "html_codegen::output"

structure Report where
  origin : Origin
  level : Level
  message : String
  fields : List (String × String)
  deriving DecidableEq, Repr

namespace Report

def fieldNames (r : Report) : List String :=
  "message" :: r.fields.map Prod.fst

def text (r : Report) : String :=
  r.fields.foldl (fun acc f => acc ++ " " ++ f.1 ++ "=" ++ f.2)
    (r.level.name ++ " " ++ Text.visible r.message)

end Report

end TypedMarkup.Storage
