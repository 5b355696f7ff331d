import TypedMarkup.Artifact.Generation

namespace TypedMarkup

structure Options where
  outDir : Option String
  runtimePath : Option String
  check : Bool
  verbose : Bool
  deriving DecidableEq, Repr

namespace Options

def none : Options :=
  ⟨.none, .none, false, false⟩

def config (o : Options) : Config :=
  { Config.standard with
    outDir := o.outDir.getD Config.standard.outDir
    runtimePath := o.runtimePath.getD Config.standard.runtimePath }

end Options

inductive Request where
  | generate (o : Options)
  | help
  | version
  | misuse
  deriving DecidableEq, Repr

namespace Options

inductive Valued where
  | outDir
  | runtimePath
  deriving DecidableEq, Repr

def set (o : Options) (value : String) : Valued → Option Options
  | .outDir =>
    if o.outDir.isSome || value.isEmpty then .none else some { o with outDir := some value }
  | .runtimePath =>
    if o.runtimePath.isSome then .none else some { o with runtimePath := some value }

inductive Effect where
  | go (o : Options)
  | stop (r : Request)

def setCheck (o : Options) : Effect :=
  if o.check then .stop .misuse else .go { o with check := true }

def letter (o : Options) : Char → Effect
  | 'v' => if o.verbose then .stop .misuse else .go { o with verbose := true }
  | 'h' => .stop .help
  | 'V' => .stop .version
  | _ => .stop .misuse

def letters (o : Options) : List Char → Effect
  | [] => .go o
  | c :: s =>
    match o.letter c with
    | .go o => o.letters s
    | .stop r => .stop r

def word (o : Options) : String → Effect
  | "check" => o.setCheck
  | "help" => .stop .help
  | "version" => .stop .version
  | _ => .stop .misuse

def valued? : String → Option Valued
  | "out-dir" => some .outDir
  | "runtime-path" => some .runtimePath
  | _ => .none

inductive Argument where
  | terminator
  | assigned (name value : String)
  | long (name : String)
  | short (letters : List Char)
  | plain (text : String)

def Argument.of (a : String) : Argument :=
  match a.toList with
  | ['-', '-'] => .terminator
  | '-' :: '-' :: s =>
    match s.dropWhile (· != '=') with
    | '=' :: value => .assigned (String.ofList (s.takeWhile (· != '='))) (String.ofList value)
    | _ => .long (String.ofList s)
  | ['-'] => .plain a
  | '-' :: s => .short s
  | _ => .plain a

def finish (o : Options) : List String → Request
  | [] => .generate o
  | _ :: _ => .misuse

-- Arguments are read from left to right, and the first fault or question decides.
def read (o : Options) : List String → Request
  | [] => .generate o
  | a :: rest =>
    match Argument.of a with
    | .terminator => o.finish rest
    | .plain _ => .misuse
    | .assigned name value =>
      match (valued? name).bind (o.set value) with
      | some o => o.read rest
      | .none => .misuse
    | .short s =>
      match o.letters s with
      | .go o => o.read rest
      | .stop r => r
    | .long name =>
      match valued? name, rest with
      | .none, rest =>
        match o.word name with
        | .go o => o.read rest
        | .stop r => r
      | some _, [] => .misuse
      | some v, b :: rest =>
        match Argument.of b with
        | .plain value =>
          match o.set value v with
          | some o => o.read rest
          | .none => .misuse
        | _ => .misuse

end Options

def Request.ofArguments (args : List String) : Request :=
  Options.none.read args

end TypedMarkup
