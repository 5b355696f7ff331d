import TypedMarkup.Code.Type
import TypedMarkup.Text.Quoted

namespace TypedMarkup.Code

open Layout

inductive Expr where
  | atom (s : String)
  | text (s : String)
  | call (function : String) (args : List Expr)
  | method (receiver : Expr) (name : String) (args : List Expr)
  | field (receiver : Expr) (name : String)
  | array (items : List Expr)
  | tuple (items : List Expr)
  | lambda (param : String) (body : Expr)
  deriving Repr

namespace Expr

def isShort : Expr → Bool
  | atom s => s.utf8ByteSize ≤ 4
  | _ => false

def isBlock : Expr → Bool
  | array _ | tuple _ | lambda .. => true
  | _ => false

def enclosedArgs (args : List Expr) (ds : List Doc) : Doc :=
  match args, ds with
  | [e], [d] => if e.isBlock then .word "(" ++ d ++ .word ")" else enclosed "(" ")" [d]
  | _, ds => enclosed "(" ")" ds

def link (first : Bool) (receiver : Expr) (d : Doc) : Doc :=
  if first && receiver.isShort then d else d ++ .gap 0 0 false

def leaf (linked : Bool) (d : Doc) : Doc :=
  if linked then .box .consistent (-4) d else d

mutual

-- An expression, `linked` if a member of it follows, `first` if it starts a line.
def doc (linked first : Bool) : Expr → Doc
  | atom s => leaf linked (.word s)
  | text s => leaf linked (.word (Text.literal s))
  | call f args => leaf linked (.word f) ++ enclosedArgs args (docs args)
  | method r n args =>
    let chain := link first r (r.doc true first) ++ .word ("." ++ n)
    if linked then chain ++ .box .consistent 0 (enclosedArgs args (docs args))
    else
      let back := if first && r.isShort then -4 else 0
      .box .consistent 4 (chain ++ .box .consistent back (enclosedArgs args (docs args)))
  | field r n =>
    let chain := link first r (r.doc true first) ++ .word ("." ++ n)
    if linked then chain else .box .consistent 4 chain
  | array es => leaf linked (enclosed "[" "]" (docs es))
  | tuple es => leaf linked (enclosed "(" ")" (docs es))
  | lambda p e => leaf linked (.word ("|" ++ p ++ "| ") ++ e.doc false false)

def docs : List Expr → List Doc
  | [] => []
  | e :: es => e.doc false false :: docs es

end

end Expr

inductive Stmt where
  | run (e : Expr)
  | value (e : Expr)
  | bind (name : String) (e : Expr)
  | choose (name condition yes no : String)
  | update (item source name : String) (e : Expr)
  deriving Repr

namespace Stmt

def lines (indent : Nat) : Stmt → List Line
  | run e => (Doc.box .filled 0 (e.doc false true ++ .word ";")).lines indent indent
  | value e => (Doc.box .filled 0 (e.doc false true)).lines indent indent
  | bind n e =>
    (Doc.box .filled 0 (.word ("let " ++ n ++ " = ") ++ e.doc false false ++ .word ";")).lines
      indent indent
  | choose n c yes no =>
    [⟨indent, "let " ++ n ++ " = if " ++ c ++ " \x7b " ++ Text.literal yes ++ " \x7d else \x7b " ++
      Text.literal no ++ " \x7d;"⟩]
  | update i s n e =>
    ⟨indent, "for " ++ i ++ " in " ++ s ++ " \x7b"⟩ ::
    ((Doc.box .filled 0 (.word (n ++ " = ") ++ e.doc false false ++ .word ";")).lines (indent + 4)
      (indent + 4) ++ [⟨indent, "\x7d"⟩])

end Stmt

end TypedMarkup.Code
