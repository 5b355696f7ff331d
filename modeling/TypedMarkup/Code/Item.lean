import TypedMarkup.Code.Expression

namespace TypedMarkup.Code

open Layout

structure Param where
  name : String
  type : Ty
  deriving DecidableEq, Repr

def Param.doc (p : Param) : Doc :=
  .word (p.name ++ ": ") ++ p.type.doc

inductive Receiver where
  | none
  | owned
  | mutable
  deriving DecidableEq, Repr

structure Signature where
  access : String
  name : String
  receiver : Receiver
  params : List Param
  result : String
  deriving DecidableEq, Repr

namespace Signature

def args (s : Signature) : List Doc :=
  let ds := s.params.map Param.doc
  match s.receiver with
  | .none => ds
  | .owned => .word "self" :: ds
  | .mutable => .word "mut self" :: ds

def doc (s : Signature) : Doc :=
  let params := enclosedAt 0 (s.access ++ "fn " ++ s.name ++ "(") ")" s.args
  if s.result.isEmpty then params
  else params ++ .box .consistent (-4) (.word (" -> " ++ s.result))

end Signature

structure Declaration where
  docs : List String
  signature : Signature
  deriving DecidableEq, Repr

structure Function where
  attributes : List String
  docs : List String
  signature : Signature
  body : List Stmt
  deriving Repr

def docLines (indent : Nat) (docs : List String) : List Line :=
  docs.map fun d => ⟨indent, "/// " ++ d⟩

def Declaration.lines (indent : Nat) (d : Declaration) : List Line :=
  docLines indent d.docs ++
    (Doc.box .consistent 4 (d.signature.doc ++ .word ";")).lines indent indent

def Function.lines (indent : Nat) (f : Function) : List Line :=
  docLines indent f.docs ++ f.attributes.map (fun a => ⟨indent, a⟩) ++
    (f.signature.doc ++ .word " \x7b").lines indent (indent + 4) ++
    f.body.flatMap (Stmt.lines (indent + 4)) ++ [⟨indent, "\x7d"⟩]

inductive Item where
  | trait (docs : List String) (name : String) (above : Ty) (methods : List Declaration)
  | function (f : Function)
  | wrapper (name inner : String)
  | implementation (provided : Ty) (type : String) (methods : List Function)
  | inherent (type : String) (methods : List Function)
  deriving Repr

namespace Item

def lines : Item → List Line
  | trait docs name above methods =>
    docLines 0 docs ++
      (.word ("pub trait " ++ name ++ ": ") ++ above.doc ++ .word " \x7b" : Doc).lines 0 4 ++
      methods.flatMap (Declaration.lines 4) ++ [⟨0, "\x7d"⟩]
  | function f => f.lines 0
  | wrapper name inner =>
    (Doc.box .consistent 4 (.word ("pub struct " ++ name ++ "(") ++ .gap 0 0 false ++ .word inner ++
      .gap 0 (-4) true ++ .word ");")).lines 0 0
  | implementation provided type methods =>
    (Doc.box .filled (-4) (.box .consistent 4 (.word "impl") ++ .word " " ++ provided.doc ++
      .gap 1 0 false ++ .word ("for " ++ type)) ++ .word " \x7b").lines 0 4 ++
      methods.flatMap (Function.lines 4) ++ [⟨0, "\x7d"⟩]
  | inherent type methods =>
    (Doc.box .filled (-4) (.box .consistent 4 (.word "impl") ++ .word (" " ++ type)) ++
      .word " \x7b").lines 0 4 ++
      methods.flatMap (Function.lines 4) ++ [⟨0, "\x7d"⟩]

end Item

end TypedMarkup.Code
