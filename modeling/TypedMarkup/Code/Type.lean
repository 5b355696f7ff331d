import TypedMarkup.Layout.Doc

namespace TypedMarkup.Code

open Layout

def series (d : Doc) (ds : List Doc) : Doc :=
  ds.foldl (fun acc x => acc ++ .word "," ++ .gap 1 0 false ++ x) (.gap 0 0 false ++ d) ++
    .gap 0 (-4) true

def enclosedAt (offset : Int) (opening closing : String) : List Doc → Doc
  | [] => .word (opening ++ closing)
  | d :: ds => .word opening ++ .box .consistent offset (series d ds) ++ .word closing

def enclosed : String → String → List Doc → Doc :=
  enclosedAt 4

inductive Ty where
  | named (path : String)
  | reference (t : Ty)
  | some (bound : Ty)
  | applied (head : String) (arg : Ty)
  | bound (head item : String) (arg : Ty)
  | pair (a b : Ty)
  deriving DecidableEq, Repr

def Ty.doc : Ty → Doc
  | .named p => .word p
  | .reference t => .word "&" ++ t.doc
  | .some t => .word "impl " ++ t.doc
  | .applied h t => enclosed (h ++ "<") ">" [t.doc]
  | .bound h n t => enclosed (h ++ "<") ">" [.word (n ++ " = ") ++ t.doc]
  | .pair a b => enclosed "(" ")" [a.doc, b.doc]

end TypedMarkup.Code
