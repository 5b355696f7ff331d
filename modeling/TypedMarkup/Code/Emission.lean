import TypedMarkup.Code.Item
import TypedMarkup.Code.Token

namespace TypedMarkup.Code

open Token

def separated : List (List Token) → List Token
  | [] => []
  | e :: es => e ++ es.flatMap fun f => .mark ',' false :: f

def Ty.emitted : Ty → List Token
  | named p => ofText p
  | reference t => .mark '&' false :: t.emitted
  | some t => .word "impl" :: t.emitted
  | applied h t => ofText h ++ .mark '<' false :: (t.emitted ++ [.mark '>' false])
  | bound h n t =>
    ofText h ++ .mark '<' false ::
      (ofText n ++ .mark '=' false :: (t.emitted ++ [.mark '>' false]))
  | pair a b => [.group .round (separated [a.emitted, b.emitted])]

namespace Expr

mutual

def emitted : Expr → List Token
  | atom s => ofText s
  | text s => [.literal .text (Text.literal s)]
  | call f args => ofText f ++ [.group .round (separated (emittedEach args))]
  | method r n args =>
    r.emitted ++ .mark '.' false :: (ofText n ++ [.group .round (separated (emittedEach args))])
  | field r n => r.emitted ++ .mark '.' false :: ofText n
  | array es => [.group .square (separated (emittedEach es))]
  | tuple es => [.group .round (separated (emittedEach es))]
  | lambda p e => .mark '|' false :: (ofText p ++ .mark '|' false :: e.emitted)

def emittedEach : List Expr → List (List Token)
  | [] => []
  | e :: es => e.emitted :: emittedEach es

end

end Expr

def Stmt.emitted : Stmt → List Token
  | run e => e.emitted ++ [.mark ';' false]
  | value e => e.emitted
  | bind n e => .word "let" :: (ofText n ++ .mark '=' false :: (e.emitted ++ [.mark ';' false]))
  | choose n c yes no =>
    .word "let" :: (ofText n ++ .mark '=' false :: .word "if" :: (ofText c ++
      [.group .curly [.literal .text (Text.literal yes)], .word "else",
        .group .curly [.literal .text (Text.literal no)], .mark ';' false]))
  | update i s n e =>
    .word "for" :: (ofText i ++ .word "in" :: (ofText s ++
      [.group .curly (ofText n ++ .mark '=' false :: (e.emitted ++ [.mark ';' false]))]))

def Param.emitted (p : Param) : List Token :=
  ofText p.name ++ .mark ':' false :: p.type.emitted

def Receiver.emitted : Receiver → List (List Token)
  | none => []
  | owned => [[.word "self"]]
  | mutable => [[.word "mut", .word "self"]]

def Signature.tokensAfterAccess (s : Signature) : List Token :=
  let params := separated (s.receiver.emitted ++ s.params.map Param.emitted)
  let result :=
    if s.result.isEmpty then [] else .mark '-' true :: .mark '>' false :: ofText s.result
  .word "fn" :: (ofText s.name ++ .group .round params :: result)

def Signature.emitted (s : Signature) : List Token :=
  ofText s.access ++ s.tokensAfterAccess

def notes (docs : List String) : List Token :=
  docs.flatMap fun d => [.mark '#' false, note (" " ++ d)]

def Declaration.emitted (d : Declaration) : List Token :=
  notes d.docs ++ d.signature.emitted ++ [.mark ';' false]

def Function.emitted (f : Function) : List Token :=
  notes f.docs ++ f.attributes.flatMap ofText ++ f.signature.emitted ++
    [.group .curly (f.body.flatMap Stmt.emitted)]

def Item.emitted : Item → List Token
  | trait docs name above methods =>
    notes docs ++ .word "pub" :: .word "trait" :: (ofText name ++ .mark ':' false ::
      (above.emitted ++ [.group .curly (methods.flatMap Declaration.emitted)]))
  | function f => f.emitted
  | wrapper name inner =>
    .word "pub" :: .word "struct" ::
      (ofText name ++ [.group .round (ofText inner), .mark ';' false])
  | implementation provided type methods =>
    .word "impl" :: (provided.emitted ++ .word "for" :: (ofText type ++
      [.group .curly (methods.flatMap Function.emitted)]))
  | inherent type methods =>
    .word "impl" :: (ofText type ++ [.group .curly (methods.flatMap Function.emitted)])

end TypedMarkup.Code
