import TypedMarkup.Proofs.Code.Calls

namespace TypedMarkup.Code

open Token Layout

def Method.readTest : List Token × Token → Option Method
  | (.mark '#' _ :: .group .square [.word "test"] :: ts, t) => read (ts, t)
  | _ => none

def isOuterImport : List Token × Token → Bool
  | ([.word "use", .word "super", .mark ':' _, .mark ':' _, .mark '*' _], .mark ';' _) => true
  | _ => false

def tests (s : String) : Option (List Method) :=
  match (tokensOf s).bind (declarations []) with
  | some (d :: ds) => if isOuterImport d then ds.mapM Method.readTest else none
  | _ => none

namespace Stmt

def handler : Stmt :=
  .bind "h" (.lambda "_: Context, _: Event" (.atom "\x7b\x7d"))

def handlerTokens : List Token :=
  [.word "let", .word "h", .mark '=' false, .mark '|' false, .word "_", .mark ':' false,
    .word "Context", .mark ',' false, .word "_", .mark ':' false, .word "Event", .mark '|' false,
    .group .curly [], .mark ';' false]

theorem tokens_handler : handler.tokens = handlerTokens := by
  have hname : Token.ofChars "h".toList = some [.word "h"] := rfl
  have hparams : Token.ofChars "_: Context, _: Event".toList =
      some [.word "_", .mark ':' false, .word "Context", .mark ',' false, .word "_",
        .mark ':' false, .word "Event"] := rfl
  have hbody : Token.ofChars "\x7b\x7d".toList = some [.group .curly []] := rfl
  simp only [handler, tokens, Expr.tokens, code_of_ofChars hname, code_of_ofChars hparams,
    code_of_ofChars hbody]
  rfl

theorem legible_handler :
    Legible "let h = |_: Context, _: Event| \x7b\x7d;".toList handlerTokens where
  reads rest _ := by
    have hcontext : lex [] "let h = |_: Context".toList =
        some [.word "let", .word "h", .mark '=' false, .mark '|' false, .word "_",
          .mark ':' false, .word "Context"] := rfl
    have hevent : lex [] " _: Event| ".toList =
        some [.word "_", .mark ':' false, .word "Event", .mark '|' false] := rfl
    have hopening : openingOf '\x7b' = some .curly := rfl
    have hend := ReadsTo.mark (by decide : ';' ∈ plainMarks) (by decide) rest
    have hblock := ReadsTo.group hopening rfl (by simp) (ReadsTo.refl ('\x7d' :: ';' :: rest))
      (.inl rfl : GapText 0 false [])
    have hsecond := (lex_reads hevent (.inl rfl) (.inl (by decide))).trans (hblock.trans hend)
    have hapart : Apart (',' :: ([] ++ " _: Event| ".toList ++ '\x7b' :: '\x7d' :: ';' :: rest)) :=
      apart_cons (by decide) _
    exact (lex_reads hcontext (.inl rfl) (.inr hapart)).trans (hsecond.comma rfl)
  head := ⟨'l', _, rfl, by decide⟩
  first := rfl

theorem reads_handler (indent : Nat) : ReadLines (handler.lines indent) handler.tokens := by
  rw [tokens_handler]
  refine .of_doc ⟨by decide, fun s hs => ?_⟩ indent indent
  obtain ⟨_, v, hu, hv, rfl⟩ := Doc.written_append.mp (Doc.written_box.mp hs)
  obtain ⟨x, _, hx, hclosure, rfl⟩ := Doc.written_append.mp hu
  obtain ⟨y, z, hy, hz, rfl⟩ := Doc.written_append.mp hclosure
  obtain rfl : v = [';'] := hv
  obtain rfl : x = "let h = ".toList := hx
  obtain rfl : y = "|_: Context, _: Event| ".toList := hy
  obtain rfl : z = ['\x7b', '\x7d'] := hz
  exact legible_handler

theorem methodCalls_handler (before : List Token) : methodCalls before handler.tokens = [] := by
  rw [tokens_handler]
  rfl

end Stmt

theorem reads_testMark :
    ReadLines [⟨0, "#[test]"⟩] [.mark '#' false, .group .square [.word "test"]] where
  words := by decide
  reads rest := by
    have hname : isName "test".toList := by decide
    have hword := (legible_name hname).reads (']' :: '\n' :: rest)
      (.of_head (by decide) (by decide) _)
    have hopening : openingOf '[' = some .square := rfl
    have hgroup := ReadsTo.group hopening rfl (by simp) hword (.inl rfl : GapText 0 false [])
    have hmark := ReadsTo.mark (by decide : '#' ∈ plainMarks) (by decide)
      ('[' :: ("test".toList ++ ']' :: '\n' :: rest))
    have hend := (Scans.line 0 rest).readsTo settles_nil
    exact hmark.trans (hgroup.trans hend)

namespace Function

def testTokens (f : Function) : List Token :=
  .mark '#' false :: .group .square [.word "test"] :: f.tokens

structure IsTest (f : Function) : Prop where
  attributes : f.attributes = ["#[test]"]
  docs : f.docs = []
  signature : f.signature.isLegible
  body : ∀ s ∈ f.body, s.isLegible ∨ s = Stmt.handler
  values : ∀ s ∈ f.body, s.isValue = false

variable {f : Function}

theorem IsTest.reads (h : f.IsTest) : ReadLines (f.lines 0) f.testTokens := by
  have hlines : ReadLines (f.body.flatMap (Stmt.lines 4)) (f.body.flatMap Stmt.tokens) := by
    refine .flatMap fun s hs => ?_
    rcases h.body s hs with hs | rfl
    · exact Stmt.reads hs 4
    · exact Stmt.reads_handler 4
  have hblock := reads_testMark.append (ReadLines.block (Signature.reads h.signature) 0 4 hlines 0)
  simpa [lines, docLines, testTokens, tokens, h.attributes, h.docs] using hblock

theorem IsTest.read_tokens (h : f.IsTest) :
    Method.readTest (.mark '#' false :: .group .square [.word "test"] :: f.signature.tokens,
      .group .curly (f.body.flatMap Stmt.tokens)) = some f.method := by
  rw [Method.readTest, Method.read, Signature.read_tokens h.signature]
  rfl

theorem IsTest.methodCalls (h : f.IsTest) :
    methodCalls [] f.method.body = f.calls.map Call.shown := by
  refine Stmt.methodCalls_body (fun s hs before hbefore => ?_)
    (fun s hs => h.values s (List.dropLast_subset _ hs)) rfl
  rcases h.body s hs with hs | rfl
  · exact Stmt.methodCalls_tokens hs hbefore
  · exact Stmt.methodCalls_handler before

theorem declarations_tests {fs : List Function} (h : ∀ f ∈ fs, f.IsTest) :
    ∃ ds, declarations [] (fs.flatMap testTokens) = some ds ∧
      ds.mapM Method.readTest = some (fs.map method) := by
  refine mapM_declarations fun f hf => ?_
  refine ⟨.mark '#' false :: .group .square [.word "test"] :: f.signature.tokens,
    .group .curly (f.body.flatMap Stmt.tokens), rfl, ?_, rfl, (h f hf).read_tokens⟩
  rw [List.forall_mem_cons, List.forall_mem_cons]
  exact ⟨rfl, rfl, Signature.not_ends (h f hf).signature⟩

end Function

def outerPath : List Token :=
  [.word "use", .word "super", .mark ':' false, .mark ':' false, .mark '*' false]

theorem tests_of_tokens {s : String} {fs : List Function} (h : ∀ f ∈ fs, f.IsTest)
    (htokens : tokensOf s =
      some (outerPath ++ .mark ';' false :: fs.flatMap Function.testTokens)) :
    tests s = some (fs.map Function.method) := by
  obtain ⟨ds, hds, hread⟩ := Function.declarations_tests h
  have hpath : ∀ t ∈ outerPath, endsDeclaration t = false := by simp [outerPath, endsDeclaration]
  have himport := declarations_append hpath (rfl : endsDeclaration (.mark ';' false)) []
    (fs.flatMap Function.testTokens)
  rw [hds] at himport
  rw [tests, htokens, Option.bind_some, himport]
  exact hread

end TypedMarkup.Code
