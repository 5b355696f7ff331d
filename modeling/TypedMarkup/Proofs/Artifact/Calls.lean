import TypedMarkup.Proofs.Artifact.Bodies
import TypedMarkup.Proofs.Code.Tests

namespace TypedMarkup

open Code Layout Token

namespace ValueKind

def isTruth (k : ValueKind) : Prop :=
  k = .bool ∨ k = .boolForce ∨ k = .onOff

theorem samples_of_isTruth {k : ValueKind} (h : k.isTruth) :
    k.samples = [[.atom "true"], [.atom "false"]] := by
  rcases h with rfl | rfl | rfl <;> rfl

theorem length_samples {k : ValueKind} (h : ¬ k.isTruth) : k.samples.length = 1 := by
  cases k <;> first | rfl | simp [isTruth] at h

theorem isLegible_samples (k : ValueKind) : ∀ args ∈ k.samples, Expr.eachLegible args := by
  have hall : k.samples.all Expr.eachLegible := by
    cases k <;> rfl
  exact List.all_eq_true.mp hall

theorem length_of_mem_samples (k : ValueKind) :
    ∀ args ∈ k.samples, args.length = k.params.length := by
  cases k <;> simp [samples, params]

theorem callsAmong_of_mem_samples (k : ValueKind) :
    ∀ args ∈ k.samples, Expr.callsAmong args = [] := by
  cases k <;> simp [samples, Expr.callsAmong, Expr.calls]

end ValueKind

def elemCall (method : String) (args : List Expr) : Call :=
  ⟨.atom "elem", method, args⟩

theorem calls_step {method : String} {args : List Expr} (h : Expr.callsAmong args = []) :
    (step method args).calls = [elemCall method args] := by
  rw [step, Stmt.calls, Expr.calls, h]
  rfl

theorem Attribute.calls_steps (a : Attribute) :
    a.steps.flatMap Stmt.calls = a.kind.samples.map (elemCall a.methodName) := by
  rw [steps, List.flatMap_map, List.map_eq_flatMap]
  exact List.flatMap_congr fun args hargs =>
    calls_step (a.kind.callsAmong_of_mem_samples args hargs)

namespace Element

variable (e : Element)

def eventCalls : List Call :=
  if e.events = [] then []
  else elemCall "on" [.text "click", .atom "h"] ::
    e.events.map fun x => elemCall x.methodName [.atom "h"]

def lastCalls : List Call :=
  match e.content with
  | .container => [elemCall "text" [.text "hello"]]
  | .restricted => [elemCall "private_body" [.array [.call "text" [.text "hello"]]]]
  | .childless => []

theorem calls_eventSteps : e.eventSteps.flatMap Stmt.calls = e.eventCalls := by
  unfold eventSteps eventCalls
  cases e.events with
  | nil => rfl
  | cons x xs =>
    have hcalls : (fun x : Event => (step x.methodName [.atom "h"]).calls) =
        fun x => [elemCall x.methodName [.atom "h"]] := funext fun _ => calls_step rfl
    rw [if_neg (by simp), if_neg (by simp), List.flatMap_cons, List.flatMap_cons,
      calls_step (rfl : Expr.callsAmong [.text "click", .atom "h"] = []), List.flatMap_map, hcalls,
      List.map_eq_flatMap]
    rfl

theorem calls_lastStep : e.lastStep.calls = e.lastCalls := by
  unfold lastStep lastCalls
  cases e.content <;> rfl

theorem calls_smokeTest : e.smokeTest.calls =
    (e.attributes.flatMap fun a => a.kind.samples.map (elemCall a.methodName)) ++ e.eventCalls ++
      e.lastCalls := by
  have hsubject (args : List Expr) (h : Expr.callsAmong args = []) :
      (Stmt.bind "elem" (.call ("super::" ++ e.constructorName) args)).calls = [] := h
  have hsteps : (e.attributes.flatMap Attribute.steps).flatMap Stmt.calls =
      e.attributes.flatMap fun a => a.kind.samples.map (elemCall a.methodName) := by
    rw [List.flatMap_assoc]
    exact List.flatMap_congr fun a _ => a.calls_steps
  rw [Function.calls, smokeTest, List.flatMap_cons, hsubject _ (by cases e.tag <;> rfl),
    List.nil_append, List.flatMap_append, List.flatMap_append, hsteps, calls_eventSteps,
    List.flatMap_singleton, calls_lastStep]

theorem isLegible_subject {args : List Expr} (h : Expr.eachLegible args) :
    (Stmt.bind "elem" (.call ("super::" ++ e.constructorName) args)).isLegible := by
  have hname : isWord "elem" := by decide
  simp only [Stmt.isLegible, Expr.isLegible, hname, isPath_outer e.isIdentifier_constructorName, h,
    Bool.and_self]

theorem isLegible_step {method : String} (h : isIdentifier method.toList) {args : List Expr}
    (hargs : Expr.eachLegible args) : (step method args).isLegible := by
  have hname : isWord "elem" := by decide
  simp only [step, Stmt.isLegible, Expr.isLegible, hname, h, hargs, Bool.and_self]

theorem isTest_smokeTest : e.smokeTest.IsTest where
  attributes := rfl
  docs := rfl
  signature := by
    simp only [smokeTest, Signature.isLegible, e.isIdentifier_constructorName]
    decide
  body := by
    have hargs : ∀ args ∈ [[], [Expr.text "div"]], Expr.eachLegible args := by decide
    have hlast : e.lastStep.isLegible := by
      unfold lastStep
      cases e.content <;> decide
    refine e.forall_smokeTest (fun args h => .inl (e.isLegible_subject (hargs args h)))
      (fun a args h => .inl ?_) (.inr rfl) (.inl ?_) (fun x => .inl ?_) (.inl hlast)
    · exact isLegible_step (isIdentifier_identifier (isName_sanitize _))
        (a.kind.isLegible_samples args h)
    · exact isLegible_step (by decide) (by decide)
    · exact isLegible_step (isIdentifier_identifier (isName_sanitize _)) (by decide)
  values := e.not_value_smokeTest

theorem methodCalls_smokeTest :
    methodCalls [] e.smokeTest.method.body = e.smokeTest.calls.map Call.shown :=
  e.isTest_smokeTest.methodCalls

end Element

theorem scans_header (rest : List Char) : Scans (header.flatMap Line.ended ++ rest) [] rest := by
  have hheader : header.flatMap Line.ended =
      '/' :: '/' :: ' ' ::
        ("Code generated by html-codegen. DO NOT EDIT.".toList ++ ['\n', '\n']) := by
    decide
  have hcomment := Scans.comment
    (by decide : unbroken "Code generated by html-codegen. DO NOT EDIT.") ('\n' :: rest)
  have hlines := (Scans.line 0 ('\n' :: rest)).trans (Scans.line 0 rest)
  rw [hheader]
  simpa only [List.cons_append, List.append_assoc, List.nil_append] using hcomment.trans hlines

theorem reads_subject : ReadLines [⟨0, subject⟩] (outerPath ++ [.mark ';' false]) := by
  have hword : Legible subject.toList (outerPath ++ [.mark ';' false]) := legible_of_lex rfl rfl
  have hread := ReadLines.of_doc (.word (by decide) hword) 0 0
  rwa [lines_word] at hread

def testLines (t : Table) : List Line :=
  [⟨0, subject⟩] ++ t.elements.flatMap fun e => e.smokeTest.lines 0

theorem reads_testLines (t : Table) : ReadLines (testLines t)
    (outerPath ++ [.mark ';' false] ++ t.elements.flatMap fun e => e.smokeTest.testTokens) :=
  reads_subject.append (.flatMap fun e _ => e.isTest_smokeTest.reads)

theorem smokeLines_eq (t : Table) : smokeLines t = header ++ testLines t := by
  rw [smokeLines, testLines, List.append_assoc]

theorem tests_smokeText (t : Table) :
    tests (smokeText t) = some (t.elements.map fun e => e.smokeTest.method) := by
  have hread := (reads_testLines t).reads []
  rw [List.append_nil] at hread
  have htokens : tokensOf (smokeText t) = some (outerPath ++ [.mark ';' false] ++
      t.elements.flatMap fun e => e.smokeTest.testTokens) := by
    have hchars : (smokeText t).toList =
        header.flatMap Line.ended ++ (testLines t).flatMap Line.ended := by
      rw [smokeText, toList_textOf, smokeLines_eq, List.flatMap_append]
    refine ReadsTo.tokensOf ?_ ?_
    · rw [hchars]
      exact ((scans_header _).readsTo settles_nil).trans hread
    · rw [hchars]
      simp [header, Line.ended, Line.chars]
  have htests : ∀ f ∈ t.elements.map Element.smokeTest, f.IsTest :=
    List.forall_mem_map.mpr fun e _ => e.isTest_smokeTest
  rw [tests_of_tokens htests (by rw [htokens, List.flatMap_map]; simp), List.map_map]
  rfl

theorem tests_contents {t : Table} {c : Config} {a : Artifacts} (h : t.render c = .ok a) :
    tests a.tests.contents = some (t.elements.map fun e => e.smokeTest.method) := by
  obtain ⟨path, -, rfl⟩ := render_ok h
  exact tests_smokeText t

theorem unbroken_smokeLines (t : Table) : ∀ l ∈ smokeLines t, unbroken l.text := by
  have hheader : ∀ l ∈ header, unbroken l.text := by decide
  rw [smokeLines_eq, List.forall_mem_append]
  exact ⟨hheader, fun l hl => unbroken_of_isCodeWord ((reads_testLines t).words l hl)⟩

end TypedMarkup
