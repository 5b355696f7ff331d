import TypedMarkup.Artifact.Generation
import TypedMarkup.Storage.Script

namespace TypedMarkup

open Storage

structure StorageError where
  path : String
  fault : Fault
  deriving DecidableEq, Repr

def StorageError.message (e : StorageError) : String :=
  "I/O Error at " ++ e.path ++ ": " ++ e.fault.message

structure Staged where
  temporary : String
  destination : String
  deriving DecidableEq, Repr

namespace Artifact

def destination (dir : String) (a : Artifact) : String :=
  Path.join dir a.fileName

def temporary (dir : String) (a : Artifact) : String :=
  Path.join dir ("." ++ a.fileName ++ ".tmp")

def staged (dir : String) (a : Artifact) : Staged :=
  ⟨a.temporary dir, a.destination dir⟩

end Artifact

def discard : List Staged → Script Unit
  | [] => .done ()
  | s :: rest =>
    .remove s.temporary fun
      | .ok () => discard rest
      | .error e =>
        .report ⟨.output, .debug, "failed to remove temporary file",
          [("path", s.temporary), ("err", e.message)]⟩ (discard rest)

-- Writes the temporaries; after a failure those already written are removed.
def stage (dir : String) : List Artifact → List Staged → Script (Except StorageError (List Staged))
  | [], ready => .done (.ok ready)
  | a :: rest, ready =>
    .write (a.temporary dir) a.contents.toUTF8 fun
      | .ok () => stage dir rest (ready ++ [a.staged dir])
      | .error e =>
        .remove (a.temporary dir) fun _ =>
          (discard ready).bind fun _ => .done (.error ⟨a.temporary dir, e⟩)

-- Renames the temporaries; after a failure those that are left are removed.
def publish : List Staged → Script (Except StorageError (List String))
  | [] => .done (.ok [])
  | s :: rest =>
    .rename s.temporary s.destination fun
      | .ok () =>
        .report ⟨.output, .info, "wrote generated file", [("path", s.destination)]⟩ <|
          (publish rest).bind fun r => .done (r.map (s.destination :: ·))
      | .error e => (discard (s :: rest)).bind fun _ => .done (.error ⟨s.destination, e⟩)

def staleAmong (dir : String) : List Artifact → Script (Except StorageError (List String))
  | [] => .done (.ok [])
  | a :: rest =>
    let path := a.destination dir
    let go (current : Option String) : Script (Except StorageError (List String)) :=
      if current = some a.contents then staleAmong dir rest
      else .report ⟨.output, .warn, "generated file is out of date", [("path", path)]⟩ <|
        (staleAmong dir rest).bind fun r => .done (r.map (path :: ·))
    .read path fun
      | .ok bytes =>
        match String.fromUTF8? bytes with
        | some text => go (some text)
        | none => .done (.error ⟨path, .notText⟩)
      | .error .notFound => go none
      | .error e => .done (.error ⟨path, e⟩)

namespace Artifacts

def write (a : Artifacts) (dir : String) : Script (Except StorageError (List String)) :=
  (stage dir a.toList []).bind fun
    | .ok ready => publish ready
    | .error e => .done (.error e)

def stale (a : Artifacts) (dir : String) : Script (Except StorageError (List String)) :=
  staleAmong dir a.toList

end Artifacts

inductive RunError where
  | generation (e : GenerationError)
  | storage (e : StorageError)
  deriving DecidableEq, Repr

namespace Config

def builtinReport : Script Unit :=
  let v := Vocabulary.builtin
  .tell ⟨.catalogs, .debug, "loaded catalogs",
    [("html_attributes", toString v.htmlAttributes.size),
     ("svg_attributes", toString v.svgAttributes.size),
     ("html_events", toString v.htmlEvents.size), ("svg_events", toString v.svgEvents.size)]⟩

def rendering (c : Config) : Except MissingKey Table → Script (Except GenerationError Artifacts)
  | .error e => .done (.error (.missingKey e))
  | .ok t =>
    .report ⟨.elements, .debug, "built element table",
      [("html", toString htmlDefinitions.length), ("svg", toString svgDefinitions.length)]⟩ <|
    match t.render c with
    | .error e => .done (.error e)
    | .ok a =>
      .report ⟨.program, .debug, "rendered artifacts",
        [("elements", toString t.size),
         ("builder_bytes", toString a.builder.contents.utf8ByteSize),
         ("test_bytes", toString a.tests.contents.utf8ByteSize)]⟩ (.done (.ok a))

def generating (c : Config) : Script (Except GenerationError Artifacts) :=
  builtinReport.bind fun _ => c.rendering (Table.builtin .builtin)

def run (c : Config) : Script (Except RunError (List String)) :=
  c.generating.bind fun
    | .error e => .done (.error (.generation e))
    | .ok a => (a.write c.outDir).bind fun r => .done (r.mapError .storage)

end Config

end TypedMarkup
