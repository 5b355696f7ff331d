import TypedMarkup.Storage.FileSystem
import TypedMarkup.Storage.Report

namespace TypedMarkup.Storage

inductive Script (α : Type) where
  | done (x : α)
  | read (path : String) (next : Except Fault ByteArray → Script α)
  | write (path : String) (bytes : ByteArray) (next : Except Fault Unit → Script α)
  | rename (old new : String) (next : Except Fault Unit → Script α)
  | remove (path : String) (next : Except Fault Unit → Script α)
  | report (r : Report) (next : Script α)

namespace Script

variable {α β : Type}

def bind : Script α → (α → Script β) → Script β
  | done x, f => f x
  | read p k, f => .read p fun r => (k r).bind f
  | write p b k, f => .write p b fun r => (k r).bind f
  | rename p q k, f => .rename p q fun r => (k r).bind f
  | remove p k, f => .remove p fun r => (k r).bind f
  | report r k, f => .report r (k.bind f)

instance : Monad Script where
  pure := done
  bind := bind

def tell (r : Report) : Script Unit :=
  .report r (.done ())

def outcome (fs : FileSystem) : Except Fault FileSystem → Except Fault Unit × FileSystem
  | .ok fs' => (.ok (), fs')
  | .error e => (.error e, fs)

def run : Script α → FileSystem → α × FileSystem × List Report
  | done x, fs => (x, fs, [])
  | read p k, fs => (k (fs.read p)).run fs
  | write p b k, fs =>
    let r := outcome fs (fs.write p b)
    (k r.1).run r.2
  | rename p q k, fs =>
    let r := outcome fs (fs.rename p q)
    (k r.1).run r.2
  | remove p k, fs =>
    let r := outcome fs (fs.remove p)
    (k r.1).run r.2
  | report r k, fs =>
    let (x, fs', rs) := k.run fs
    (x, fs', r :: rs)

def showing (shown : Report → Bool) : Script α → Script α
  | done x => .done x
  | read p k => .read p fun r => (k r).showing shown
  | write p b k => .write p b fun r => (k r).showing shown
  | rename p q k => .rename p q fun r => (k r).showing shown
  | remove p k => .remove p fun r => (k r).showing shown
  | report r k => if shown r then .report r (k.showing shown) else k.showing shown

theorem run_bind (s : Script α) (f : α → Script β) (fs : FileSystem) :
    (s.bind f).run fs =
      let (x, fs', rs) := s.run fs
      let (y, fs'', rs') := (f x).run fs'
      (y, fs'', rs ++ rs') := by
  induction s generalizing fs with
  | done x => simp [bind, run]
  | read p k ih => simp only [bind, run, ih]
  | write p b k ih => simp only [bind, run, ih]
  | rename p q k ih => simp only [bind, run, ih]
  | remove p k ih => simp only [bind, run, ih]
  | report r k ih => simp [bind, run, ih]

end Script

end TypedMarkup.Storage
