import TypedMarkup.Storage.Path

namespace TypedMarkup.Storage

inductive Fault where
  | notFound
  | notDirectory
  | isDirectory
  | exists
  | busy
  | nameTooLong
  | zeroInName
  | invalid
  | notText
  | other (message : String)
  deriving DecidableEq, Repr

def Fault.message : Fault → String
  | notFound => "No such file or directory (os error 2)"
  | notDirectory => "Not a directory (os error 20)"
  | isDirectory => "Is a directory (os error 21)"
  | .exists => "File exists (os error 17)"
  | busy => "Device or resource busy (os error 16)"
  | nameTooLong => "File name too long (os error 36)"
  | zeroInName => "file name contained an unexpected NUL byte"
  | invalid => "Invalid argument (os error 22)"
  | notText => "stream did not contain valid UTF-8"
  | other m => m

inductive Node where
  | file (bytes : ByteArray)
  | directory

instance : DecidableEq Node
  | .file b, .file c =>
    decidable_of_iff (b.data = c.data) (by rw [Node.file.injEq, ByteArray.ext_iff])
  | .file _, .directory => isFalse nofun
  | .directory, .file _ => isFalse nofun
  | .directory, .directory => isTrue rfl

abbrev Place := List String

structure FileSystem where
  entries : List (Place × Node)
  home : Place

inductive Ending where
  | name (s : String) (slash : Bool)
  | reached
  deriving DecidableEq, Repr

structure Route where
  start : Place
  names : List String
  ending : Ending
  deriving DecidableEq, Repr

namespace FileSystem

def longestName : Nat := 255

def longestPath : Nat := 4095

def node? (fs : FileSystem) (p : Place) : Option Node :=
  if p = [] then some .directory else fs.entries.lookup p

def put (fs : FileSystem) (p : Place) (n : Node) : FileSystem :=
  { fs with entries := (p, n) :: fs.entries.filter (·.1 != p) }

def drop (fs : FileSystem) (p : Place) : FileSystem :=
  { fs with entries := fs.entries.filter (·.1 != p) }

theorem lookup_filter {es : List (Place × Node)} {p q : Place} :
    (es.filter (·.1 != p)).lookup q = if q = p then none else es.lookup q := by
  induction es with
  | nil => simp
  | cons e es ih =>
    obtain ⟨r, n⟩ := e
    by_cases hr : r = p
    · subst hr
      by_cases hq : q = r
      · subst hq
        simpa using ih
      · have : (q == r) = false := beq_eq_false_iff_ne.2 hq
        simpa [List.lookup_cons, hq, this] using ih
    · by_cases hq : q = r
      · subst hq
        simp [hr]
      · have : (q == r) = false := beq_eq_false_iff_ne.2 hq
        simpa [List.lookup_cons, hr, this] using ih

theorem node?_put (fs : FileSystem) {p : Place} (hp : p ≠ []) (q : Place) (n : Node) :
    (fs.put p n).node? q = if q = p then some n else fs.node? q := by
  by_cases hq : q = p
  · subst hq
    simp [node?, put, hp]
  · have : (q == p) = false := beq_eq_false_iff_ne.2 hq
    simp [node?, put, hq, List.lookup_cons, this, lookup_filter]

theorem node?_drop (fs : FileSystem) {p : Place} (hp : p ≠ []) (q : Place) :
    (fs.drop p).node? q = if q = p then none else fs.node? q := by
  by_cases hq : q = p
  · subst hq
    simp [node?, drop, hp, lookup_filter]
  · simp [node?, drop, hq, lookup_filter]

-- Dots at the end of a path name no entry.
def route (fs : FileSystem) (path : String) : Except Fault Route :=
  if path.toList.contains '\x00' then .error .zeroInName
  else if path.isEmpty then .error .notFound
  else if path.utf8ByteSize > longestPath then .error .nameTooLong
  else
    let start := if Path.isRooted path then [] else fs.home
    let parts := Path.parts path
    match parts.getLast? with
    | none => .ok ⟨start, [], .reached⟩
    | some s =>
      if s = ['.'] ∨ s = ['.', '.'] then .ok ⟨start, Path.named parts, .reached⟩
      else
        .ok ⟨start, Path.named parts.dropLast, .name (String.ofList s) (Path.endsInSlash path)⟩

def child (fs : FileSystem) (p : Place) (name : String) : Except Fault (Option Node) :=
  match fs.node? p with
  | none => .error .notFound
  | some (.file _) => .error .notDirectory
  | some .directory =>
    if name.utf8ByteSize > longestName then .error .nameTooLong
    else .ok (fs.node? (p ++ [name]))

-- The place that one name leads to from a directory; two dots lead up, and above the root is the
-- root.
def step (fs : FileSystem) (p : Place) (name : String) : Except Fault Place :=
  match fs.child p name with
  | .error e => .error e
  | .ok found =>
    if name = ".." then .ok p.dropLast
    else if found = none then .error .notFound
    else .ok (p ++ [name])

def walk (fs : FileSystem) : Place → List String → Except Fault Place
  | p, [] =>
    match fs.node? p with
    | none => .error .notFound
    | some (.file _) => .error .notDirectory
    | some .directory => .ok p
  | p, n :: ns =>
    match fs.step p n with
    | .error e => .error e
    | .ok q => fs.walk q ns

def locate (fs : FileSystem) (path : String) : Except Fault (Place × Ending) :=
  match fs.route path with
  | .error e => .error e
  | .ok r => (fs.walk r.start r.names).map (·, r.ending)

def find (fs : FileSystem) (path : String) : Except Fault Node :=
  match fs.locate path with
  | .error e => .error e
  | .ok (_, .reached) => .ok .directory
  | .ok (p, .name s slash) =>
    match fs.child p s with
    | .error e => .error e
    | .ok none => .error .notFound
    | .ok (some .directory) => .ok .directory
    | .ok (some (.file b)) => if slash then .error .notDirectory else .ok (.file b)

def isDirectory (fs : FileSystem) (path : String) : Bool :=
  match fs.find path with
  | .ok .directory => true
  | _ => false

def read (fs : FileSystem) (path : String) : Except Fault ByteArray :=
  match fs.find path with
  | .error e => .error e
  | .ok .directory => .error .isDirectory
  | .ok (.file b) => .ok b

def write (fs : FileSystem) (path : String) (bytes : ByteArray) : Except Fault FileSystem :=
  match fs.locate path with
  | .error e => .error e
  | .ok (_, .reached) => .error .isDirectory
  | .ok (p, .name s slash) =>
    if slash then .error .isDirectory
    else
      match fs.child p s with
      | .error e => .error e
      | .ok (some .directory) => .error .isDirectory
      | .ok _ => .ok (fs.put (p ++ [s]) (.file bytes))

-- Only files are removed.
def remove (fs : FileSystem) (path : String) : Except Fault FileSystem :=
  match fs.locate path with
  | .error e => .error e
  | .ok (_, .reached) => .error .isDirectory
  | .ok (p, .name s slash) =>
    match fs.child p s with
    | .error e => .error e
    | .ok none => .error .notFound
    | .ok (some .directory) => .error .isDirectory
    | .ok (some (.file _)) =>
      if slash then .error .notDirectory else .ok (fs.drop (p ++ [s]))

def rename (fs : FileSystem) (old new : String) : Except Fault FileSystem :=
  match fs.locate old, fs.locate new with
  | .error e, _ => .error e
  | _, .error e => .error e
  | .ok (_, .reached), _ => .error .busy
  | _, .ok (_, .reached) => .error .busy
  | .ok (p, .name s slash), .ok (q, .name t slash') =>
    match fs.child p s, fs.child q t with
    | .error e, _ => .error e
    | .ok none, _ => .error .notFound
    | _, .error e => .error e
    | .ok (some .directory), _ => .error .isDirectory
    | .ok (some (.file b)), .ok target =>
      if slash || slash' then .error .notDirectory
      else if target = some .directory then .error .isDirectory
      else .ok ((fs.drop (p ++ [s])).put (q ++ [t]) (.file b))

end FileSystem

end TypedMarkup.Storage
