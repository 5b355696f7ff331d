import TypedMarkup.Proofs.Code.Inside
import TypedMarkup.Proofs.Text.Words

namespace TypedMarkup.Code

open Layout

inductive End where
  | brace
  | semicolon
  | block
  deriving DecidableEq, Repr

namespace End

def of (inTrait : Bool) (l : List Char) : End :=
  if inTrait || "pub struct ".toList.isPrefixOf l then .semicolon
  else if "pub trait ".toList.isPrefixOf l then .brace
  else .block

def isAt : End → List Char → Bool
  | brace, l => l.getLast? == some '\x7b'
  | semicolon, l => l.getLast? == some ';'
  | block, l => l == ['\x7d']

def leadsIn (inTrait : Bool) : End → Bool
  | brace => true
  | semicolon => inTrait
  | block => false

end End

inductive Position where
  | between (inTrait : Bool) (notes : List (List Char))
  | within (inTrait : Bool) (e : End)
  deriving DecidableEq, Repr

def End.after (inTrait : Bool) (l : List Char) (e : End) : Position :=
  if e.isAt l then .between (e.leadsIn inTrait) [] else .within inTrait e

structure Opening where
  notes : List (List Char)
  code : List Char
  deriving DecidableEq, Repr

-- A brace with a line to itself that ends no code in a trait ends the trait.
def openings : Position → List (List Char) → List Opening
  | _, [] => []
  | .within inTrait e, l :: ls => openings (e.after inTrait l) ls
  | .between inTrait notes, l :: ls =>
    if isNote l then openings (.between inTrait (notes ++ [l])) ls
    else if l = [] then openings (.between inTrait []) ls
    else if l = ['\x7d'] then openings (.between false []) ls
    else ⟨notes, l⟩ :: openings ((End.of inTrait l).after inTrait l) ls

def said (l : List Char) : List Char :=
  (l.dropWhile (· = ' ')).drop 3

structure Announcement where
  start : String
  words : List (List Char)
  deriving DecidableEq, Repr

structure Opening.Announces (o : Opening) (a : Announcement) : Prop where
  start : a.start.toList <+: o.code
  neat : ∀ l ∈ o.notes, ∃ d, said l = ' ' :: d ∧ d ≠ [] ∧ Text.trim d = d
  words : o.notes.flatMap (fun l => Text.words (said l)) = a.words
  absent : o.notes = [] ↔ a.words = []

def Neat (docs : List String) : Prop :=
  ∀ d ∈ docs, d.toList ≠ [] ∧ Text.trim d.toList = d.toList

theorem neat_nil : Neat [] := by
  simp [Neat]

def docWords (docs : List String) : List (List Char) :=
  docs.flatMap fun d => Text.words d.toList

theorem docWords_cons (d : String) (docs : List String) :
    docWords (d :: docs) = Text.words d.toList ++ docWords docs :=
  List.flatMap_cons

theorem docWords_nil : docWords [] = [] := rfl

theorem Neat.docWords_eq_nil {docs : List String} (h : Neat docs) :
    docWords docs = [] ↔ docs = [] := by
  refine ⟨fun hwords => List.eq_nil_iff_forall_not_mem.mpr fun d hd => ?_, fun hdocs => hdocs ▸ rfl⟩
  obtain ⟨hne, htrim⟩ := h d hd
  rw [← htrim] at hne
  exact hne (Text.trim_of_words (List.flatMap_eq_nil_iff.mp hwords d hd))

theorem chars_docLine (indent : Nat) (d : String) :
    Line.chars ⟨indent, "/// " ++ d⟩ =
      List.replicate indent ' ' ++ '/' :: '/' :: '/' :: ' ' :: d.toList := by
  simp [Line.chars]

theorem said_docLine (indent : Nat) (d : String) :
    said (Line.chars ⟨indent, "/// " ++ d⟩) = ' ' :: d.toList := by
  rw [chars_docLine, said, dropWhile_indented (by decide)]
  rfl

theorem announces_docLines {docs : List String} (h : Neat docs) (indent : Nat) {start : String}
    {code : List Char} (hcode : start.toList <+: code) :
    Opening.Announces ⟨(docLines indent docs).map Line.chars, code⟩ ⟨start, docWords docs⟩ where
  start := hcode
  neat := by
    simp only [docLines, List.map_map, List.forall_mem_map, Function.comp_apply, said_docLine]
    exact fun d hd => ⟨d.toList, rfl, h d hd⟩
  words := by
    have hblank (d : String) : Text.words (' ' :: d.toList) = Text.words d.toList :=
      Text.words_cons_of_blank (by decide) d.toList
    simp only [docLines, List.map_map, List.flatMap_map, Function.comp_apply, said_docLine, hblank,
      docWords]
  absent := by
    rw [h.docWords_eq_nil, List.map_eq_nil_iff, docLines, List.map_eq_nil_iff]

theorem openings_docLines (b : Bool) (indent : Nat) (docs : List String) (rest : List (List Char)) :
    openings (.between b []) ((docLines indent docs).map Line.chars ++ rest) =
      openings (.between b ((docLines indent docs).map Line.chars)) rest := by
  -- By induction on the documentation, for any notes that are already gathered.
  have hgather (notes : List (List Char)) :
      openings (.between b notes) ((docLines indent docs).map Line.chars ++ rest) =
        openings (.between b (notes ++ (docLines indent docs).map Line.chars)) rest := by
    induction docs generalizing notes with
    | nil => simp [docLines]
    | cons d docs ih =>
      have hnote : isNote (Line.chars ⟨indent, "/// " ++ d⟩) := by
        rw [chars_docLine]
        exact isNote_indented indent _
      rw [docLines, List.map_cons, List.map_cons, List.cons_append, openings, if_pos hnote]
      simpa [docLines] using ih (notes ++ [Line.chars ⟨indent, "/// " ++ d⟩])
  exact hgather []

def End.Runs (e : End) (ls : List Line) : Prop :=
  ∃ init last, ls = init ++ [last] ∧ (∀ l ∈ init, e.isAt l.chars = false) ∧ e.isAt last.chars

theorem End.Runs.openings {e : End} {ls : List Line} (h : e.Runs ls) (b : Bool)
    (rest : List (List Char)) :
    openings (.within b e) (ls.map Line.chars ++ rest) =
      Code.openings (.between (e.leadsIn b) []) rest := by
  obtain ⟨init, last, rfl, hinit, hlast⟩ := h
  -- No line in front of the last one is an end, so the reader stays where it is.
  induction init with
  | nil => simp [Code.openings, after, hlast]
  | cons l init ih =>
    rw [List.forall_mem_cons] at hinit
    rw [List.cons_append, List.map_cons, List.cons_append, Code.openings, after, hinit.1]
    exact ih hinit.2

theorem End.runs_block {ls : List Line} (h : Inside ls) : End.block.Runs (ls ++ [⟨0, "\x7d"⟩]) :=
  ⟨ls, ⟨0, "\x7d"⟩, rfl, fun l hl => beq_false_of_ne (h l hl), by decide⟩

theorem End.runs_layout {e : End} {c : Char} (he : ∀ l, e.isAt l = (l.getLast? == some c))
    (hspace : c ≠ ' ') (hcomma : c ≠ ',') {d : Doc} (hd : d.all (lacks c)) {z : String}
    (hz : z.toList.getLast? = some c) (f : Frame) (start : Nat) :
    e.Runs ((d ++ .word z).layout f 0 (.start start)).lines := by
  obtain ⟨ls, i, s, hlines, hls⟩ := Doc.last_line_layout (kept_lacks hspace hcomma) hd z f 0 start
  refine ⟨ls, ⟨i, s ++ z⟩, hlines, fun l hl => ?_, ?_⟩
  · rw [he, beq_eq_false_iff_ne]
    intro hlast
    have hmem := List.mem_of_getLast? hlast
    rw [Line.chars, List.mem_append, List.mem_replicate] at hmem
    exact hmem.elim (fun h => hspace h.2) (hls l hl)
  · rw [he, Line.chars, String.toList_append, List.getLast?_append, List.getLast?_append, hz]
    simp

def Enters (b : Bool) (w : List Char) (e : End) : Prop :=
  ∀ t, isNote (w ++ t) = false ∧ w ++ t ≠ [] ∧ w ++ t ≠ ['\x7d'] ∧ End.of b (w ++ t) = e

theorem Enters.append {b : Bool} {w : String} {e : End} (h : Enters b w.toList e) (s : String) :
    Enters b (w ++ s).toList e := by
  intro t
  rw [String.toList_append, List.append_assoc]
  exact h (s.toList ++ t)

def Passes (b : Bool) (ls : List Line) (b' : Bool) (as : List Announcement) : Prop :=
  ∃ os, List.Forall₂ Opening.Announces os as ∧ ∀ rest,
    openings (.between b []) (ls.map Line.chars ++ rest) = os ++ openings (.between b' []) rest

namespace Passes

theorem nil (b : Bool) : Passes b [] b [] :=
  ⟨[], .nil, fun _ => rfl⟩

theorem append {b c d : Bool} {ls ms : List Line} {as as' : List Announcement}
    (h : Passes b ls c as) (h' : Passes c ms d as') : Passes b (ls ++ ms) d (as ++ as') := by
  obtain ⟨os, hos, hls⟩ := h
  obtain ⟨os', hos', hms⟩ := h'
  refine ⟨os ++ os', List.rel_append hos hos', fun rest => ?_⟩
  rw [List.map_append, List.append_assoc, hls, hms, List.append_assoc]

theorem flatMap {α : Type} {b : Bool} {lines : α → List Line} {announced : α → List Announcement}
    {xs : List α} (h : ∀ x ∈ xs, Passes b (lines x) b (announced x)) :
    Passes b (xs.flatMap lines) b (xs.flatMap announced) := by
  induction xs with
  | nil => exact nil b
  | cons x xs ih =>
    rw [List.forall_mem_cons] at h
    rw [List.flatMap_cons, List.flatMap_cons]
    exact h.1.append (ih h.2)

theorem closing (b : Bool) : Passes b [⟨0, "\x7d"⟩] false [] :=
  ⟨[], .nil, fun rest => by simp [Line.chars, openings, isNote]⟩

theorem of_enters {b : Bool} {e : End} {w : String} (hw : Enters b w.toList e) {ls : List Line}
    (hstarts : Starts w.toList ls) (hruns : e.Runs ls)
    {docs : List String} (hdocs : Neat docs) (indent : Nat) :
    Passes b (docLines indent docs ++ ls) (e.leadsIn b) [⟨w, docWords docs⟩] := by
  obtain ⟨l, ls', rfl, hl⟩ := hstarts
  refine ⟨[⟨(docLines indent docs).map Line.chars, l.chars⟩],
    .cons (announces_docLines hdocs indent hl) .nil, fun rest => ?_⟩
  obtain ⟨t, ht⟩ := hl
  obtain ⟨hnote, hne, hbrace, hend⟩ := hw t
  rw [ht] at hnote hne hbrace hend
  -- The line that opens the code may be its end, too.
  have hbody := hruns.openings b rest
  rw [List.map_cons, List.cons_append, openings] at hbody
  rw [List.map_append, List.append_assoc, openings_docLines, List.map_cons, List.cons_append,
    openings, hnote, if_neg Bool.false_ne_true, if_neg hne, if_neg hbrace, hend, hbody]
  rfl

end Passes

end TypedMarkup.Code
