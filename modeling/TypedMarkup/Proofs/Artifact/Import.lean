import TypedMarkup.Artifact.Generation
import TypedMarkup.Proofs.Artifact.Documentation
import TypedMarkup.Proofs.Code.PlainPath
import TypedMarkup.Proofs.Code.Printed

namespace TypedMarkup

open Code Layout

def solid (s : List Char) : List Char :=
  s.filter fun c => !Text.isBlank c

def afterImport (s : String) : String :=
  String.ofList ((s.toList.dropWhile (· ≠ ';')).drop 1)

def preamble : String :=
  textOf (header ++ [⟨0, "#![allow(non_camel_case_types, unused_imports, clippy::all)]"⟩])

def itemsText (t : Table) : String :=
  textOf (t.elements.flatMap fun e => e.items.flatMap Item.lines)

theorem solid_append (s t : List Char) : solid (s ++ t) = solid s ++ solid t :=
  List.filter_append s t

theorem solid_gapText {n : Nat} {comma : Bool} {s : List Char} (h : GapText n comma s) :
    solid s = [] ∨ comma = true ∧ solid s = [','] := by
  have hblanks (n : Nat) : solid (List.replicate n ' ') = [] := by
    rw [solid, List.filter_replicate]
    rfl
  rcases h with rfl | ⟨k, rfl⟩
  · exact .inl (hblanks n)
  · have hline : solid ('\n' :: List.replicate k ' ') = [] := hblanks k
    rw [solid_append, hline]
    cases comma
    · exact .inl rfl
    · exact .inr ⟨rfl, rfl⟩

theorem solid_following {ns : List String} (h : ∀ n ∈ ns, solid n.toList = n.toList)
    {s : List Char} (hs : Following (ns.map .word) s) :
    solid s = ns.flatMap fun n => ',' :: n.toList := by
  induction ns generalizing s with
  | nil =>
    obtain rfl : s = [] := hs
    rfl
  | cons n ns ih =>
    rw [List.forall_mem_cons] at h
    obtain ⟨g, u, v, hg, hu, hv, rfl⟩ := hs
    obtain rfl : u = n.toList := hu
    have hgap : solid g = [] := (solid_gapText hg).resolve_right (by simp)
    have hcomma : solid (',' :: (g ++ n.toList ++ v)) = ',' :: solid (g ++ n.toList ++ v) := rfl
    rw [hcomma, solid_append, solid_append, hgap, h.1, ih h.2 hv]
    rfl

def importedNames : String :=
  "text,AttrValue,Context,Event,EventHandler,HtmlElement,Node"

theorem solid_runtimeNames {s : List Char}
    (hs : (runtimeNames.tail.foldl (fun acc x => acc ++ .word "," ++ .gap 1 0 false ++ .word x)
      (Doc.word "text")).Written s) : solid s = importedNames.toList := by
  have hnames : ∀ n ∈ runtimeNames.tail, solid n.toList = n.toList := by decide
  rw [← List.foldl_map (f := Doc.word)] at hs
  obtain ⟨u, v, hu, hv, rfl⟩ := written_items.mp hs
  obtain rfl : u = "text".toList := hu
  rw [solid_append, solid_following hnames hv]
  decide

theorem toList_importLines (path : String) :
    ∃ inside, (textOf (importLines path runtimeNames)).toList =
        ("use " ++ path ++ "::\x7b").toList ++ inside ++ "\x7d;\n".toList ∧
      (solid inside = importedNames.toList ∨ solid inside = importedNames.toList ++ [',']) := by
  obtain ⟨s, hs, hlines⟩ := Doc.written_lines
    (.word ("use " ++ path ++ "::") ++ .box .consistent 4 (.word "\x7b" ++
      (.gap 0 0 false ++ .box .filled 0
        (runtimeNames.tail.foldl (fun acc x => acc ++ .word "," ++ .gap 1 0 false ++ .word x)
          (.word "text")) ++ .gap 0 (-4) true) ++ .word "\x7d") ++ .word ";") 0 0
  obtain ⟨_, z, hopening, hz, rfl⟩ := Doc.written_append.mp hs
  obtain ⟨u, v, hu, hbox, rfl⟩ := Doc.written_append.mp hopening
  obtain ⟨_, y, hbody, hy, rfl⟩ := Doc.written_append.mp (Doc.written_box.mp hbox)
  obtain ⟨x, inside, hx, hinside, rfl⟩ := Doc.written_append.mp hbody
  obtain ⟨_, g', hitems, hg', rfl⟩ := Doc.written_append.mp hinside
  obtain ⟨g, w, hg, hw, rfl⟩ := Doc.written_append.mp hitems
  obtain rfl : z = [';'] := hz
  obtain rfl : x = ['\x7b'] := hx
  obtain rfl : y = ['\x7d'] := hy
  obtain rfl : u = ("use " ++ path ++ "::").toList := hu
  have hfront : solid g = [] := (solid_gapText hg).resolve_right (by simp)
  refine ⟨g ++ w ++ g', ?_, ?_⟩
  · refine hlines.trans ?_
    simp
  · rw [solid_append, solid_append, hfront, solid_runtimeNames (Doc.written_box.mp hw),
      List.nil_append]
    rcases solid_gapText hg' with h | ⟨-, h⟩
    · exact .inl (by rw [h, List.append_nil])
    · exact .inr (by rw [h])

theorem builderText_eq (path : String) (t : Table) :
    builderText path t = preamble ++ textOf (importLines path runtimeNames) ++ itemsText t := by
  rw [builderText, builderLines, textOf_append, textOf_append]
  rfl

theorem afterImport_append {s t : List Char} (h : ';' ∉ s) :
    afterImport (String.ofList (s ++ ';' :: t)) = String.ofList t := by
  have hdrop : (s ++ ';' :: t).dropWhile (· ≠ ';') = ';' :: t := by
    rw [List.dropWhile_append_of_pos]
    · simp
    · intro c hc
      simpa using ne_of_mem_of_not_mem hc h
  rw [afterImport, String.toList_ofList, hdrop]
  rfl

theorem afterImport_builderText {path : String} (h : ';' ∉ path.toList) (t : Table) :
    afterImport (builderText path t) = "\n" ++ itemsText t := by
  obtain ⟨inside, himport, hinside⟩ := toList_importLines path
  have hnames : ';' ∉ inside := by
    intro hmem
    have hsolid : ';' ∈ solid inside := List.mem_filter.mpr ⟨hmem, by decide⟩
    rcases hinside with hinside | hinside
    · rw [hinside] at hsolid
      exact absurd hsolid (by decide)
    · rw [hinside] at hsolid
      exact absurd hsolid (by decide)
  have hpreamble : ';' ∉ preamble.toList := by decide +kernel
  have hfront :
      ';' ∉ preamble.toList ++ (("use " ++ path ++ "::\x7b").toList ++ inside ++ ['\x7d']) := by
    simp [hpreamble, h, hnames]
  have htext : builderText path t = String.ofList
      (preamble.toList ++ (("use " ++ path ++ "::\x7b").toList ++ inside ++ ['\x7d']) ++
        ';' :: ("\n" ++ itemsText t).toList) := by
    rw [← String.toList_inj, builderText_eq, String.toList_append, String.toList_append, himport]
    simp
  rw [htext, afterImport_append hfront, String.ofList_toList]

theorem importPath_eq_ok {c : Config} {path : String} (h : c.importPath = .ok path) :
    ∃ p, ModulePath.parse c.runtimePath = .ok p ∧ p.importFault? = none ∧ p.text = path := by
  obtain ⟨p, hp, h⟩ := ok_of_bind h
  unfold Config.modulePath at hp
  split at hp
  · cases hp
  · rename_i q hparse
    obtain rfl : q = p := Except.ok.inj hp
    split at h
    · rename_i hnone
      exact ⟨q, hparse, hnone, Except.ok.inj h⟩
    · cases h

theorem semicolon_not_mem_importPath {c : Config} {path : String} (h : c.importPath = .ok path) :
    ';' ∉ path.toList := by
  obtain ⟨p, hparse, hnone, rfl⟩ := importPath_eq_ok h
  intro hmem
  exact absurd (ModulePath.text_of_parse hparse hnone ';' hmem) (by decide)

theorem importPath_of_plainPath {c : Config} {rooted : Bool} {w : String} {names : List String}
    (hw : isSegmentName w) (h : ∀ v ∈ names, isSegmentName v)
    (hpath : c.runtimePath = plainPath rooted (w :: names)) :
    c.importPath = .ok c.runtimePath := by
  rw [Config.importPath, Config.modulePath, hpath, PlainPath.parse_plainPath hw h rooted]
  dsimp only [bind, Except.bind]
  rw [PlainPath.importFault?_names hw h rooted, PlainPath.text_names]
  rfl

end TypedMarkup
