import TypedMarkup.Proofs.Code.Openings

namespace TypedMarkup.Code

open Layout

theorem isNote_of_head {w : List Char} {c : Char} (hw : (w.dropWhile (· = ' ')).head? = some c)
    (hc : c ≠ '/') (t : List Char) : isNote (w ++ t) = false := by
  obtain ⟨s, hs⟩ := List.head?_eq_some_iff.mp hw
  rw [isNote, List.dropWhile_append, hs]
  simp [List.isPrefixOf, Ne.symm hc]

theorem enters_trait : Enters false "pub trait ".toList .brace :=
  fun _ => ⟨isNote_of_head rfl (by decide) _, by simp, by simp, rfl⟩

theorem enters_wrapper : Enters false "pub struct ".toList .semicolon :=
  fun _ => ⟨isNote_of_head rfl (by decide) _, by simp, by simp, rfl⟩

theorem enters_implementation : Enters false "impl ".toList .block :=
  fun _ => ⟨isNote_of_head rfl (by decide) _, by simp, by simp, rfl⟩

theorem enters_declaration : Enters true "    fn ".toList .semicolon :=
  fun _ => ⟨isNote_of_head rfl (by decide) _, by simp, by simp, rfl⟩

theorem enters_function {access : String} (h : Signature.accesses.contains access) :
    Enters false (access ++ "fn ").toList .block := by
  rcases Signature.cases_access h with rfl | rfl | rfl
  · exact fun _ => ⟨isNote_of_head rfl (by decide) _, by simp, by simp, rfl⟩
  · exact fun _ => ⟨isNote_of_head rfl (by decide) _, by simp, by simp, rfl⟩
  · exact fun _ => ⟨isNote_of_head rfl (by decide) _, by simp, by simp, rfl⟩

def isForeign (c : Char) : Bool :=
  !isNamePart c && c != '#'

section

variable {c : Char} (hc : isForeign c)
include hc

theorem lacks_of_isIdentifier {s : String} (h : isIdentifier s.toList) : lacks c s := by
  rw [isForeign, Bool.and_eq_true, Bool.not_eq_true', bne_iff_ne] at hc
  have hname {w : List Char} (hw : isName w) : c ∉ w := fun hmem =>
    Bool.false_ne_true (hc.1 ▸ isNamePart_of_isName hw hmem)
  rw [lacks_iff]
  unfold isIdentifier at h
  split at h
  · -- The mark of a raw name is made of a letter and of the character that is left out.
    rename_i w hs
    rw [Bool.and_eq_true] at h
    have hr : c ≠ 'r' := by
      rintro rfl
      exact absurd hc.1 (by decide)
    simp [hs, hr, hc.2, hname h.1]
  · exact hname h

theorem lacks_of_isHeadName {s : String} (h : isHeadName s) : lacks c s := by
  rw [isHeadName, Bool.and_eq_true] at h
  exact lacks_of_isIdentifier hc h.1

end

theorem Ty.lacks_of_isHead {t : Ty} (h : t.isHead) : t.doc.all (lacks '\x7b') := by
  induction t with
  | named p => exact lacks_of_isHeadName (by decide) h
  | applied f t ih =>
    rw [isHead, Bool.and_eq_true] at h
    have hf : lacks '\x7b' (f ++ "<") := by
      rw [lacks_append, lacks_of_isHeadName (by decide) h.1]
      decide
    have hempty : lacks '\x7b' (f ++ "<" ++ ">") := by
      rw [lacks_append, hf]
      decide
    rw [doc, enclosed]
    refine all_enclosedAt (by decide) hf (by decide) hempty ?_ 4
    simpa using ih h.2
  | _ => exact absurd h Bool.false_ne_true

theorem prefix_of_written_enclosedAt {opening closing : String} {ds : List Doc} {k : Int} :
    ∀ s, (enclosedAt k opening closing ds).Written s → opening.toList <+: s := by
  intro s hs
  cases ds with
  | nil =>
    rw [Doc.written_word.mp hs, String.toList_append]
    exact List.prefix_append _ _
  | cons d ds =>
    exact Doc.prefix_of_written_append
      (Doc.prefix_of_written_append fun _ => Doc.prefix_of_written_word (List.prefix_refl _)) s hs

namespace Signature

theorem prefix_of_written {s : Signature} :
    ∀ u, s.doc.Written u → (s.access ++ "fn " ++ s.name ++ "(").toList <+: u := by
  intro u hu
  unfold doc at hu
  dsimp only at hu
  split at hu
  · exact prefix_of_written_enclosedAt u hu
  · exact Doc.prefix_of_written_append prefix_of_written_enclosedAt u hu

theorem lacks_opening {s : Signature} (h : s.isLegible) {c : Char} (hc : isForeign c)
    (hmarks : ∀ access ∈ accesses, lacks c (access ++ "fn " ++ "(")) :
    lacks c (s.access ++ "fn " ++ s.name ++ "(") := by
  simp only [isLegible, Bool.and_eq_true, List.contains_iff_mem] at h
  exact lacks_around (hmarks s.access h.1.1.1) (lacks_of_isIdentifier hc h.1.1.2)

end Signature

namespace Declaration

def announcement (d : Declaration) : Announcement :=
  ⟨"    fn " ++ d.signature.name ++ "(", docWords d.docs⟩

def isSingle (d : Declaration) : Bool :=
  d.signature.access.isEmpty && d.signature.params.all fun p => p.doc.all (lacks ';')

theorem lacks_semicolon {d : Declaration} (h : d.signature.isLegible) (hsingle : d.isSingle) :
    d.signature.doc.all (lacks ';') := by
  simp only [isSingle, Bool.and_eq_true, List.all_eq_true] at hsingle
  have hopening := Signature.lacks_opening h (by decide : isForeign ';') (by decide)
  have hempty : lacks ';' (d.signature.access ++ "fn " ++ d.signature.name ++ "(" ++ ")") := by
    rw [lacks_append, hopening]
    decide
  have hresult : lacks ';' (" -> " ++ d.signature.result) := by
    simp only [Signature.isLegible, Bool.and_eq_true, Bool.or_eq_true, String.isEmpty_iff] at h
    rw [lacks_append]
    rcases h.2 with hresult | hresult
    · rw [hresult]
      decide
    · rw [lacks_of_isIdentifier (by decide) hresult]
      decide
  exact Signature.all_doc (by decide) (by decide) hopening hempty
    (Signature.all_args (by decide) (by decide) hsingle.2) hresult

theorem passes {d : Declaration} (h : d.signature.isLegible) (hsingle : d.isSingle)
    (hdocs : Neat d.docs) : Passes true (d.lines 4) true [d.announcement] := by
  have haccess : d.signature.access = "" := by
    rw [isSingle, Bool.and_eq_true, String.isEmpty_iff] at hsingle
    exact hsingle.1
  let code : Doc := .box .consistent 4 (d.signature.doc ++ .word ";")
  have hstart : ("    fn " ++ d.signature.name ++ "(").toList =
      List.replicate 4 ' ' ++ (d.signature.access ++ "fn " ++ d.signature.name ++ "(").toList := by
    simp [haccess, List.replicate_succ]
  have henters := (enters_declaration.append d.signature.name).append "("
  have hstarts : Starts ("    fn " ++ d.signature.name ++ "(").toList (code.lines 4 4) := by
    have hline := lacks_iff.mp (Signature.lacks_opening h (by decide : isForeign '\n') (by decide))
    rw [hstart]
    exact Doc.starts_lines
      (fun s hs => Doc.prefix_of_written_append Signature.prefix_of_written s
        (Doc.written_box.mp hs)) hline 4 4
  exact .of_enters henters hstarts
    (End.runs_layout (fun _ => rfl) (by decide) (by decide) (lacks_semicolon h hsingle) rfl _ 4)
    hdocs 4

end Declaration

theorem Function.inside_lines {f : Function} (h : f.isLegible) : Inside (f.lines 4) := by
  have hbody := f.inside_body h (by decide : 4 + 4 ≠ 0)
  simp only [isLegible, Bool.and_eq_true, List.isEmpty_iff] at h
  have hhead := inside_opening (Signature.all_isInside h.1.2) 4 8
  have hindented {ls : List Line} (hls : ∀ l ∈ ls, l.indent = 4) : Inside ls := fun l hl =>
    chars_ne_brace_of_indent (by simp [hls l hl])
  have hdocs : Inside (docLines 4 f.docs) := hindented (by simp [docLines])
  have hclosing : Inside [⟨4, "\x7d"⟩] := hindented (by simp)
  simpa [lines, h.1.1] using ((hdocs.append hhead).append hbody).append hclosing

theorem inside_functions {fs : List Function} (h : fs.all Function.isLegible) :
    Inside (fs.flatMap (Function.lines 4)) := by
  rw [Inside, List.forall_mem_flatMap]
  exact fun f hf => Function.inside_lines (List.all_eq_true.mp h f hf)

namespace Item

def announcements : Item → List Announcement
  | trait docs name _ methods =>
    ⟨"pub trait " ++ name ++ ": ", docWords docs⟩ :: methods.map Declaration.announcement
  | function f => [⟨f.signature.access ++ "fn " ++ f.signature.name ++ "(", docWords f.docs⟩]
  | wrapper name _ => [⟨"pub struct " ++ name ++ "(", []⟩]
  | implementation .. | inherent .. => [⟨"impl ", []⟩]

def isSingle : Item → Bool
  | trait _ _ _ methods => methods.all Declaration.isSingle
  | wrapper _ inner => lacks ';' inner
  | function _ | implementation .. | inherent .. => true

theorem passes_trait {docs : List String} {name : String} {above : Ty}
    {methods : List Declaration} (h : (trait docs name above methods).isLegible)
    (hsingle : methods.all Declaration.isSingle) (hdocs : Neat docs)
    (hmethods : ∀ d ∈ methods, Neat d.docs) :
    Passes false (trait docs name above methods).lines false
      (trait docs name above methods).announcements := by
  simp only [isLegible, Bool.and_eq_true] at h
  obtain ⟨⟨hname, habove⟩, hlegible⟩ := h
  let head : Doc := .word ("pub trait " ++ name ++ ": ") ++ above.doc
  have henters := (enters_trait.append name).append ": "
  have hline : lacks '\n' ("pub trait " ++ name ++ ": ") :=
    lacks_around (by decide) (lacks_of_isHeadName (by decide) hname)
  have hbrace : head.all (lacks '\x7b') := by
    have hword : lacks '\x7b' ("pub trait " ++ name ++ ": ") :=
      lacks_around (by decide) (lacks_of_isHeadName (by decide) hname)
    rw [Doc.all_append, Doc.all_word, hword, Ty.lacks_of_isHead habove]
    rfl
  have hstarts := Doc.starts_lines (d := head ++ .word " \x7b") (Doc.prefix_of_written_append
    (Doc.prefix_of_written_append fun _ => Doc.prefix_of_written_word (List.prefix_refl _)))
    (lacks_iff.mp hline) 0 4
  have hruns : End.brace.Runs ((head ++ .word " \x7b").lines 0 4) :=
    End.runs_layout (fun _ => rfl) (by decide) (by decide) hbrace rfl _ 0
  have hdeclarations : Passes true (methods.flatMap (Declaration.lines 4)) true
      (methods.flatMap fun d => [d.announcement]) :=
    .flatMap fun d hd => Declaration.passes (List.all_eq_true.mp hlegible d hd)
      (List.all_eq_true.mp hsingle d hd) (hmethods d hd)
  have hall := ((Passes.of_enters henters hstarts hruns hdocs 0).append hdeclarations).append
    (.closing true)
  simpa [lines, announcements, List.map_eq_flatMap] using hall

theorem passes_block {w : String} (henters : Enters false w.toList .block) (hline : lacks '\n' w)
    {head : Doc} (hhead : ∀ s, head.Written s → w.toList <+: s) (hinside : head.all isInside)
    {body : List Line} (hbody : Inside body) {docs : List String} (hdocs : Neat docs) :
    Passes false (docLines 0 docs ++ ((head ++ .word " \x7b").lines 0 4 ++ body ++ [⟨0, "\x7d"⟩]))
      false [⟨w, docWords docs⟩] := by
  have hstarts := Doc.starts_lines (d := head ++ .word " \x7b")
    (Doc.prefix_of_written_append hhead) (lacks_iff.mp hline) 0 4
  have hruns := End.runs_block ((inside_opening hinside 0 4).append hbody)
  exact .of_enters henters ((hstarts.append body).append _) hruns hdocs 0

theorem passes_function {f : Function} (h : f.isLegible) (hdocs : Neat f.docs) :
    Passes false (function f).lines false (function f).announcements := by
  have hbody := f.inside_body h (by decide : 0 + 4 ≠ 0)
  simp only [Function.isLegible, Bool.and_eq_true, List.isEmpty_iff] at h
  obtain ⟨⟨hattributes, hsignature⟩, -⟩ := h
  have haccess : Signature.accesses.contains f.signature.access := by
    simp only [Signature.isLegible, Bool.and_eq_true] at hsignature
    exact hsignature.1.1.1
  have henters := ((enters_function haccess).append f.signature.name).append "("
  have hline := Signature.lacks_opening hsignature (by decide : isForeign '\n') (by decide)
  have hall := passes_block henters hline Signature.prefix_of_written
    (Signature.all_isInside hsignature) hbody hdocs
  simpa [lines, Function.lines, announcements, hattributes] using hall

theorem passes_wrapper {name inner : String} (hname : isHeadName name) (hinner : lacks ';' inner) :
    Passes false (wrapper name inner).lines false (wrapper name inner).announcements := by
  let code : Doc := .word ("pub struct " ++ name ++ "(") ++ .gap 0 0 false ++ .word inner ++
    .gap 0 (-4) true
  have henters := (enters_wrapper.append name).append "("
  have hlacks {c : Char} (hc : isForeign c) (hmarks : lacks c ("pub struct " ++ "(")) :
      lacks c ("pub struct " ++ name ++ "(") :=
    lacks_around hmarks (lacks_of_isHeadName hc hname)
  have hcode : code.all (lacks ';') := by
    simp [code, hlacks (by decide : isForeign ';') (by decide), hinner]
  have hstarts : Starts ("pub struct " ++ name ++ "(").toList (wrapper name inner).lines := by
    refine Doc.starts_lines (fun s hs => ?_)
      (lacks_iff.mp (hlacks (by decide : isForeign '\n') (by decide))) 0 0
    exact Doc.prefix_of_written_append (Doc.prefix_of_written_append
      (Doc.prefix_of_written_append (Doc.prefix_of_written_append fun _ =>
        Doc.prefix_of_written_word (List.prefix_refl _)))) s hs
  have hruns : End.semicolon.Runs (wrapper name inner).lines :=
    End.runs_layout (fun _ => rfl) (by decide) (by decide) hcode rfl _ 0
  exact .of_enters henters hstarts hruns neat_nil 0

theorem passes_implementation {provided : Ty} {type : String} {methods : List Function}
    (h : (implementation provided type methods).isLegible) :
    Passes false (implementation provided type methods).lines false
      (implementation provided type methods).announcements := by
  simp only [isLegible, Bool.and_eq_true] at h
  obtain ⟨⟨hprovided, htype⟩, hmethods⟩ := h
  let impl : Doc := .box .consistent 4 (.word "impl") ++ .word " "
  have himpl (s : List Char) (hs : impl.Written s) : "impl ".toList <+: s := by
    obtain ⟨u, v, hu, hv, rfl⟩ := Doc.written_append.mp hs
    obtain rfl : u = "impl".toList := hu
    obtain rfl : v = " ".toList := hv
    exact List.prefix_refl _
  let head : Doc := .box .filled (-4) (impl ++ provided.doc ++ .gap 1 0 false ++
    .word ("for " ++ type))
  have hhead : ∀ s, head.Written s → "impl ".toList <+: s := fun s hs =>
    Doc.prefix_of_written_append (Doc.prefix_of_written_append
      (Doc.prefix_of_written_append himpl)) s (Doc.written_box.mp hs)
  have hfor := isInside_append (by decide : isInside "for ")
    (isInside_of_isWord (isWord_of_isHeadName htype))
  have hinside : head.all isInside := by
    simp only [head, impl, Doc.all_box, Doc.all_append, Doc.all_word, Doc.all_gap,
      Ty.all_isInside (Ty.isLegible_of_isHead hprovided), hfor]
    decide
  exact passes_block enters_implementation (by decide) hhead hinside (inside_functions hmethods)
    neat_nil

theorem passes_inherent {type : String} {methods : List Function}
    (h : (inherent type methods).isLegible) :
    Passes false (inherent type methods).lines false (inherent type methods).announcements := by
  simp only [isLegible, Bool.and_eq_true] at h
  let head : Doc := .box .filled (-4) (.box .consistent 4 (.word "impl") ++ .word (" " ++ type))
  have hhead (s : List Char) (hs : head.Written s) : "impl ".toList <+: s := by
    obtain ⟨u, v, hu, hv, rfl⟩ := Doc.written_append.mp (Doc.written_box.mp hs)
    obtain rfl : u = "impl".toList := hu
    obtain rfl : v = (" " ++ type).toList := hv
    rw [← String.toList_append, ← String.append_assoc, String.toList_append]
    exact List.prefix_append _ _
  have htype := isInside_append (by decide : isInside " ")
    (isInside_of_isWord (isWord_of_isHeadName h.1))
  have hinside : head.all isInside := by
    simp only [head, Doc.all_box, Doc.all_append, Doc.all_word, htype]
    decide
  exact passes_block enters_implementation (by decide) hhead hinside (inside_functions h.2)
    neat_nil

theorem passes {i : Item} (h : i.isLegible) (hsingle : i.isSingle) (hdocs : Neat i.docs) :
    Passes false i.lines false i.announcements := by
  cases i with
  | trait docs name above methods =>
    rw [Item.docs, Neat, List.forall_mem_append, List.forall_mem_flatMap] at hdocs
    exact passes_trait h hsingle hdocs.1 hdocs.2
  | function f => exact passes_function h hdocs
  | wrapper name inner =>
    rw [isLegible, Bool.and_eq_true] at h
    exact passes_wrapper h.1 hsingle
  | implementation provided type methods => exact passes_implementation h
  | inherent type methods => exact passes_inherent h

end Item

end TypedMarkup.Code
