import ComponentCatalog.Component.Usage
import ComponentCatalog.Proofs.Component.First

namespace ComponentCatalog.Interface

open Text

variable {gap text line rest s t piece : List Char} {above below lines lines' : List (List Char)}
  {c : Char} {m : String × PropInfo}

theorem membersOfLine_cons (h : isWord c = false) (hc : c ≠ ';') :
    membersOfLine (c :: s) = membersOfLine s := by
  have ⟨p, ps, hs⟩ := List.exists_cons_of_ne_nil (List.splitOn_ne_nil ';' s)
  have he : splitOn ';' (c :: s) = (c :: p) :: ps := by
    rw [splitOn, splitOn_eq, hs, beq_false_of_ne hc]
    rfl
  rw [membersOfLine, membersOfLine, he, splitOn_eq, hs, List.filterMap_cons, List.filterMap_cons,
    member?_cons h]

theorem membersOfLine_append_left (h : ∀ c ∈ t, isWord c = false ∧ c ≠ ';') :
    membersOfLine (t ++ s) = membersOfLine s := by
  induction t
  case nil         => rfl
  case cons c t hi =>
    have ⟨hc, ht⟩ := List.forall_mem_cons.mp h
    rw [List.cons_append, membersOfLine_cons hc.left hc.right, hi ht]

theorem membersOfLine_append_cons :
    membersOfLine (s ++ ';' :: t) = membersOfLine s ++ membersOfLine t := by
  simp only [membersOfLine, splitOn_eq, List.splitOn_append_cons_self, List.filterMap_append]

theorem not_isWord_and_ne_of_isBlank (h : isBlank c) : isWord c = false ∧ c ≠ ';' :=
  ⟨not_isWord_of_isBlank h, by rintro rfl; exact absurd h (by decide)⟩

theorem membersOfLine_trim : membersOfLine (trim s) = membersOfLine (s.rdropWhile isBlank) := by
  have hlead : ∀ c ∈ s.takeWhile isBlank, isWord c = false ∧ c ≠ ';' := fun _ hc =>
    not_isWord_and_ne_of_isBlank (List.mem_takeWhile_imp hc)
  cases hs : s.dropWhile isBlank
  case nil =>
    have hnil : s.rdropWhile isBlank = [] :=
      List.rdropWhile_eq_nil_iff.mpr (List.dropWhile_eq_nil_iff.mp hs)
    rw [trim_eq, hs, hnil]
    rfl
  case cons c t =>
    have hc : isBlank c = false := not_of_dropWhile_eq_cons hs
    calc membersOfLine (trim s)
      _ = membersOfLine (c :: t.rdropWhile isBlank) := by
        rw [trim_eq, hs, rdropWhile_cons_of_neg (by simp [hc])]
      _ = membersOfLine (s.takeWhile isBlank ++ c :: t.rdropWhile isBlank) :=
        (membersOfLine_append_left hlead).symm
      _ = membersOfLine (s.rdropWhile isBlank) := by
        rw [← rdropWhile_append_cons hc, ← hs, List.takeWhile_append_dropWhile]

-- Between two semicolons stand a word character, perhaps `?`, a colon, and something behind it.
def Suggests (s : List Char) : Prop :=
  ∃ piece ∈ splitOn ';' s, ∃ c mark d, isWord c ∧ (mark = [] ∨ mark = ['?']) ∧
    c :: (mark ++ [':', d]) <:+: piece

theorem mark_eq : ∃ mark, (mark = [] ∨ mark = ['?']) ∧ s = mark ++ (memberHere?.mark s).2 := by
  unfold memberHere?.mark
  split
  case h_1 s => exact ⟨['?'], .inr rfl, rfl⟩
  case h_2   => exact ⟨[], .inl rfl, rfl⟩

theorem exists_infix_of_memberHere? (h : memberHere? s = some m) :
    ∃ c mark d, isWord c ∧ (mark = [] ∨ mark = ['?']) ∧ c :: (mark ++ [':', d]) <:+: s := by
  have ⟨_, hname, h⟩ := Option.bind_eq_some_iff.mp h
  have ⟨type, hcolon, h⟩ := Option.bind_eq_some_iff.mp h
  have ⟨_, htype, _⟩ := Option.bind_eq_some_iff.mp h
  have hname : s.takeWhile isWord ≠ [] := by simpa [guard] using hname
  have hcolon : (memberHere?.mark (s.dropWhile isWord)).2 = ':' :: type :=
    after?_eq_some_iff.mp hcolon
  have htype : type ≠ [] := by simpa [guard] using htype
  have ⟨mark, hmark, hsplit⟩ := mark_eq (s := s.dropWhile isWord)
  have ⟨d, type', hd⟩ := List.exists_cons_of_ne_nil htype
  have hlast : isWord ((s.takeWhile isWord).getLast hname) :=
    List.mem_takeWhile_imp (List.getLast_mem hname)
  refine ⟨_, mark, d, hlast, hmark, (s.takeWhile isWord).dropLast, type', ?_⟩
  have hs : s.takeWhile isWord ++ (mark ++ ':' :: d :: type') = s := by
    rw [← hd, ← hcolon, ← hsplit, List.takeWhile_append_dropWhile]
  rw [← List.dropLast_append_getLast hname] at hs
  simpa using hs

theorem memberHere?_ne_none {mark : List Char} {d : Char} (hc : isWord c)
    (hm : mark = [] ∨ mark = ['?']) : memberHere? (c :: (mark ++ [':', d]) ++ s) ≠ none := by
  have hcolon : isWord ':' = false := by decide
  have hquestion : isWord '?' = false := by decide
  cases hm
  case inl hm => simp [hm, memberHere?, memberHere?.mark, hc, hcolon, after?, guard]
  case inr hm => simp [hm, memberHere?, memberHere?.mark, hc, hquestion, after?, guard]

theorem member?_eq_none_iff : member? s = none ↔ ∀ t, t <:+ s → memberHere? t = none := by
  induction s
  case nil         => simp [member?, memberHere?, guard]
  case cons c s hi =>
    simp only [member?, Option.orElse_eq_orElse, Option.orElse_eq_or, Option.or_eq_none_iff, hi,
      List.suffix_cons_iff, forall_eq_or_imp]

theorem membersOfLine_eq_nil_iff : membersOfLine s = [] ↔ ¬Suggests s := by
  rw [membersOfLine, List.filterMap_eq_nil_iff, Suggests, not_exists]
  apply forall_congr'
  intro piece
  rw [not_and]
  apply imp_congr_right
  intro _
  rw [member?_eq_none_iff]
  constructor
  case mp =>
    rintro h ⟨c, mark, d, hc, hm, s, t, hp⟩
    exact memberHere?_ne_none hc hm (h _ ⟨s, by rw [← List.append_assoc]; exact hp⟩)
  case mpr =>
    intro h t ht
    refine Option.eq_none_iff_forall_ne_some.mpr fun m hm => h ?_
    obtain ⟨c, mark, d, hc, hmark, hi⟩ := exists_infix_of_memberHere? hm
    exact ⟨c, mark, d, hc, hmark, hi.trans ht.isInfix⟩

-- What a comment behind a line adds to it.
def aside (line text : List Char) : List (String × PropInfo) :=
  if isCode (trim line) then membersOfLine (trim text) else []

-- Nothing but blanks stands behind the last semicolon, or the line is blank or a comment.
def Ended (line : List Char) : Prop :=
  isCode (trim line) = false ∨ ∃ s rest, Spaces rest ∧ line = s ++ ';' :: rest

theorem isCode_append_cons : isCode (s ++ ';' :: t) = isCode (s ++ [';']) := by
  rcases s with _ | ⟨a, _ | ⟨b, s⟩⟩ <;> simp [isCode, List.isPrefixOf]

theorem Spaces.append (hs : Spaces s) (ht : Spaces t) : Spaces (s ++ t) :=
  List.forall_mem_append.mpr ⟨hs, ht⟩

theorem isCode_eq_false_iff : isCode s = false ↔ s = [] ∨ ['/', '/'] <+: s := by
  have hmark : "//".toList = ['/', '/'] := by decide
  rw [isCode, hmark, Bool.and_eq_false_iff, Bool.not_eq_false', Bool.not_eq_false',
    List.isEmpty_iff, List.isPrefixOf_iff_prefix]

theorem isCode_trim_eq_false_iff : isCode (trim s) = false ↔
    s.dropWhile isBlank = [] ∨ ['/', '/'] <+: s.dropWhile isBlank := by
  rw [isCode_eq_false_iff, trim_eq]
  cases hs : s.dropWhile isBlank
  case nil      => simp
  case cons c t =>
    have hc : isBlank c = false := not_of_dropWhile_eq_cons hs
    rw [rdropWhile_cons_of_neg (by simp [hc])]
    refine or_congr (iff_of_false (List.cons_ne_nil _ _) (List.cons_ne_nil _ _)) ?_
    constructor
    case mp =>
      exact fun h => h.trans (List.cons_prefix_cons.mpr ⟨rfl, t.rdropWhile_prefix isBlank⟩)
    case mpr =>
      intro ⟨r, hr⟩
      have ⟨hc, ht⟩ : '/' = c ∧ '/' :: r = t := List.cons_eq_cons.mp hr
      rw [← hc, ← ht, rdropWhile_cons_of_neg (by decide)]
      exact ⟨_, rfl⟩

-- A comment goes on up to the end of its line, and a blank line becomes one.
theorem isCode_trim_append_comment (h : isCode (trim line) = false) (hg : Spaces gap) :
    isCode (trim (line ++ (Line.comment gap text).text)) = false := by
  apply isCode_trim_eq_false_iff.mpr
  right
  rw [List.dropWhile_append]
  cases isCode_trim_eq_false_iff.mp h
  case inl hn =>
    rw [hn, Line.text, List.dropWhile_append_of_pos fun c hc => (hg c hc).left]
    exact ⟨text, rfl⟩
  case inr hp =>
    have hn : line.dropWhile isBlank ≠ [] := by
      intro hn
      exact absurd (hn ▸ hp) (by decide)
    rw [if_neg (by simpa using hn)]
    exact hp.trans (List.prefix_append _ _)

theorem declaredOn_append_comment (hr : Spaces rest) (hg : Spaces gap) :
    declaredOn (s ++ ';' :: rest ++ (Line.comment gap text).text) =
      declaredOn (s ++ ';' :: rest) ++ aside (s ++ ';' :: rest) text := by
  have hrest : rest.rdropWhile isBlank = [] :=
    List.rdropWhile_eq_nil_iff.mpr fun c hc => (hr c hc).left
  have hend : (rest ++ (gap ++ '/' :: '/' :: text)).rdropWhile isBlank =
      (rest ++ gap ++ ['/', '/']) ++ text.rdropWhile isBlank := by
    rw [← List.append_assoc, rdropWhile_append_cons (by decide), rdropWhile_cons_of_neg (by decide)]
    simp
  have hmark : ∀ c ∈ rest ++ gap ++ ['/', '/'], isWord c = false ∧ c ≠ ';' := by
    have hslash : isWord '/' = false ∧ '/' ≠ ';' := by decide
    refine List.forall_mem_append.mpr ⟨fun c hc => ?_, ?_⟩
    · exact not_isWord_and_ne_of_isBlank (hr.append hg c hc).left
    · exact List.forall_mem_cons.mpr ⟨hslash, List.forall_mem_singleton.mpr hslash⟩
  rw [Line.text, List.append_assoc, List.cons_append, declaredOn, declaredOn, aside,
    trim_append_cons (by decide), trim_append_cons (by decide), hrest, hend, isCode_append_cons]
  split
  case isTrue =>
    rw [membersOfLine_append_cons, membersOfLine_append_left hmark, membersOfLine_append_cons,
      membersOfLine_trim]
    simp [membersOfLine, splitOn, member?]
  case isFalse => rfl

theorem Ended.declaredOn_append (h : Ended line) (hc : (Line.comment gap text).Proper) :
    declaredOn (line ++ (Line.comment gap text).text) = declaredOn line ++ aside line text := by
  cases hc
  case comment hg ht =>
    cases h
    case inl hn =>
      rw [declaredOn, declaredOn, aside, hn, isCode_trim_append_comment hn hg]
      rfl
    case inr hr =>
      obtain ⟨s, rest, hrest, hline⟩ := hr
      rw [hline, declaredOn_append_comment hrest hg]

-- What stands around the lines of an interface.
structure Frame where
  before : List Char
  head   : List Char
  rest   : List Char

namespace Frame

variable {f : Frame}

def body (lines : List (List Char)) : List Char :=
  ['\n'].intercalate lines

def fill (f : Frame) (lines : List (List Char)) : List Char :=
  f.before ++ (f.head ++ (body lines ++ '}' :: f.rest))

-- The interface of these lines is the first of its text, and there is something between its braces.
structure Fits (f : Frame) (lines : List (List Char)) : Prop where
  first  : First (f.fill lines) f.before f.head (body lines) f.rest
  inline : ∀ l ∈ lines, '\n' ∉ l
  ne_nil : body lines ≠ []

namespace Fits

theorem props_fill (h : f.Fits lines) :
    props (f.fill lines) = .ofList (lines.flatMap declaredOn) := by
  have hn : lines ≠ [] := by rintro rfl; exact h.ne_nil rfl
  have hl : splitOn '\n' (body lines) = lines := splitOn_intercalate h.inline hn
  rw [props, h.first.body?_eq, if_neg h.ne_nil]
  simp only [members_eq, hl]

theorem clean (h : f.Fits lines) (hm : line ∈ lines) : '\n' ∉ line ∧ '}' ∉ line :=
  ⟨h.inline line hm, fun hb => h.first.closed ((infix_intercalate hm).subset hb)⟩

-- Other lines fit, too, as long as they are lines and leave the closing brace where it is.
theorem replace (h : f.Fits lines) (hl : ∀ l ∈ lines', '\n' ∉ l ∧ '}' ∉ l)
    (hm : line ∈ lines') (hn : line ≠ []) : f.Fits lines' where
  first  := by
    apply h.first.replace
    intro hb
    cases mem_intercalate hb
    case inl he => cases he
    case inr hb =>
      have ⟨l, hl', hb⟩ := hb
      exact (hl l hl').right hb
  inline := fun l hm => (hl l hm).left
  ne_nil := fun he => hn (List.eq_nil_of_infix_nil (he ▸ infix_intercalate hm))

theorem place (h : f.Fits lines) (ha : above ⊆ lines) (hb : below ⊆ lines)
    (hl : '\n' ∉ line ∧ '}' ∉ line) (hn : line ≠ []) : f.Fits (above ++ line :: below) := by
  refine h.replace (List.forall_mem_append.mpr ⟨fun l hm => h.clean (ha hm), ?_⟩) (by simp) hn
  exact List.forall_mem_cons.mpr ⟨hl, fun l hm => h.clean (hb hm)⟩

end Fits
end Frame

-- The same props, and so the same example of use.
structure Alike (s t : List Char) : Prop where
  declared : props s = props t
  usage    : ∀ name, usageOf name (props s) = usageOf name (props t)

theorem alike_of_eq (h : props s = props t) : Alike s t :=
  ⟨h, fun name => congrArg (usageOf name) h⟩

theorem aside_eq_nil_iff : aside line text = [] ↔ ¬(isCode (trim line) ∧ Suggests (trim text)) := by
  rw [aside, not_and, ← membersOfLine_eq_nil_iff]
  split <;> simp_all

namespace Frame.Fits

variable {f : Frame} (hc : (Line.comment gap text).Proper)

include hc

theorem clean_comment : '\n' ∉ (Line.comment gap text).text ∧ '}' ∉ (Line.comment gap text).text :=
  ⟨fun h => (hc.mem_text h).right rfl, fun h => (hc.mem_text h).left rfl⟩

theorem props_insert (h : f.Fits (above ++ below)) :
    props (f.fill (above ++ (Line.comment gap text).text :: below)) =
      props (f.fill (above ++ below)) := by
  have hi : f.Fits (above ++ (Line.comment gap text).text :: below) :=
    h.place (List.subset_append_left ..) (List.subset_append_right ..) (clean_comment hc)
      (by simp [Line.text])
  rw [hi.props_fill, h.props_fill, List.flatMap_append, List.flatMap_cons, hc.declaredOn_text,
    List.flatMap_append]
  rfl

theorem props_extend (h : f.Fits (above ++ line :: below)) (hl : Ended line) :
    props (f.fill (above ++ (line ++ (Line.comment gap text).text) :: below)) =
      .ofList (above.flatMap declaredOn ++
        ((declaredOn line ++ aside line text) ++ below.flatMap declaredOn)) := by
  have hline : '\n' ∉ line ∧ '}' ∉ line := h.clean (by simp)
  have hcomment := clean_comment hc
  have he : f.Fits (above ++ (line ++ (Line.comment gap text).text) :: below) :=
    h.place (by simp) (by simp) ⟨List.not_mem_append hline.left hcomment.left,
      List.not_mem_append hline.right hcomment.right⟩ (by simp [Line.text])
  rw [he.props_fill, List.flatMap_append, List.flatMap_cons, hl.declaredOn_append hc]

end Frame.Fits

-- A comment is not read, unless it stands on a line with members and holds what could be another.
theorem props_commented (f : Frame) (hc : (Line.comment gap text).Proper) :
    (∀ above below, f.Fits (above ++ below) →
      Alike (f.fill (above ++ (Line.comment gap text).text :: below)) (f.fill (above ++ below))) ∧
    (∀ above line below, f.Fits (above ++ line :: below) → Ended line →
      props (f.fill (above ++ (line ++ (Line.comment gap text).text) :: below)) =
        .ofList (above.flatMap declaredOn ++
          ((declaredOn line ++ aside line text) ++ below.flatMap declaredOn)) ∧
      (aside line text = [] →
        Alike (f.fill (above ++ (line ++ (Line.comment gap text).text) :: below))
          (f.fill (above ++ line :: below)))) ∧
    ∀ line, aside line text = [] ↔ ¬(isCode (trim line) ∧ Suggests (trim text)) := by
  refine ⟨fun above below h => alike_of_eq (h.props_insert hc), ?_, fun _ => aside_eq_nil_iff⟩
  intro above line below h hl
  refine ⟨h.props_extend hc hl, fun ha => alike_of_eq ?_⟩
  rw [h.props_extend hc hl, h.props_fill, ha, List.flatMap_append, List.flatMap_cons,
    List.append_nil]

def card : Frame where
  before := "interface Shape \x7b w: number \x7d\n".toList
  head   := "interface CardProps \x7b".toList
  rest   := "\ninterface BoxProps \x7b b: string; \x7d".toList

theorem header_card : Header card.head :=
  .of_all [' '] "Card".toList [' '] (by decide)

theorem fits_card : card.Fits ([[], "  a: string;\t".toList] ++ ["  b?: number; ".toList]) where
  first  := ⟨rfl, header_card, by decide, by decide +kernel⟩
  inline := by decide
  ne_nil := by decide

theorem props_commented_card :
    Alike (card.fill ([[], "  a: string;\t".toList] ++
        (Line.comment ['\t'] " c: number;".toList).text :: ["  b?: number; ".toList]))
      (card.fill ([[], "  a: string;\t".toList] ++ ["  b?: number; ".toList])) ∧
    (props (card.fill ([[]] ++ ("  a: string;\t".toList ++
        (Line.comment [' '] " c: number".toList).text) :: ["  b?: number; ".toList]))).entries =
      [("a", ⟨"string", false⟩), ("c", ⟨"number", false⟩), ("b", ⟨"number", true⟩)] := by
  constructor
  case left  => exact (props_commented card (.comment (by decide) (by decide))).left _ _ fits_card
  case right =>
    have he : Ended "  a: string;\t".toList := .inr ⟨"  a: string".toList, ['\t'], by decide, rfl⟩
    have hc : (Line.comment [' '] " c: number".toList).Proper := .comment (by decide) (by decide)
    have hp := (props_commented card hc).right.left [[]] _ ["  b?: number; ".toList] fits_card he
    rw [hp.left]
    decide +kernel

theorem comment_read :
    ¬Alike "interface AProps \x7b\n  a: string; // b: number;\n\x7d".toList
      "interface AProps \x7b\n  a: string;\n\x7d".toList :=
  fun h => absurd (congrArg OrderedMap.entries h.declared) (by decide +kernel)

end ComponentCatalog.Interface
