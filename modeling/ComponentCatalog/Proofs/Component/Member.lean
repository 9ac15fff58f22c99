import ComponentCatalog.Component.Interface
import ComponentCatalog.Proofs.Text.Blank
import ComponentCatalog.Proofs.Text.Split
import Mathlib.Data.Option.Basic

namespace ComponentCatalog.Interface

open Text

variable {m : String × PropInfo} {ms : List (List Char × (String × PropInfo))} {c : Char}
  {s t body blanks rest : List Char}

-- The name is a word, and the type stays on its line and within its member.
structure Writable (m : String × PropInfo) : Prop where
  name_ne : m.1 ≠ ""
  word    : ∀ c ∈ m.1.toList, isWord c
  inline  : ';' ∉ m.2.type.toList ∧ '}' ∉ m.2.type.toList ∧ '\n' ∉ m.2.type.toList
  trimmed : trim m.2.type.toList = m.2.type.toList

instance : Decidable (Writable m) :=
  decidable_of_iff (m.1 ≠ "" ∧ m.1.toList.all isWord ∧
      (';' ∉ m.2.type.toList ∧ '}' ∉ m.2.type.toList ∧ '\n' ∉ m.2.type.toList) ∧
      trim m.2.type.toList = m.2.type.toList)
    ⟨fun ⟨hn, hw, hi, ht⟩ => ⟨hn, List.all_eq_true.mp hw, hi, ht⟩,
      fun ⟨hn, hw, hi, ht⟩ => ⟨hn, List.all_eq_true.mpr hw, hi, ht⟩⟩

def signature (m : String × PropInfo) : List Char :=
  m.1.toList ++ ((if m.2.optional then ['?'] else []) ++ ':' :: ' ' :: m.2.type.toList)

def written (m : String × PropInfo) : List Char :=
  signature m ++ [';']

-- With what stands before it.
def indented (m : List Char × (String × PropInfo)) : List Char :=
  m.1 ++ written m.2

def Spaces (s : List Char) : Prop :=
  ∀ c ∈ s, isBlank c ∧ c ≠ '\n'

instance : Decidable (Spaces s) :=
  List.decidableBAll _ s

-- A line has some members, with blanks before each and at its end, or it is a comment.
inductive Line
  | members (ms : List (List Char × (String × PropInfo))) (rest : List Char)
  | comment (indent text : List Char)

namespace Line

def text : Line → List Char
  | .members ms rest     => ms.flatMap indented ++ rest
  | .comment indent text => indent ++ '/' :: '/' :: text

def declares : Line → List (String × PropInfo)
  | .members ms _ => ms.map Prod.snd
  | .comment _ _  => []

inductive Proper : Line → Prop
  | members {ms : List (List Char × (String × PropInfo))} {rest : List Char}
    (hm : ∀ m ∈ ms, Spaces m.1 ∧ Writable m.2) (hr : Spaces rest) : Proper (.members ms rest)
  | comment {indent text : List Char} (hi : Spaces indent)
    (ht : '}' ∉ text ∧ '\n' ∉ text) : Proper (.comment indent text)

end Line

-- The members on a line.
def declaredOn (line : List Char) : List (String × PropInfo) :=
  if isCode (trim line) then membersOfLine (trim line) else []

theorem members_eq : members body = (splitOn '\n' body).flatMap declaredOn := by
  rw [members]
  induction splitOn '\n' body
  case nil              => rfl
  case cons line lines hi =>
    rw [List.flatMap_cons, ← hi, declaredOn, List.map_cons, List.filter_cons]
    split <;> simp

namespace Writable

variable (hm : Writable m)

include hm

theorem name_ne_nil : m.1.toList ≠ [] :=
  fun h => hm.name_ne (String.toList_eq_nil_iff.mp h)

theorem exists_signature_eq : ∃ c cs, signature m = c :: cs ∧ isWord c := by
  obtain ⟨c, cs, hc⟩ := List.exists_cons_of_ne_nil hm.name_ne_nil
  exact ⟨c, _, by rw [signature, hc]; rfl, hm.word c (hc ▸ List.mem_cons_self)⟩

theorem memberHere?_signature : memberHere? (signature m) = some m := by
  have hn : m.1.toList ≠ [] := hm.name_ne_nil
  have ht : trim (' ' :: m.2.type.toList) = m.2.type.toList := by
    rw [← List.singleton_append, trim_append_left (List.forall_mem_singleton.mpr (by decide)),
      hm.trimmed]
  have hq : isWord '?' = false := by decide
  have hc : isWord ':' = false := by decide
  obtain ⟨name, type, optional⟩ := m
  cases optional
  all_goals
    simp only [signature, memberHere?, if_true, List.cons_append, List.nil_append,
      Bool.false_eq_true, if_false]
    rw [takeWhile_append_cons (by assumption), dropWhile_append_cons (by assumption),
      List.takeWhile_eq_self_iff.mpr hm.word, List.dropWhile_eq_nil_iff.mpr hm.word]
    simp [memberHere?.mark, after?, hn, ht, guard]

theorem semicolon_not_mem_signature : ';' ∉ signature m := by
  have hw : ';' ∉ m.1.toList := fun h => absurd (hm.word _ h) (by decide)
  have ht : ';' ∉ m.2.type.toList := hm.inline.1
  simp only [signature, List.mem_append, List.mem_cons, ht, hw]
  split <;> simp

theorem mem_written (h : c ∈ written m) :
    c ≠ '}' ∧ c ≠ '\n' := by
  simp only [written, signature, List.mem_append, List.mem_cons, List.not_mem_nil, or_false] at h
  rcases h with (h | h | rfl | rfl | h) | rfl
  · constructor
    all_goals
      rintro rfl
      exact absurd (hm.word _ h) (by decide)
  · split at h
    · cases List.mem_singleton.mp h
      decide
    · cases h
  · decide
  · decide
  · exact ⟨ne_of_mem_of_not_mem h hm.inline.2.1, ne_of_mem_of_not_mem h hm.inline.2.2⟩
  · decide

end Writable

theorem member?_of_memberHere? (h : memberHere? s = some m) : member? s = some m := by
  cases s
  case nil  => cases h
  case cons => rw [member?, h]; rfl

theorem member?_cons (h : isWord c = false) : member? (c :: s) = member? s := by
  have hn : memberHere? (c :: s) = none := by
    rw [memberHere?, List.takeWhile_cons_of_neg (by simp [h])]
    rfl
  rw [member?, hn]
  rfl

-- Blanks are no names.
theorem member?_append_blanks (h : ∀ c ∈ blanks, isBlank c) :
    member? (blanks ++ s) = member? s := by
  induction blanks
  case nil            => rfl
  case cons c blanks hi =>
    have ⟨hc, hb⟩ := List.forall_mem_cons.mp h
    rw [List.cons_append, member?_cons (not_isWord_of_isBlank hc), hi hb]

theorem membersOfLine_written (h : ∀ m ∈ ms, Spaces m.1 ∧ Writable m.2) :
    membersOfLine (ms.flatMap indented) = ms.map Prod.snd := by
  induction ms
  case nil          => rfl
  case cons m ms hi =>
    have ⟨⟨hs, hw⟩, hms⟩ := List.forall_mem_cons.mp h
    have hn : ';' ∉ m.1 ++ signature m.2 := by
      rw [List.mem_append, not_or]
      exact ⟨fun hm => absurd (hs _ hm).1 (by decide), hw.semicolon_not_mem_signature⟩
    have hm : member? (m.1 ++ signature m.2) = some m.2 := by
      rw [member?_append_blanks fun c hc => (hs c hc).1]
      exact member?_of_memberHere? hw.memberHere?_signature
    rw [membersOfLine] at hi ⊢
    rw [List.flatMap_cons, indented, written, ← List.append_assoc, List.append_assoc,
      List.singleton_append, splitOn_append_cons hn, List.filterMap_cons_some hm, hi hms,
      List.map_cons]

-- A line of members begins with a name and ends with a semicolon.
theorem exists_written_eq (hw : Writable m) :
    ∃ c t, written m ++ ms.flatMap indented = c :: (t ++ [';']) ∧ isWord c := by
  obtain ⟨c, cs, hs, hc⟩ := hw.exists_signature_eq
  have ht : ∃ t, ';' :: ms.flatMap indented = t ++ [';'] := by
    rcases ms.eq_nil_or_concat with rfl | ⟨ms, m, rfl⟩
    · exact ⟨[], rfl⟩
    · exact ⟨';' :: (ms.flatMap indented ++ (m.1 ++ signature m.2)), by simp [indented, written]⟩
  obtain ⟨t, ht⟩ := ht
  refine ⟨c, cs ++ t, ?_, hc⟩
  rw [written, List.append_assoc, List.singleton_append, ht, hs, List.cons_append,
    List.append_assoc]

namespace Line

variable {l : Line}

theorem Proper.declaredOn_text (h : l.Proper) : declaredOn l.text = l.declares := by
  cases h
  case members ms rest hm hr =>
    rw [text, declares, declaredOn, trim_append_right fun c hc => (hr c hc).1]
    cases ms
    case nil => rfl
    case cons m ms =>
      have ⟨⟨hs, hw⟩, hms⟩ := List.forall_mem_cons.mp hm
      rw [List.flatMap_cons, indented, List.append_assoc, trim_append_left fun c hc => (hs c hc).1]
      have ⟨c, t, he, hc⟩ :
          ∃ c t, written m.2 ++ ms.flatMap indented = c :: (t ++ [';']) ∧ isWord c :=
        exists_written_eq hw
      have hslash : c ≠ '/' := by rintro rfl; exact absurd hc (by decide)
      have htrim : trim (c :: (t ++ [';'])) = c :: (t ++ [';']) :=
        trim_cons_concat (not_isBlank_of_isWord hc) (by decide)
      have hcode : isCode (c :: (t ++ [';'])) := by simp [isCode, List.isPrefixOf, hslash.symm]
      rw [he, htrim, if_pos hcode, ← he]
      have hstart : ∀ n ∈ ([], m.2) :: ms, Spaces n.1 ∧ Writable n.2 :=
        List.forall_mem_cons.mpr ⟨⟨fun _ h => absurd h List.not_mem_nil, hw⟩, hms⟩
      simpa [indented] using membersOfLine_written hstart
  case comment indent comment hi ht =>
    have htrim : trim ('/' :: '/' :: comment) = '/' :: '/' :: comment.rdropWhile isBlank := by
      rw [trim_cons (by decide), rdropWhile_cons_of_neg (by decide)]
    have hcode : isCode ('/' :: '/' :: comment.rdropWhile isBlank) = false := rfl
    rw [text, declares, declaredOn, trim_append_left fun c hc => (hi c hc).1, htrim, hcode]
    rfl

theorem Proper.mem_text (hl : l.Proper) (h : c ∈ l.text) :
    c ≠ '}' ∧ c ≠ '\n' := by
  have hspaces : ∀ {s}, Spaces s → c ∈ s → c ≠ '}' ∧ c ≠ '\n' := by
    intro s hs hc
    refine ⟨?_, (hs c hc).2⟩
    rintro rfl
    exact absurd (hs _ hc).1 (by decide)
  cases hl
  case members ms rest hm hr =>
    simp only [text, indented, List.mem_append, List.mem_flatMap] at h
    rcases h with ⟨m, hms, h | h⟩ | h
    · exact hspaces (hm m hms).1 h
    · exact (hm m hms).2.mem_written h
    · exact hspaces hr h
  case comment indent comment hi ht =>
    simp only [text, List.mem_append, List.mem_cons] at h
    rcases h with h | rfl | rfl | h
    · exact hspaces hi h
    · decide
    · decide
    · exact ⟨ne_of_mem_of_not_mem h ht.1, ne_of_mem_of_not_mem h ht.2⟩

end Line

theorem mark_suffix : (memberHere?.mark s).2 <:+ s := by
  unfold memberHere?.mark
  split
  case h_1 => exact List.suffix_cons _ _
  case h_2 => exact List.suffix_rfl

theorem writable_of_memberHere? (h : memberHere? s = some m)
    (hs : ';' ∉ s ∧ '}' ∉ s ∧ '\n' ∉ s) : Writable m := by
  obtain ⟨_, hn, h⟩ := Option.bind_eq_some_iff.mp h
  obtain ⟨type, ht, h⟩ := Option.bind_eq_some_iff.mp h
  obtain ⟨-, -, h⟩ := Option.bind_eq_some_iff.mp h
  have hn : s.takeWhile isWord ≠ [] := by simpa [guard] using hn
  have htype : type <:+ s := by
    have hsuffix : type <:+ (memberHere?.mark (s.dropWhile isWord)).2 :=
      ⟨[':'], (after?_eq_some_iff.mp ht).symm⟩
    exact hsuffix.trans (mark_suffix.trans (List.dropWhile_suffix _))
  cases h
  constructor
  case name_ne => simpa [String.ext_iff] using hn
  case word    => exact fun c hc => List.mem_takeWhile_imp (String.toList_ofList ▸ hc)
  case inline  =>
    have hmem : ∀ {c}, c ∈ trim type → c ∈ s := fun hc => htype.subset (mem_of_mem_trim hc)
    rw [String.toList_ofList]
    exact ⟨fun h => hs.1 (hmem h), fun h => hs.2.1 (hmem h), fun h => hs.2.2 (hmem h)⟩
  case trimmed => rw [String.toList_ofList, trim_trim]

theorem exists_of_member? (h : member? s = some m) :
    ∃ t, t <:+ s ∧ memberHere? t = some m := by
  fun_induction member? s
  case case1 => cases h
  case case2 c s hi =>
    simp only [Option.orElse_eq_orElse, Option.orElse_eq_or, Option.or_eq_some_iff] at h
    rcases h with h | ⟨-, h⟩
    case inl => exact ⟨c :: s, List.suffix_rfl, h⟩
    case inr =>
      obtain ⟨t, ht, hm⟩ := hi h
      exact ⟨t, ht.trans (List.suffix_cons c s), hm⟩

-- No braces in the body, no line ends in its lines, no semicolons in their pieces.
theorem writable_of_mem_members (hb : '}' ∉ body) (h : m ∈ members body) : Writable m := by
  rw [members_eq, List.mem_flatMap] at h
  obtain ⟨line, hl, h⟩ := h
  rw [declaredOn] at h
  split at h
  case isFalse => cases h
  case isTrue  =>
    obtain ⟨piece, hp, h⟩ := List.mem_filterMap.mp h
    obtain ⟨t, ht, h⟩ := exists_of_member? h
    have hline : ∀ {c}, c ∈ t → c ∈ line := fun hc =>
      mem_of_mem_trim (mem_of_mem_splitOn hp (ht.subset hc))
    refine writable_of_memberHere? h ⟨?_, ?_, ?_⟩
    · exact fun hc => not_mem_of_mem_splitOn hp (ht.subset hc)
    · exact fun hc => hb (mem_of_mem_splitOn hl (hline hc))
    · exact fun hc => not_mem_of_mem_splitOn hl (hline hc)

end ComponentCatalog.Interface
