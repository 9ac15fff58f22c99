import ComponentCatalog.Component.Interface
import ComponentCatalog.Proofs.Text.Blank
import Mathlib.Data.Option.Basic

namespace ComponentCatalog.Interface

open Text

variable {head s t u : List Char}

-- The word `interface`, a name that ends in `Props` and the opening brace, blanks between them.
inductive Header : List Char → Prop
  | intro (gap name space : List Char) (gap_ne : gap ≠ []) (gap_blank : ∀ c ∈ gap, isBlank c)
    (name_ne : name ≠ []) (word : ∀ c ∈ name, isWord c) (space_blank : ∀ c ∈ space, isBlank c) :
    Header ("interface".toList ++ (gap ++ (name ++ ("Props".toList ++ (space ++ ['{'])))))

theorem Header.of_all (gap name space : List Char)
    (h : gap ≠ [] ∧ gap.all isBlank ∧ name ≠ [] ∧ name.all isWord ∧ space.all isBlank) :
    Header ("interface".toList ++ (gap ++ (name ++ ("Props".toList ++ (space ++ ['{']))))) :=
  have ⟨hg, hb, hn, hw, hs⟩ := h
  .intro gap name space hg (List.all_eq_true.mp hb) hn (List.all_eq_true.mp hw)
    (List.all_eq_true.mp hs)

theorem endsInProps_iff : endsInProps s ↔ ∃ name, name ≠ [] ∧ s = name ++ "Props".toList := by
  simp only [endsInProps, Bool.and_eq_true, List.isSuffixOf_iff_suffix, decide_eq_true_eq]
  constructor
  case mp =>
    intro ⟨⟨name, hs⟩, hl⟩
    refine ⟨name, ?_, hs.symm⟩
    rintro rfl
    exact absurd hl (hs ▸ by decide)
  case mpr =>
    intro ⟨name, hn, hs⟩
    have hl : 0 < name.length := List.length_pos_iff.mpr hn
    refine ⟨⟨name, hs.symm⟩, ?_⟩
    simp only [hs, List.length_append, String.length_toList]
    omega

theorem exists_header_of_afterHeader? (h : afterHeader? s = some t) :
    ∃ head, Header head ∧ s = head ++ t := by
  have ⟨s₁, h₁, h⟩ := Option.bind_eq_some_iff.mp h
  have ⟨_, hgap, h⟩ := Option.bind_eq_some_iff.mp h
  have ⟨_, hprops, hbrace⟩ := Option.bind_eq_some_iff.mp h
  have hgap : s₁.takeWhile isBlank ≠ [] := by simpa [guard] using hgap
  generalize hs₂ : s₁.dropWhile isBlank = s₂ at hprops hbrace
  generalize hs₃ : s₂.dropWhile isWord = s₃ at hbrace
  have ⟨name, hn, hname⟩ : ∃ name, name ≠ [] ∧ s₂.takeWhile isWord = name ++ "Props".toList :=
    endsInProps_iff.mp (by simpa [guard] using hprops)
  have hword : ∀ c ∈ name, isWord c := fun c hc =>
    List.mem_takeWhile_imp (hname ▸ List.mem_append_left _ hc)
  have hhead := Header.intro (s₁.takeWhile isBlank) name (s₃.takeWhile isBlank) hgap
    (fun _ => List.mem_takeWhile_imp) hn hword (fun _ => List.mem_takeWhile_imp)
  have h₃ : s₃ = s₃.takeWhile isBlank ++ '{' :: t := by
    rw [← List.singleton_append, ← after?_eq_some_iff.mp hbrace, List.takeWhile_append_dropWhile]
  have h₂ : s₂ = name ++ "Props".toList ++ s₃ := by
    rw [← hname, ← hs₃, List.takeWhile_append_dropWhile]
  have h₁ : s = "interface".toList ++ (s₁.takeWhile isBlank ++ s₂) := by
    rw [after?_eq_some_iff.mp h₁, ← hs₂, List.takeWhile_append_dropWhile]
  refine ⟨_, hhead, ?_⟩
  rw [h₁, h₂]
  simp only [List.append_assoc, List.singleton_append, ← h₃]

theorem Header.afterHeader?_append (h : Header head) : afterHeader? (head ++ t) = some t := by
  cases h
  case intro gap name space hg hb hn hw hs =>
    have hword : ∀ c ∈ name ++ "Props".toList, isWord c :=
      List.forall_mem_append.mpr ⟨hw, List.all_eq_true.mp (by decide)⟩
    have hname : ∀ c ∈ (name ++ ("Props".toList ++ (space ++ '{' :: t))).head?,
        isBlank c = false := by
      intro c hc
      apply not_isBlank_of_isWord (hw c _)
      exact List.mem_of_mem_head? (List.head?_append_of_ne_nil _ hn ▸ hc)
    have hspace : ∀ c ∈ (space ++ '{' :: t).head?, isWord c = false := by
      intro c hc
      cases space
      case nil  => cases hc; decide
      case cons => cases hc; exact not_isWord_of_isBlank (hs _ List.mem_cons_self)
    have hbrace : ∀ c ∈ ('{' :: t).head?, isBlank c = false := by
      intro c hc; cases hc; decide
    have hgap : gap.length ≠ 0 := by simpa using hg
    have hprops : endsInProps (name ++ "Props".toList) := endsInProps_iff.mpr ⟨name, hn, rfl⟩
    simp only [List.append_assoc, List.singleton_append, afterHeader?]
    rw [after?_eq_some_iff.mpr rfl]
    simp only [Option.bind_eq_bind, Option.bind_some]
    rw [takeWhile_boundary hb hname, dropWhile_boundary hb hname, ← List.append_assoc name,
      takeWhile_boundary hword hspace, dropWhile_boundary hword hspace,
      dropWhile_boundary hs hbrace]
    rw [hprops]
    simp [guard, hgap, after?]

theorem afterHeader?_eq_some_iff :
    afterHeader? s = some t ↔ ∃ head, Header head ∧ s = head ++ t := by
  constructor
  case mp  => exact exists_header_of_afterHeader?
  case mpr => rintro ⟨head, hh, rfl⟩; exact hh.afterHeader?_append

theorem afterHeader?_suffix (h : afterHeader? s = some t) : t <:+ s := by
  have ⟨head, _, hs⟩ := afterHeader?_eq_some_iff.mp h
  exact ⟨head, hs.symm⟩

namespace Header

variable (h : Header head)

include h

theorem exists_closing : ∃ t, head = t ++ ['{'] ∧ '{' ∉ t ∧ '}' ∉ t := by
  cases h
  case intro gap name space hg hb hn hw hs =>
    have hblank : ∀ {s : List Char}, (∀ c ∈ s, isBlank c) → '{' ∉ s ∧ '}' ∉ s := fun h =>
      ⟨fun hm => absurd (h _ hm) (by decide), fun hm => absurd (h _ hm) (by decide)⟩
    have hword : '{' ∉ name ∧ '}' ∉ name :=
      ⟨fun hm => absurd (hw _ hm) (by decide), fun hm => absurd (hw _ hm) (by decide)⟩
    refine ⟨"interface".toList ++ (gap ++ (name ++ ("Props".toList ++ space))), ?_, ?_⟩
    · simp only [List.append_assoc]
    · simp [hblank hb, hblank hs, hword]

theorem brace_not_mem : '}' ∉ head := by
  have ⟨t, ht, _, hb⟩ := h.exists_closing
  simp [ht, hb]

-- A header has one opening brace, at its end, and so nothing follows a header in it.
theorem eq_nil_of_afterHeader? (ht : t <:+ head) (hu : afterHeader? t = some u) : u = [] := by
  have ⟨before, hbefore⟩ := ht
  have ⟨inner, hinner, hsplit⟩ := afterHeader?_eq_some_iff.mp hu
  have ⟨start, hstart, hbrace, _⟩ := h.exists_closing
  have ⟨inside, hinside, _⟩ := hinner.exists_closing
  cases List.eq_nil_or_concat u
  case inl hn => exact hn
  case inr hc =>
    have ⟨v, d, hv⟩ := hc
    have hhead : start ++ ['{'] = before ++ (inside ++ '{' :: v) ++ [d] := by
      simp [← hstart, ← hbefore, hsplit, hinside, hv]
    have hmem : start = before ++ (inside ++ '{' :: v) := (List.append_inj' hhead rfl).left
    exact absurd (hmem ▸ by simp) hbrace

theorem ne_nil : head ≠ [] := by
  have ⟨t, ht, _⟩ := h.exists_closing
  simp [ht]

end Header
end ComponentCatalog.Interface
