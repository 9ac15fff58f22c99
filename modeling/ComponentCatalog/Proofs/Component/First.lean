import ComponentCatalog.Proofs.Component.Interface

namespace ComponentCatalog.Interface

open Text

variable {source before head body body' rest rest' s t : List Char} {c : Char} {i : Nat}

-- An interface begins here and ends somewhere.
def Begins (s : List Char) : Prop :=
  ∃ head rest, Header head ∧ '}' ∈ rest ∧ s = head ++ rest

theorem begins_iff : Begins s ↔ ∃ t ∈ afterHeader? s, '}' ∈ t := by
  simp only [Begins, Option.mem_def, afterHeader?_eq_some_iff]
  constructor
  case mp  => exact fun ⟨head, rest, hh, hb, hs⟩ => ⟨rest, ⟨head, hh, hs⟩, hb⟩
  case mpr => exact fun ⟨rest, ⟨head, hh, hs⟩, hb⟩ => ⟨head, rest, hh, hb, hs⟩

instance : Decidable (Begins s) :=
  decidable_of_iff _ begins_iff.symm

-- The first interface of a text. Nothing before its header begins an interface.
structure First (source before head body rest : List Char) : Prop where
  split    : source = before ++ (head ++ (body ++ '}' :: rest))
  header   : Header head
  closed   : '}' ∉ body
  leftmost : ∀ i < before.length, ¬Begins (source.drop i)

theorem begins_of_bodyHere? (h : bodyHere? s = some body) : Begins s := by
  have ⟨t, ht, h⟩ := Option.bind_eq_some_iff.mp h
  have ⟨_, hg, _⟩ := Option.bind_eq_some_iff.mp h
  refine begins_iff.mpr ⟨t, ht, ?_⟩
  by_contra hb
  simp [takeWhile_of_not_mem hb, guard] at hg

theorem bodyHere?_of_not_begins (h : ¬Begins s) : bodyHere? s = none :=
  Option.eq_none_iff_forall_ne_some.mpr fun _ hb => h (begins_of_bodyHere? hb)

-- What begins no interface is passed over.
theorem body?_append (h : ∀ i < before.length, bodyHere? ((before ++ s).drop i) = none) :
    body? (before ++ s) = body? s := by
  induction before
  case nil              => rfl
  case cons c before hi =>
    have hc : bodyHere? (c :: (before ++ s)) = none := h 0 (Nat.succ_pos _)
    rw [List.cons_append, body?, hc, ← hi fun i hl => h (i + 1) (Nat.succ_lt_succ hl)]
    rfl

theorem body?_of_not_begins (h : ∀ i, ¬Begins (s.drop i)) : body? s = none := by
  have hs : body? (s ++ []) = body? [] :=
    body?_append fun i _ => bodyHere?_of_not_begins (by rw [List.append_nil]; exact h i)
  rwa [List.append_nil] at hs

theorem Header.body?_append_cons (h : Header head) : body? (head ++ '}' :: rest) = body? rest := by
  have hnone : ∀ t, t <:+ head → bodyHere? (t ++ '}' :: rest) = none := by
    intro t ht
    rw [bodyHere?_append fun hm => h.brace_not_mem (ht.subset hm), Option.filter_eq_none_iff]
    intro u hu
    simp [h.eq_nil_of_afterHeader? ht hu]
  rw [body?_append, body?, ← List.nil_append ('}' :: rest), hnone [] (List.nil_suffix)]
  · rfl
  · intro i hi
    rw [List.drop_append_of_le_length (Nat.le_of_lt hi)]
    exact hnone _ (List.drop_suffix i head)

theorem First.body?_eq (h : First source before head body rest) :
    body? source = if body = [] then body? rest else some body := by
  rw [h.split, body?_append fun i hi => bodyHere?_of_not_begins (h.split ▸ h.leftmost i hi)]
  split
  case isTrue hb  => rw [hb, List.nil_append, h.header.body?_append_cons]
  case isFalse hb =>
    have hm : '}' ∉ head ++ body := List.not_mem_append h.header.brace_not_mem h.closed
    rw [← List.append_assoc]
    apply body?_of_bodyHere?
    rw [bodyHere?_append hm, h.header.afterHeader?_append]
    simp [hb]

-- A header before the first one ends before that one's brace, and so the body has no part in it.
theorem begins_drop_iff (hh : Header head) (hi : i ≤ before.length) (hb : '}' ∈ rest) :
    Begins ((before ++ (head ++ rest)).drop i) ↔ ∃ t, Header t ∧ t <+: before.drop i ++ head := by
  rw [List.drop_append_of_le_length hi, ← List.append_assoc]
  constructor
  case mp =>
    intro ⟨inner, u, hinner, _, hsplit⟩
    refine ⟨inner, hinner, ?_⟩
    have ⟨start, hstart, _⟩ := hh.exists_closing
    have ⟨inside, hinside, hbrace, _⟩ := hinner.exists_closing
    cases List.prefix_or_prefix_of_prefix ⟨u, hsplit.symm⟩ (List.prefix_append _ rest)
    case inl hp => exact hp
    case inr hp =>
      rw [hinside, List.prefix_concat_iff] at hp
      cases hp
      case inl he => exact hinside ▸ he ▸ List.prefix_rfl
      case inr hp => exact absurd (hp.subset (by simp [hstart])) hbrace
  case mpr =>
    intro ⟨inner, hinner, ⟨u, hu⟩⟩
    exact ⟨inner, u ++ rest, hinner, List.mem_append_right u hb, by rw [← hu, List.append_assoc]⟩

-- Which interface is the first does not depend on its body and on what follows it.
theorem First.replace (h : First source before head body rest) (hb : '}' ∉ body') :
    First (before ++ (head ++ (body' ++ '}' :: rest'))) before head body' rest' where
  split          := rfl
  header         := h.header
  closed         := hb
  leftmost i hi  := by
    have hn : ¬Begins ((before ++ (head ++ (body ++ '}' :: rest))).drop i) :=
      h.split ▸ h.leftmost i hi
    rw [begins_drop_iff h.header (Nat.le_of_lt hi) (by simp)] at hn ⊢
    exact hn

theorem First.cons (h : First source before head body rest) (hn : ¬Begins (c :: source)) :
    First (c :: source) (c :: before) head body rest where
  split        := congrArg (c :: ·) h.split
  header       := h.header
  closed       := h.closed
  leftmost
    | 0, _     => hn
    | i + 1, hi => h.leftmost i (Nat.lt_of_succ_lt_succ hi)

theorem exists_first (h : Begins (source.drop i)) :
    ∃ before head body rest, First source before head body rest := by
  induction source generalizing i
  case nil              =>
    have ⟨head, t, hh, _, hs⟩ := h
    exact absurd (List.append_eq_nil_iff.mp (List.drop_nil ▸ hs).symm).left hh.ne_nil
  case cons c source hi =>
    by_cases hc : Begins (c :: source)
    case pos =>
      have ⟨head, t, hh, hm, hs⟩ := hc
      have ⟨body, rest, ht, hb⟩ := List.eq_append_cons_of_mem hm
      exact ⟨[], head, body, rest, ht ▸ hs, hh, hb, fun _ hi => absurd hi (Nat.not_lt_zero _)⟩
    case neg =>
      cases i
      case zero   => exact absurd h hc
      case succ i =>
        have ⟨before, head, body, rest, hf⟩ := hi h
        exact ⟨c :: before, head, body, rest, hf.cons hc⟩

theorem props_by_first :
    (∀ before head body rest, First source before head body rest →
      props source = if body = [] then props rest else .ofList (members body)) ∧
    ((¬∃ before head body rest, First source before head body rest) → props source = ∅) := by
  constructor
  case left =>
    intro before head body rest h
    rw [props, h.body?_eq]
    by_cases hb : body = []
    case pos => simp only [hb, if_true]; rfl
    case neg => simp only [hb, if_false]
  case right =>
    intro h
    rw [props, body?_of_not_begins fun i hb => h (exists_first hb)]

theorem props_by_first_gallery :
    (props ("interface BoxShape \x7b w: number \x7d\ninterface ".toList ++
      ("interface\tAProps\n\x7b".toList ++ (" label?: string; ".toList ++
        '}' :: "\ninterface BProps \x7b b: string; \x7d".toList)))).entries =
      [("label", ⟨"string", true⟩)] := by
  have hh : Header "interface\tAProps\n\x7b".toList := .of_all ['\t'] ['A'] ['\n'] (by decide)
  rw [props_by_first.left _ _ _ _ ⟨rfl, hh, by decide, by decide +kernel⟩]
  decide +kernel

theorem first_passed_over :
    First "interface AProps \x7b\x7d\ninterface BProps \x7b b: string; \x7d".toList []
      "interface AProps \x7b".toList [] "\ninterface BProps \x7b b: string; \x7d".toList ∧
    members [] = [] ∧
    (props "interface AProps \x7b\x7d\ninterface BProps \x7b b: string; \x7d".toList).entries =
      [("b", ⟨"string", false⟩)] := by
  have hh : Header "interface AProps \x7b".toList := .of_all [' '] ['A'] [' '] (by decide)
  exact ⟨⟨by decide, hh, by decide, by decide⟩, by decide, by decide +kernel⟩

end ComponentCatalog.Interface
