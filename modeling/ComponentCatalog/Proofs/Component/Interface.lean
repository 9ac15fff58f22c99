import ComponentCatalog.Proofs.Component.Header
import ComponentCatalog.Proofs.Component.Member
import ComponentCatalog.Proofs.OrderedMap

namespace ComponentCatalog.Interface

open Text

variable {s t body name block line rest behind : List Char} {before : List (List Char)}
  {lines : List Line} {p : Props} {m : String × PropInfo}

-- A header holds no closing brace.
theorem afterHeader?_append :
    afterHeader? (s ++ '}' :: rest) = (afterHeader? s).map (· ++ '}' :: rest) := by
  have hb : isBlank '}' = false := by decide
  have hw : isWord '}' = false := by decide
  rw [afterHeader?, afterHeader?, after?_append_cons (by decide)]
  cases after? "interface".toList s
  case none   => rfl
  case some s =>
    simp only [Option.map_some, Option.bind_eq_bind, Option.bind_some, takeWhile_append_cons hb,
      dropWhile_append_cons hb, takeWhile_append_cons hw, dropWhile_append_cons hw, Option.map_bind,
      Function.comp_def]
    rw [after?_append_cons (by decide)]

theorem takeWhile_of_not_mem (h : '}' ∉ s) : s.takeWhile (· != '}') = s := by
  refine List.takeWhile_eq_self_iff.mpr fun c hc => bne_iff_ne.mpr ?_
  rintro rfl
  exact h hc

-- The first closing brace is the end of the interface, if one starts here.
theorem bodyHere?_append (h : '}' ∉ s) :
    bodyHere? (s ++ '}' :: rest) = (afterHeader? s).filter (· ≠ []) := by
  rw [bodyHere?, afterHeader?_append]
  cases ht : afterHeader? s
  case none   => rfl
  case some t =>
    have hb : '}' ∉ t := fun hm => h ((afterHeader?_suffix ht).subset hm)
    have hbody : (t ++ '}' :: rest).takeWhile (· != '}') = t := by
      rw [takeWhile_append_cons (by decide), takeWhile_of_not_mem hb]
    simp only [Option.map_some, Option.bind_eq_bind, Option.bind_some, hbody, List.length_append,
      List.length_cons, Option.filter_some]
    by_cases hn : t = [] <;> simp [hn, guard]

theorem mem_of_bodyHere? (h : bodyHere? s = some body) : '}' ∈ s ∧ '}' ∉ body := by
  obtain ⟨t, ht, h⟩ := Option.bind_eq_some_iff.mp h
  obtain ⟨_, hg, h⟩ := Option.bind_eq_some_iff.mp h
  cases h
  refine ⟨?_, fun hm => by simpa using List.mem_takeWhile_imp hm⟩
  by_contra hs
  have hb : '}' ∉ t := fun hm => hs ((afterHeader?_suffix ht).subset hm)
  simp [takeWhile_of_not_mem hb, guard] at hg

theorem body?_of_bodyHere? (h : bodyHere? s = some body) : body? s = some body := by
  cases s
  case nil  => cases h
  case cons => rw [body?, h]; rfl

theorem mem_of_body? (h : body? s = some body) : '}' ∈ s ∧ '}' ∉ body := by
  fun_induction body? s
  case case1         => cases h
  case case2 c s hi  =>
    simp only [Option.orElse_eq_orElse, Option.orElse_eq_or, Option.or_eq_some_iff] at h
    rcases h with h | ⟨-, h⟩
    case inl => exact mem_of_bodyHere? h
    case inr => exact ⟨List.mem_cons_of_mem _ (hi h).1, (hi h).2⟩

-- What is found before a closing brace does not depend on what stands behind that.
theorem bodyHere?_append_right (h : '}' ∈ s) : bodyHere? (s ++ t) = bodyHere? s := by
  obtain ⟨s, rest, rfl, hs⟩ := List.eq_append_cons_of_mem h
  rw [List.append_assoc, List.cons_append, bodyHere?_append hs, bodyHere?_append hs]

theorem body?_append_right (h : body? s = some body) : body? (s ++ t) = some body := by
  fun_induction body? s
  case case1        => cases h
  case case2 c s hi =>
    simp only [Option.orElse_eq_orElse, Option.orElse_eq_or, Option.or_eq_some_iff] at h
    rw [List.cons_append, body?, ← List.cons_append]
    rcases h with h | ⟨hn, h⟩
    case inl => rw [bodyHere?_append_right (mem_of_bodyHere? h).1, h]; rfl
    case inr =>
      have hm : '}' ∈ c :: s := List.mem_cons_of_mem _ (mem_of_body? h).1
      rw [bodyHere?_append_right hm, hn, ← hi h]
      rfl

theorem body?_append_left (h : ¬"interface".toList <:+: line) :
    body? (line ++ '\n' :: s) = body? s := by
  have hn : ∀ line, ¬"interface".toList <+: line → bodyHere? (line ++ '\n' :: s) = none := by
    intro line h
    rw [bodyHere?, afterHeader?, after?_append_cons (by decide), after?_eq_none_iff.mpr h]
    rfl
  induction line
  case nil =>
    rw [List.nil_append, body?, ← List.nil_append ('\n' :: s), hn [] (by decide)]
    rfl
  case cons c line hi =>
    have hh := hn (c :: line) fun hp => h hp.isInfix
    have hl : ¬"interface".toList <:+: line :=
      fun hl => h (hl.trans (List.suffix_cons c line).isInfix)
    rw [List.cons_append, body?, ← List.cons_append, hh, ← hi hl]
    rfl

def header (name s : List Char) : List Char :=
  "interface ".toList ++ (name ++ ("Props".toList ++ ' ' :: '{' :: s))

-- The interface with a name that ends in `Props` and a block of lines.
def declaration (name block : List Char) : List Char :=
  header name ('\n' :: (block ++ ['}']))

def layout (lines : List Line) : List Char :=
  ['\n'].intercalate (lines.map Line.text)

section Declaration

variable (hn : name ≠ []) (hw : ∀ c ∈ name, isWord c)

include hn hw

theorem exists_header_append : ∃ head, Header head ∧ ∀ s, header name s = head ++ s := by
  have hspace : ∀ c ∈ [' '], isBlank c := List.forall_mem_singleton.mpr (by decide)
  refine ⟨_, .intro [' '] name [' '] (List.cons_ne_nil _ _) hspace hn hw hspace, fun s => ?_⟩
  simp only [List.append_assoc]
  rfl

-- The block is read up to the brace that closes it.
theorem body?_declaration (hb : '}' ∉ block) :
    body? (declaration name block) = some ('\n' :: block) := by
  have ⟨head, hh, hheader⟩ := exists_header_append hn hw
  have hm : '}' ∉ head ++ '\n' :: block :=
    List.not_mem_append hh.brace_not_mem (List.not_mem_cons_of_ne_of_not_mem (by decide) hb)
  apply body?_of_bodyHere?
  rw [declaration, hheader, ← List.cons_append, ← List.append_assoc, bodyHere?_append hm,
    hh.afterHeader?_append]
  rfl

end Declaration

theorem members_layout (h : ∀ l ∈ lines, l.Proper) :
    members ('\n' :: layout lines) = lines.flatMap Line.declares := by
  have hd : (lines.map Line.text).flatMap declaredOn = lines.flatMap Line.declares := by
    rw [List.flatMap_map]
    exact List.flatMap_congr fun l hl => (h l hl).declaredOn_text
  have hb : splitOn '\n' ('\n' :: layout lines) = [] :: splitOn '\n' (layout lines) :=
    splitOn_append_cons List.not_mem_nil
  rw [members_eq, hb, List.flatMap_cons, ← hd]
  by_cases hn : lines = []
  case pos => subst hn; decide
  case neg =>
    rw [layout, splitOn_intercalate _ (by simpa using hn)]
    · rfl
    · intro s hs hc
      obtain ⟨l, hl, rfl⟩ := List.mem_map.mp hs
      exact ((h l hl).mem_text hc).2 rfl

theorem props_layout (hn : name ≠ []) (hw : ∀ c ∈ name, isWord c) (hl : ∀ l ∈ lines, l.Proper) :
    props (declaration name (layout lines)) = .ofList (lines.flatMap Line.declares) := by
  have hb : '}' ∉ layout lines := by
    intro h
    obtain h | ⟨s, hs, hb⟩ := mem_intercalate h
    · cases h
    · obtain ⟨l, hm, rfl⟩ := List.mem_map.mp hs
      exact ((hl l hm).mem_text hb).1 rfl
  rw [props, body?_declaration hn hw hb, ← members_layout hl]

-- Whatever the lines are, what they declare is read in their order.
theorem props_declaration_eq_iff (hn : name ≠ []) (hw : ∀ c ∈ name, isWord c)
    (hl : ∀ l ∈ lines, l.Proper) :
    props (declaration name (layout lines)) = p ↔ p.Collects (lines.flatMap Line.declares) := by
  rw [props_layout hn hw hl, OrderedMap.ofList_eq_iff]

theorem props_declaration_repeated :
    (props <| declaration "Button".toList <| layout [
      .members [([' ', ' '], ("label", ⟨"string", false⟩)),
        (['\t'], ("onClick", ⟨"(e?: Event) => \x7b ok: boolean", true⟩))] [' '],
      .members [] [' '],
      .comment [' '] " label: \x7b number;".toList,
      .members [([], ("label", ⟨"'a' | 'b'", true⟩))] []]).entries =
    [("label", ⟨"'a' | 'b'", true⟩), ("onClick", ⟨"(e?: Event) => \x7b ok: boolean", true⟩)] := by
  rw [(props_declaration_eq_iff (by decide) (List.all_eq_true.mp (by decide)) ?_).mpr
    (OrderedMap.collects_ofList _)]
  · decide
  · refine List.forall_mem_cons.mpr ⟨.members (by decide) (by decide), ?_⟩
    refine List.forall_mem_cons.mpr ⟨.members (by decide) (by decide), ?_⟩
    refine List.forall_mem_cons.mpr ⟨.comment (by decide) (by decide), ?_⟩
    exact List.forall_mem_singleton.mpr (.members (by decide) (by decide))

theorem writable_of_mem_props (h : m ∈ (props s).entries) : Writable m := by
  rw [props] at h
  split at h
  case h_1 body hb =>
    exact writable_of_mem_members (mem_of_body? hb).2 (OrderedMap.mem_of_mem_ofList h)
  case h_2 => cases h

-- A line for each of the props.
def rendered (p : Props) : List Char :=
  declaration ['X'] (p.entries.flatMap fun m => ' ' :: ' ' :: (written m ++ ['\n']))

def renderedLines (p : Props) : List Line :=
  p.entries.map (fun m => .members [([' ', ' '], m)] []) ++ [.members [] []]

theorem rendered_eq : rendered p = declaration ['X'] (layout (renderedLines p)) := by
  have ht : (renderedLines p).map Line.text =
      p.entries.map (fun m => ' ' :: ' ' :: written m) ++ [[]] := by
    simp [renderedLines, Line.text, indented]
  rw [rendered, layout, ht, intercalate_concat_nil, List.flatMap_map]
  rfl

theorem declares_renderedLines : (renderedLines p).flatMap Line.declares = p.entries := by
  simp [renderedLines, List.flatMap_map, Line.declares]

theorem props_rendered (h : ∀ m ∈ p.entries, Writable m) : props (rendered p) = p := by
  have hl : ∀ l ∈ renderedLines p, l.Proper := by
    refine List.forall_mem_append.mpr ⟨?_, ?_⟩
    · refine List.forall_mem_map.mpr fun m hm => .members ?_ (by decide)
      exact List.forall_mem_singleton.mpr ⟨(by decide : Spaces [' ', ' ']), h m hm⟩
    · exact List.forall_mem_singleton.mpr (.members (by decide) (by decide))
  have hw : ∀ c ∈ ['X'], isWord c := List.forall_mem_singleton.mpr (by decide)
  rw [rendered_eq, props_layout (by decide) hw hl, declares_renderedLines,
    OrderedMap.ofList_entries]

-- The props of a source can be written out, and are then read as they were.
theorem props_normal (source : List Char) :
    (∀ m ∈ (props source).entries, Writable m) ∧
      props (rendered (props source)) = props source :=
  ⟨fun _ => writable_of_mem_props, props_rendered fun _ => writable_of_mem_props⟩

theorem body?_lines_append (h : ∀ line ∈ before, ¬"interface".toList <:+: line) :
    body? (before.flatMap (· ++ ['\n']) ++ s) = body? s := by
  induction before
  case nil                 => rfl
  case cons line before hi =>
    have ⟨hl, hb⟩ := List.forall_mem_cons.mp h
    rw [List.flatMap_cons, List.append_assoc, List.append_assoc, List.singleton_append,
      body?_append_left hl, hi hb]

-- What stands before and after the interface does not matter.
theorem props_surrounded (hs : props s ≠ ∅)
    (hb : ∀ line ∈ before, ¬"interface".toList <:+: line) :
    props (before.flatMap (· ++ ['\n']) ++ s ++ behind) = props s := by
  obtain ⟨body, hbody⟩ : ∃ body, body? s = some body := by
    refine Option.ne_none_iff_exists'.mp fun hn => hs ?_
    rw [props, hn]
  rw [props, props, List.append_assoc, body?_lines_append hb, body?_append_right hbody, hbody]

theorem props_surrounded_continued :
    (props (["// inter".toList].flatMap (· ++ ['\n']) ++
      "face NoProps \x7b\x7d\ninterface AProps \x7b a: string; \x7d\ninterface BPro".toList ++
      "ps \x7b b: number; \x7d".toList)).entries = [("a", ⟨"string", false⟩)] := by
  rw [props_surrounded (by decide +kernel) (by decide +kernel)]
  decide +kernel

end ComponentCatalog.Interface
