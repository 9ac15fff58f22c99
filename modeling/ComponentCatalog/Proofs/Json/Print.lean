import ComponentCatalog.Proofs.Json.Raw
import ComponentCatalog.Proofs.Json.Text
import ComponentCatalog.Proofs.OrderedMap
import ComponentCatalog.Proofs.Text.Encoding

namespace ComponentCatalog.Json

open Read

-- There are no numbers in the value, no object has a name twice, and `n` levels of containers are
-- enough.
inductive Plain : Nat → Json → Prop
  | null : Plain n .null
  | bool : Plain n (.bool b)
  | string : Plain n (.string s)
  | array (h : ∀ v ∈ vs, Plain n v) : Plain (n + 1) (.array vs)
  | object (hd : (ms.map Prod.fst).Nodup) (h : ∀ m ∈ ms, Plain n m.2) : Plain (n + 1) (.object ms)

namespace Read

open Text (Point Raw)

variable {s s' : State} {n depth : Nat} {style : Style} {stack : List Frame} {t : Raw} {k : String}
  {x y : RawJson} {es : List RawJson} {done ls : Members} {v : Json} {vs : List Json}
  {ms : List (String × Json)}

-- Blanks make no difference.
def Stays (s : State) : Prop :=
  ∀ c, isSpace c → step s (.char c) = .ok s

theorem stays_value : Stays ⟨.value, stack⟩ := fun c h => by simp [step, Point.shown, h]

theorem stays_element : Stays ⟨.element, stack⟩ := fun c h => by simp [step, Point.shown, h]

theorem stays_member : Stays ⟨.member, stack⟩ := fun c h => by simp [step, Point.shown, h]

theorem stays_key : Stays ⟨.key done, stack⟩ := fun c h => by simp [step, Point.shown, h]

theorem stays_done : Stays ⟨.done x, stack⟩ :=
  fun c h => by simp [step, afterValue, Point.shown, h]

theorem Stays.leads_newline (hs : Stays s) : Leads s (style.newline depth) s := by
  have hr : ∀ n, Leads s (List.replicate n ' ') s := by
    intro n
    induction n
    case zero      => exact .nil
    case succ n hi => exact .cons (hs ' ' rfl) hi
  rw [Style.newline]
  split
  case _ => exact .cons (hs '\n' rfl) (hr _)
  case _ => exact .nil

theorem leads_colon :
    Leads ⟨.colon done t, stack⟩ style.colon ⟨.value, setKey t done stack⟩ := by
  rw [Style.colon]
  split
  case _ => exact .cons rfl (.cons (stays_value ' ' rfl) .nil)
  case _ => exact .cons rfl .nil

-- The value is read back wherever there is room for its containers.
def Reads (n : Nat) (v : Json) : Prop :=
  ∀ (style : Style) depth stack, n + stack.length ≤ depthLimit →
    Leads ⟨.value, stack⟩ (print style depth v) ⟨.done v.raw, stack⟩

theorem leads_elements (hr : ∀ v ∈ vs, Reads n v) (hn : n + 1 + stack.length ≤ depthLimit) :
    Leads ⟨.done x, .array es :: stack⟩
      (printElements style (depth + 1) vs ++ style.newline depth ++ [']'])
      ⟨.done (.array ((x :: es).reverse ++ JsonOf.mapElements Raw.ofString vs)), stack⟩ := by
  induction vs generalizing x es
  case nil =>
    rw [printElements, List.nil_append, JsonOf.mapElements, List.append_nil]
    exact stays_done.leads_newline.append (.cons rfl .nil)
  case cons v vs hi =>
    obtain ⟨hv, hvs⟩ := List.forall_mem_cons.mp hr
    have ht := hv style (depth + 1) (.array (x :: es) :: stack)
      (by simp only [List.length_cons]; omega)
    have hl : (x :: es).reverse ++ JsonOf.mapElements Raw.ofString (v :: vs) =
        (v.raw :: x :: es).reverse ++ JsonOf.mapElements Raw.ofString vs := by
      rw [JsonOf.mapElements, List.append_cons, ← List.reverse_cons]
      rfl
    rw [printElements, List.append_assoc, List.append_assoc, ← List.append_assoc _ _ [']'], hl]
    exact .cons rfl ((stays_value.leads_newline.append ht).append (hi hvs))

theorem leads_member
    (hs : step s (.char '"') = .ok (.within (some done) (.object ls t :: stack) [] none))
    (hv : Reads n v) (hn : n + 1 + stack.length ≤ depthLimit) :
    Leads s (printString style.asciiOnly k ++ style.colon ++ print style depth v)
      ⟨.done v.raw, .object done (.ofString k) :: stack⟩ := by
  refine ((leads_printString hs).append leads_colon).append ?_
  exact hv style depth (.object done (.ofString k) :: stack)
    (by simp only [List.length_cons]; omega)

theorem insertMember_of_nodup (hd : ((done ++ (t, x) :: ls).map Prod.fst).Nodup) :
    insertMember done t x = done ++ [(t, x)] := by
  rw [List.map_append, List.map_cons, List.nodup_middle, List.nodup_cons, List.mem_append,
    not_or] at hd
  exact OrderedMap.put_of_not_mem hd.1.1

theorem leads_members (hr : ∀ m ∈ ms, Reads n m.2) (hn : n + 1 + stack.length ≤ depthLimit)
    (hd : ((done ++ (t, x) :: JsonOf.mapMembers Raw.ofString ms).map Prod.fst).Nodup) :
    Leads ⟨.done x, .object done t :: stack⟩
      (printMembers style (depth + 1) ms ++ style.newline depth ++ ['\x7d'])
      ⟨.done (.object (done ++ (t, x) :: JsonOf.mapMembers Raw.ofString ms)), stack⟩ := by
  induction ms generalizing x t done
  case nil =>
    rw [printMembers, List.nil_append]
    rw [JsonOf.mapMembers] at hd ⊢
    rw [← insertMember_of_nodup hd]
    exact stays_done.leads_newline.append (.cons rfl .nil)
  case cons m ms hi =>
    obtain ⟨hv, hms⟩ := List.forall_mem_cons.mp hr
    have hl : done ++ (t, x) :: JsonOf.mapMembers Raw.ofString (m :: ms) =
        done ++ [(t, x)] ++ (.ofString m.1, m.2.raw) :: JsonOf.mapMembers Raw.ofString ms :=
      List.append_cons ..
    have hm : Leads ⟨.key (insertMember done t x), .object done t :: stack⟩
        (printString style.asciiOnly m.1 ++ style.colon ++ print style (depth + 1) m.2)
        ⟨.done m.2.raw, .object (insertMember done t x) (.ofString m.1) :: stack⟩ :=
      leads_member rfl hv hn
    rw [insertMember_of_nodup hd] at hm
    have ht := hi hms (hl ▸ hd)
    rw [← hl] at ht
    have hp : printMembers style (depth + 1) (m :: ms) ++ style.newline depth ++ ['\x7d'] =
        ',' :: (style.newline (depth + 1) ++ (printString style.asciiOnly m.1 ++ style.colon ++
          print style (depth + 1) m.2) ++
          (printMembers style (depth + 1) ms ++ style.newline depth ++ ['\x7d'])) := by
      simp [printMembers]
    have hc : step ⟨.done x, .object done t :: stack⟩ (.char ',') =
        .ok ⟨.key (done ++ [(t, x)]), .object done t :: stack⟩ :=
      insertMember_of_nodup hd ▸ rfl
    rw [hp]
    exact .cons hc ((stays_key.leads_newline.append hm).append ht)

-- The characters that values start with.
def heads : List Char := ['n', 't', 'f', '"', '[', '\x7b']

theorem exists_head (hp : Plain n v) : ∃ c ∈ heads, ∃ cs, print style depth v = c :: cs := by
  cases hp
  case null            => exact ⟨'n', by decide, _, rfl⟩
  case bool b          =>
    cases b
    case true  => exact ⟨'t', by decide, _, rfl⟩
    case false => exact ⟨'f', by decide, _, rfl⟩
  case string          => exact ⟨'"', by decide, _, rfl⟩
  case array vs _ _    => cases vs <;> exact ⟨'[', by decide, _, rfl⟩
  case object ms _ _ _ => cases ms <;> exact ⟨'\x7b', by decide, _, rfl⟩

-- No value starts with a blank, with the bracket that would end an array or with a zero character.
theorem heads_spec {c : Char} (hc : c ∈ heads) :
    isSpace c = false ∧ c ≠ ']' ∧ c.toNat ≠ 0 ∧ c.toNat < 0x80 := by
  have h : heads.all fun c => !isSpace c && c != ']' && c.toNat != 0 && c.toNat < 0x80 := by decide
  simpa [and_assoc] using List.all_eq_true.mp h c hc

theorem leads_element (hp : Plain n v) (h : Leads ⟨.value, stack⟩ (print style depth v) s) :
    Leads ⟨.element, stack⟩ (print style depth v) s := by
  have ⟨c, hc, cs, he⟩ : ∃ c ∈ heads, ∃ cs, print style depth v = c :: cs := exists_head hp
  have ⟨hs, hb, _⟩ := heads_spec hc
  have hstep : step ⟨.element, stack⟩ (.char c) = step ⟨.value, stack⟩ (.char c) := by
    simp [step, Point.shown, hs, hb]
  rw [he, Leads, Raw.ofChars, List.map_cons, List.foldlM_cons] at h ⊢
  rwa [hstep]

theorem step_openArray (hs : stack.length < depthLimit) :
    step ⟨.value, stack⟩ (.char '[') = .ok ⟨.element, .array [] :: stack⟩ :=
  if_neg (Nat.not_le.mpr hs)

theorem step_openObject (hs : stack.length < depthLimit) :
    step ⟨.value, stack⟩ (.char '\x7b') = .ok ⟨.member, .object [] [] :: stack⟩ :=
  if_neg (Nat.not_le.mpr hs)

theorem reads_of_plain (hp : Plain n v) : Reads n v := by
  induction hp
  case null   => exact fun _ _ _ _ => rfl
  case bool b => cases b <;> exact fun _ _ _ _ => rfl
  case string s n =>
    intro style depth stack _
    have h : step ⟨.value, stack⟩ (.char '"') = .ok (.within none stack [] none) := rfl
    rw [print]
    exact leads_printString h
  case array vs n hp hr =>
    intro style depth stack hn
    have hopen : step ⟨.value, stack⟩ (.char '[') = .ok ⟨.element, .array [] :: stack⟩ :=
      step_openArray (by omega)
    cases vs
    case nil => exact .cons hopen (.cons rfl .nil)
    case cons v vs =>
      obtain ⟨hv, hvs⟩ := List.forall_mem_cons.mp hr
      have he := leads_element (hp v List.mem_cons_self) <|
        hv style (depth + 1) (.array [] :: stack) (by simp only [List.length_cons]; omega)
      have hp : print style depth (.array (v :: vs)) =
          '[' :: (style.newline (depth + 1) ++ print style (depth + 1) v ++
            (printElements style (depth + 1) vs ++ style.newline depth ++ [']'])) := by
        simp [print]
      rw [hp]
      exact .cons hopen ((stays_element.leads_newline.append he).append (leads_elements hvs hn))
  case object ms n hd hp hr =>
    intro style depth stack hn
    have hopen : step ⟨.value, stack⟩ (.char '\x7b') = .ok ⟨.member, .object [] [] :: stack⟩ :=
      step_openObject (by omega)
    cases ms
    case nil => exact .cons hopen (.cons rfl .nil)
    case cons m ms =>
      obtain ⟨hv, hms⟩ := List.forall_mem_cons.mp hr
      have hm : Leads ⟨.member, .object [] [] :: stack⟩
          (printString style.asciiOnly m.1 ++ style.colon ++ print style (depth + 1) m.2)
          ⟨.done m.2.raw, .object [] (.ofString m.1) :: stack⟩ := leads_member rfl hv hn
      have hp : print style depth (.object (m :: ms)) =
          '\x7b' :: (style.newline (depth + 1) ++ (printString style.asciiOnly m.1 ++ style.colon ++
            print style (depth + 1) m.2) ++
            (printMembers style (depth + 1) ms ++ style.newline depth ++ ['\x7d'])) := by
        simp [print]
      rw [hp]
      have hd : ([] ++ JsonOf.mapMembers Raw.ofString (m :: ms)).map Prod.fst |>.Nodup :=
        JsonOf.nodup_raw hd
      exact .cons hopen ((stays_member.leads_newline.append hm).append (leads_members hms hn hd))

end Read

variable {style : Style} {n depth : Nat} {v : Json} {c : Char} {cs : List Char} {asciiOnly : Bool}

theorem exists_escapeChar :
    ∃ d ds, d.toNat ≠ 0 ∧ escapeChar asciiOnly c = d :: ds := by
  unfold escapeChar escapeUnit
  split_ifs
  all_goals exact ⟨_, _, by first | decide | omega, rfl⟩

theorem Style.exists_newline (hc : c.toNat ≠ 0) :
    ∃ d ds, d.toNat ≠ 0 ∧ style.newline depth ++ c :: cs = d :: ds := by
  rw [newline]
  split
  case _ => exact ⟨'\n', _, by decide, rfl⟩
  case _ => exact ⟨c, cs, hc, rfl⟩

theorem exists_second (hp : Plain n v) :
    ∃ c ∈ heads, ∃ d cs, d.toNat ≠ 0 ∧ print style depth v = c :: d :: cs := by
  cases hp
  case null   => exact ⟨'n', by decide, _, _, by decide, rfl⟩
  case bool b => cases b <;> exact ⟨_, by decide, _, _, by decide, rfl⟩
  case string s =>
    refine ⟨'"', by decide, ?_⟩
    rw [print, printString]
    cases s.toList
    case nil       => exact ⟨'"', [], by decide, rfl⟩
    case cons c cs =>
      have ⟨d, ds, hd, h⟩ : ∃ d ds, d.toNat ≠ 0 ∧ escapeChar style.asciiOnly c = d :: ds :=
        exists_escapeChar
      exact ⟨d, _, hd, by rw [List.flatMap_cons, h]; rfl⟩
  case array vs n hp =>
    refine ⟨'[', by decide, ?_⟩
    cases vs
    case nil       => exact ⟨']', [], by decide, rfl⟩
    case cons v vs =>
      have ⟨c, hc, cs, he⟩ : ∃ c ∈ heads, ∃ cs, print style (depth + 1) v = c :: cs :=
        exists_head (hp v List.mem_cons_self)
      have ⟨_, _, hc, _⟩ := heads_spec hc
      have ⟨d, ds, hd, hn⟩ : ∃ d ds, d.toNat ≠ 0 ∧ style.newline (depth + 1) ++ c :: cs = d :: ds :=
        style.exists_newline hc
      exact ⟨d, _, hd, by rw [print, he, List.cons_append, hn]; rfl⟩
  case object ms n hp hd =>
    refine ⟨'\x7b', by decide, ?_⟩
    cases ms
    case nil       => exact ⟨'\x7d', [], by decide, rfl⟩
    case cons m ms =>
      have ⟨q, hq⟩ : ∃ q, printString style.asciiOnly m.1 = '"' :: q := ⟨_, rfl⟩
      have ⟨d, ds, hd, hn⟩ :
          ∃ d ds, d.toNat ≠ 0 ∧ style.newline (depth + 1) ++ '"' :: q = d :: ds :=
        style.exists_newline (by decide)
      exact ⟨d, _, hd, by rw [print, hq, List.cons_append, hn]; rfl⟩

theorem readRaw_print (hp : Plain n v) (hn : n ≤ depthLimit) :
    readRaw (.ofChars (print style 0 v)) = .ok v.raw := by
  have h : Leads .start (print style 0 v) ⟨.done v.raw, []⟩ := reads_of_plain hp style 0 [] hn
  rw [readRaw, h]
  rfl

theorem read_print (hp : Plain n v) (hn : n ≤ depthLimit) : read (print style 0 v) = .ok v := by
  rw [read, readRaw_print hp hn, Except.map, JsonOf.shown_raw]

-- A line break behind the document makes no difference.
theorem read_render_line (hp : Plain n v) (hn : n ≤ depthLimit) :
    read (v.render style ++ "\n").toList = .ok v := by
  have hv : Leads .start (print style 0 v) ⟨.done v.raw, []⟩ := reads_of_plain hp style 0 [] hn
  have hl : Leads .start (print style 0 v ++ "\n".toList) ⟨.done v.raw, []⟩ :=
    hv.append (.cons (stays_done '\n' rfl) .nil)
  have hs : (v.render style).toList = print style 0 v := String.toList_ofList
  have hr : readRaw (.ofChars (print style 0 v ++ "\n".toList)) = .ok v.raw := by
    rw [readRaw, hl]
    rfl
  rw [String.toList_append, hs, read, hr, Except.map, JsonOf.shown_raw]

theorem readBytes_render (hp : Plain n v) (hn : n ≤ depthLimit) :
    readBytes (v.render style).toUTF8 = .ok v.raw := by
  obtain ⟨c, hc, d, cs, hd, he⟩ :
      ∃ c ∈ heads, ∃ d cs, d.toNat ≠ 0 ∧ print style 0 v = c :: d :: cs :=
    exists_second hp
  have ⟨_, _, hc⟩ := heads_spec hc
  have hs : (v.render style).toList = print style 0 v := String.toList_ofList
  rw [readBytes, Text.decodeDetected?_toUTF8 (hs.trans he) hc hd, Text.Raw.ofString, hs]
  exact readRaw_print hp hn

end ComponentCatalog.Json
