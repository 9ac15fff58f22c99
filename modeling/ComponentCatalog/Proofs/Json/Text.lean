import ComponentCatalog.Json.Print
import ComponentCatalog.Json.Read
import Mathlib.Tactic.SplitIfs

namespace ComponentCatalog

namespace Text

theorem hexValue?_hexDigit : ∀ {d : Nat}, d < 16 → hexValue? (hexDigit d) = some d := by
  decide

theorem toNat_scalar (c : Char) : c.toNat < 0xD800 ∨ 0xDFFF < c.toNat ∧ c.toNat < 0x110000 :=
  c.valid

end Text

namespace Json.Read

open Text

variable {s s' s'' : State} {cs ds : List Char} {c : Char} {stack : List Frame}
  {members : Option Members} {written : Raw} {high : Option Nat} {u : Nat} {asciiOnly : Bool}

-- Reading `cs` leads from one state to the other.
def Leads (s : State) (cs : List Char) (s' : State) : Prop :=
  (Raw.ofChars cs).foldlM step s = .ok s'

namespace Leads

theorem nil : Leads s [] s := rfl

theorem cons (h : step s (.char c) = .ok s') (ht : Leads s' cs s'') : Leads s (c :: cs) s'' := by
  rw [Leads, Raw.ofChars, List.map_cons, List.foldlM_cons, h]
  exact ht

theorem append (h : Leads s cs s') (ht : Leads s' ds s'') : Leads s (cs ++ ds) s'' := by
  rw [Leads, Raw.ofChars, List.map_append, List.foldlM_append, ← Raw.ofChars, h]
  exact ht

end Leads

-- Inside a text, which may be the key of a member.
def State.within (members : Option Members) (stack : List Frame) (written : Raw)
    (high : Option Nat) : State where
  mode  := .text members written (.plain high)
  stack := stack

def State.inUnit (members : Option Members) (stack : List Frame) (written : Raw)
    (high : Option Nat) (left value : Nat) : State where
  mode  := .text members written (.unicode high left value)
  stack := stack

theorem step_hexDigit {left value d : Nat} (hd : d < 16) :
    step (.inUnit members stack written high (left + 1) value) (.char (hexDigit d)) =
      .ok (.inUnit members stack written high left (16 * value + d)) := by
  simp only [step, State.inUnit, inText, Point.shown, hexValue?_hexDigit hd]
  rfl

theorem step_last_hexDigit {value d : Nat} (hd : d < 16) :
    step (.inUnit members stack written high 0 value) (.char (hexDigit d)) =
      .ok (.within members stack (unit written high (16 * value + d)).1
        (unit written high (16 * value + d)).2) := by
  simp only [step, State.inUnit, inText, Point.shown, hexValue?_hexDigit hd]
  rfl

theorem step_backslash :
    step (.within members stack written high) (.char '\\') =
      .ok ⟨.text members written (.slash high), stack⟩ := rfl

theorem step_unit :
    step ⟨.text members written (.slash high), stack⟩ (.char 'u') =
      .ok (.inUnit members stack written high 3 0) := rfl

theorem leads_escapeUnit {written' : Raw} {high' : Option Nat} (hu : u < 0x10000)
    (hw : unit written high u = (written', high')) :
    Leads (.within members stack written high) (escapeUnit u)
      (.within members stack written' high') := by
  have hv : 16 * (16 * (16 * (16 * 0 + u / 16 / 16 / 16 % 16) + u / 16 / 16 % 16) +
      u / 16 % 16) + u % 16 = u := by omega
  refine .cons step_backslash (.cons step_unit ?_)
  simp only [hex, List.nil_append, List.cons_append]
  refine .cons (step_hexDigit (Nat.mod_lt _ (by decide))) ?_
  refine .cons (step_hexDigit (Nat.mod_lt _ (by decide))) ?_
  refine .cons (step_hexDigit (Nat.mod_lt _ (by decide))) ?_
  refine .cons (step_last_hexDigit (Nat.mod_lt _ (by decide))) ?_
  rw [hv, hw]
  exact .nil

theorem unit_of_char (hc : c.toNat < 0x10000) :
    unit written none c.toNat = (.char c :: written, none) := by
  have hv := toNat_scalar c
  rw [unit, if_neg (by omega), if_neg (by omega), settle, Char.ofNat_toNat]

-- A character beyond the first plane is two units, and reading the second one settles it.
theorem leads_pair (hc : 0x10000 ≤ c.toNat) :
    Leads (.within members stack written none)
      (escapeUnit (0xD800 + (c.toNat - 0x10000) / 0x400) ++
        escapeUnit (0xDC00 + (c.toNat - 0x10000) % 0x400))
      (.within members stack (.char c :: written) none) := by
  have hv := toNat_scalar c
  have hhigh : unit written none (0xD800 + (c.toNat - 0x10000) / 0x400) =
      (written, some (0xD800 + (c.toNat - 0x10000) / 0x400)) := by
    rw [unit, if_neg (by omega), if_pos (by omega), settle]
  have hlow : unit written (some (0xD800 + (c.toNat - 0x10000) / 0x400))
      (0xDC00 + (c.toNat - 0x10000) % 0x400) = (.char c :: written, none) := by
    have hn : 0x10000 + (0xD800 + (c.toNat - 0x10000) / 0x400 - 0xD800) * 0x400 +
        (0xDC00 + (c.toNat - 0x10000) % 0x400 - 0xDC00) = c.toNat := by omega
    rw [unit, if_pos (by omega)]
    simp only [hn, Char.ofNat_toNat]
  exact (leads_escapeUnit (by omega) hhigh).append (leads_escapeUnit (by omega) hlow)

theorem leads_slash {e : Char} (hu : e ≠ 'u') (he : shortEscape? e = some c) :
    Leads (.within members stack written none) ['\\', e]
      (.within members stack (.char c :: written) none) := by
  refine .cons step_backslash (.cons ?_ .nil)
  simp only [step, inText, Point.shown, beq_iff_eq, hu, if_false, he]
  rfl

theorem leads_escapeChar :
    Leads (.within members stack written none) (escapeChar asciiOnly c)
      (.within members stack (.char c :: written) none) := by
  have hv := toNat_scalar c
  have hunit : c.toNat < 0x10000 → Leads (.within members stack written none)
      (escapeUnit c.toNat) (.within members stack (.char c :: written) none) :=
    fun hc => leads_escapeUnit hc (unit_of_char hc)
  unfold escapeChar
  split_ifs with hq hn hr ht hb hf hcontrol hplain hfirst
  case pos =>
    rcases Bool.or_eq_true _ _ ▸ hq with hq | hq
    all_goals
      cases beq_iff_eq.mp hq
      exact leads_slash (by decide) rfl
  case _ => exact beq_iff_eq.mp hn ▸ leads_slash (by decide) rfl
  case _ => exact beq_iff_eq.mp hr ▸ leads_slash (by decide) rfl
  case _ => exact beq_iff_eq.mp ht ▸ leads_slash (by decide) rfl
  case _ => exact beq_iff_eq.mp hb ▸ leads_slash (by decide) rfl
  case _ => exact beq_iff_eq.mp hf ▸ leads_slash (by decide) rfl
  case _ => exact hunit (by omega)
  case _ =>
    simp only [Bool.or_eq_true, beq_iff_eq, not_or] at hq
    refine .cons ?_ .nil
    simp only [step, State.within, inText, Point.shown, beq_iff_eq, hq, hcontrol, if_false]
    rfl
  case _ => exact hunit hfirst
  case _ => exact leads_pair (by omega)

theorem leads_escaped {cs : List Char} :
    Leads (.within members stack written none) (cs.flatMap (escapeChar asciiOnly))
      (.within members stack ((Raw.ofChars cs).reverse ++ written) none) := by
  induction cs generalizing written
  case nil => exact .nil
  case cons c cs hi =>
    rw [List.flatMap_cons, Raw.ofChars, List.map_cons, List.reverse_cons, List.append_assoc]
    exact leads_escapeChar.append hi

-- After the closing quote.
def State.closed (members : Option Members) (stack : List Frame) (t : Raw) : State where
  mode  := members.elim (.done (.string t)) (.colon · t)
  stack := stack

theorem leads_printString {t : String}
    (h : step s (.char '"') = .ok (.within members stack [] none)) :
    Leads s (printString asciiOnly t) (.closed members stack (.ofString t)) := by
  refine Leads.append (.cons h leads_escaped) (.cons ?_ .nil)
  rw [List.append_nil]
  cases members <;> simp [step, State.within, State.closed, inText, settle, Point.shown,
    Raw.ofString]

end Json.Read
end ComponentCatalog
