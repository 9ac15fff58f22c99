import ComponentCatalog.Json.Read
import ComponentCatalog.Proofs.Json.Raw

namespace ComponentCatalog.Json

-- No object has a name twice, wherever in the value it is.
inductive Distinct : RawJson → Prop
  | null : Distinct .null
  | bool {b : Bool} : Distinct (.bool b)
  | int {n : Int} : Distinct (.int n)
  | float {x : Binary64} : Distinct (.float x)
  | string {t : Text.Raw} : Distinct (.string t)
  | array {vs : List RawJson} (h : ∀ v ∈ vs, Distinct v) : Distinct (.array vs)
  | object {ms : Read.Members} (hd : (ms.map Prod.fst).Nodup)
    (h : ∀ m ∈ ms, Distinct m.2) : Distinct (.object ms)

namespace Read

open Text (Point Raw)

variable {s s' : State} {c : Char} {p : Point} {t k : Raw} {stack : List Frame} {v : RawJson}
  {ms : Members} {n : Numeral} {part : Part} {f : Frame} {mode : Mode}

theorem mem_put {m : Raw × RawJson} (h : m ∈ OrderedMap.put k v ms) : m = (k, v) ∨ m ∈ ms := by
  fun_induction OrderedMap.put k v ms <;> grind

theorem distinct_object_nil : Distinct (.object []) :=
  .object (by simp) (by simp)

theorem distinct_insertMember (hms : Distinct (.object ms)) (hv : Distinct v) :
    Distinct (.object (insertMember ms k v)) := by
  cases hms
  case object hd h =>
    refine .object (OrderedMap.put_nodup hd) fun m hm => ?_
    rcases mem_put hm with rfl | hm
    case inl => exact hv
    case inr => exact h m hm

-- What an open container holds.
def Frame.content : Frame → RawJson
  | .array es    => .array es.reverse
  | .object ms _ => .object ms

-- The value that a mode carries along.
def Mode.content : Mode → RawJson
  | .key ms | .colon ms _   => .object ms
  | .text (some ms) _ _     => .object ms
  | .word _ v | .done v     => v
  | _                       => .null

structure State.Distinct (s : State) : Prop where
  mode  : Json.Distinct s.mode.content
  stack : ∀ f ∈ s.stack, Json.Distinct f.content

theorem exists_of_bind_eq_ok {ε α β : Type} {x : Except ε α} {g : α → Except ε β} {b : β}
    (h : x >>= g = .ok b) : ∃ a, x = .ok a ∧ g a = .ok b := by
  cases x
  case error => cases h
  case ok a  => exact ⟨a, rfl, h⟩

theorem distinct_integer (h : n.integer = .ok v) : Distinct v := by
  rw [Numeral.integer] at h
  split at h <;> cases h
  exact .int

theorem distinct_numeral (h : n.finish part = .ok v) : Distinct v := by
  unfold Numeral.finish at h
  split at h
  case h_1 => exact distinct_integer h
  case h_2 => exact distinct_integer h
  case h_3 => cases h; exact .float
  case h_4 => cases h; exact .float
  case h_5 => cases h
  all_goals
    split at h
    case isTrue  =>
      have ⟨_, _, hu⟩ := exists_of_bind_eq_ok h
      cases hu
    case isFalse => cases h

theorem distinct_push (hf : Distinct f.content) (hm : Distinct mode.content)
    (hs : ∀ f ∈ stack, Distinct f.content) (h : push stack f mode = .ok s) : s.Distinct := by
  rw [push] at h
  split at h <;> cases h
  exact ⟨hm, List.forall_mem_cons.mpr ⟨hf, hs⟩⟩

theorem distinct_beginValue (hs : ∀ f ∈ stack, Distinct f.content)
    (h : beginValue stack c = .ok s) : s.Distinct := by
  have harray : Distinct (Frame.array []).content := .array (by simp)
  have hobject : Distinct (Frame.object [] []).content := distinct_object_nil
  unfold beginValue beginValue.word at h
  split at h
  case h_1 => cases h; exact ⟨.null, hs⟩
  case h_2 => refine distinct_push harray ?_ hs h; exact .null
  case h_3 => refine distinct_push hobject ?_ hs h; exact .null
  case h_4 => cases h; exact ⟨.bool, hs⟩
  case h_5 => cases h; exact ⟨.bool, hs⟩
  case h_6 => cases h; exact ⟨.null, hs⟩
  case h_7 => cases h; exact ⟨.float, hs⟩
  case h_8 => cases h; exact ⟨.float, hs⟩
  case h_9 => cases h; exact ⟨.null, hs⟩
  case h_10 =>
    split at h <;> cases h
    exact ⟨.null, hs⟩

theorem distinct_cons {es : List RawJson} (hes : Distinct (.array es.reverse)) (hv : Distinct v) :
    Distinct (.array (v :: es).reverse) := by
  cases hes
  case array h =>
    refine .array fun w hw => ?_
    rcases List.mem_cons.mp (List.mem_reverse.mp hw) with rfl | hw
    case inl => exact hv
    case inr => exact h w (List.mem_reverse.mpr hw)

theorem distinct_afterValue (hv : Distinct v) (hs : ∀ f ∈ stack, Distinct f.content)
    (h : afterValue stack v c = .ok s) : s.Distinct := by
  unfold afterValue at h
  split at h
  case isTrue => cases h; exact ⟨hv, hs⟩
  case isFalse =>
    split at h
    case h_5 => cases h
    all_goals
      have ⟨hf, hfs⟩ := List.forall_mem_cons.mp hs
      cases h
    case h_1 => exact ⟨.null, List.forall_mem_cons.mpr ⟨distinct_cons hf hv, hfs⟩⟩
    case h_2 => exact ⟨distinct_cons hf hv, hfs⟩
    case h_3 => exact ⟨distinct_insertMember hf hv, List.forall_mem_cons.mpr ⟨hf, hfs⟩⟩
    case h_4 => exact ⟨distinct_insertMember hf hv, hfs⟩

theorem distinct_inText {members : Option Members} {written : Raw} {escape : Escape}
    (hm : Distinct (Mode.text members written escape).content)
    (hs : ∀ f ∈ stack, Distinct f.content)
    (h : inText stack members written p escape = .ok s) : s.Distinct := by
  have ht : ∀ w e, Distinct (Mode.text members w e).content := fun _ _ => by
    cases members
    case none   => exact .null
    case some _ => exact hm
  unfold inText inText.text at h
  repeat' split at h
  all_goals cases h
  all_goals first | exact ⟨ht _ _, hs⟩ | exact ⟨hm, hs⟩ | exact ⟨.string, hs⟩

theorem distinct_setKey (hms : Distinct (.object ms)) (hs : ∀ f ∈ stack, Distinct f.content) :
    ∀ f ∈ setKey k ms stack, Distinct f.content := by
  unfold setKey
  split
  case h_1 => exact List.forall_mem_cons.mpr ⟨hms, (List.forall_mem_cons.mp hs).2⟩
  case h_2 => exact hs

theorem distinct_beginKey (hms : Distinct (.object ms)) (hs : s.Distinct)
    (h : step.beginKey s ms c = .ok s') : s'.Distinct := by
  unfold step.beginKey at h
  split at h <;> cases h
  exact ⟨hms, hs.stack⟩

theorem distinct_tail (hs : ∀ f ∈ stack, Distinct f.content) :
    ∀ f ∈ stack.tail, Distinct f.content :=
  fun f hf => hs f (List.mem_of_mem_tail hf)

theorem distinct_step (hs : s.Distinct) (h : step s p = .ok s') : s'.Distinct := by
  obtain ⟨mode, stack⟩ := s
  have ⟨hm, hf⟩ := hs
  dsimp only at hm hf
  cases mode <;> unfold step at h <;> dsimp only at h
  case value =>
    split at h
    case isTrue  => cases h; exact hs
    case isFalse => exact distinct_beginValue hf h
  case element =>
    split at h
    case isTrue  => cases h; exact hs
    case isFalse =>
      split at h
      case isTrue  => cases h; exact ⟨.array (by simp), distinct_tail hf⟩
      case isFalse => exact distinct_beginValue hf h
  case member =>
    split at h
    case isTrue  => cases h; exact hs
    case isFalse =>
      split at h
      case isTrue  => cases h; exact ⟨distinct_object_nil, distinct_tail hf⟩
      case isFalse => exact distinct_beginKey distinct_object_nil hs h
  case key ms =>
    split at h
    case isTrue  => cases h; exact hs
    case isFalse => exact distinct_beginKey hm hs h
  case colon ms k =>
    split at h
    case isTrue  => cases h; exact hs
    case isFalse =>
      split at h <;> cases h
      exact ⟨.null, distinct_setKey hm hf⟩
  case text => exact distinct_inText hm hf h
  case numeral part n =>
    split at h
    case h_1 => cases h; exact ⟨.null, hf⟩
    case h_2 =>
      split at h
      case h_1 => cases h; exact ⟨.float, hf⟩
      case h_2 =>
        have ⟨_, hn, hv⟩ := exists_of_bind_eq_ok h
        exact distinct_afterValue (distinct_numeral hn) hf hv
  case word left v =>
    split at h
    case h_3 => cases h
    all_goals
      split at h <;> cases h
      exact ⟨hm, hf⟩
  case done v => exact distinct_afterValue hm hf h

theorem distinct_foldlM (hs : s.Distinct) (h : t.foldlM step s = .ok s') : s'.Distinct := by
  induction t generalizing s
  case nil          => cases h; exact hs
  case cons p t hi =>
    rw [List.foldlM_cons] at h
    have ⟨_, hp, ht⟩ := exists_of_bind_eq_ok h
    exact hi (distinct_step hs hp) ht

theorem distinct_finish (hs : s.Distinct) (h : finish s = .ok v) : Distinct v := by
  have hm := hs.mode
  unfold finish at h
  split at h
  case h_1 he _ =>
    cases h
    rwa [he] at hm
  case h_2 =>
    have ⟨_, hn, hv⟩ := exists_of_bind_eq_ok h
    split at hv <;> cases hv
    exact distinct_numeral hn
  case h_3 => cases h

end Read

theorem distinct_readRaw {t : Text.Raw} {v : RawJson} (h : readRaw t = .ok v) : Distinct v := by
  have hstart : Read.State.start.Distinct := by
    refine ⟨?_, by simp [Read.State.start]⟩
    exact .null
  have ⟨s, hs, hf⟩ := Read.exists_of_bind_eq_ok h
  exact Read.distinct_finish (Read.distinct_foldlM hstart hs) hf

theorem Distinct.exists_of_lookup {ms : Read.Members} {k : String} {members : List (String × Json)}
    (hd : Distinct (.object ms)) (hk : ∀ m ∈ ms, m.1.shown = k → m.1 = .ofString k)
    (h : (JsonOf.mapMembers Text.Raw.shown ms).lookup k = some (.object members)) :
    ∃ ms', Distinct (.object ms') ∧ members = JsonOf.mapMembers Text.Raw.shown ms' := by
  rw [JsonOf.lookup_shown hk] at h
  obtain ⟨v, hl, hv⟩ := Option.map_eq_some_iff.mp h
  obtain ⟨ms', rfl, rfl⟩ := JsonOf.exists_of_shown_eq_object hv
  cases hd
  case object hms => exact ⟨ms', hms _ (mem_of_lookup hl), rfl⟩

end ComponentCatalog.Json
