import ComponentCatalog.Operation.Arguments
import ComponentCatalog.Proofs.OrderedMap

namespace ComponentCatalog

namespace Category

variable {c : Category} {s : String}

theorem ofName?_name : ofName? c.name = some c := by
  cases c <;> rfl

theorem ofName?_eq_some_iff : ofName? s = some c ↔ s = c.name := by
  constructor
  case mpr => rintro rfl; exact ofName?_name
  case mp =>
    intro h
    have hs := List.find?_some h
    exact (beq_iff_eq.mp hs).symm

end Category

namespace Arguments

variable {v k w : Json} {vs : List Json} {ms : Members} {given given' : Arguments} {i : Nat}
  {name s : String} {params : List String} {c : Category}

inductive IsVoid : Json → Prop
  | null : IsVoid .null
  | untrue : IsVoid (.bool false)
  | zero : IsVoid (.int 0)
  | zeroFloat {x : Binary64} (h : x.toInt? = some 0) : IsVoid (.float x)
  | text : IsVoid (.string "")
  | list : IsVoid (.array [])
  | members : IsVoid (.object [])

-- An element of a list that is a name and a value: two elements, two characters or two names.
inductive IsPair : Json → Json → Json → Prop
  | list {k w : Json} : IsPair (.array [k, w]) k w
  | text {a b : Char} {s : String} (h : s.toList = [a, b]) :
    IsPair (.string s) (.string a.toString) (.string b.toString)
  | members {k l : String} {v w : Json} :
    IsPair (.object [(k, v), (l, w)]) (.string k) (.string l)

-- Lists and objects are no names.
def IsKey : Json → Prop
  | .array _ | .object _ => False
  | _                    => True

inductive Convertible : Json → Prop
  | void {v : Json} (h : IsVoid v) : Convertible v
  | members {ms : Members} : Convertible (.object ms)
  | pairs {vs : List Json} (h : ∀ v ∈ vs, ∃ k w, IsPair v k w ∧ IsKey k) : Convertible (.array vs)

-- The members that a value is taken for, if all names in it are texts.
inductive Converts : Json → Members → Prop
  | void {v : Json} (h : IsVoid v) : Converts v []
  | members {ms : Members} : Converts (.object ms) ms
  | pairs {vs : List Json} {es : Members}
    (h : List.Forall₂ (fun v e => IsPair v (.string e.1) e.2) vs es) :
    Converts (.array vs) (OrderedMap.ofList es).entries

theorem items?_eq_some_iff : items? v = some [k, w] ↔ IsPair v k w := by
  constructor
  case mpr =>
    rintro (_ | h | _)
    case list    => rfl
    case text    => simp [items?, h]
    case members => rfl
  case mp =>
    intro h
    cases v <;> simp only [items?, Option.some.injEq, reduceCtorEq] at h
    case array vs  => exact h ▸ .list
    case string s  =>
      have ⟨a, _, hs, ha, h⟩ := List.map_eq_cons_iff.mp h
      have ⟨b, _, ht, hb, hn⟩ := List.map_eq_cons_iff.mp h
      rw [List.map_eq_nil_iff.mp hn] at ht
      exact ha ▸ hb ▸ .text (ht ▸ hs)
    case object ms =>
      have ⟨⟨l, x⟩, _, hs, ha, h⟩ := List.map_eq_cons_iff.mp h
      have ⟨⟨m, y⟩, _, ht, hb, hn⟩ := List.map_eq_cons_iff.mp h
      rw [List.map_eq_nil_iff.mp hn] at ht
      subst hs ht
      exact ha ▸ hb ▸ .members

theorem ofPairs_cons_eq_ok_iff :
    ofPairs i given (v :: vs) = .ok given' ↔ ∃ k w added, IsPair v k w ∧ given.put k w = .ok added ∧
      ofPairs (i + 1) added vs = .ok given' := by
  rw [ofPairs]
  split
  case _ h     => simp [← items?_eq_some_iff, h]
  case _ k w h =>
    cases hp : given.put k w <;> simp [← items?_eq_some_iff, h, hp, bind, Except.bind]
  case _ items hne h =>
    have hl : ∀ k w, items ≠ [k, w] := hne
    simp [← items?_eq_some_iff, h, hl]

theorem exists_put_iff : (∃ added, given.put k v = .ok added) ↔ IsKey k := by
  cases k <;> simp [put, IsKey]

theorem put_text : given.put (.string s) v =
    .ok { given with members := OrderedMap.put s v given.members } := rfl

-- A name that is no text stays.
theorem misnamed_of_put (h : given.put k v = .ok given') :
    (∃ s, k = .string s) ∨ given'.misnamed ≠ [] := by
  cases k
  case string s => exact .inl ⟨s, rfl⟩
  case array    => cases h
  case object   => cases h
  all_goals
    simp only [put, Except.ok.injEq] at h
    subst h
    split
    case isTrue ha =>
      have ⟨_, hm, _⟩ := List.any_eq_true.mp ha
      exact .inr <| List.ne_nil_of_mem hm
    case isFalse => simp

theorem exists_ofPairs_iff :
    (∃ given', ofPairs i given vs = .ok given') ↔ ∀ v ∈ vs, ∃ k w, IsPair v k w ∧ IsKey k := by
  induction vs generalizing i given
  case nil          => simp [ofPairs]
  case cons v vs hi =>
    rw [List.forall_mem_cons]
    constructor
    case mp =>
      intro ⟨given', h⟩
      have ⟨k, w, added, hv, hp, hvs⟩ := ofPairs_cons_eq_ok_iff.mp h
      exact ⟨⟨k, w, hv, exists_put_iff.mp ⟨added, hp⟩⟩, hi.mp ⟨given', hvs⟩⟩
    case mpr =>
      intro ⟨⟨k, w, hv, hk⟩, hvs⟩
      have ⟨added, hp⟩ : ∃ added, given.put k w = .ok added := exists_put_iff.mpr hk
      have ⟨given', hg⟩ : ∃ given', ofPairs (i + 1) added vs = .ok given' := hi.mpr hvs
      exact ⟨given', ofPairs_cons_eq_ok_iff.mpr ⟨k, w, added, hv, hp, hg⟩⟩

def putAll (es : Members) (ms : Members) : Members :=
  es.foldl (fun ms e => OrderedMap.put e.1 e.2 ms) ms

theorem entries_ofList (es : Members) : (OrderedMap.ofList es).entries = putAll es [] :=
  (List.foldl_hom OrderedMap.entries fun _ _ => rfl).symm

-- No name is lost on the way: if there is none but texts in the end, there never was.
theorem ofPairs_eq_ok_iff (hg : given'.misnamed = []) :
    ofPairs i given vs = .ok given' ↔ given.misnamed = [] ∧ ∃ es : Members,
      List.Forall₂ (fun v e => IsPair v (.string e.1) e.2) vs es ∧
        given'.members = putAll es given.members := by
  induction vs generalizing i given
  case nil =>
    rw [ofPairs, Except.ok.injEq]
    constructor
    case mp =>
      rintro rfl
      exact ⟨hg, [], .nil, rfl⟩
    case mpr =>
      rintro ⟨hm, _, ⟨⟩, he⟩
      cases given
      cases given'
      simp_all [putAll]
  case cons v vs hi =>
    rw [ofPairs_cons_eq_ok_iff]
    constructor
    case mp =>
      rintro ⟨k, w, added, hv, hp, h⟩
      have ⟨hm, es, hes, he⟩ := hi.mp h
      obtain ⟨s, rfl⟩ := (misnamed_of_put hp).resolve_right (not_not.mpr hm)
      cases hp
      exact ⟨hm, (s, w) :: es, .cons hv hes, he⟩
    case mpr =>
      intro ⟨hm, _, hf, he⟩
      obtain ⟨_, _, hv, hes, rfl⟩ := List.forall₂_cons_left_iff.mp hf
      exact ⟨_, _, _, hv, put_text, hi.mpr ⟨hm, _, hes, he⟩⟩

theorem ofJson?_of_isVoid (h : IsVoid v) : ofJson? v = .ok ⟨[], []⟩ := by
  cases h
  case zeroFloat h => rw [ofJson?]; exact if_pos h
  all_goals rfl

-- Nothing else is taken for an object.
theorem isVoid_or_of_ofJson? (h : ofJson? v = .ok given) :
    IsVoid v ∧ given = ⟨[], []⟩ ∨ (∃ ms, v = .object ms ∧ given = ⟨ms, []⟩) ∨
      ∃ vs, v = .array vs ∧ ofPairs 0 ⟨[], []⟩ vs = .ok given := by
  cases v <;> simp only [ofJson?] at h
  case null      => exact .inl ⟨.null, (Except.ok.inj h).symm⟩
  case array vs  => exact .inr (.inr ⟨vs, rfl, h⟩)
  case object ms => exact .inr (.inl ⟨ms, rfl, (Except.ok.inj h).symm⟩)
  all_goals
    split at h
    all_goals cases h
  case bool.isFalse hb   => exact .inl ⟨Bool.eq_false_iff.mpr hb ▸ .untrue, rfl⟩
  case int.isTrue hn     => exact .inl ⟨hn ▸ .zero, rfl⟩
  case float.isTrue hx   => exact .inl ⟨.zeroFloat hx, rfl⟩
  case string.isTrue hs  => exact .inl ⟨hs ▸ .text, rfl⟩

theorem ofJson?_eq_ok_iff : ofJson? v = .ok ⟨ms, []⟩ ↔ Converts v ms := by
  constructor
  case mp =>
    intro h
    rcases isVoid_or_of_ofJson? h with ⟨hv, he⟩ | ⟨ms, rfl, he⟩ | ⟨vs, rfl, he⟩
    case inl =>
      cases he
      exact .void hv
    case inr.inl =>
      cases he
      exact .members
    case inr.inr =>
      have ⟨_, es, hes, hm⟩ := (ofPairs_eq_ok_iff rfl).mp he
      rw [show ms = (OrderedMap.ofList es).entries from hm.trans (entries_ofList es).symm]
      exact .pairs hes
  case mpr =>
    intro h
    cases h
    case void h   => exact ofJson?_of_isVoid h
    case members  => rfl
    case pairs hes => exact (ofPairs_eq_ok_iff rfl).mpr ⟨rfl, _, hes, entries_ofList _⟩

theorem exists_ofJson?_iff : (∃ given, ofJson? v = .ok given) ↔ Convertible v := by
  constructor
  case mp =>
    intro ⟨given, h⟩
    rcases isVoid_or_of_ofJson? h with ⟨hv, _⟩ | ⟨ms, rfl, _⟩ | ⟨vs, rfl, he⟩
    case inl     => exact .void hv
    case inr.inl => exact .members
    case inr.inr => exact .pairs (exists_ofPairs_iff.mp ⟨given, he⟩)
  case mpr =>
    intro h
    cases h
    case void h  => exact ⟨_, ofJson?_of_isVoid h⟩
    case members => exact ⟨_, rfl⟩
    case pairs h => exact exists_ofPairs_iff.mpr h

-- A JSON object has no name twice.
def Distinct (v : Json) : Prop :=
  ∀ ms, v = .object ms → (ms.map Prod.fst).Nodup

theorem Converts.nodup (hd : Distinct v) (h : Converts v ms) : (ms.map Prod.fst).Nodup := by
  cases h
  case void    => exact List.nodup_nil
  case members => exact hd ms rfl
  case pairs   => exact OrderedMap.distinct _

theorem closed_eq_ok_iff {α : Type} {checked : Checked α} {x : α} :
    closed params given checked = .ok x ↔
      given.misnamed = [] ∧ (∀ m ∈ given.members, m.1 ∈ params) ∧ checked = .ok x := by
  have hi : misnamings given ++ extras params given = [] ↔
      given.misnamed = [] ∧ ∀ m ∈ given.members, m.1 ∈ params := by
    simp [misnamings, extras]
  rw [← and_assoc, ← hi]
  unfold closed
  split
  case _ h    => simp [h]
  case _ _ hn => simp [show misnamings given ++ extras params given ≠ [] from hn]
  case _ hn _ => simp

theorem category_eq_ok_iff : category v = .ok c ↔ v = .string c.name := by
  cases v <;> simp [category, Checked.fail]
  case string s =>
    rw [← Category.ofName?_eq_some_iff]
    cases Category.ofName? s <;> simp

theorem componentName_eq_ok_iff :
    componentName v = .ok s ↔ v = .string s ∧ 2 ≤ s.length ∧ s.length ≤ 100 := by
  cases v <;> simp [componentName, Checked.fail]
  case string t =>
    rw [leastName, mostName]
    split
    case isTrue h  => simp; rintro rfl; omega
    case isFalse h =>
      split
      case isTrue h  => simp; rintro rfl; omega
      case isFalse h => simp; rintro rfl; omega

end Arguments
end ComponentCatalog
