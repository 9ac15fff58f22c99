import ComponentCatalog.Json.Basic
import ComponentCatalog.Proofs.Lookup

namespace ComponentCatalog

namespace Text.Raw

variable {t : Raw} {s : String}

@[simp]
theorem shown_ofString : (ofString s).shown = s := by
  have h : Point.shown ∘ Point.char = id := rfl
  rw [shown, ofString, ofChars, List.map_map, h, List.map_id, String.ofList_toList]

@[simp]
theorem encodes_ofString : (ofString s).encodes := by
  simp [encodes, ofString, ofChars, Point.isChar]

theorem ofString_shown (h : t.encodes) : ofString t.shown = t := by
  have hp : ∀ p ∈ t, Point.char p.shown = p := by
    intro p hp
    have hc : p.isChar := List.all_eq_true.mp h p hp
    cases p
    case char   => rfl
    case lone n => cases hc
  rw [ofString, ofChars, shown, String.toList_ofList, List.map_map]
  exact (List.map_congr_left hp).trans (List.map_id t)

-- A text without the character that stands for surrogates is shown by itself alone.
theorem eq_ofString (hs : Point.replacement ∉ s.toList) (h : t.shown = s) : t = ofString s := by
  have he : t.encodes := by
    rw [encodes, List.all_eq_true]
    intro p hp
    cases p
    case char   => rfl
    case lone n =>
      have hm : Point.replacement ∈ t.shown.toList := by
        rw [shown, String.toList_ofList]
        exact List.mem_map.mpr ⟨_, hp, rfl⟩
      exact absurd (h ▸ hm) hs
  rw [← h, ofString_shown he]

end Text.Raw

namespace JsonOf

open Text (Raw)

variable {τ σ : Type} {f : τ → σ} {g : σ → τ} {v : RawJson} {w : Json}
  {ms : List (Raw × RawJson)} {k : String}

theorem mapMembers_eq {ms : List (τ × JsonOf τ)} :
    mapMembers f ms = ms.map (Prod.map f (map f)) := by
  induction ms
  case nil          => rfl
  case cons m ms hi => rw [mapMembers, hi, List.map_cons, Prod.map]

mutual

theorem map_map_of_leftInverse (h : Function.LeftInverse g f) : ∀ v : JsonOf τ, (v.map f).map g = v
  | .null      => rfl
  | .bool _    => rfl
  | .int _     => rfl
  | .float _   => rfl
  | .string s  => congrArg string (h s)
  | .array vs  => congrArg array (mapElements_mapElements_of_leftInverse h vs)
  | .object ms => congrArg object (mapMembers_mapMembers_of_leftInverse h ms)

theorem mapElements_mapElements_of_leftInverse (h : Function.LeftInverse g f) :
    ∀ vs : List (JsonOf τ), mapElements g (mapElements f vs) = vs
  | []      => rfl
  | v :: vs =>
    congrArg₂ List.cons (map_map_of_leftInverse h v) (mapElements_mapElements_of_leftInverse h vs)

theorem mapMembers_mapMembers_of_leftInverse (h : Function.LeftInverse g f) :
    ∀ ms : List (τ × JsonOf τ), mapMembers g (mapMembers f ms) = ms
  | []           => rfl
  | (k, v) :: ms =>
    congrArg₂ List.cons (congrArg₂ Prod.mk (h k) (map_map_of_leftInverse h v))
      (mapMembers_mapMembers_of_leftInverse h ms)

end

-- The value as it is read.
def raw (w : Json) : RawJson :=
  w.map Raw.ofString

@[simp]
theorem shown_raw : w.raw.shown = w :=
  map_map_of_leftInverse (fun _ => Raw.shown_ofString) w

theorem nodup_raw {ms : List (String × Json)} (h : (ms.map Prod.fst).Nodup) :
    ((mapMembers Raw.ofString ms).map Prod.fst).Nodup := by
  have hi : Function.Injective Raw.ofString :=
    Function.LeftInverse.injective fun _ => Raw.shown_ofString
  have he : (mapMembers Raw.ofString ms).map Prod.fst = (ms.map Prod.fst).map Raw.ofString := by
    rw [mapMembers_eq, List.map_map, List.map_map]
    rfl
  exact he ▸ h.map hi

theorem namesEncode_raw : w.raw.namesEncode := by
  cases w
  case object ms => simp [raw, map, namesEncode, mapMembers_eq]
  all_goals rfl

theorem tornAt_raw : w.raw.tornAt k = false := by
  cases w
  case object ms =>
    rw [tornAt, raw, map, get?, member?, mapMembers_eq]
    cases hl : (ms.map (Prod.map Raw.ofString (map Raw.ofString))).lookup (.ofString k)
    case none   => rfl
    case some v =>
      obtain ⟨m, _, hm⟩ := List.mem_map.mp (mem_of_lookup hl)
      obtain rfl : m.2.raw = v := congrArg Prod.snd hm
      cases m.2
      case string => simp [raw, map]
      all_goals rfl
  all_goals rfl

-- Where no other name is shown like `k`.
theorem lookup_shown (hk : ∀ m ∈ ms, m.1.shown = k → m.1 = .ofString k) :
    (mapMembers Raw.shown ms).lookup k = (ms.lookup (.ofString k)).map shown := by
  induction ms
  case nil          => rfl
  case cons m ms hi =>
    have ⟨hm, hms⟩ := List.forall_mem_cons.mp hk
    have he : k = m.1.shown ↔ Raw.ofString k = m.1 :=
      ⟨fun h => (hm h.symm).symm, fun h => by rw [← h, Raw.shown_ofString]⟩
    rw [mapMembers, lookup_cons_eq_ite, lookup_cons_eq_ite, hi hms]
    by_cases h : k = m.1.shown
    case pos => rw [if_pos h, if_pos (he.mp h)]; rfl
    case neg => rw [if_neg h, if_neg (he.not.mp h)]

theorem eq_ofString_of_namesEncode (h : (object ms).namesEncode) :
    ∀ m ∈ ms, m.1.shown = k → m.1 = .ofString k :=
  fun m hm he => he ▸ (Raw.ofString_shown (List.all_eq_true.mp h m hm)).symm

theorem exists_of_shown_eq_object {members : List (String × Json)} (h : v.shown = .object members) :
    ∃ ms, v = .object ms ∧ members = mapMembers Raw.shown ms := by
  cases v <;> cases h
  exact ⟨_, rfl, rfl⟩

end JsonOf
end ComponentCatalog
