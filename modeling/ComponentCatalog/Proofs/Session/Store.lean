import ComponentCatalog.Proofs.Lookup
import ComponentCatalog.Session.Store

namespace ComponentCatalog.SessionStore

variable {s : SessionStore} {id : String} {h h' : Handle} {f : Session → Session}

@[simp]
theorem modify_live : (s.modify h f).live = s.live := rfl

@[simp]
theorem modify_retired : (s.modify h f).retired = s.retired := rfl

@[simp]
theorem modify_ids : (s.modify h f).ids = s.ids := rfl

theorem session?_modify :
    (s.modify h f).session? h' = if h = h' then (s.session? h').map f else s.session? h' := by
  simp only [session?, modify, List.getElem?_modify]
  split <;> simp

-- The session that was made last.
theorem modify_last {known : List Session} {x : Session} {live : List (String × Handle)}
    {retired : List String} :
    (⟨known ++ [x], live, retired⟩ : SessionStore).modify known.length f =
      ⟨known ++ [f x], live, retired⟩ := by
  have hl : known.length < (known ++ [x]).length := by simp
  simp [modify, List.modify_eq_take_cons_drop hl]

theorem session?_last {known : List Session} {x : Session} {live : List (String × Handle)}
    {retired : List String} :
    (⟨known ++ [x], live, retired⟩ : SessionStore).session? known.length = some x := by
  simp [session?]

theorem mem_ids_iff : id ∈ s.ids ↔ ∃ h, (id, h) ∈ s.live := by
  simp [ids]

theorem contains_iff_mem : s.contains id ↔ id ∈ s.ids := by
  simp [contains]

-- No session has had the id yet.
def Unused (s : SessionStore) (id : String) : Prop :=
  id ∉ s.ids ∧ id ∉ s.retired

theorem add_of_unused (hu : s.Unused id) :
    s.add id h = .ok { s with live := s.live ++ [(id, h)] } := by
  have hc : (s.contains id || s.isRetired id) = false := by
    simpa [contains, isRetired, Unused] using hu
  simp [add, hc]

theorem add_of_used (hu : ¬s.Unused id) : s.add id h = .error (.alreadyUsed id) := by
  have hc : (s.contains id || s.isRetired id) = true := by
    simpa [contains, isRetired, Unused, imp_iff_not_or] using hu
  simp [add, hc]

theorem remove_of_lookup (hl : s.live.lookup id = some h) :
    s.remove id =
      ({ s with live := s.live.filter (·.1 ≠ id), retired := s.retired ++ [id] }.modify h .close,
        some h) := by
  simp [remove, hl]

-- No live id is retired or stands for two sessions, and each stands for a session of that id which
-- is not closed.
structure Sound (s : SessionStore) : Prop where
  distinct : s.ids.Nodup
  keyed    : ∀ {id h}, (id, h) ∈ s.live → ∃ x, s.session? h = some x ∧ x.id = id ∧ x.isLive
  disjoint : ∀ {id}, id ∈ s.retired → id ∉ s.ids

theorem Sound.empty : empty.Sound where
  distinct := by simp [ids, SessionStore.empty]
  keyed    := by simp [SessionStore.empty]
  disjoint := by simp [SessionStore.empty]

namespace Sound

theorem lookup_eq_some_iff (hs : s.Sound) : s.live.lookup id = some h ↔ (id, h) ∈ s.live :=
  lookup_eq_some_iff_mem hs.distinct

theorem handle_injective (hs : s.Sound) (h₁ : (id₁, h) ∈ s.live) (h₂ : (id₂, h) ∈ s.live) :
    id₁ = id₂ := by
  have ⟨x, hx, hx', _⟩ := hs.keyed h₁
  have ⟨y, hy, hy', _⟩ := hs.keyed h₂
  rw [← hx', ← hy', Option.some.inj (hx.symm.trans hy)]

-- The sessions that requests reach are the live ones, by their ids.
theorem get?_eq_some_iff (hs : s.Sound) {name : Option String} :
    s.get? name = some h ↔ ∃ id, name = some id ∧ id ≠ "" ∧ (id, h) ∈ s.live := by
  match name with
  | none    => simp [get?]
  | some id =>
    by_cases he : id = ""
    case pos => simp [get?, he]
    case neg =>
      simp only [get?, Option.filter_eq_some_iff, hs.lookup_eq_some_iff, Option.some.injEq,
        exists_eq_left', ne_eq, he, not_false_eq_true, true_and]
      refine and_iff_left_of_imp fun hm => ?_
      have ⟨x, hx, _, hl⟩ := hs.keyed hm
      simpa [hx] using hl

theorem get?_eq_none_iff (hs : s.Sound) {name : Option String} :
    s.get? name = none ↔ ∀ id, name = some id → id ≠ "" → id ∉ s.ids := by
  simp only [Option.eq_none_iff_forall_ne_some, ne_eq, hs.get?_eq_some_iff, mem_ids_iff]
  grind

end Sound
end ComponentCatalog.SessionStore
