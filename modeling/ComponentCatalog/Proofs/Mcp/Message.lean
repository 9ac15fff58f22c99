import ComponentCatalog.Mcp.Message
import ComponentCatalog.Proofs.Json.Read

namespace ComponentCatalog.Mcp

namespace Envelope

variable {ms params : Members} {id : RequestId} {method : String} {v : Json} {x : Nat × Envelope}

theorem mem_of_best {cs : List Candidate} (h : best cs = some x) : some x ∈ cs := by
  fun_induction best cs
  case case1    => cases h
  case case2 hi => exact List.mem_cons_of_mem _ (hi h)
  all_goals grind

theorem lookup_of_params? (h : params? ms = some (some params)) :
    ms.lookup "params" = some (.object params) := by
  unfold params? at h
  split at h <;> cases h
  assumption

-- Only the candidate for a request is one.
theorem asRequest?_of_ofMembers? {params : Option Members}
    (h : ofMembers? ms = some (.request id method params)) :
    ∃ n, asRequest? ms = some (n, .request id method params) := by
  obtain ⟨⟨n, e⟩, hb, rfl⟩ := Option.map_eq_some_iff.mp h
  have hm := mem_of_best hb
  simp only [List.mem_cons, List.not_mem_nil, or_false] at hm
  rcases hm with hm | hm | hm | hm
  case inl => exact ⟨n, hm.symm⟩
  all_goals obtain ⟨_, _, hm⟩ := Option.bind_eq_some_iff.mp hm.symm
  case inr.inl =>
    obtain ⟨_, _, hm⟩ := Option.bind_eq_some_iff.mp hm
    obtain ⟨_, _, he⟩ := Option.bind_eq_some_iff.mp hm
    cases he
  case inr.inr.inl =>
    obtain ⟨_, _, hm⟩ := Option.bind_eq_some_iff.mp hm
    split at hm <;> cases hm
  case inr.inr.inr =>
    obtain ⟨_, _, hm⟩ := Option.bind_eq_some_iff.mp hm
    split at hm
    case h_1 =>
      obtain ⟨_, _, hm⟩ := Option.bind_eq_some_iff.mp hm
      obtain ⟨_, _, hm⟩ := Option.bind_eq_some_iff.mp hm
      obtain ⟨_, _, he⟩ := Option.bind_eq_some_iff.mp hm
      cases he
    case h_2 => cases hm

theorem lookup_params (h : ofMembers? ms = some (.request id method (some params))) :
    ms.lookup "params" = some (.object params) := by
  obtain ⟨_, hr⟩ := asRequest?_of_ofMembers? h
  obtain ⟨_, _, hm⟩ := Option.bind_eq_some_iff.mp hr
  obtain ⟨_, _, hm⟩ := Option.bind_eq_some_iff.mp hm
  obtain ⟨_, _, hm⟩ := Option.bind_eq_some_iff.mp hm
  obtain ⟨_, hp, he⟩ := Option.bind_eq_some_iff.mp hm
  cases he
  exact lookup_of_params? hp

end Envelope

theorem seen_raw {v : Json} : seen v.raw = v := by
  rw [seen, if_pos JsonOf.namesEncode_raw, JsonOf.shown_raw]

theorem torn_raw {v : Json} : torn v.raw = false := by
  rw [torn, JsonOf.tornAt_raw, JsonOf.tornAt_raw, Bool.or_false]

theorem exists_of_seen {x : RawJson} {e : Envelope} (h : Envelope.ofJson? (seen x) = some e) :
    ∃ ms, x = .object ms ∧ x.namesEncode ∧
      Envelope.ofMembers? (JsonOf.mapMembers Text.Raw.shown ms) = some e := by
  rw [seen] at h
  split at h
  case isFalse => cases h
  case isTrue hn =>
    cases x
    case object ms => exact ⟨ms, rfl, hn, h⟩
    all_goals cases h

theorem exists_object_of_seen {x : RawJson} {ms : Members} (h : seen x = .object ms) :
    ∃ xs, x = .object xs := by
  rw [seen] at h
  split at h
  case isFalse => cases h
  case isTrue  =>
    obtain ⟨xs, hx, _⟩ := JsonOf.exists_of_shown_eq_object h
    exact ⟨xs, hx⟩

theorem exists_get?_of_seen {x : RawJson} {k : String} {v : Json} (h : (seen x).get? k = some v) :
    ∃ y, x.get? (.ofString k) = some y ∧ y.shown = v := by
  rw [seen] at h
  split at h
  case isFalse => cases h
  case isTrue hn =>
    cases x
    case object ms =>
      have hl : (JsonOf.mapMembers Text.Raw.shown ms).lookup k = some v := h
      rw [JsonOf.lookup_shown (JsonOf.eq_ofString_of_namesEncode hn)] at hl
      exact Option.map_eq_some_iff.mp hl
    all_goals cases h

-- An id that can be encoded is the one that was read.
theorem RequestId.eq_raw {x y : RawJson} {k : String} {i : RequestId} (ht : x.tornAt k = false)
    (hg : x.get? (.ofString k) = some y) (hy : y.shown = i.toJson) : y = i.toJson.raw := by
  cases i
  case number n => cases y <;> cases hy <;> rfl
  case text s   =>
    cases y <;> cases hy
    case string t =>
      have he : t.encodes := by simpa [JsonOf.tornAt, hg] using ht
      exact congrArg JsonOf.string (Text.Raw.ofString_shown he).symm

theorem get?_eq_raw_of_seen {x : RawJson} {k : String} {i : RequestId} (ht : x.tornAt k = false)
    (h : (seen x).get? k = some i.toJson) : x.get? (.ofString k) = some i.toJson.raw := by
  obtain ⟨y, hg, hy⟩ := exists_get?_of_seen h
  rw [hg, RequestId.eq_raw ht hg hy]

theorem exists_distinct_params {x : RawJson} {id : RequestId} {method : String} {params : Members}
    (hd : Json.Distinct x)
    (he : Envelope.ofJson? (seen x) = some (.request id method (some params))) :
    ∃ ms, Json.Distinct (.object ms) ∧ params = JsonOf.mapMembers Text.Raw.shown ms := by
  obtain ⟨ms, rfl, hn, h⟩ := exists_of_seen he
  exact hd.exists_of_lookup (JsonOf.eq_ofString_of_namesEncode hn) (Envelope.lookup_params h)

theorem exists_request_of_isInitialize {v : Json} (h : isInitialize v) :
    ∃ id params, Envelope.ofJson? v = some (.request id "initialize" params) := by
  rw [isInitialize, Message.classify] at h
  cases he : Envelope.ofJson? v <;> rw [he] at h
  case none   => cases h
  case some e =>
    cases e
    case request id method params =>
      split at h
      case h_1 hm =>
        simp only [Option.elim_some, Message.ofEnvelope] at hm
        repeat' split at hm
        all_goals cases hm
        exact ⟨id, params, rfl⟩
      case h_2 => cases h
    all_goals cases h

end ComponentCatalog.Mcp
