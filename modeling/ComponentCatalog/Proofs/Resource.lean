import ComponentCatalog.Mcp.Message
import ComponentCatalog.Proofs.Component.Document
import ComponentCatalog.Proofs.Url
import ComponentCatalog.Resource

namespace ComponentCatalog.Resource

-- The URIs of a resource.
inductive Names : String → Resource → Prop
  | all : Names allUri .all
  | component {name : String} (hn : name ≠ "") (hs : '/' ∉ name.toList) :
    Names (scheme ++ name) (.component name)

variable {uri name : String} {records : List Component} {r : Resource}

theorem scheme_append_ne_allUri : scheme ++ name ≠ allUri := by
  intro h
  have hl : scheme.toList ++ name.toList = allUri.toList := by rw [← String.toList_append, h]
  have ht := congrArg (List.take scheme.length) hl
  rw [List.take_left' (by decide)] at ht
  exact absurd ht (by decide)

theorem after?_scheme_eq_some_iff :
    Text.after? scheme.toList uri.toList = some name.toList ↔ uri = scheme ++ name := by
  rw [Text.after?_eq_some_iff, ← String.toList_append, String.toList_inj]

theorem ofUri?_allUri : ofUri? allUri = some .all :=
  if_pos rfl

theorem ofUri?_component (hn : name ≠ "") (hs : '/' ∉ name.toList) :
    ofUri? (scheme ++ name) = some (.component name) := by
  have ha : Text.after? scheme.toList (scheme ++ name).toList = some name.toList :=
    after?_scheme_eq_some_iff.mpr rfl
  rw [ofUri?, if_neg scheme_append_ne_allUri, ha]
  cases h : name.toList
  case nil       => exact absurd (String.toList_eq_nil_iff.mp h) hn
  case cons c cs =>
    have hc : (c :: cs).contains '/' = false := by simpa [h] using hs
    simp only [hc, Bool.false_eq_true, if_false]
    rw [← h, String.ofList_toList]

theorem ofUri?_eq_some_iff : ofUri? uri = some r ↔ Names uri r := by
  constructor
  case mpr =>
    rintro (_ | ⟨hn, hs⟩)
    case all       => exact ofUri?_allUri
    case component => exact ofUri?_component hn hs
  case mp =>
    intro h
    rw [ofUri?] at h
    split at h
    case isTrue hu =>
      cases h
      exact hu ▸ .all
    case isFalse =>
      split at h
      case h_2 => contradiction
      case h_1 c cs ha =>
        split at h
        case isTrue => contradiction
        case isFalse hs =>
          cases h
          have hl : (String.ofList (c :: cs)).toList = c :: cs := String.toList_ofList
          rw [after?_scheme_eq_some_iff.mp (ha.trans (congrArg some hl.symm))]
          refine .component ?_ ?_
          · exact fun he => by simp [he] at hl
          · simpa [hl] using hs

theorem normalize?_allUri : Url.normalize? allUri = some allUri := by
  decide +kernel

-- The name of a component as it stands in a URI of normal form.
def encoded (name : String) : String :=
  String.ofList (Text.percentEncode Url.visible name.toList)

section Component

variable (hn : name ≠ "") (hh : ∀ c ∈ name.toList, Url.inHost c)

include hn hh

theorem normalize?_component : Url.normalize? (scheme ++ name) = some (scheme ++ encoded name) := by
  have hs : Url.Plain "component".toList :=
    ⟨rfl, List.all_eq_true.mp (by decide), by decide, rfl, rfl⟩
  have hne : name.toList ≠ [] := fun h => hn (String.toList_eq_nil_iff.mp h)
  have ha : ∀ cs, String.ofList ("component".toList ++ ':' :: '/' :: '/' :: cs) =
      scheme ++ String.ofList cs := by
    intro cs
    simp only [← String.toList_inj, String.toList_ofList, String.toList_append]
    rfl
  have hu := Url.normalize?_host hne hh hs
  rwa [ha, ha, String.ofList_toList] at hu

theorem names_encoded : Names (scheme ++ encoded name) (.component (encoded name)) := by
  have hne : name.toList ≠ [] := fun h => hn (String.toList_eq_nil_iff.mp h)
  have hs : '/' ∉ name.toList := fun hm => absurd (hh _ hm) (by decide)
  refine .component ?_ ?_
  · intro h
    exact Url.percentEncode_ne_nil hne (by simpa [encoded] using h)
  · rw [encoded, String.toList_ofList]
    exact Url.slash_not_mem_percentEncode hs

end Component

theorem exists_plain_content : ∃ n ≤ Json.Read.depthLimit, Json.Plain n (r.content records) := by
  cases r
  case all => exact ⟨4, by decide, Component.plain_toJson_all⟩
  case component name =>
    rw [content]
    cases findByName records name
    case some c => exact ⟨3, by decide, c.plain_toJson⟩
    case none   =>
      refine ⟨1, by decide, .object (by simp) ?_⟩
      simp only [List.forall_mem_singleton]
      exact .string

theorem decodeBody_text : Mcp.decodeBody (r.text records).toUTF8 = .ok (r.content records).raw := by
  have ⟨_, hn, hp⟩ : ∃ n ≤ Json.Read.depthLimit, Json.Plain n (r.content records) :=
    exists_plain_content
  rw [Mcp.decodeBody, text, Json.readBytes_render hp hn]

end ComponentCatalog.Resource
