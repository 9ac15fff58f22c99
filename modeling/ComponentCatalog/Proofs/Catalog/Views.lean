import ComponentCatalog.Proofs.Resource

namespace ComponentCatalog.Catalog

open Mcp (decodeBody)
open Resource (Names)

variable {c : Catalog} {records : List Component} {uri name : String}
  {resource : Resource} {request : Request}

def byCategory (c : Catalog) (category : String) : Except CallError Reply :=
  (c.call "get_components" (.object [("category", .string category)])).2

def byName (c : Catalog) (name : String) : Except CallError Reply :=
  (c.call "get_component_by_name" (.object [("name", .string name)])).2

-- The text of a resource, decoded, is a value.
def Shows (c : Catalog) (uri : String) (v : Json) : Prop :=
  ∃ text, (c.readUri uri).2 = .ok text ∧ decodeBody text.toUTF8 = .ok v.raw

-- What resources and operations tell about the same records.
structure Views (c : Catalog) (records : List Component) : Prop where
  all : ∃ reply listing, c.byCategory "all" = .ok reply ∧
    reply.toJson.get? "components" = some listing ∧ c.Shows "components://all" listing
  found : ∀ name reply, 2 ≤ name.length → name.length ≤ 100 → '/' ∉ name.toList →
    c.byName name = .ok reply → c.Shows ("component://" ++ name) reply.toJson ∧
      ∃ r, findByName records name = some r ∧ Component.ofJson? reply.toJson = .ok r
  missing : ∀ name e, 2 ≤ name.length → name.length ≤ 100 → '/' ∉ name.toList →
    c.byName name = .error e → findByName records name = none ∧ e = .notFound name ∧
      ∀ schema, c.Shows ("component://" ++ name) (.object [("error", .string (e.message schema))])
  uris : ∀ uri, (∃ text, (c.readUri uri).2 = .ok text) ↔
    uri = "components://all" ∨
      ∃ name, name ≠ "" ∧ '/' ∉ name.toList ∧ uri = "component://" ++ name
  others : ∀ uri, (∀ text, (c.readUri uri).2 ≠ .ok text) →
    c.readUri uri = (c, .error (.unknown uri))

theorem run_of_fetch (hc : c.fetch.2 = .ok records) :
    (c.run request).2 = reply records request := by
  have ⟨c', hf⟩ : ∃ c', c.fetch = (c', .ok records) := ⟨c.fetch.1, Prod.ext rfl hc⟩
  cases request
  case designTokens    => rfl
  case components      => simp only [run, hf]
  case componentByName => simp only [run, hf]

theorem byCategory_name (hc : c.fetch.2 = .ok records) (category : Category) :
    c.byCategory category.name =
      .ok (.listing (records.filter (·.matchesCategory category))) := by
  have hr : request? "get_components" (.object [("category", .string category.name)]) =
      .ok (.components category) := by cases category <;> rfl
  rw [byCategory, call, hr]
  exact run_of_fetch hc

theorem byCategory_all (hc : c.fetch.2 = .ok records) :
    c.byCategory "all" = .ok (.listing records) := by
  have hf : records.filter (·.matchesCategory .all) = records := by
    simp [Component.matchesCategory, Component.matchesName, Category.name]
  exact (byCategory_name hc .all).trans (by rw [hf])

theorem request?_name (hl : 2 ≤ name.length) (hm : name.length ≤ 100) :
    request? "get_component_by_name" (.object [("name", .string name)]) =
      .ok (.componentByName name) := by
  have hn : Arguments.componentName (.string name) = .ok name := by
    simp [Arguments.componentName, Arguments.leastName, Arguments.mostName, Nat.not_lt.mpr, hl, hm]
  have hr : Request.check? (.ofMembers [("name", .string name)]) .componentByName =
      (Arguments.componentName (.string name)).map .componentByName := rfl
  have ho : Operation.ofName? "get_component_by_name" = some .componentByName := rfl
  simp only [request?, ho, Arguments.ofJson?, hr, hn]
  rfl

theorem byName_eq (hc : c.fetch.2 = .ok records) (hl : 2 ≤ name.length) (hm : name.length ≤ 100) :
    c.byName name =
      (findByName records name).elim (.error (.notFound name)) (.ok <| .component ·) := by
  rw [byName, call, request?_name hl hm]
  refine (run_of_fetch hc).trans ?_
  rw [Catalog.reply]
  cases findByName records name <;> rfl

theorem readUri_of_names (hc : c.fetch.2 = .ok records) (hu : Names uri resource) :
    (c.readUri uri).2 = .ok (resource.text records) := by
  rw [readUri, Resource.ofUri?_eq_some_iff.mpr hu]
  simp only [read, hc]
  rfl

theorem shows_content (hc : c.fetch.2 = .ok records) (hu : Names uri resource) :
    c.Shows uri (resource.content records) :=
  ⟨resource.text records, readUri_of_names hc hu, Resource.decodeBody_text⟩

theorem exists_text_iff (hc : c.fetch.2 = .ok records) :
    (∃ text, (c.readUri uri).2 = .ok text) ↔ ∃ resource, Names uri resource := by
  constructor
  case mpr => exact fun ⟨_, hu⟩ => ⟨_, readUri_of_names hc hu⟩
  case mp =>
    rintro ⟨text, ht⟩
    cases hu : Resource.ofUri? uri
    case some resource => exact ⟨resource, Resource.ofUri?_eq_some_iff.mp hu⟩
    case none          => simp [readUri, hu] at ht

theorem names_component (hl : 2 ≤ name.length) (hs : '/' ∉ name.toList) :
    Names ("component://" ++ name) (.component name) := by
  refine .component ?_ hs
  rintro rfl
  exact absurd hl (by decide)

theorem views (hc : c.fetch.2 = .ok records) (hr : ∀ r ∈ records, r.check = .ok r) :
    Views c records where
  all :=
    ⟨.listing records, .array (records.map Component.toJson), byCategory_all hc, rfl,
      shows_content hc .all⟩
  found := by
    intro name reply hl hm hs hb
    have hv := shows_content hc (names_component hl hs)
    rw [byName_eq hc hl hm] at hb
    rw [Resource.content] at hv
    cases hf : findByName records name
    case none   => simp [hf] at hb
    case some r =>
      simp only [hf, Option.elim_some, Except.ok.injEq] at hb hv
      subst hb
      exact ⟨hv, r, rfl, Component.ofJson?_toJson (hr r (List.mem_of_find?_eq_some hf))⟩
  missing := by
    intro name e hl hm hs hb
    have hv := shows_content hc (names_component hl hs)
    rw [byName_eq hc hl hm] at hb
    rw [Resource.content] at hv
    cases hf : findByName records name
    case some r => simp [hf] at hb
    case none   =>
      simp only [hf, Option.elim_none, Except.error.injEq] at hb hv
      subst hb
      exact ⟨rfl, rfl, fun _ => hv⟩
  uris := by
    intro uri
    rw [exists_text_iff hc]
    constructor
    case mp =>
      rintro ⟨_, (_ | ⟨hn, hs⟩)⟩
      case all       => exact .inl rfl
      case component => exact .inr ⟨_, hn, hs, rfl⟩
    case mpr =>
      rintro (rfl | ⟨name, hn, hs, rfl⟩)
      case inl => exact ⟨_, .all⟩
      case inr => exact ⟨_, .component hn hs⟩
  others := by
    intro uri ht
    cases hu : Resource.ofUri? uri
    case none          => rw [readUri, hu]
    case some resource =>
      exact absurd (readUri_of_names hc (Resource.ofUri?_eq_some_iff.mp hu)) (ht _)

-- A component whose texts need escapes of all kinds.
def tag : Component where
  name         := "Tag\n"
  path         := "src\\\"Ä𝔸\".tsx"
  props        := .ofList [("\x7f", ⟨"'\t'", true⟩), ("", ⟨"", false⟩)]
  usage        := ""
  dependencies := ["\u0000"]

def gallery : Catalog where
  loader  := ⟨fun _ _ => .failed, fun _ _ => none, []⟩
  disk    := ⟨.folder [], []⟩
  readers := { Readers.initial with cache := ⟨.populated, [tag], true, 1⟩ }

theorem views_gallery :
    gallery.fetch.2 = .ok [tag] ∧ (∀ r ∈ [tag], r.check = .ok r) ∧
      gallery.byName "tAG\n" = .ok (.component tag) ∧ gallery.Views [tag] := by
  have hc : gallery.fetch.2 = .ok [tag] := rfl
  have hr : ∀ r ∈ [tag], r.check = .ok r := fun r hm => List.mem_singleton.mp hm ▸ rfl
  refine ⟨hc, hr, ?_, views hc hr⟩
  rw [byName_eq hc (by decide) (by decide)]
  rfl

end ComponentCatalog.Catalog
