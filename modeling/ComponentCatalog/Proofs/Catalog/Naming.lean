import ComponentCatalog.Proofs.Catalog.Category

namespace ComponentCatalog

open Scan (files defaultExtensions)

-- The names are equal in small letters.
def SameName (s t : String) : Prop :=
  Text.lowercase s = Text.lowercase t

variable {cs before after : List Component} {r : Component} {s t name : String}

theorem Component.isNamed_iff : r.isNamed name ↔ SameName r.name name :=
  beq_iff_eq

theorem findByName_congr (h : SameName s t) : findByName cs s = findByName cs t := by
  rw [SameName] at h
  simp only [findByName, Component.isNamed, h]

theorem findByName_eq_some_iff :
    findByName cs name = some r ↔ SameName r.name name ∧
      ∃ before after, cs = before ++ r :: after ∧ ∀ b ∈ before, ¬SameName b.name name := by
  simp only [findByName, List.find?_eq_some_iff_append, Component.isNamed_iff, Bool.not_eq_true',
    Bool.eq_false_iff, ne_eq]

theorem exists_findByName (hr : r ∈ cs) (hn : SameName r.name name) :
    ∃ found, findByName cs name = some found := by
  refine Option.isSome_iff_exists.mp <| List.find?_isSome.mpr ⟨r, hr, ?_⟩
  exact Component.isNamed_iff.mpr hn

theorem findByName_eq_self_iff (hd : (before ++ r :: after).Nodup) :
    findByName (before ++ r :: after) r.name = some r ↔
      ∀ b ∈ before, ¬SameName b.name r.name := by
  constructor
  case mpr => exact fun h => findByName_eq_some_iff.mpr ⟨rfl, before, after, rfl, h⟩
  case mp =>
    intro h b hb hn
    obtain ⟨found, hf⟩ : ∃ found, findByName before r.name = some found := exists_findByName hb hn
    have ha : findByName (before ++ r :: after) r.name = some found := by
      rw [findByName] at hf ⊢
      rw [List.find?_append, hf, Option.some_or]
    obtain rfl := Option.some.inj (h.symm.trans ha)
    have hm : r ∈ before := List.mem_of_find?_eq_some hf
    exact List.disjoint_of_nodup_append hd hm List.mem_cons_self

namespace Catalog

variable {c : Catalog} {records : List Component} {d : Disk} {dir root : Path}

-- How the components of a listing are fetched by their names. Of those with names that are equal up
-- to case only the first is fetched, and the others are listed but hidden behind it.
structure Fetches (d : Disk) (dir root : Path) (records : List Component) (c : Catalog) :
    Prop where
  listed  : c.byCategory "all" = .ok (.listing records)
  sources : files d defaultExtensions dir ≠ [] →
    records = (files d defaultExtensions dir).map (Component.ofFile d · root)
  -- No name of a listed component is unknown. It leads to the first component that has it.
  first   : ∀ r ∈ records, 2 ≤ r.name.length → r.name.length ≤ 100 →
    ∃ before found after, records = before ++ found :: after ∧ SameName found.name r.name ∧
      (∀ b ∈ before, ¬SameName b.name r.name) ∧ c.byName r.name = .ok (.component found)
  itself  : ∀ before r after, records = before ++ r :: after →
    2 ≤ r.name.length → r.name.length ≤ 100 →
    (c.byName r.name = .ok (.component r) ↔ ∀ b ∈ before, ¬SameName b.name r.name)

theorem byName_eq_component_iff (hc : c.fetch.2 = .ok records) (hl : 2 ≤ name.length)
    (hm : name.length ≤ 100) :
    c.byName name = .ok (.component r) ↔ findByName records name = some r := by
  rw [byName_eq hc hl hm]
  cases findByName records name <;> simp

theorem fetch_afterCalls (hd : d.WellFormed) (calls : List (String × Json)) :
    ((cold (.standard dir root) d).afterCalls calls).fetch.2 =
      .ok (Loader.ofFiles d dir root) :=
  settles_fetch.answer (steady_cold_standard hd).afterCalls

theorem fetched_by_name (hd : d.WellFormed) (dir root : Path) (calls : List (String × Json)) :
    ∃ records, Fetches d dir root records ((cold (.standard dir root) d).afterCalls calls) := by
  have hc : ((cold (.standard dir root) d).afterCalls calls).fetch.2 =
      .ok (Loader.ofFiles d dir root) := fetch_afterCalls hd calls
  refine ⟨Loader.ofFiles d dir root, ?_⟩
  constructor
  case listed  => exact byCategory_all hc
  case sources => exact fun hf => if_neg hf
  case first =>
    intro r hr hl hm
    obtain ⟨found, hf⟩ := exists_findByName hr rfl
    obtain ⟨hn, before, after, hs, hb⟩ := findByName_eq_some_iff.mp hf
    exact ⟨before, found, after, hs, hn, hb, (byName_eq_component_iff hc hl hm).mpr hf⟩
  case itself =>
    intro before r after hs hl hm
    have hp : (Loader.ofFiles d dir root).Nodup := .of_map _ (Loader.paths_ofFiles_nodup hd)
    rw [byName_eq_component_iff hc hl hm, hs]
    exact findByName_eq_self_iff (hs ▸ hp)

-- Two files whose names differ in case only.
def drawers : Disk where
  root := .folder [("cards", .folder [("Card.tsx", .file .empty)]),
    ("icons", .folder [("card.tsx", .file .empty)])]
  cwd  := []

theorem drawers_wellFormed : drawers.WellFormed where
  cwd  := by simp [drawers]
  root := by
    refine .folder (by decide) (by decide) ?_
    simp only [List.forall_mem_cons]
    exact ⟨Scan.wellFormed_of_files (by decide) (by decide) (by simp),
      Scan.wellFormed_of_files (by decide) (by decide) (by simp), by simp⟩

theorem fetched_by_name_drawers :
    drawers.WellFormed ∧ ∃ records, Fetches drawers ⟨.none, []⟩ ⟨.none, []⟩ records
      ((cold (.standard ⟨.none, []⟩ ⟨.none, []⟩) drawers).afterCalls []) :=
  ⟨drawers_wellFormed, fetched_by_name drawers_wellFormed _ _ _⟩

def drawn (folder name : String) : Component :=
  .ofFile drawers ⟨.none, [folder, name]⟩ ⟨.none, []⟩

theorem mem_ofFiles_drawn {folder name : String}
    (h : Scan.IsBelow drawers defaultExtensions ⟨.none, []⟩ [folder, name]) :
    drawn folder name ∈ Loader.ofFiles drawers ⟨.none, []⟩ ⟨.none, []⟩ := by
  have hf : (⟨.none, [folder, name]⟩ : Path) ∈ files drawers defaultExtensions ⟨.none, []⟩ :=
    Scan.mem_files drawers_wellFormed (by decide) (by decide) h
  rw [Loader.ofFiles, if_neg (List.ne_nil_of_mem hf)]
  exact List.mem_map_of_mem hf

theorem name_drawn {folder name : String} : (drawn folder name).name = Path.stemOf name := by
  rw [drawn, Component.ofFile, Component.name_ofContent]
  rfl

-- Both names lead to one component, which cannot be both of those that are listed.
theorem listed_component_hidden :
    ¬∀ (d : Disk) (dir root : Path) (records : List Component), d.WellFormed →
      (cold (.standard dir root) d).byCategory "all" = .ok (.listing records) →
      ∀ r ∈ records, 2 ≤ r.name.length → r.name.length ≤ 100 →
        (cold (.standard dir root) d).byName r.name = .ok (.component r) := by
  intro h
  have hc : (cold (.standard ⟨.none, []⟩ ⟨.none, []⟩) drawers).fetch.2 = .ok _ :=
    fetch_afterCalls drawers_wellFormed []
  have hlisted := h drawers ⟨.none, []⟩ ⟨.none, []⟩ _ drawers_wellFormed (byCategory_all hc)
  have hcard := hlisted (drawn "cards" "Card.tsx") <| mem_ofFiles_drawn
    ⟨by decide, ⟨"Card.tsx", rfl, ".tsx", by decide, by decide⟩, .empty, by decide⟩
  have hicon := hlisted (drawn "icons" "card.tsx") <| mem_ofFiles_drawn
    ⟨by decide, ⟨"card.tsx", rfl, ".tsx", by decide, by decide⟩, .empty, by decide⟩
  rw [name_drawn, show Path.stemOf "Card.tsx" = "Card" by decide] at hcard
  rw [name_drawn, show Path.stemOf "card.tsx" = "card" by decide] at hicon
  have hsame : SameName "Card" "card" := by rw [SameName]; decide
  have hcard := (byName_eq_component_iff hc (by decide) (by decide)).mp
    (hcard (by decide) (by decide))
  have hicon := (byName_eq_component_iff hc (by decide) (by decide)).mp
    (hicon (by decide) (by decide))
  rw [findByName_congr hsame, hicon, Option.some.injEq] at hcard
  have hn := congrArg Component.name hcard
  rw [name_drawn, name_drawn] at hn
  exact absurd hn (by decide)

end Catalog
end ComponentCatalog
