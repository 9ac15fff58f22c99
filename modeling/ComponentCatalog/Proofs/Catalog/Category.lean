import ComponentCatalog.Proofs.Catalog.Records
import ComponentCatalog.Proofs.Catalog.Steady
import ComponentCatalog.Proofs.Catalog.Views
import ComponentCatalog.Proofs.Scan.Order

namespace ComponentCatalog

open Scan (files defaultExtensions isSource)

namespace Path

variable {as bs way : List String} {s : String}

-- Up to the last folder around both places, and then down.
def IsWay (start goal way : List String) : Prop :=
  ∃ common up names, Fork start goal common up names ∧
    way = List.replicate up.length ".." ++ names

theorem isWay_iff : IsWay as bs way ↔ way = detour as bs := by
  have ⟨common, up, names, hf, hd⟩ := exists_fork as bs
  constructor
  case mpr => rintro rfl; exact ⟨common, up, names, hf, hd⟩
  case mp =>
    rintro ⟨common', up', names', hf', rfl⟩
    obtain rfl := hf.common_eq hf'
    obtain rfl := List.append_cancel_left (hf.left.symm.trans hf'.left)
    obtain rfl := List.append_cancel_left (hf.right.symm.trans hf'.right)
    exact hd.symm

-- The pieces of a name, which is more than one if it holds a backslash.
def pieces (s : String) : List String :=
  (Text.splitOn '\\' s.toList).map String.ofList

theorem exists_pieces (h : s = ".." ∨ isSource defaultExtensions s) :
    ∃ ps p, pieces s = ps ++ [p] ∧ p ≠ "" ∧ p ≠ "." := by
  rcases h with rfl | h
  case inl => exact ⟨[], "..", rfl, by decide, by decide⟩
  case inr =>
    have ⟨e, he, t, ht⟩ := Scan.isSource_iff.mp h
    have hb : ∀ e ∈ defaultExtensions, '\\' ∉ e.toList ∧ 2 ≤ e.toList.length := by decide
    have ⟨ps, p, hp⟩ := Text.exists_splitOn_append t (hb e he).1
    have hl : 2 ≤ (String.ofList (p ++ e.toList)).length := by
      rw [String.length_ofList, List.length_append]
      exact (hb e he).2.trans (Nat.le_add_left _ _)
    refine ⟨ps.map String.ofList, String.ofList (p ++ e.toList), ?_, ?_, ?_⟩
    case refine_1 => rw [pieces, ← ht, hp, List.map_append, List.map_singleton]
    case refine_2 => exact fun h => absurd (h ▸ hl) (by decide)
    case refine_3 => exact fun h => absurd (h ▸ hl) (by decide)

theorem parts_exchange (h : ∀ s ∈ way, '/' ∉ s.toList) (hn : way ≠ []) :
    (ofString ((wayText way).map (Text.exchange '\\' '/'))).parts =
      (way.flatMap pieces).filter fun p => p ≠ "" ∧ p ≠ "." := by
  have hs : ∀ p ∈ way.map String.toList, '/' ∉ p := by simpa using h
  have hp : Text.splitOn '/' ((wayText way).map (Text.exchange '\\' '/')).toList =
      (way.map String.toList).flatMap (Text.splitOn '\\') := by
    rw [String.toList_map, wayText_of_ne_nil hn, String.toList_intercalate]
    exact Text.splitOn_exchange_intercalate hs (by simpa using hn)
  rw [ofString, hp, List.flatMap_map, List.map_flatMap]
  rfl

end Path

open ComponentCatalog.Path (IsWay IsName pieces)

theorem Category.isName (category : Category) : IsName category.name := by
  cases category <;> decide

namespace Component

variable {c : Component} {category : Category} {way : List String} {s : String}

-- The root itself is no folder with a name.
theorem mem_folders_iff_parts (hs : IsName s) :
    s ∈ c.folders ↔
      s ∈ (Path.ofString (c.path.map (Text.exchange '\\' '/'))).parts.dropLast := by
  have ha : ∀ a : Anchor, s ≠ a.text := by
    rintro (_ | _ | _) rfl
    case none       => exact hs.nonempty rfl
    case root       => exact hs.noSlash (by decide)
    case doubleRoot => exact hs.noSlash (by decide)
  have hd : ∀ p : Path, s ∈ (if p.isAbsolute then p.anchor.text :: p.parts else p.parts).dropLast ↔
      s ∈ p.parts.dropLast := by
    intro p
    split
    case isFalse => rfl
    case isTrue  => cases p.parts <;> simp [ha]
  exact hd _

theorem mem_folders_iff (hs : IsName s) (hp : c.path = Path.wayText way)
    (hw : ∀ s ∈ way, '/' ∉ s.toList)
    (hl : ∀ s ∈ way.getLast?, s = ".." ∨ isSource defaultExtensions s) :
    s ∈ c.folders ↔ s ∈ (way.flatMap pieces).dropLast := by
  rw [mem_folders_iff_parts hs, hp]
  rcases List.eq_nil_or_concat' way with rfl | ⟨ss, t, rfl⟩
  case inl =>
    rw [Path.ofString, String.toList_map]
    rfl
  case inr =>
    have ⟨ps, p, ht, hp⟩ := Path.exists_pieces (hl t (by simp))
    have hq : (ss ++ [t]).flatMap pieces = (ss.flatMap pieces ++ ps) ++ [p] := by simp [ht]
    rw [Path.parts_exchange hw (by simp), hq, List.filter_append,
      List.filter_cons_of_pos (by simpa using hp), List.filter_nil, List.dropLast_concat,
      List.dropLast_concat, List.mem_filter]
    simp [hs.nonempty, hs.notHere]

theorem matchesCategory_iff (hc : category ≠ .all) :
    c.matchesCategory category ↔
      category.name ∈ c.folders ∨ category.name.toList <:+: Text.lower c.name.toList := by
  have hn : category.name ≠ "all" := by cases category <;> simp_all [Category.name]
  simp [matchesCategory, matchesName, hn, Text.occurs_iff]

end Component

namespace Catalog

variable {c : Catalog} {records : List Component} {d : Disk} {dir root p : Path}
  {category : Category}

-- What puts a source into a category. At the end of the way to it is the source itself.
inductive Belongs (category : Category) (cwd : List String) (root p : Path) : Prop
  | folder {way : List String} (hw : IsWay (root.segments cwd) (p.segments cwd) way)
    (hm : category.name ∈ (way.flatMap pieces).dropLast) : Belongs category cwd root p
  | name (hi : category.name.toList <:+: Text.lower p.stem.toList) : Belongs category cwd root p

theorem matchesCategory_ofFile (hd : d.WellFormed) (hp : p ∈ files d defaultExtensions dir)
    (hc : category ≠ .all) :
    (Component.ofFile d p root).matchesCategory category ↔ Belongs category d.cwd root p := by
  have hn : ∀ s ∈ p.segments d.cwd, IsName s := by
    have ⟨_, hr⟩ := Scan.exists_read_of_mem_files hd hp
    exact hd.root.isName_of_at? <|
      Disk.at?_of_find? hd.not_back_mem (Disk.read?_eq_some_iff.mp hr)
  have hs : ∀ s ∈ Path.detour (root.segments d.cwd) (p.segments d.cwd), '/' ∉ s.toList :=
    fun s hs => (Path.isStep_detour hn s hs).2.2
  have hl : ∀ s ∈ (Path.detour (root.segments d.cwd) (p.segments d.cwd)).getLast?,
      s = ".." ∨ isSource defaultExtensions s := by
    intro s hs
    refine (Path.getLast?_detour hs).imp_right fun hs => ?_
    rw [(Scan.descends_of_mem_files hd hp).getLast?_segments, Option.some.injEq] at hs
    exact hs ▸ Scan.isSource_of_mem_files hd hp
  have hw : (Component.ofFile d p root).path =
      Path.wayText (Path.detour (root.segments d.cwd) (p.segments d.cwd)) := by
    rw [Component.ofFile, Component.path_ofContent, Path.relativeTo_eq]
  rw [Component.matchesCategory_iff hc, Component.mem_folders_iff category.isName hw hs hl,
    Component.ofFile, Component.name_ofContent]
  constructor
  case mp =>
    rintro (hm | hi)
    case inl => exact .folder (Path.isWay_iff.mpr rfl) hm
    case inr => exact .name hi
  case mpr =>
    rintro (⟨hw, hm⟩ | hi)
    case folder => exact .inl (Path.isWay_iff.mp hw ▸ hm)
    case name   => exact .inr hi

-- A catalog after calls of operations.
def afterCalls (c : Catalog) (calls : List (String × Json)) : Catalog :=
  calls.foldl (fun c x => (c.call x.1 x.2).1) c

theorem Steady.afterCalls {calls : List (String × Json)} (hc : Steady records c) :
    Steady records (c.afterCalls calls) := by
  refine List.foldlRecOn calls _ hc fun c hc x _ => ?_
  have ⟨_, hx⟩ : ∃ answer, Settles records (Catalog.call · x.1 x.2) answer := exists_settles_call
  exact hx.steady hc

theorem steady_cold_standard (hd : d.WellFormed) :
    Steady (Loader.ofFiles d dir root) (cold (.standard dir root) d) :=
  .intro (Keeper.start (.standard dir root) d)
    (fun _ => Loader.taken_standard fun _ hp => Scan.descends_of_mem_files hd hp) (.inl rfl)

-- The listing of a category beside that of all components, whatever has been called before.
structure Selects (d : Disk) (dir root : Path) (category : Category) (chosen : List Path) :
    Prop where
  sublist   : chosen.Sublist (files d defaultExtensions dir)
  belongs   : ∀ p ∈ files d defaultExtensions dir, p ∈ chosen ↔ Belongs category d.cwd root p
  all       : ∀ calls, ((cold (.standard dir root) d).afterCalls calls).byCategory "all" =
    .ok (.listing ((files d defaultExtensions dir).map (Component.ofFile d · root)))
  listed    : ∀ calls, ((cold (.standard dir root) d).afterCalls calls).byCategory category.name =
    .ok (.listing (chosen.map (Component.ofFile d · root)))
  described : ∀ p ∈ files d defaultExtensions dir,
    (Component.ofFile d p root).Describes d root p

theorem category_selects (hd : d.WellFormed) (hf : files d defaultExtensions dir ≠ [])
    (hc : category ≠ .all) (root : Path) : ∃ chosen, Selects d dir root category chosen := by
  have hs : ∀ calls, ((cold (.standard dir root) d).afterCalls calls).fetch.2 =
      .ok ((files d defaultExtensions dir).map (Component.ofFile d · root)) := by
    intro calls
    rw [settles_fetch.answer (steady_cold_standard hd).afterCalls, Loader.ofFiles, if_neg hf]
  refine ⟨(files d defaultExtensions dir).filter
    fun p => (Component.ofFile d p root).matchesCategory category, ?_⟩
  constructor
  case sublist => exact List.filter_sublist
  case belongs =>
    intro p hp
    rw [List.mem_filter, and_iff_right hp, matchesCategory_ofFile hd hp hc]
  case all    => exact fun calls => byCategory_all (hs calls)
  case listed =>
    intro calls
    rw [byCategory_name (hs calls), List.filter_map]
    rfl
  case described =>
    intro p hp
    obtain ⟨_, hr⟩ := Scan.exists_read_of_mem_files hd hp
    exact Component.describes_ofFile (Scan.descends_of_mem_files hd hp) hr

-- A file whose name looks like a way through a folder, and a folder whose name only begins with the
-- category, both beside the project root.
def studio : Disk where
  root := .folder [("src", .folder [
    ("uikit", .folder [("Card.tsx", .file .empty)]),
    ("ui\\Tag.ts", .file .empty)])]
  cwd  := []

theorem studio_wellFormed : studio.WellFormed where
  cwd  := by decide
  root := by
    refine .folder (by decide) (by decide) (List.forall_mem_singleton.mpr ?_)
    refine .folder (by decide) (by decide) (List.forall_mem_cons.mpr ⟨?_, ?_⟩)
    case refine_1 => exact Scan.wellFormed_of_files (by decide) (by decide) (by simp)
    case refine_2 => exact List.forall_mem_singleton.mpr <| .file _

theorem category_selects_studio :
    studio.WellFormed ∧ files studio defaultExtensions ⟨.none, ["src"]⟩ ≠ [] ∧ Category.ui ≠ .all ∧
      ∃ chosen, Selects studio ⟨.none, ["src"]⟩ ⟨.none, ["app"]⟩ .ui chosen ∧
        ⟨.none, ["src", "ui\\Tag.ts"]⟩ ∈ chosen ∧
        ⟨.none, ["src", "uikit", "Card.tsx"]⟩ ∉ chosen := by
  have ht : ⟨.none, ["src", "ui\\Tag.ts"]⟩ ∈ files studio defaultExtensions ⟨.none, ["src"]⟩ :=
    Scan.mem_files studio_wellFormed (by decide) (by decide)
      ⟨by decide, ⟨"ui\\Tag.ts", rfl, ".ts", by decide, by decide⟩, .empty, by decide⟩
  have hk : ⟨.none, ["src", "uikit", "Card.tsx"]⟩ ∈
      files studio defaultExtensions ⟨.none, ["src"]⟩ :=
    Scan.mem_files studio_wellFormed (by decide) (by decide)
      ⟨by decide, ⟨"Card.tsx", rfl, ".tsx", by decide, by decide⟩, .empty, by decide⟩
  have hf := List.ne_nil_of_mem ht
  have hc : Category.ui ≠ .all := by decide
  have ⟨chosen, hs⟩ := category_selects studio_wellFormed hf hc ⟨.none, ["app"]⟩
  refine ⟨studio_wellFormed, hf, hc, chosen, hs, ?_, ?_⟩
  case refine_1 =>
    exact (hs.belongs _ ht).mpr <| .folder (Path.isWay_iff.mpr rfl) (by decide)
  case refine_2 =>
    rw [hs.belongs _ hk]
    rintro (⟨hw, hm⟩ | hi)
    case folder =>
      rw [Path.isWay_iff] at hw
      subst hw
      revert hm
      decide
    case name => revert hi; decide

end Catalog
end ComponentCatalog
