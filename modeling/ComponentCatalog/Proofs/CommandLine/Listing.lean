import ComponentCatalog.Proofs.Catalog.Category
import ComponentCatalog.Proofs.CommandLine

namespace ComponentCatalog

open Scan (files defaultExtensions)

theorem Scan.files_of_not_isFolder {d : Disk} {extensions : Extensions} {p : Path}
    (h : d.isFolder p = false) : files d extensions p = [] := by
  rw [Disk.isFolder] at h
  unfold files scan?
  dsimp only
  split
  case isTrue  => rfl
  case isFalse =>
    cases hf : d.find? p
    case none   => rfl
    case some t =>
      rw [hf] at h
      cases t
      case file   => rfl
      case folder => cases h

theorem Component.matchesCategory_all {c : Component} : c.matchesCategory .all := rfl

namespace CommandLine

variable {env : Environment} {d : Disk} {args : List String} {root dir : Option Path} {p r : Path}
  {cs : List Component}

def missingNote (p : Path) : Report :=
  .note (p.toString ++ " not found, showing defaults")

def scannedNote (p : Path) : Report :=
  .note ("scanned " ++ p.toString)

-- The components are those that stand for a directory without sources.
def Substituted (d : Disk) (p : Path) (cs : List Component) : Prop :=
  files d defaultExtensions p = [] ∧ cs = Loader.defaultComponents

-- Each component is made from a source below the directory.
def Sourced (d : Disk) (p r : Path) (cs : List Component) : Prop :=
  ∀ c ∈ cs, ∃ f ∈ files d defaultExtensions p, c = .ofFile d f r

theorem scanNote_eq : scanNote d p = if d.isFolder p then scannedNote p else missingNote p := by
  rw [scanNote]
  split <;> rfl

theorem missingNote_ne_scannedNote : missingNote p ≠ scannedNote p := by
  intro h
  have hl := congrArg String.length (Report.note.inj h)
  rw [String.length_append, String.length_append] at hl
  have hm : " not found, showing defaults".length = 28 := rfl
  have hs : "scanned ".length = 8 := rfl
  omega

theorem substituted_ofFiles_iff :
    Substituted d p (Loader.ofFiles d p r) ↔ files d defaultExtensions p = [] :=
  ⟨And.left, fun h => ⟨h, if_pos h⟩⟩

theorem sourced_ofFiles_iff :
    Sourced d p r (Loader.ofFiles d p r) ↔ files d defaultExtensions p ≠ [] := by
  constructor
  case mp =>
    intro h hf
    have hd : Loader.defaultComponents.head (by decide) ∈ Loader.ofFiles d p r := by
      rw [Loader.ofFiles, if_pos hf]
      exact List.head_mem _
    obtain ⟨f, hm, _⟩ := h _ hd
    rw [hf] at hm
    cases hm
  case mpr =>
    intro hf c hc
    rw [Loader.ofFiles, if_neg hf] at hc
    obtain ⟨f, hm, he⟩ := List.mem_map.mp hc
    exact ⟨f, hm, he.symm⟩

theorem wellFormed_diskOf (hd : d.WellFormed) : (diskOf env d).WellFormed := by
  rw [diskOf, Log.fileOf]
  cases env.set? "CODZILLA_LOG_FILE"
  case none      => exact hd
  case some text =>
    rw [Option.map_some, Log.openOn]
    split
    case isTrue  => exact hd
    case isFalse => exact hd.write (Path.clean_ofString text)

-- The table of the components, with the note on the directory.
def table (d : Disk) (p : Path) (cs : List Component) : Result :=
  .ok [listing cs .all, scanNote d p]

theorem run_table (hd : d.WellFormed)
    (hc : catalog env d root dir = .ok (p, .cold (.standard p r) d)) :
    run env d (.components root dir .all false) = .ok (table d p (Loader.ofFiles d p r)) := by
  have hall : (Loader.ofFiles d p r).filter (·.matchesCategory .all) = Loader.ofFiles d p r :=
    List.filter_eq_self.mpr fun _ _ => Component.matchesCategory_all
  rw [run_components hc (Catalog.steady_cold_standard hd), hall]
  rfl

-- The note beside the rows: it is right about the directory, and says nothing false about the rows
-- except for a folder without sources.
structure Notes (d : Disk) (p r : Path) (cs : List Component) (reports : List Report) : Prop where
  listed   : listing cs .all ∈ reports
  scanned  : scannedNote p ∈ reports ↔ d.isFolder p
  missing  : missingNote p ∈ reports ↔ ¬d.isFolder p
  absent   : missingNote p ∈ reports → Substituted d p cs
  sourced  : Sourced d p r cs → scannedNote p ∈ reports
  truthful : (missingNote p ∈ reports ↔ Substituted d p cs) ∧
      (scannedNote p ∈ reports ↔ Sourced d p r cs) ↔
    (d.isFolder p → files d defaultExtensions p ≠ [])

theorem scannedNote_mem_table : scannedNote p ∈ (table d p cs).reports ↔ d.isFolder p := by
  have hm : scannedNote p ∈ (table d p cs).reports ↔ scannedNote p = scanNote d p := by
    simp [table, Result.ok, listing, scannedNote]
  rw [hm, scanNote_eq]
  split
  case isTrue h  => simp [h]
  case isFalse h => simp [h, missingNote_ne_scannedNote.symm]

theorem missingNote_mem_table : missingNote p ∈ (table d p cs).reports ↔ ¬d.isFolder p := by
  have hm : missingNote p ∈ (table d p cs).reports ↔ missingNote p = scanNote d p := by
    simp [table, Result.ok, listing, missingNote]
  rw [hm, scanNote_eq]
  split
  case isTrue h  => simp [h, missingNote_ne_scannedNote]
  case isFalse h => simp [h]

theorem notes_table :
    Notes d p r (Loader.ofFiles d p r) (table d p (Loader.ofFiles d p r)).reports := by
  have hf : ¬d.isFolder p → files d defaultExtensions p = [] :=
    fun h => Scan.files_of_not_isFolder (Bool.eq_false_iff.mpr h)
  constructor
  case listed  => exact List.mem_cons_self
  case scanned => exact scannedNote_mem_table
  case missing => exact missingNote_mem_table
  case absent  =>
    rw [missingNote_mem_table, substituted_ofFiles_iff]
    exact hf
  case sourced =>
    rw [scannedNote_mem_table, sourced_ofFiles_iff]
    exact not_imp_comm.mp hf
  case truthful =>
    rw [missingNote_mem_table, scannedNote_mem_table, substituted_ofFiles_iff, sourced_ofFiles_iff]
    constructor
    case mp  => exact fun h => h.2.mp
    case mpr => exact fun h => ⟨⟨hf, fun he ht => h ht he⟩, h, not_imp_comm.mp hf⟩

-- The command, once the directory and the project root are known.
structure Noted (env : Environment) (d : Disk) (args : List String) (p r : Path)
    (cs : List Component) : Prop where
  defaults : files (diskOf env d) defaultExtensions p = [] → cs = Loader.defaultComponents
  rows     : files (diskOf env d) defaultExtensions p ≠ [] →
    cs = (files (diskOf env d) defaultExtensions p).map (Component.ofFile (diskOf env d) · r)
  -- The table is shown, unless a text in it is no proper markup.
  shown    : main env d args =
    match (table (diskOf env d) p cs).check with
    | .ok _    => .ok (table (diskOf env d) p cs)
    | .error e => told (.markup e)
  notes    : ∀ res, main env d args = .ok res → res.code = 0 →
    Notes (diskOf env d) p r cs res.reports

structure Reported (env : Environment) (d : Disk) (args : List String) (root dir : Option Path) :
    Prop where
  unresolved : ∀ e', Settings.ofEnvironment (diskOf env d).cwd env none none root dir = .error e' →
    main env d args = told (.settings e')
  resolved   : ∀ s, Settings.ofEnvironment (diskOf env d).cwd env none none root dir = .ok s →
    ∃ p cs, s.resolvedComponentsDir (diskOf env d).cwd env = .ok p ∧
      Noted env d args p s.projectRoot cs

theorem noted (hd : d.WellFormed) (hp : parse args = .command (.components root dir .all false))
    (hc : catalog env (diskOf env d) root dir = .ok (p, .cold (.standard p r) (diskOf env d))) :
    Noted env d args p r (Loader.ofFiles (diskOf env d) p r) := by
  have hm := main_of_ok hp (run_table (wellFormed_diskOf hd) hc)
  constructor
  case defaults => exact fun h => if_pos h
  case rows     => exact fun h => if_neg h
  case shown    => exact hm
  case notes    =>
    intro res hres hcode
    rw [hm] at hres
    split at hres
    case h_1 => exact Except.ok.inj hres ▸ notes_table
    case h_2 =>
      rw [code_of_told hres] at hcode
      cases hcode

theorem listing_noted (hd : d.WellFormed)
    (hp : parse args = .command (.components root dir .all false)) :
    Reported env d args root dir where
  unresolved _ hs := main_of_error hp (run_components_of_error (catalog_of_error hs))
  resolved _ hs   :=
    have ⟨p, hdir⟩ := Settings.exists_resolvedComponentsDir hs
    ⟨p, _, hdir, noted hd hp (catalog_of_settings hs hdir)⟩

-- A project with one component.
def shed : Disk where
  root := .folder [("src", .folder [("components", .folder [("Box.tsx", .file .empty)])])]
  cwd  := []

theorem shed_wellFormed : shed.WellFormed where
  cwd  := by decide
  root := by
    refine .folder (by decide) (by decide) (List.forall_mem_singleton.mpr ?_)
    refine .folder (by decide) (by decide) (List.forall_mem_singleton.mpr ?_)
    exact Scan.wellFormed_of_files (by decide) (by decide) (by simp)

def shedSettings : Settings where
  host          := "127.0.0.1"
  port          := 3333
  path          := "/mcp"
  projectRoot   := ⟨.root, []⟩
  componentsDir := some ⟨.root, ["src", "components"]⟩
  jsonResponse  := true

theorem shedSettings_eq (d : Disk) (hc : d.cwd = []) :
    Settings.ofEnvironment d.cwd [] none none none none = .ok shedSettings := by
  rw [hc]
  decide +kernel

theorem shedSettings_dir (d : Disk) (hc : d.cwd = []) :
    shedSettings.resolvedComponentsDir d.cwd [] = .ok ⟨.root, ["src", "components"]⟩ := by
  rw [hc]
  decide +kernel

theorem files_shed :
    files shed defaultExtensions ⟨.root, ["src", "components"]⟩ =
      [⟨.root, ["src", "components", "Box.tsx"]⟩] := by
  have hf : shed.find? ⟨.root, ["src", "components"]⟩ =
      some (.folder [("Box.tsx", .file .empty)]) := rfl
  have hs : Scan.byName (Scan.foundEach defaultExtensions [("Box.tsx", .file .empty)]) =
      [("Box.tsx", [["Box.tsx"]])] := Scan.byName_eq (by decide) (by decide)
  rw [files, Scan.scan?_eq (by decide) (by decide), hf, Option.elim_some, Scan.sources, hs]
  rfl

theorem parse_components_alone :
    parse ["components"] = .command (.components none none .all false) := rfl

theorem listing_noted_shed :
    shed.WellFormed ∧ parse ["components"] = .command (.components none none .all false) ∧
      Reported [] shed ["components"] none none ∧
      ∃ res, main [] shed ["components"] = .ok res ∧ res.code = 0 ∧
        scannedNote ⟨.root, ["src", "components"]⟩ ∈ res.reports := by
  have hr : Reported [] shed ["components"] none none :=
    listing_noted shed_wellFormed parse_components_alone
  refine ⟨shed_wellFormed, parse_components_alone, hr, ?_⟩
  obtain ⟨p, cs, hdir, hn⟩ := hr.resolved shedSettings (shedSettings_eq shed rfl)
  have hpath : p = ⟨.root, ["src", "components"]⟩ :=
    Except.ok.inj (hdir.symm.trans (shedSettings_dir shed rfl))
  subst hpath
  have hcs := hn.rows (by rw [show diskOf [] shed = shed from rfl, files_shed]; simp)
  rw [show diskOf [] shed = shed from rfl, files_shed] at hcs
  subst hcs
  have hm := hn.shown
  have hcheck : (table (diskOf [] shed) ⟨.root, ["src", "components"]⟩
      ([⟨.root, ["src", "components", "Box.tsx"]⟩].map
        (Component.ofFile shed · shedSettings.projectRoot))).check = .ok () := by
    rfl
  rw [hcheck] at hm
  exact ⟨_, hm, rfl, (hn.notes _ hm rfl).scanned.mpr rfl⟩

-- The folder of the components is there, and empty.
def bareShed : Disk where
  root := .folder [("src", .folder [("components", .folder [])])]
  cwd  := []

theorem bareShed_wellFormed : bareShed.WellFormed where
  cwd  := by decide
  root := by
    refine .folder (by decide) (by decide) (List.forall_mem_singleton.mpr ?_)
    exact .folder (by decide) (by decide) (List.forall_mem_singleton.mpr .empty)

theorem files_bareShed : files bareShed defaultExtensions ⟨.root, ["src", "components"]⟩ = [] := by
  have hf : bareShed.find? ⟨.root, ["src", "components"]⟩ = some (.folder []) := rfl
  have hs : Scan.byName (Scan.foundEach defaultExtensions []) = [] :=
    Scan.byName_eq (by decide) (by decide)
  rw [files, Scan.scan?_eq (by decide) (by decide), hf, Option.elim_some, Scan.sources, hs]
  rfl

theorem main_bareShed :
    main [] bareShed ["components"] =
      .ok (table bareShed ⟨.root, ["src", "components"]⟩ Loader.defaultComponents) := by
  have hc : catalog [] bareShed none none = .ok (⟨.root, ["src", "components"]⟩,
      .cold (.standard ⟨.root, ["src", "components"]⟩ shedSettings.projectRoot) bareShed) :=
    catalog_of_settings (shedSettings_eq bareShed rfl) (shedSettings_dir bareShed rfl)
  have hr := run_table bareShed_wellFormed hc
  rw [Loader.ofFiles, if_pos files_bareShed] at hr
  have hm : main [] bareShed ["components"] = _ := main_of_ok parse_components_alone hr
  have hcheck : (table bareShed ⟨.root, ["src", "components"]⟩ Loader.defaultComponents).check =
      .ok () := by decide +kernel
  rw [hcheck] at hm
  exact hm

theorem bare_folder_scanned :
    ¬∀ (env : Environment) (d : Disk) (args : List String) (root dir : Option Path) (s : Settings)
      (p : Path) (cs : List Component) (res : Result), d.WellFormed →
        parse args = .command (.components root dir .all false) →
        Settings.ofEnvironment (diskOf env d).cwd env none none root dir = .ok s →
        s.resolvedComponentsDir (diskOf env d).cwd env = .ok p →
        main env d args = .ok res → res.code = 0 → listing cs .all ∈ res.reports →
          (missingNote p ∈ res.reports ↔ Substituted (diskOf env d) p cs) ∧
            (scannedNote p ∈ res.reports ↔ Sourced (diskOf env d) p s.projectRoot cs) := by
  intro h
  have ⟨hm, _⟩ := h [] bareShed ["components"] none none shedSettings _ Loader.defaultComponents _
    bareShed_wellFormed parse_components_alone (shedSettings_eq bareShed rfl)
    (shedSettings_dir bareShed rfl) main_bareShed rfl List.mem_cons_self
  exact missingNote_mem_table.mp (hm.mpr ⟨files_bareShed, rfl⟩) rfl

end CommandLine
end ComponentCatalog
