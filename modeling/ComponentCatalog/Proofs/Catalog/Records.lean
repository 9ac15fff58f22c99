import ComponentCatalog.Proofs.Catalog.Keeper
import ComponentCatalog.Proofs.Scan

namespace ComponentCatalog

open Scan (files defaultExtensions)

namespace Component

-- What is said of a file's props and dependencies. A file that holds no text declares nothing.
def Declares (content : ByteArray) (c : Component) : Prop :=
  match String.fromUTF8? content with
  | some text =>
    let source := Text.unifyNewlines text.toList
    c.props = Interface.props source ∧ c.dependencies = (Imports.imports source).map String.ofList
  | none      => c.props = ∅ ∧ c.dependencies = []

structure Describes (d : Disk) (root p : Path) (c : Component) : Prop where
  name   : c.name = p.stem
  named  : c.name ≠ ""
  path   : c.path = p.relativeTo d.cwd root
  usage  : c.usage = usageOf c.name c.props
  source : ∃ content, d.read? p = some content ∧ c.Declares content

variable {name path : String} {content : ByteArray} {bytes : Option ByteArray} {c : Component}
  {d : Disk} {p dir root : Path}

@[simp]
theorem name_ofContent : (ofContent name path bytes).name = name := by
  rw [ofContent]
  split <;> rfl

@[simp]
theorem path_ofContent : (ofContent name path bytes).path = path := by
  rw [ofContent]
  split <;> rfl

theorem usage_ofContent :
    (ofContent name path bytes).usage = usageOf name (ofContent name path bytes).props := by
  rw [ofContent]
  split <;> rfl

theorem declares_ofContent : (ofContent name path (some content)).Declares content := by
  rw [ofContent, Declares]
  rw [Option.bind_some]
  cases String.fromUTF8? content
  case none   => exact ⟨rfl, rfl⟩
  case some t => exact ⟨rfl, rfl⟩

theorem check_of_ne_empty (hn : c.name ≠ "") (hp : c.path ≠ "") : c.check = .ok c := by
  simp [check, hn, hp]

theorem describes_ofFile (hp : dir.Descends p) (hc : d.read? p = some content) :
    (ofFile d p root).Describes d root p := by
  rw [ofFile]
  exact ⟨name_ofContent, by rw [name_ofContent]; exact hp.stem_ne_empty, path_ofContent,
    by rw [usage_ofContent, name_ofContent], content, hc, hc ▸ declares_ofContent⟩

end Component

namespace Loader

variable {l : Loader} {d : Disk} {p dir root : Path} {n : Nat}

theorem parse_standard (hp : dir.Descends p) :
    (standard dir root).parse d p = some (.ofFile d p root) := by
  have hn : (Component.ofFile d p root).name ≠ "" := by
    rw [Component.ofFile, Component.name_ofContent]
    exact hp.stem_ne_empty
  have hr : (Component.ofFile d p root).path ≠ "" := by
    rw [Component.ofFile, Component.path_ofContent]
    exact hp.relativeTo_ne_empty
  simp [standard, Component.check_of_ne_empty hn hr, Except.toOption]

def ofFiles (d : Disk) (dir root : Path) : List Component :=
  if files d defaultExtensions dir = [] then defaultComponents
  else (files d defaultExtensions dir).map (Component.ofFile d · root)

theorem records_standard {ps : List Path} (hp : ∀ p ∈ ps, dir.Descends p) :
    (standard dir root).records d ps =
      if ps = [] then defaultComponents else ps.map (Component.ofFile d · root) := by
  by_cases hps : ps = []
  case pos => rw [if_pos hps, records, if_neg fun h => h.1 hps, standard]
  case neg =>
    have hs : ∀ p ∈ ps, (standard dir root).parse d p = some (.ofFile d p root) :=
      fun p hm => parse_standard (hp p hm)
    have hparses : (standard dir root).Parses d ps := ⟨hps, fun p hm => by simp [hs p hm]⟩
    rw [if_neg hps, records, if_pos hparses, List.filterMap_congr hs, List.filterMap_eq_map']

theorem taken_standard (hp : ∀ p ∈ files d defaultExtensions dir, dir.Descends p) :
    (standard dir root).taken n d = .ok (ofFiles d dir root) := by
  rw [ofFiles]
  rw [files] at *
  cases hs : Scan.scan? d defaultExtensions dir
  case none =>
    have hsc : (standard dir root).scan n d = .failed := by simp [standard, hs]
    rw [taken, hsc]
    rfl
  case some ps =>
    have hsc : (standard dir root).scan n d = .paths ps := by simp [standard, hs]
    rw [hs] at hp
    rw [taken, hsc]
    exact congrArg Except.ok <| records_standard hp

theorem paths_ofFiles_nodup (hd : d.WellFormed) : ((ofFiles d dir root).map (·.path)).Nodup := by
  rw [ofFiles]
  split
  case isTrue => decide
  case isFalse =>
    rw [List.map_map]
    refine (Scan.files_nodup hd).map_on fun p hp q hq he => ?_
    simp only [Function.comp_apply, Component.ofFile, Component.path_ofContent] at he
    have hp := Scan.descends_of_mem_files hd hp
    exact hp.relativeTo_injective (Scan.descends_of_mem_files hd hq) he

end Loader

namespace Catalog

-- What may be different about the records if a file gets new contents.
structure DiffersIn (d : Disk) (dir f : Path) (records records' : List Component) : Prop where
  labels : records'.map (fun c => (c.name, c.path)) = records.map fun c => (c.name, c.path)
  file   : ∀ i : Nat, records'[i]? ≠ records[i]? →
    ∃ p, (files d defaultExtensions dir)[i]? = some p ∧ p.segments d.cwd = f.segments d.cwd
  single : ∀ i j : Nat, records'[i]? ≠ records[i]? → records'[j]? ≠ records[j]? → i = j

-- A first read never fails, and has a record for each source, which tells what the file declares
-- and nothing about any other file.
structure FirstRead (d : Disk) (dir root : Path) (records : List Component) : Prop where
  answer   : (cold (.standard dir root) d).fetch.2 = .ok records
  defaults : files d defaultExtensions dir = [] → records = Loader.defaultComponents
  sources  : files d defaultExtensions dir ≠ [] →
    List.Forall₂ (fun p c => c.Describes d root p) (files d defaultExtensions dir) records
  paths    : (records.map (·.path)).Nodup
  -- Other bytes in a file are found in its record only.
  changes  : ∀ f old new, d.read? f = some old →
    files (d.modify f (.write new)) defaultExtensions dir = files d defaultExtensions dir ∧
      ∃ records', (cold (.standard dir root) (d.modify f (.write new))).fetch.2 = .ok records' ∧
        DiffersIn d dir f records records'

variable {d : Disk} {dir root f : Path} {old new : ByteArray}

theorem files_write (hd : d.WellFormed) (hf : d.read? f = some old) :
    files (d.modify f (.write new)) defaultExtensions dir = files d defaultExtensions dir := by
  have hf := Disk.at?_of_find? hd.not_back_mem <| Disk.read?_eq_some_iff.mp hf
  exact Scan.files_of_skeleton_eq (FileTree.skeleton_write hf) rfl

theorem differsIn_write (hd : d.WellFormed) (hf : d.read? f = some old) :
    DiffersIn d dir f (Loader.ofFiles d dir root)
      (Loader.ofFiles (d.modify f (.write new)) dir root) := by
  have hfile : ∀ i : Nat, (Loader.ofFiles (d.modify f (.write new)) dir root)[i]? ≠
      (Loader.ofFiles d dir root)[i]? →
      ∃ p, (files d defaultExtensions dir)[i]? = some p ∧ p.segments d.cwd = f.segments d.cwd := by
    intro i hne
    simp only [Loader.ofFiles] at hne
    rw [files_write hd hf] at hne
    split at hne
    case isTrue => contradiction
    case isFalse =>
      rw [List.getElem?_map, List.getElem?_map] at hne
      cases hp : (files d defaultExtensions dir)[i]?
      case none => simp [hp] at hne
      case some p =>
        have ⟨content, hc⟩ := Scan.exists_read_of_mem_files hd (List.mem_of_getElem? hp)
        refine ⟨p, rfl, ?_⟩
        by_contra hs
        have hw : (d.modify f (.write new)).read? p = some content :=
          Disk.read?_write_of_ne hd hf hc hs
        refine hne ?_
        rw [hp, Option.map_some, Option.map_some, Component.ofFile, Component.ofFile, hw, hc]
        rfl
  refine ⟨?_, hfile, fun i j hi hj => ?_⟩
  case refine_1 =>
    simp only [Loader.ofFiles]
    rw [files_write hd hf]
    split
    case isTrue  => rfl
    case isFalse => simp [Component.ofFile, Disk.modify]
  case refine_2 =>
    have ⟨p, hp, hps⟩ := hfile i hi
    have ⟨q, hq, hqs⟩ := hfile j hj
    have he : p = q :=
      (Scan.descends_of_mem_files hd <| List.mem_of_getElem? hp).segments_injective
        (Scan.descends_of_mem_files hd <| List.mem_of_getElem? hq) (hps.trans hqs.symm)
    have ⟨hl, _⟩ := List.getElem?_eq_some_iff.mp hp
    exact (List.getElem?_inj hl (Scan.files_nodup hd)).mp (hp.trans (he ▸ hq.symm))

theorem first_read (hd : d.WellFormed) (dir root : Path) :
    ∃ records, FirstRead d dir root records := by
  have hs : ∀ p ∈ files d defaultExtensions dir, dir.Descends p :=
    fun p hp => Scan.descends_of_mem_files hd hp
  refine ⟨Loader.ofFiles d dir root, ?_⟩
  constructor
  case answer   => rw [Keeper.fetch_cold, Loader.taken_standard hs]
  case defaults => exact fun he => if_pos he
  case paths    => exact Loader.paths_ofFiles_nodup hd
  case sources =>
    intro hne
    rw [Loader.ofFiles, if_neg hne, List.forall₂_map_right_iff, List.forall₂_same]
    intro p hp
    have ⟨_, hc⟩ := Scan.exists_read_of_mem_files hd hp
    exact Component.describes_ofFile (hs p hp) hc
  case changes =>
    intro f old new hf
    have hw : files (d.modify f (.write new)) defaultExtensions dir =
        files d defaultExtensions dir := files_write hd hf
    refine ⟨hw, Loader.ofFiles (d.modify f (.write new)) dir root, ?_, differsIn_write hd hf⟩
    rw [Keeper.fetch_cold, Loader.taken_standard (hw ▸ hs)]

-- A project with one file, which has nothing before its ending and holds no text.
def project : Disk where
  root := .folder [("src", .folder [(".ts", .file ⟨#[0xFF]⟩)])]
  cwd  := ["src"]

theorem project_wellFormed : project.WellFormed where
  cwd  := by decide
  root := by
    have hs : (FileTree.folder [(".ts", .file ⟨#[0xFF]⟩)]).WellFormed :=
      .folder (by decide) (by decide) fun _ he => List.mem_singleton.mp he ▸ .file _
    exact .folder (by decide) (by decide) fun _ he => List.mem_singleton.mp he ▸ hs

theorem first_read_project :
    project.WellFormed ∧
      files project defaultExtensions ⟨.root, ["src"]⟩ = [⟨.root, ["src", ".ts"]⟩] ∧
      ∃ records, FirstRead project ⟨.root, ["src"]⟩ ⟨.none, [".."]⟩ records := by
  refine ⟨project_wellFormed, ?_, first_read project_wellFormed _ _⟩
  simp [files, Scan.scan?, Scan.sources, Scan.foundEach, Scan.byName, Scan.found, Scan.isSource,
    defaultExtensions, project, Path.hasNul, Path.isAbsolute, Disk.find?, FileTree.walk?_down,
    FileTree.walk?, FileTree.child?]

end Catalog
end ComponentCatalog
