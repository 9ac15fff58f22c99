import ComponentCatalog.Proofs.Disk
import ComponentCatalog.Scan
import Mathlib.Data.List.Perm.Basic

namespace ComponentCatalog.Scan

open FileTree (skeleton skeletonEach)
open ComponentCatalog.Path (IsName)

variable {extensions : Extensions} {t : FileTree} {es : List (String × FileTree)} {name : String}
  {names : List String} {d d' : Disk} {p root : Path}

theorem isSource_iff :
    isSource extensions name ↔ ∃ e ∈ extensions, e.toList <:+ name.toList := by
  simp [isSource]

theorem foundEach_eq_map :
    foundEach extensions es = es.map fun e => (e.1, found extensions e.1 e.2) := by
  induction es
  case nil          => rfl
  case cons e es hi => rw [foundEach, hi, List.map_cons]

theorem found_folder :
    found extensions name (.folder es) = (sources extensions (.folder es)).map (name :: ·) := by
  rw [found, sources]

theorem sources_folder_perm :
    (sources extensions (.folder es)).Perm (es.flatMap fun e => found extensions e.1 e.2) := by
  have hs := List.mergeSort_perm (foundEach extensions es) fun a b => !(b.1 < a.1)
  have hp := hs.flatMap_right Prod.snd
  rw [sources, byName]
  refine hp.trans <| .of_eq ?_
  rw [foundEach_eq_map, List.flatMap_map]

theorem mem_sources_folder :
    names ∈ sources extensions (.folder es) ↔ ∃ e ∈ es, names ∈ found extensions e.1 e.2 := by
  rw [sources_folder_perm.mem_iff, List.mem_flatMap]

-- The names lead to a source.
structure Reaches (extensions : Extensions) (t : FileTree) (names : List String) : Prop where
  file   : ∃ content, t.at? names = some (.file content)
  named  : ∀ n ∈ names, IsName n
  source : ∃ hn : names ≠ [], isSource extensions (names.getLast hn)

theorem reaches_of_mem_sources (hw : t.WellFormed) (h : names ∈ sources extensions t) :
    Reaches extensions t names := by
  induction hw generalizing names
  case file => simp [sources] at h
  case folder es hd hn _ hi =>
    have ⟨⟨n, t⟩, he, hm⟩ := mem_sources_folder.mp h
    have hl : (FileTree.folder es).child? n = some t := lookup_of_mem hd he
    cases t
    case file content =>
      rw [found] at hm
      split at hm
      case isFalse    => simp at hm
      case isTrue hs =>
        cases List.mem_singleton.mp hm
        refine ⟨⟨content, ?_⟩, by simpa using hn _ he, by simp, hs⟩
        rw [FileTree.at?_cons, hl]
        rfl
    case folder =>
      rw [found_folder] at hm
      have ⟨ns, hns, hm⟩ := List.mem_map.mp hm
      subst hm
      have hr := hi _ he hns
      have ⟨content, hc⟩ := hr.file
      have ⟨hne, hs⟩ := hr.source
      refine ⟨⟨content, ?_⟩, List.forall_mem_cons.mpr ⟨hn _ he, hr.named⟩, by simp, ?_⟩
      case refine_1 => rwa [FileTree.at?_cons, hl]
      case refine_2 => rwa [List.getLast_cons hne]

theorem head?_of_mem_found (h : names ∈ found extensions name t) : names.head? = some name := by
  cases t
  case file =>
    rw [found] at h
    split at h
    case isFalse => simp at h
    case isTrue  => rw [List.mem_singleton.mp h, List.head?_cons]
  case folder =>
    rw [found_folder] at h
    have ⟨_, _, hm⟩ := List.mem_map.mp h
    rw [← hm, List.head?_cons]

theorem found_nodup (h : (sources extensions t).Nodup) : (found extensions name t).Nodup := by
  cases t
  case file   => rw [found]; split <;> simp
  case folder => rw [found_folder]; exact h.map <| List.cons_injective

theorem sources_nodup (hw : t.WellFormed) : (sources extensions t).Nodup := by
  induction hw
  case file => simp [sources]
  case folder es hd _ _ hi =>
    rw [sources_folder_perm.nodup_iff, List.nodup_flatMap]
    refine ⟨fun e he => found_nodup (hi e he), ?_⟩
    refine (List.pairwise_map.mp hd).imp fun {e e'} hne ns hm hm' => ?_
    have he := (head?_of_mem_found hm).symm.trans (head?_of_mem_found hm')
    exact hne <| Option.some.inj he

mutual

theorem found_skeleton (extensions : Extensions) (name : String) :
    (t : FileTree) → found extensions name t.skeleton = found extensions name t
  | .file _    => by simp only [skeleton, found]
  | .folder es => by simp only [skeleton, found, foundEach_skeleton extensions es]

theorem foundEach_skeleton (extensions : Extensions) :
    (es : List (String × FileTree)) →
      foundEach extensions (skeletonEach es) = foundEach extensions es
  | []           => rfl
  | (n, t) :: es => by
    simp only [skeletonEach, foundEach, found_skeleton extensions n t,
      foundEach_skeleton extensions es]

end

theorem sources_skeleton : sources extensions t.skeleton = sources extensions t := by
  cases t
  case file   => simp only [skeleton, sources]
  case folder => simp only [skeleton, sources, foundEach_skeleton]

theorem scan?_of_skeleton_eq (hr : d'.root.skeleton = d.root.skeleton) (hc : d'.cwd = d.cwd) :
    scan? d' extensions root = scan? d extensions root := by
  have hf := Disk.map_skeleton_find? (p := root) hr hc
  simp only [scan?]
  cases h : d.find? root <;> cases h' : d'.find? root <;> rw [h, h'] at hf
  case none.some => cases hf
  case some.none => cases hf
  case some.some t t' =>
    have ht : t'.skeleton = t.skeleton := Option.some.inj hf
    dsimp only
    rw [← sources_skeleton, ht, sources_skeleton]

-- The files of the sources, of which there are none at a place that cannot be named.
def files (d : Disk) (extensions : Extensions) (root : Path) : List Path :=
  (scan? d extensions root).getD []

def effective (extensions : Extensions) : Extensions :=
  if extensions.isEmpty then defaultExtensions else extensions

theorem files_eq_map (hd : d.WellFormed) (extensions : Extensions) (root : Path) :
    ∃ nss : List (List String), files d extensions root = nss.map root.below ∧ nss.Nodup ∧
      ∀ ns ∈ nss, ∃ t, d.find? root = some t ∧ Reaches (effective extensions) t ns := by
  unfold files scan?
  dsimp only
  split
  case isTrue => exact ⟨[], rfl, List.nodup_nil, by simp⟩
  case isFalse =>
    cases h : d.find? root
    case none => exact ⟨[], rfl, List.nodup_nil, by simp⟩
    case some t =>
      have hw := hd.find? h
      exact ⟨sources (effective extensions) t, rfl, sources_nodup hw,
        fun ns hn => ⟨t, rfl, reaches_of_mem_sources hw hn⟩⟩

theorem files_nodup (hd : d.WellFormed) : (files d extensions root).Nodup := by
  have ⟨nss, he, hn, _⟩ := files_eq_map hd extensions root
  rw [he]
  exact hn.map fun ns ns' hb => by simpa [Path.below] using hb

theorem descends_of_mem_files (hd : d.WellFormed) (hp : p ∈ files d extensions root) :
    root.Descends p := by
  have ⟨nss, he, _, hr⟩ := files_eq_map hd extensions root
  rw [he] at hp
  have ⟨ns, hn, hb⟩ := List.mem_map.mp hp
  have ⟨_, _, hr⟩ := hr ns hn
  exact hb ▸ .below ns hr.source.1 hr.named

theorem isSource_of_mem_files (hd : d.WellFormed) (hp : p ∈ files d extensions root) :
    isSource (effective extensions) p.name := by
  have ⟨nss, he, _, hr⟩ := files_eq_map hd extensions root
  rw [he] at hp
  have ⟨ns, hn, hb⟩ := List.mem_map.mp hp
  have ⟨_, _, hr⟩ := hr ns hn
  have ⟨hne, hs⟩ := hr.source
  rwa [← hb, Path.name_below hne]

theorem exists_read_of_mem_files (hd : d.WellFormed) (hp : p ∈ files d extensions root) :
    ∃ content, d.read? p = some content := by
  have ⟨nss, he, _, hr⟩ := files_eq_map hd extensions root
  rw [he] at hp
  have ⟨ns, hn, hb⟩ := List.mem_map.mp hp
  have ⟨t, ht, hr⟩ := hr ns hn
  have ⟨content, hc⟩ := hr.file
  refine ⟨content, ?_⟩
  rw [Disk.read?_eq_some_iff, ← hb, Disk.find?_below ht (Path.not_back_mem hr.named), hc]

theorem files_of_skeleton_eq (hr : d'.root.skeleton = d.root.skeleton) (hc : d'.cwd = d.cwd) :
    files d' extensions root = files d extensions root := by
  rw [files, scan?_of_skeleton_eq hr hc, files]

end ComponentCatalog.Scan
