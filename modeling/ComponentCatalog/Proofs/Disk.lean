import ComponentCatalog.Proofs.FileTree
import ComponentCatalog.Snapshot

namespace ComponentCatalog

open ComponentCatalog.Path (IsName)

namespace Disk

-- The entries can be told apart by their paths.
structure WellFormed (d : Disk) : Prop where
  root : d.root.WellFormed
  cwd  : ∀ n ∈ d.cwd, IsName n

variable {d d' : Disk} {p q : Path} {t : FileTree} {names : List String}
  {old content new : ByteArray}

theorem find?_below_eq (hn : ".." ∉ names) :
    d.find? (p.below names) = (d.find? p).bind (·.at? names) := by
  rw [find?, find?, show (p.below names).isAbsolute = p.isAbsolute from rfl, Path.below]
  split
  case isTrue  => rw [FileTree.walk?_append hn]
  case isFalse => rw [← List.append_assoc, FileTree.walk?_append hn]

theorem find?_below (h : d.find? p = some t) (hn : ".." ∉ names) :
    d.find? (p.below names) = t.at? names := by
  rw [find?_below_eq hn, h, Option.bind_some]

theorem read?_eq_some_iff : d.read? p = some content ↔ d.find? p = some (.file content) := by
  rw [read?]
  split
  case _ h => simp [h]
  case _ h => simpa using h content

theorem at?_of_find? (hc : ".." ∉ d.cwd) (h : d.find? p = some t) :
    d.root.at? (p.segments d.cwd) = some t := by
  rw [find?] at h
  have ht := FileTree.Trail.here.walk? h
  rw [Path.segments]
  split at h
  case isTrue ha  => rwa [if_pos ha] at ht ⊢
  case isFalse ha =>
    rw [if_neg ha] at ht ⊢
    rwa [List.foldl_append, Path.foldl_descend hc, List.nil_append] at ht

theorem WellFormed.not_back_mem (hd : d.WellFormed) : ".." ∉ d.cwd :=
  Path.not_back_mem hd.cwd

theorem WellFormed.find? (hd : d.WellFormed) (h : d.find? p = some t) : t.WellFormed :=
  hd.root.at? <| at?_of_find? hd.not_back_mem h

theorem map_skeleton_find? (hr : d'.root.skeleton = d.root.skeleton) (hc : d'.cwd = d.cwd) :
    (d'.find? p).map FileTree.skeleton = (d.find? p).map FileTree.skeleton := by
  rw [find?, find?, ← FileTree.walk?_skeleton, ← FileTree.walk?_skeleton, hr, hc]

namespace WellFormed

theorem write (hd : d.WellFormed) (hp : p.Clean) : (d.modify p (.write new)).WellFormed where
  root := hd.root.put (.file new) (Path.isName_segments hp hd.cwd)
  cwd  := hd.cwd

theorem delete (hd : d.WellFormed) : (d.modify p .delete).WellFormed where
  root := hd.root.delete
  cwd  := hd.cwd

end WellFormed

-- New contents for a file are found in this file only.
theorem read?_write_of_ne (hd : d.WellFormed) (hf : d.read? p = some old)
    (hq : d.read? q = some content) (hne : q.segments d.cwd ≠ p.segments d.cwd) :
    (d.modify p (.write new)).read? q = some content := by
  have hf := at?_of_find? hd.not_back_mem <| read?_eq_some_iff.mp hf
  have hq := read?_eq_some_iff.mp hq
  have hs : ((d.modify p (.write new)).find? q).map FileTree.skeleton =
      (d.find? q).map FileTree.skeleton := map_skeleton_find? (FileTree.skeleton_write hf) rfl
  rw [hq, Option.map_some] at hs
  have ⟨t, ht, he⟩ := Option.map_eq_some_iff.mp hs
  cases t
  case folder => simp [FileTree.skeleton] at he
  case file c =>
    have hc : (d.modify p (.write new)).root.at? (q.segments d.cwd) = some (.file c) :=
      at?_of_find? hd.not_back_mem ht
    have hq := at?_of_find? hd.not_back_mem hq
    cases hc.symm.trans (FileTree.at?_write_of_ne hf hq hne)
    exact read?_eq_some_iff.mpr ht

end Disk

namespace Snapshot

structure Clean (s : Snapshot) : Prop where
  cwd     : s.cwd.Clean
  files   : ∀ f ∈ s.files, f.1.Clean
  folders : ∀ p ∈ s.folders, p.Clean

variable {s : Snapshot} {v : Json}

theorem clean_of_path? {p : Path} (h : path? v = some p) : p.Clean := by
  simp only [path?] at h
  split at h
  case _ => exact Option.some.inj h ▸ Path.clean_ofString _
  case _ => cases h

theorem clean_of_file? {f : Path × String} (h : file? v = some f) : f.1.Clean := by
  simp only [file?] at h
  split at h
  case _ => exact Option.some.inj h ▸ Path.clean_ofString _
  case _ => cases h

theorem forall_mem_of_mapM {f : Json → Option α} {P : α → Prop} {vs : List Json} {xs : List α}
    (hf : ∀ v x, f v = some x → P x) (h : vs.mapM f = some xs) : ∀ x ∈ xs, P x := by
  induction vs generalizing xs
  case nil => cases h; simp
  case cons v vs hi =>
    simp only [List.mapM_cons, Option.bind_eq_bind, Option.bind_eq_some_iff, Option.pure_def,
      Option.some.injEq] at h
    have ⟨x, hx, ys, hys, he⟩ := h
    exact he ▸ List.forall_mem_cons.mpr ⟨hf v x hx, hi hys⟩

theorem clean_of_ofJson? (h : ofJson? v = some s) : s.Clean := by
  simp only [ofJson?, Option.bind_eq_bind, Option.bind_eq_some_iff, Option.pure_def,
    Option.some.injEq] at h
  have ⟨_, _, _, hc, _, _, _, hf, _, _, _, hd, he⟩ := h
  subst he
  exact ⟨clean_of_path? hc, forall_mem_of_mapM (fun _ _ => clean_of_file?) hf,
    forall_mem_of_mapM (fun _ _ => clean_of_path?) hd⟩

theorem disk_wellFormed (hs : s.Clean) : s.disk.WellFormed := by
  have hc : ∀ n ∈ s.cwd.segments [], IsName n := Path.isName_segments hs.cwd (by simp)
  have hn : ∀ p : Path, p.Clean → ∀ n ∈ p.segments (s.cwd.segments []), IsName n :=
    fun p hp => Path.isName_segments hp hc
  refine ⟨List.foldlRecOn s.files _ (List.foldlRecOn s.folders _ (.addFolder .empty hc) ?_) ?_, hc⟩
  case refine_1 => exact fun t ht p hp => ht.addFolder (hn p (hs.folders p hp))
  case refine_2 => exact fun t ht f hf => ht.put (.file _) (hn f.1 (hs.files f hf))

end Snapshot
end ComponentCatalog
