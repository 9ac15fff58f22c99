import ComponentCatalog.Proofs.Scan
import Mathlib.Data.List.Lex
import Mathlib.Data.String.Basic

namespace ComponentCatalog.Scan

open FileTree (WellFormed)
open ComponentCatalog.Path (IsName)

variable {α : Type} {extensions : Extensions} {t : FileTree} {name : String}
  {names : List String} {nss nss' : List (List String)} {d d' : Disk} {p root : Path}

-- Names are compared by their code points, and lists of names by the first name that differs. This
-- is not the order of the texts of paths, in which `dir-a/x.ts` stands before `dir/x.ts`.
def Precedes : List String → List String → Prop :=
  List.Lex (· < ·)

instance : Std.Asymm Precedes :=
  inferInstanceAs <| Std.Asymm <| List.Lex (· < ·)

theorem byName_perm (es : List (String × α)) : (byName es).Perm es :=
  List.mergeSort_perm es _

theorem byName_pairwise {es : List (String × α)} (hd : (es.map Prod.fst).Nodup) :
    (byName es).Pairwise fun a b => a.1 < b.1 := by
  have hle : (byName es).Pairwise fun a b => !decide (b.1 < a.1) := by
    refine List.pairwise_mergeSort (fun a b c hab hbc => ?_) (fun a b => ?_) es
    case refine_1 =>
      simp only [Bool.not_eq_true', decide_eq_false_iff_not, not_lt] at hab hbc ⊢
      exact hab.trans hbc
    case refine_2 =>
      simp only [Bool.or_eq_true, Bool.not_eq_true', decide_eq_false_iff_not, not_lt]
      exact le_total a.1 b.1
  have hne : ((byName es).map Prod.fst).Nodup := ((byName_perm es).map Prod.fst).nodup_iff.mpr hd
  refine hle.imp₂ (fun a b hab hne => ?_) (List.pairwise_map.mp hne)
  simp only [Bool.not_eq_true', decide_eq_false_iff_not, not_lt] at hab
  exact lt_of_le_of_ne hab hne

-- Nothing else that holds these entries is in order.
theorem byName_eq {es es' : List (String × α)} (hp : es'.Perm es)
    (hs : es'.Pairwise fun a b => a.1 < b.1) : byName es = es' := by
  have hd : (es.map Prod.fst).Nodup :=
    (hp.map Prod.fst).nodup_iff.mp <| List.pairwise_map.mpr <| hs.imp ne_of_lt
  refine ((byName_perm es).trans hp.symm).eq_of_pairwise ?_ (byName_pairwise hd) hs
  exact fun a b _ _ hlt hgt => absurd hgt (lt_asymm hlt)

theorem found_pairwise (h : (sources extensions t).Pairwise Precedes) :
    (found extensions name t).Pairwise Precedes := by
  cases t
  case file =>
    rw [found]
    split
    case isTrue  => exact List.pairwise_singleton _ _
    case isFalse => exact .nil
  case folder =>
    rw [found_folder]
    exact List.pairwise_map.mpr <| h.imp fun hl => .cons hl

-- What is below one entry of a folder stands before what is below the next one, since the first of
-- the names decides.
theorem sources_pairwise (hw : t.WellFormed) : (sources extensions t).Pairwise Precedes := by
  induction hw
  case file => exact .nil
  case folder es hd _ _ hi =>
    have hf : ∀ e ∈ byName (foundEach extensions es), ∃ t, (e.1, t) ∈ es ∧
        e.2 = found extensions e.1 t := by
      intro e he
      rw [(byName_perm _).mem_iff, foundEach_eq_map] at he
      obtain ⟨⟨n, t⟩, hm, rfl⟩ := List.mem_map.mp he
      exact ⟨t, hm, rfl⟩
    have hk : ((foundEach extensions es).map Prod.fst).Nodup := by
      rw [foundEach_eq_map, List.map_map]
      exact hd
    rw [sources, List.pairwise_flatMap]
    refine ⟨fun e he => ?_, (byName_pairwise hk).imp_of_mem fun he he' hlt ns hn ns' hn' => ?_⟩
    case refine_1 =>
      obtain ⟨t, hm, heq⟩ := hf e he
      exact heq ▸ found_pairwise (hi _ hm)
    case refine_2 =>
      obtain ⟨t, _, heq⟩ := hf _ he
      obtain ⟨t', _, heq'⟩ := hf _ he'
      have hh := head?_of_mem_found (heq ▸ hn)
      have hh' := head?_of_mem_found (heq' ▸ hn')
      obtain ⟨tl, rfl⟩ := List.head?_eq_some_iff.mp hh
      obtain ⟨tl', rfl⟩ := List.head?_eq_some_iff.mp hh'
      exact .rel hlt

theorem mem_found_file {content : ByteArray} :
    names ∈ found extensions name (.file content) ↔ isSource extensions name ∧ names = [name] := by
  rw [found]
  split
  case isTrue h  => simp [h]
  case isFalse h => simp [h]

-- Every file with a right name is found.
theorem mem_sources_of_at? {content : ByteArray} (h : t.at? names = some (.file content))
    (hn : names ≠ []) (hs : isSource extensions (names.getLast hn)) :
    names ∈ sources extensions t := by
  induction names generalizing t
  case nil => contradiction
  case cons n ns hi =>
    have ⟨c, hc, ha⟩ := Option.bind_eq_some_iff.mp h
    cases t
    case file => cases hc
    case folder es =>
      refine mem_sources_folder.mpr ⟨(n, c), mem_of_lookup hc, ?_⟩
      by_cases hns : ns = []
      case pos =>
        subst hns
        cases Option.some.inj ha
        exact mem_found_file.mpr ⟨hs, rfl⟩
      case neg =>
        cases c
        case file =>
          have ⟨m, ms, hm⟩ := List.exists_cons_of_ne_nil hns
          rw [hm] at ha
          cases ha
        case folder =>
          rw [found_folder]
          rw [List.getLast_cons hns] at hs
          exact List.mem_map_of_mem (hi ha hns hs)

-- A source below a folder: a file that is reached by names, the last of which has a right ending.
structure IsBelow (d : Disk) (extensions : Extensions) (root : Path) (names : List String) :
    Prop where
  named : ∀ n ∈ names, IsName n
  last  : ∃ name ∈ names.getLast?, ∃ e ∈ extensions, e.toList <:+ name.toList
  file  : ∃ content, d.read? (root.below names) = some content

theorem IsBelow.of_read? (hr : ∀ p, d'.read? p = d.read? p)
    (h : IsBelow d extensions root names) : IsBelow d' extensions root names where
  named := h.named
  last  := h.last
  file  := hr _ ▸ h.file

theorem isBelow_iff (hd : d.WellFormed) :
    IsBelow d extensions root names ↔
      ∃ t, d.find? root = some t ∧ names ∈ sources extensions t := by
  constructor
  case mp =>
    intro ⟨hn, ⟨name, hl, he⟩, content, hc⟩
    have ⟨hne, hl⟩ := List.mem_getLast?_eq_getLast hl
    rw [Disk.read?_eq_some_iff, Disk.find?_below_eq (Path.not_back_mem hn)] at hc
    have ⟨t, ht, ha⟩ := Option.bind_eq_some_iff.mp hc
    exact ⟨t, ht, mem_sources_of_at? ha hne (isSource_iff.mpr (hl ▸ he))⟩
  case mpr =>
    intro ⟨t, ht, hm⟩
    have hr := reaches_of_mem_sources (hd.find? ht) hm
    have ⟨content, hc⟩ := hr.file
    have ⟨hne, hs⟩ := hr.source
    refine ⟨hr.named, ⟨_, List.getLast?_eq_some_getLast hne, isSource_iff.mp hs⟩, content, ?_⟩
    rw [Disk.read?_eq_some_iff, Disk.find?_below ht (Path.not_back_mem hr.named), hc]

-- A scan of a disk, for a list of extensions that is not empty.
structure Ordered (d : Disk) (extensions : Extensions) (root : Path) : Prop where
  listing : root.hasNul = false → ∃ nss : List (List String),
    scan? d extensions root = some (nss.map root.below) ∧
      (∀ names, names ∈ nss ↔ IsBelow d extensions root names) ∧ nss.Pairwise Precedes
  -- Neither a missing root nor a file has anything below it.
  bare    : root.hasNul = false → (∀ es, d.find? root ≠ some (.folder es)) →
    scan? d extensions root = some []
  -- The files decide, and not the order in which folders keep their entries.
  files   : ∀ d', d'.WellFormed → (∀ p, d'.read? p = d.read? p) →
    scan? d' extensions root = scan? d extensions root
  refused : root.hasNul → scan? d extensions root = none

theorem eq_of_pairwise (h : nss.Pairwise Precedes) (h' : nss'.Pairwise Precedes)
    (he : ∀ names, names ∈ nss ↔ names ∈ nss') : nss = nss' := by
  have hn : ∀ {nss : List (List String)}, nss.Pairwise Precedes → nss.Nodup := by
    refine fun h => h.imp ?_
    rintro ns _ hl rfl
    exact asymm hl hl
  have hp : nss.Perm nss' := (List.perm_ext_iff_of_nodup (hn h) (hn h')).mpr he
  exact hp.eq_of_pairwise (fun _ _ _ _ hl hl' => absurd hl' (asymm hl)) h h'

theorem scan?_eq (he : extensions ≠ []) (hn : root.hasNul = false) :
    scan? d extensions root =
      some (((d.find? root).elim [] (sources extensions)).map root.below) := by
  have hx : extensions.isEmpty = false := by simpa using he
  simp only [scan?, hx, hn, Bool.false_eq_true, if_false]
  cases d.find? root <;> rfl

theorem mem_files (hd : d.WellFormed) (he : extensions ≠ []) (hn : root.hasNul = false)
    (h : IsBelow d extensions root names) : root.below names ∈ files d extensions root := by
  have ⟨t, ht, hm⟩ := (isBelow_iff hd).mp h
  rw [files, scan?_eq he hn, ht]
  exact List.mem_map_of_mem hm

theorem scan_ordered (hd : d.WellFormed) (he : extensions ≠ []) (root : Path) :
    Ordered d extensions root := by
  have hm : ∀ {d : Disk}, d.WellFormed → ∀ names,
      names ∈ (d.find? root).elim [] (sources extensions) ↔ IsBelow d extensions root names := by
    intro d hd names
    rw [isBelow_iff hd]
    cases d.find? root <;> simp
  have hp : ∀ {d : Disk}, d.WellFormed →
      ((d.find? root).elim [] (sources extensions)).Pairwise Precedes := by
    intro d hd
    cases h : d.find? root
    case none   => exact .nil
    case some t => exact sources_pairwise (hd.find? h)
  constructor
  case listing => exact fun hn => ⟨_, scan?_eq he hn, hm hd, hp hd⟩
  case bare =>
    intro hn hb
    rw [scan?_eq he hn]
    cases h : d.find? root
    case none   => rfl
    case some t =>
      cases t
      case file      => rfl
      case folder es => exact absurd h (hb es)
  case files =>
    intro d' hd' hr
    cases hn : root.hasNul
    case true => simp [scan?, hn]
    case false =>
      have hb : ∀ names, IsBelow d' extensions root names ↔ IsBelow d extensions root names :=
        fun _ => ⟨.of_read? fun p => (hr p).symm, .of_read? hr⟩
      rw [scan?_eq he hn, scan?_eq he hn, eq_of_pairwise (hp hd') (hp hd) fun names => by
        rw [hm hd', hm hd, hb]]
  case refused => exact fun hn => by simp [scan?, hn]

-- The folder `a-b` comes after what is in `a`, and a folder is searched whatever its name.
def attic : Disk where
  root := .folder [
    ("b.ts", .folder [("y.ts", .file .empty)]),
    ("a-b", .folder [("x.tsx", .file .empty)]),
    ("a", .folder [("z.ts", .file .empty), ("a.md", .file .empty)])]
  cwd  := []

theorem wellFormed_of_files {es : List (String × FileTree)} (hd : (es.map Prod.fst).Nodup)
    (hn : ∀ e ∈ es, IsName e.1) (hf : ∀ e ∈ es, ∃ content, e.2 = .file content) :
    (FileTree.folder es).WellFormed :=
  .folder hd hn fun e he => have ⟨content, h⟩ := hf e he; h ▸ .file content

theorem attic_wellFormed : attic.WellFormed where
  cwd  := by simp [attic]
  root := by
    refine .folder (by decide) (by decide) ?_
    simp only [List.forall_mem_cons]
    exact ⟨wellFormed_of_files (by decide) (by decide) (by simp),
      wellFormed_of_files (by decide) (by decide) (by simp),
      wellFormed_of_files (by decide) (by decide) (by simp), by simp⟩

theorem sources_attic :
    sources defaultExtensions attic.root =
      [["a", "z.ts"], ["a-b", "x.tsx"], ["b.ts", "y.ts"]] := by
  have ha : byName (foundEach defaultExtensions
      [("z.ts", .file .empty), ("a.md", .file .empty)]) =
      [("a.md", []), ("z.ts", [["z.ts"]])] := byName_eq (by decide) (by decide)
  have hx : byName (foundEach defaultExtensions [("x.tsx", .file .empty)]) =
      [("x.tsx", [["x.tsx"]])] := byName_eq (by decide) (by decide)
  have hy : byName (foundEach defaultExtensions [("y.ts", .file .empty)]) =
      [("y.ts", [["y.ts"]])] := byName_eq (by decide) (by decide)
  have hr : byName
      [("b.ts", [["b.ts", "y.ts"]]), ("a-b", [["a-b", "x.tsx"]]), ("a", [["a", "z.ts"]])] =
      [("a", [["a", "z.ts"]]), ("a-b", [["a-b", "x.tsx"]]), ("b.ts", [["b.ts", "y.ts"]])] :=
    byName_eq (by decide) (by decide)
  rw [attic, sources, foundEach, foundEach, foundEach, foundEach, found, found, found, ha, hx, hy]
  exact congrArg (List.flatMap Prod.snd) hr

theorem scan_ordered_attic :
    attic.WellFormed ∧ defaultExtensions ≠ [] ∧ Ordered attic defaultExtensions ⟨.none, []⟩ ∧
      scan? attic defaultExtensions ⟨.none, []⟩ =
        some [⟨.none, ["a", "z.ts"]⟩, ⟨.none, ["a-b", "x.tsx"]⟩, ⟨.none, ["b.ts", "y.ts"]⟩] := by
  refine ⟨attic_wellFormed, by decide, scan_ordered attic_wellFormed (by decide) _, ?_⟩
  have hf : attic.find? ⟨.none, []⟩ = some attic.root := rfl
  rw [scan?_eq (by decide) (by decide), hf, Option.elim_some, sources_attic]
  rfl

-- A path that no entry can have is not found, but not scanned either.
theorem unnameable_refused :
    attic.find? ⟨.none, ["a\x00"]⟩ = none ∧
      scan? attic defaultExtensions ⟨.none, ["a\x00"]⟩ ≠ some [] := by
  decide

end ComponentCatalog.Scan
