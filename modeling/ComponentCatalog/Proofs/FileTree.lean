import ComponentCatalog.FileTree
import ComponentCatalog.Proofs.Lookup
import ComponentCatalog.Proofs.Path

namespace ComponentCatalog

open ComponentCatalog.Path (IsName)

namespace FileTree

-- The entries of a folder have different names.
inductive WellFormed : FileTree → Prop
  | file (content : ByteArray) : WellFormed (.file content)
  | folder {es : List (String × FileTree)} : (es.map Prod.fst).Nodup → (∀ e ∈ es, IsName e.1) →
    (∀ e ∈ es, WellFormed e.2) → WellFormed (.folder es)

-- What is found straight down.
def at? (t : FileTree) : List String → Option FileTree
  | []      => some t
  | s :: ss => (t.child? s).bind (·.at? ss)

variable {t u c new root : FileTree} {above : List FileTree} {place ss names : List String}
  {s s' : String} {es : List (String × FileTree)} {content old : ByteArray}

theorem at?_cons : t.at? (s :: ss) = (t.child? s).bind (·.at? ss) := rfl

theorem at?_append : t.at? (place ++ ss) = (t.at? place).bind (·.at? ss) := by
  induction place generalizing t
  case nil => rfl
  case cons s place hi =>
    rw [List.cons_append, at?, at?]
    cases t.child? s
    case none   => rfl
    case some c => exact hi

theorem at?_concat (h : t.at? place = some u) : t.at? (place ++ [s]) = u.child? s := by
  rw [at?_append, h, Option.bind_some, at?_cons]
  cases u.child? s <;> rfl

theorem WellFormed.child? (hw : t.WellFormed) (h : t.child? s = some c) : c.WellFormed := by
  cases hw
  case file           => cases h
  case folder hes     => exact hes _ <| mem_of_lookup h

theorem WellFormed.at? (hw : t.WellFormed) (h : t.at? ss = some u) : u.WellFormed := by
  induction ss generalizing t
  case nil => exact Option.some.inj h ▸ hw
  case cons s ss hi =>
    have ⟨c, hc, ha⟩ := Option.bind_eq_some_iff.mp h
    exact hi (hw.child? hc) ha

theorem walk?_back_file : walk? above (.file content) (".." :: ss) = none := by
  rw [walk?.eq_def]
  rfl

theorem walk?_back :
    walk? above (.folder es) (".." :: ss) = walk? above.tail (above.headD (.folder es)) ss := by
  rw [walk?.eq_def]
  cases above <;> rfl

theorem walk?_down (h : s ≠ "..") :
    walk? above t (s :: ss) = (t.child? s).bind (walk? (t :: above) · ss) := by
  rw [walk?.eq_def]
  simp only [if_neg h]
  cases t.child? s <;> rfl

theorem walk?_of_straight (h : ".." ∉ names) : walk? above t names = t.at? names := by
  induction names generalizing above t
  case nil => rw [walk?, at?]
  case cons n ns hi =>
    have ⟨hn, hns⟩ := List.ne_and_not_mem_of_not_mem_cons h
    rw [walk?_down hn.symm, at?_cons]
    exact congrArg _ <| funext fun _ => hi hns

theorem walk?_append (h : ".." ∉ names) :
    walk? above t (ss ++ names) = (walk? above t ss).bind (·.at? names) := by
  induction ss generalizing above t
  case nil => rw [List.nil_append, walk?_of_straight h, walk?, Option.bind_some]
  case cons s ss hi =>
    by_cases hs : s = ".."
    case neg =>
      rw [List.cons_append, walk?_down hs, walk?_down hs, Option.bind_assoc]
      exact congrArg _ <| funext fun _ => hi
    case pos =>
      subst hs
      cases t
      case file   => rw [List.cons_append, walk?_back_file, walk?_back_file, Option.bind_none]
      case folder => rw [List.cons_append, walk?_back, walk?_back, hi]

-- A walk from the root that has come to `t` is at `place`, with the folders of `above` around it.
inductive Trail (root : FileTree) : List String → List FileTree → FileTree → Prop
  | here : Trail root [] [] root
  | down {place : List String} {above : List FileTree} {t c : FileTree} (s : String) :
    Trail root place above t → t.child? s = some c → Trail root (place ++ [s]) (t :: above) c

theorem Trail.at? (h : Trail root place above t) : root.at? place = some t := by
  induction h
  case here         => rfl
  case down hc hi => rw [at?_concat hi, hc]

theorem Trail.back (h : Trail root place above (.folder es)) :
    Trail root place.dropLast above.tail (above.headD (.folder es)) := by
  cases h
  case here        => exact .here
  case down ht _ => rwa [List.dropLast_concat]

-- Since there are no links, a way back leads to where the names say.
theorem Trail.walk? (h : Trail root place above t) (hw : FileTree.walk? above t ss = some u) :
    root.at? (ss.foldl Path.descend place) = some u := by
  induction ss generalizing place above t
  case nil => exact h.at?.trans (by rwa [FileTree.walk?] at hw)
  case cons s ss hi =>
    rw [List.foldl_cons, Path.descend]
    by_cases hs : s = ".."
    case neg =>
      rw [walk?_down hs] at hw
      obtain ⟨c, hc, hw⟩ := Option.bind_eq_some_iff.mp hw
      rw [if_neg hs]
      exact hi (h.down s hc) hw
    case pos =>
      subst hs
      cases t
      case file => rw [walk?_back_file] at hw; cases hw
      case folder =>
        rw [walk?_back] at hw
        exact hi h.back hw

mutual

-- The tree with nothing in its files.
def skeleton : FileTree → FileTree
  | .file _    => .file .empty
  | .folder es => .folder (skeletonEach es)

def skeletonEach : List (String × FileTree) → List (String × FileTree)
  | []           => []
  | (n, t) :: es => (n, t.skeleton) :: skeletonEach es

end

theorem lookup_skeletonEach : (skeletonEach es).lookup s = (es.lookup s).map skeleton := by
  induction es
  case nil => simp [skeletonEach]
  case cons e es hi =>
    rw [skeletonEach, lookup_cons_eq_ite, lookup_cons_eq_ite, hi]
    split <;> rfl

theorem child?_skeleton : t.skeleton.child? s = (t.child? s).map skeleton := by
  cases t
  case file   => simp [skeleton, child?]
  case folder => simp [skeleton, child?, lookup_skeletonEach]

theorem walk?_skeleton :
    walk? (above.map skeleton) t.skeleton ss = (walk? above t ss).map skeleton := by
  induction ss generalizing above t
  case nil => rw [walk?, walk?, Option.map_some]
  case cons s ss hi =>
    by_cases hs : s = ".."
    case neg =>
      rw [walk?_down hs, walk?_down hs, child?_skeleton, Option.bind_map, Option.map_bind]
      exact congrArg _ <| funext fun c => @hi c (t :: above)
    case pos =>
      subst hs
      cases t
      case file   => rw [skeleton, walk?_back_file, walk?_back_file, Option.map_none]
      case folder =>
        rw [skeleton, walk?_back, walk?_back, ← hi]
        cases above <;> simp [skeleton]

theorem lookup_setEntry :
    (setEntry s u es).lookup s' = if s' = s then some u else es.lookup s' := by
  induction es
  case nil          => rw [setEntry, lookup_cons_eq_ite]
  case cons e es hi => grind [setEntry, lookup_cons_eq_ite]

theorem skeletonEach_setEntry (h : es.lookup s = some t) (hu : u.skeleton = t.skeleton) :
    skeletonEach (setEntry s u es) = skeletonEach es := by
  induction es
  case nil => simp at h
  case cons e es hi =>
    rw [lookup_cons_eq_ite] at h
    rw [setEntry]
    by_cases he : e.1 = s
    case pos =>
      rw [if_pos he.symm, Option.some.injEq] at h
      rw [if_pos he, skeletonEach, skeletonEach, hu, h]
    case neg =>
      rw [if_neg (Ne.symm he)] at h
      rw [if_neg he, skeletonEach, skeletonEach, hi h]

theorem write_cons (content : ByteArray) :
    write content (s :: ss) (.folder es) =
      .folder (setEntry s (write content ss ((es.lookup s).getD (.folder []))) es) := rfl

-- New contents for a file change neither the shape of the tree nor any other file.
theorem skeleton_write (h : t.at? place = some (.file old)) :
    (t.write content place).skeleton = t.skeleton := by
  induction place generalizing t
  case nil =>
    cases Option.some.inj h
    simp [write, put, skeleton]
  case cons s ss hi =>
    have ⟨c, hc, ha⟩ := Option.bind_eq_some_iff.mp h
    cases t
    case file   => cases hc
    case folder es =>
      rw [write_cons, skeleton, skeleton, skeletonEach_setEntry hc]
      rw [show es.lookup s = some c from hc]
      exact hi ha

theorem at?_write_of_ne {new : ByteArray} (h : t.at? place = some (.file old))
    (hn : t.at? names = some (.file content)) (hne : names ≠ place) :
    (t.write new place).at? names = some (.file content) := by
  induction place generalizing t names
  case nil =>
    cases Option.some.inj h
    cases names
    case nil  => contradiction
    case cons => cases hn
  case cons s ss hi =>
    have ⟨c, hc, ha⟩ := Option.bind_eq_some_iff.mp h
    cases t
    case file => cases hc
    case folder es =>
      cases names
      case nil => cases hn
      case cons n ns =>
        have ⟨c', hc', ha'⟩ := Option.bind_eq_some_iff.mp hn
        rw [write_cons, at?_cons, child?, lookup_setEntry]
        by_cases he : n = s
        case neg =>
          rw [if_neg he]
          exact hn
        case pos =>
          subst he
          cases hc.symm.trans hc'
          rw [if_pos rfl, show es.lookup n = some c from hc]
          exact hi ha ha' fun he => hne (he ▸ rfl)

theorem names_setEntry :
    (setEntry s u es).map Prod.fst =
      if s ∈ es.map Prod.fst then es.map Prod.fst else es.map Prod.fst ++ [s] := by
  induction es
  case nil          => simp [setEntry]
  case cons e es hi => grind [setEntry]

theorem mem_setEntry {e : String × FileTree} (h : e ∈ setEntry s u es) : e = (s, u) ∨ e ∈ es := by
  induction es
  case nil          => exact .inl <| List.mem_singleton.mp h
  case cons e es hi => grind [setEntry]

namespace WellFormed

theorem empty : (FileTree.folder []).WellFormed :=
  .folder List.nodup_nil (by simp) (by simp)

theorem setEntry (hw : (FileTree.folder es).WellFormed) (hs : IsName s) (hu : u.WellFormed) :
    (FileTree.folder (setEntry s u es)).WellFormed := by
  cases hw
  case folder hd hn hes =>
    refine .folder ?_ (fun e he => ?_) (fun e he => ?_)
    case refine_1 =>
      rw [names_setEntry]
      split
      case isTrue    => exact hd
      case isFalse h => exact List.nodup_append.mpr ⟨hd, List.nodup_singleton s, by grind⟩
    all_goals rcases mem_setEntry he with rfl | he
    case refine_2.inl => exact hs
    case refine_2.inr => exact hn e he
    case refine_3.inl => exact hu
    case refine_3.inr => exact hes e he

theorem put (hw : t.WellFormed) (hn : new.WellFormed) (hp : ∀ s ∈ place, IsName s) :
    (put new place t).WellFormed := by
  induction place generalizing t
  case nil => exact hn
  case cons s ss hi =>
    have ⟨hs, hss⟩ := List.forall_mem_cons.mp hp
    cases t
    case file      => exact empty.setEntry hs (hi empty hss)
    case folder es =>
      refine hw.setEntry hs (hi ?_ hss)
      cases h : es.lookup s
      case none   => exact empty
      case some c => exact hw.child? h

theorem addFolder (hw : t.WellFormed) (hp : ∀ s ∈ place, IsName s) :
    (t.addFolder place).WellFormed := by
  rw [FileTree.addFolder]
  split
  case _ => exact hw
  case _ => exact hw.put empty hp

theorem delete (hw : t.WellFormed) : (delete place t).WellFormed := by
  fun_induction FileTree.delete place t
  case case1 s es =>
    cases hw
    case folder hd hn hes =>
      refine .folder (hd.sublist <| List.filter_sublist.map _) (fun e he => ?_) (fun e he => ?_)
      case refine_1 => exact hn e (List.mem_filter.mp he).1
      case refine_2 => exact hes e (List.mem_filter.mp he).1
  case case2 s ss es _ c hc hi =>
    have hs : IsName s := by
      cases hw
      case folder hn _ => exact hn _ (mem_of_lookup hc)
    exact hw.setEntry hs <| hi (hw.child? hc)
  all_goals exact hw

theorem isName_of_at? (hw : t.WellFormed) (h : t.at? place = some u) : ∀ s ∈ place, IsName s := by
  induction place generalizing t
  case nil => simp
  case cons s ss hi =>
    have ⟨c, hc, ha⟩ := Option.bind_eq_some_iff.mp h
    refine List.forall_mem_cons.mpr ⟨?_, hi (hw.child? hc) ha⟩
    cases hw
    case file        => cases hc
    case folder hn _ => exact hn _ (mem_of_lookup hc)

end WellFormed
end FileTree
end ComponentCatalog
