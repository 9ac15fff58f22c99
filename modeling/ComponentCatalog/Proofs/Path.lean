import ComponentCatalog.Path
import ComponentCatalog.Proofs.Text.Split

namespace ComponentCatalog

namespace Path

-- What an entry of a folder can be called.
structure IsName (s : String) : Prop where
  nonempty : s ≠ ""
  notHere  : s ≠ "."
  notBack  : s ≠ ".."
  noSlash  : '/' ∉ s.toList

instance : DecidablePred IsName := fun s =>
  decidable_of_iff (s ≠ "" ∧ s ≠ "." ∧ s ≠ ".." ∧ '/' ∉ s.toList)
    ⟨fun ⟨h₁, h₂, h₃, h₄⟩ => ⟨h₁, h₂, h₃, h₄⟩, fun ⟨h₁, h₂, h₃, h₄⟩ => ⟨h₁, h₂, h₃, h₄⟩⟩

variable {p root : Path} {cwd place as bs common common' up up' names names' : List String}
  {s : String}

-- Every part leads back or is a name.
def Clean (p : Path) : Prop :=
  ∀ s ∈ p.parts, s = ".." ∨ IsName s

theorem clean_ofString (s : String) : (ofString s).Clean := by
  intro part hp
  have ⟨hm, hne⟩ := List.mem_filter.mp hp
  have ⟨piece, hs, hpart⟩ := List.mem_map.mp hm
  subst hpart
  have hne := decide_eq_true_iff.mp hne
  by_cases hb : String.ofList piece = ".."
  case pos => exact .inl hb
  case neg => exact .inr ⟨hne.1, hne.2, hb, by simpa using Text.not_mem_of_mem_splitOn hs⟩

def below (p : Path) (names : List String) : Path :=
  { p with parts := p.parts ++ names }

theorem not_back_mem (h : ∀ n ∈ names, IsName n) : ".." ∉ names :=
  fun hm => (h _ hm).notBack rfl

theorem isName_segments (hp : p.Clean) (hc : ∀ n ∈ cwd, IsName n) :
    ∀ n ∈ p.segments cwd, IsName n := by
  have hb : ∀ n ∈ (if p.isAbsolute then [] else cwd), IsName n := by split <;> simp_all
  rw [segments]
  rw [Clean] at hp
  generalize (if p.isAbsolute then [] else cwd) = place at hb
  generalize p.parts = parts at hp
  induction parts generalizing place
  case nil          => exact hb
  case cons s ss hi =>
    have ⟨hs, hss⟩ := List.forall_mem_cons.mp hp
    refine hi (descend place s) ?_ hss
    rw [descend]
    split
    case isTrue      => exact fun n hn => hb n <| List.dropLast_subset _ hn
    case isFalse hne =>
      intro n hn
      rcases List.mem_append.mp hn with hn | hn
      case inl => exact hb n hn
      case inr => exact List.mem_singleton.mp hn ▸ hs.resolve_left hne

theorem foldl_descend (h : ".." ∉ names) : names.foldl descend place = place ++ names := by
  induction names generalizing place
  case nil          => simp
  case cons n ns hi =>
    have ⟨hn, hns⟩ := List.ne_and_not_mem_of_not_mem_cons h
    rw [List.foldl_cons, hi hns, descend, if_neg hn.symm, List.append_assoc, List.singleton_append]

theorem segments_below (h : ".." ∉ names) :
    (p.below names).segments cwd = p.segments cwd ++ names := by
  rw [segments, below, List.foldl_append, foldl_descend h]
  rfl

theorem name_below (hn : names ≠ []) : (p.below names).name = names.getLast hn := by
  simp [name, below, List.getLastD_eq_getLast?, List.getLast?_append,
    List.getLast?_eq_some_getLast hn]

theorem stemOf_ne_empty (h : s ≠ "") : stemOf s ≠ "" := by
  rw [stemOf]
  split
  case _ => simp [String.ext_iff]
  case _ => exact h

-- Either the ways part on the way to the folder, or the root lies in the folder or is it.
theorem detour_append (as bs : List String) :
    (∃ up, ∀ names, detour as (bs ++ names) = up ++ names) ∨
      ∃ as', ∀ names, detour as (bs ++ names) = detour as' names := by
  induction bs generalizing as
  case nil => exact .inr ⟨as, fun _ => rfl⟩
  case cons b bs hi =>
    cases as
    case nil => exact .inl ⟨b :: bs, fun _ => rfl⟩
    case cons a as =>
      by_cases he : a = b
      case pos => simpa [detour, he] using hi as
      case neg => exact .inl ⟨(a :: as).map (fun _ => "..") ++ b :: bs, by simp [detour, he]⟩

-- Where the ways to two places part, and how each goes on from there.
structure Fork (as bs common as' bs' : List String) : Prop where
  left  : as = common ++ as'
  right : bs = common ++ bs'
  last  : ∀ other, other <+: as → other <+: bs → other <+: common

theorem exists_fork (as bs : List String) :
    ∃ common as' bs', Fork as bs common as' bs' ∧
      detour as bs = List.replicate as'.length ".." ++ bs' := by
  fun_induction detour as bs
  case case1 as a bs hi =>
    have ⟨common, as', bs', hf, hd⟩ := hi
    refine ⟨a :: common, as', bs', ⟨by rw [hf.left, List.cons_append],
      by rw [hf.right, List.cons_append], fun other hl hr => ?_⟩, hd⟩
    cases other
    case nil => exact List.nil_prefix
    case cons o os =>
      rw [List.cons_prefix_cons] at hl hr ⊢
      exact ⟨hl.1, hf.last os hl.2 hr.2⟩
  case case2 a as b bs hne =>
    refine ⟨[], a :: as, b :: bs, ⟨rfl, rfl, fun other hl hr => ?_⟩, by rw [List.map_const']⟩
    cases other
    case nil => exact List.nil_prefix
    case cons =>
      rw [List.cons_prefix_cons] at hl hr
      exact absurd (hl.1.symm.trans hr.1) hne
  case case3 as bs hne =>
    refine ⟨[], as, bs, ⟨rfl, rfl, fun other hl hr => ?_⟩, by rw [List.map_const']⟩
    cases other
    case nil => exact List.nil_prefix
    case cons =>
      have ⟨_, hl⟩ := hl
      have ⟨_, hr⟩ := hr
      exact (hne _ _ _ _ hl.symm hr.symm).elim

theorem Fork.common_eq (h : Fork as bs common up names) (h' : Fork as bs common' up' names') :
    common = common' := by
  have hp : common <+: common' := h'.last common ⟨up, h.left.symm⟩ ⟨names, h.right.symm⟩
  have hp' : common' <+: common := h.last common' ⟨up', h'.left.symm⟩ ⟨names', h'.right.symm⟩
  exact hp.eq_of_length_le hp'.length_le

theorem detour_injective (h : ".." ∉ names) (h' : ".." ∉ names')
    (he : detour as names = detour as names') : names = names' := by
  have ⟨c, as₁, ns, hf, hd⟩ := exists_fork as names
  have ⟨c', as₂, ns', hf', hd'⟩ := exists_fork as names'
  rw [hd, hd'] at he
  have hc : ns.count ".." = 0 :=
    List.count_eq_zero.mpr fun hm => h <| hf.right ▸ List.mem_append_right _ hm
  have hc' : ns'.count ".." = 0 :=
    List.count_eq_zero.mpr fun hm => h' <| hf'.right ▸ List.mem_append_right _ hm
  -- The steps back can be counted, so that both ways leave the root at the same folder.
  have hl : as₁.length = as₂.length := by
    simpa [hc, hc'] using congrArg (List.count "..") he
  have ⟨_, hns⟩ := List.append_inj he (by simp [hl])
  have ⟨hcc, _⟩ := List.append_inj' (hf.left.symm.trans hf'.left) hl
  rw [hf.right, hf'.right, hcc, hns]

theorem mem_detour (h : s ∈ detour as names) : s = ".." ∨ s ∈ names := by
  have ⟨_, _, ns, hf, hd⟩ := exists_fork as names
  rw [hd, List.mem_append] at h
  rcases h with h | h
  case inl => exact .inl <| List.eq_of_mem_replicate h
  case inr => exact .inr <| hf.right ▸ List.mem_append_right _ h

theorem isStep_detour (hb : ∀ b ∈ bs, IsName b) :
    ∀ s ∈ detour as bs, s ≠ "" ∧ s ≠ "." ∧ '/' ∉ s.toList := by
  intro s hs
  rcases mem_detour hs with rfl | hs
  case inl => decide
  case inr => exact ⟨(hb s hs).nonempty, (hb s hs).notHere, (hb s hs).noSlash⟩

-- A way ends with a step back or where it leads.
theorem getLast?_detour (h : s ∈ (detour as bs).getLast?) : s = ".." ∨ bs.getLast? = some s := by
  have ⟨common, up, names, hf, hd⟩ := exists_fork as bs
  rw [hd] at h
  by_cases hn : names = []
  case pos =>
    rw [hn, List.append_nil] at h
    exact .inl <| List.eq_of_mem_replicate (List.mem_of_getLast? h)
  case neg =>
    rw [List.getLast?_append_of_ne_nil _ hn] at h
    rw [hf.right, List.getLast?_append_of_ne_nil _ hn]
    exact .inr h

theorem intercalate_injective {ss ss' : List String} (h : ∀ s ∈ ss, '/' ∉ s.toList)
    (h' : ∀ s ∈ ss', '/' ∉ s.toList) (hn : ss ≠ []) (hn' : ss' ≠ [])
    (he : "/".intercalate ss = "/".intercalate ss') : ss = ss' := by
  have hs : ∀ ss : List String, (∀ s ∈ ss, '/' ∉ s.toList) → ss ≠ [] →
      (("/".intercalate ss).toList.splitOn '/') = ss.map String.toList := by
    intro ss h hn
    rw [String.toList_intercalate]
    exact List.splitOn_intercalate '/' (by simpa using h) (by simpa using hn)
  have hm := hs ss h hn
  rw [he, hs ss' h' hn'] at hm
  exact List.map_injective_iff.mpr (fun _ _ => String.toList_inj.mp) hm.symm

theorem intercalate_ne_empty {ss : List String} (hs : s ∈ ss) (hne : s ≠ "") :
    "/".intercalate ss ≠ "" := by
  induction ss
  case nil => cases hs
  case cons t ts hi =>
    cases ts
    case nil => simpa using List.mem_singleton.mp hs ▸ hne
    case cons u us =>
      rw [String.intercalate_cons_cons]
      simp [String.append_eq_empty_iff]

def wayText : List String → String
  | [] => "."
  | ss => "/".intercalate ss

theorem relativeTo_eq :
    p.relativeTo cwd root = wayText (detour (root.segments cwd) (p.segments cwd)) := by
  rw [relativeTo]
  cases detour (root.segments cwd) (p.segments cwd) <;> rfl

theorem wayText_of_ne_nil {ss : List String} (h : ss ≠ []) : wayText ss = "/".intercalate ss := by
  cases ss
  case nil  => contradiction
  case cons => rfl

theorem wayText_ne_empty {ss : List String} (h : ∀ s ∈ ss, s ≠ "") : wayText ss ≠ "" := by
  cases ss
  case nil       => simp [wayText]
  case cons s ss => exact intercalate_ne_empty List.mem_cons_self (h s List.mem_cons_self)

-- A way to the place itself is written as a dot, which is no step of any other way.
theorem wayText_injective {ss ss' : List String} (h : ∀ s ∈ ss, s ≠ "." ∧ '/' ∉ s.toList)
    (h' : ∀ s ∈ ss', s ≠ "." ∧ '/' ∉ s.toList) (he : wayText ss = wayText ss') : ss = ss' := by
  have hdot : ∀ s ss, (∀ t ∈ s :: ss, t ≠ "." ∧ '/' ∉ t.toList) →
      "." ≠ "/".intercalate (s :: ss) := by
    intro s ss h he
    rw [← String.intercalate_singleton (s := "/") (t := ".")] at he
    have hs := intercalate_injective (by decide) (fun t ht => (h t ht).2) (by simp) (by simp) he
    exact (h s List.mem_cons_self).1 (List.cons.inj hs).1.symm
  cases ss <;> cases ss'
  case nil.nil           => rfl
  case nil.cons s ss     => exact absurd he (hdot s ss h')
  case cons.nil s ss     => exact absurd he.symm (hdot s ss h)
  case cons.cons s ss t ts =>
    exact intercalate_injective (fun t ht => (h t ht).2) (fun t ht => (h' t ht).2) (by simp)
      (by simp) he

theorem intercalate_append_left {up : List String} (hn : names ≠ []) (hn' : names' ≠ [])
    (he : "/".intercalate (up ++ names) = "/".intercalate (up ++ names')) :
    "/".intercalate names = "/".intercalate names' := by
  by_cases hu : up = []
  case pos => simpa [hu] using he
  case neg =>
    rw [String.intercalate_append_of_ne_nil hu hn, String.intercalate_append_of_ne_nil hu hn'] at he
    exact String.append_right_inj _ |>.mp he

-- The path of something below a folder.
inductive Descends (dir : Path) : Path → Prop
  | below (names : List String) : names ≠ [] → (∀ n ∈ names, IsName n) →
    Descends dir (dir.below names)

namespace Descends

variable {dir q : Path}

theorem stem_ne_empty (h : dir.Descends p) : p.stem ≠ "" := by
  cases h
  case below names hn h =>
    rw [stem, name_below hn]
    exact stemOf_ne_empty (h _ (List.getLast_mem hn)).nonempty

theorem segments_injective (h : dir.Descends p) (h' : dir.Descends q)
    (he : p.segments cwd = q.segments cwd) : p = q := by
  cases h
  cases h'
  case below.below names hn h names' hn' h' =>
    rw [segments_below (not_back_mem h), segments_below (not_back_mem h')] at he
    rw [List.append_cancel_left he]

theorem getLast?_segments (h : dir.Descends p) : (p.segments cwd).getLast? = some p.name := by
  cases h
  case below names hn h =>
    rw [segments_below (not_back_mem h), name_below hn, List.getLast?_append_of_ne_nil _ hn,
      List.getLast?_eq_some_getLast hn]

theorem relativeTo_ne_empty (h : dir.Descends p) : p.relativeTo cwd root ≠ "" := by
  cases h
  case below names hn h =>
    rw [relativeTo_eq, segments_below (not_back_mem h)]
    rcases detour_append (root.segments cwd) (dir.segments cwd) with ⟨up, hd⟩ | ⟨as, hd⟩
    all_goals rw [hd]
    case inr => exact wayText_ne_empty fun s hs => (isStep_detour h s hs).1
    case inl =>
      have ⟨n, hm⟩ := List.exists_mem_of_ne_nil names hn
      rw [wayText_of_ne_nil (by simp [hn])]
      exact intercalate_ne_empty (List.mem_append_right _ hm) (h n hm).nonempty

theorem relativeTo_injective (h : dir.Descends p) (h' : dir.Descends q)
    (he : p.relativeTo cwd root = q.relativeTo cwd root) : p = q := by
  cases h
  cases h'
  case below.below names hn h names' hn' h' =>
    have hb := not_back_mem h
    have hb' := not_back_mem h'
    rw [relativeTo_eq, relativeTo_eq, segments_below hb, segments_below hb'] at he
    suffices hs : names = names' by rw [hs]
    rcases detour_append (root.segments cwd) (dir.segments cwd) with ⟨up, hd⟩ | ⟨as, hd⟩
    all_goals rw [hd, hd] at he
    case inl =>
      rw [wayText_of_ne_nil (by simp [hn]), wayText_of_ne_nil (by simp [hn'])] at he
      exact intercalate_injective (fun s hs => (h s hs).noSlash) (fun s hs => (h' s hs).noSlash)
        hn hn' (intercalate_append_left hn hn' he)
    case inr =>
      exact detour_injective hb hb' <| wayText_injective (fun s hs => (isStep_detour h s hs).2)
        (fun s hs => (isStep_detour h' s hs).2) he

end Descends

end Path
end ComponentCatalog
