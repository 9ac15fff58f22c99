import ComponentCatalog.Catalog.Loader
import Mathlib.Data.List.Forall2

namespace ComponentCatalog

def Outcome.ofAnswer : Answer → Outcome
  | .ok records   => .loaded records
  | .error reason => .aborted reason

namespace Loader

variable {l : Loader} {d : Disk} {ps : List Path} {rs : List Component}

def Parses (l : Loader) (d : Disk) (ps : List Path) : Prop :=
  ps ≠ [] ∧ ∀ p ∈ ps, (l.parse d p).isSome

instance : Decidable (l.Parses d ps) :=
  inferInstanceAs (Decidable (_ ∧ _))

def records (l : Loader) (d : Disk) (ps : List Path) : List Component :=
  if l.Parses d ps then ps.filterMap (l.parse d) else l.defaults

-- What the load of number `n` takes from a disk.
def taken (l : Loader) (n : Nat) (d : Disk) : Answer :=
  match l.scan n d with
  | .aborted reason => .error reason
  | .failed         => .ok l.defaults
  | .paths ps       => .ok (l.records d ps)

theorem mapM_parse_eq_some_iff :
    ps.mapM (l.parse d) = some rs ↔ List.Forall₂ (fun p c => l.parse d p = some c) ps rs := by
  induction ps generalizing rs
  case nil => simp [eq_comm]
  case cons p ps hi =>
    simp only [List.mapM_cons, List.forall₂_cons_left_iff, Option.bind_eq_bind,
      Option.bind_eq_some_iff, Option.pure_def, Option.some.injEq, hi]
    constructor
    case mp  => rintro ⟨c, hc, cs, hcs, rfl⟩; exact ⟨c, cs, hc, hcs, rfl⟩
    case mpr => rintro ⟨c, cs, hc, hcs, rfl⟩; exact ⟨c, hc, cs, hcs, rfl⟩

theorem filterMap_parse_of_forall₂ (h : List.Forall₂ (fun p c => l.parse d p = some c) ps rs) :
    ps.filterMap (l.parse d) = rs := by
  induction h
  case nil          => rfl
  case cons hc _ hi => rw [List.filterMap_cons_some hc, hi]

theorem forall₂_of_parses (h : l.Parses d ps) :
    List.Forall₂ (fun p c => l.parse d p = some c) ps (l.records d ps) := by
  have hs := h.2
  rw [records, if_pos h]
  clear h
  induction ps
  case nil => exact .nil
  case cons p ps hi =>
    have ⟨hp, hps⟩ := List.forall_mem_cons.mp hs
    have ⟨c, hc⟩ := Option.isSome_iff_exists.mp hp
    rw [List.filterMap_cons_some hc]
    exact .cons hc (hi hps)

theorem isSome_of_forall₂ (h : List.Forall₂ (fun p c => l.parse d p = some c) ps rs) :
    ∀ p ∈ ps, (l.parse d p).isSome := by
  induction h
  case nil          => simp
  case cons hc _ hi => exact List.forall_mem_cons.mpr ⟨by simp [hc], hi⟩

theorem load_paths {n : Nat} (hs : l.scan n d = .paths ps) :
    l.load d n = .loaded (l.records d ps) := by
  simp only [load, hs]
  split
  case _ hm =>
    have hn : ¬l.Parses d ps := by
      intro hp
      cases hm.symm.trans (mapM_parse_eq_some_iff.mpr (forall₂_of_parses hp))
    rw [records, if_neg hn]
  case _ hm =>
    have hn : ¬l.Parses d ps := by
      intro hp
      cases mapM_parse_eq_some_iff.mp hm
      exact hp.1 rfl
    rw [records, if_neg hn]
  case _ rs hne hm =>
    have hf := mapM_parse_eq_some_iff.mp hm
    have hp : l.Parses d ps := by
      refine ⟨?_, isSome_of_forall₂ hf⟩
      rintro rfl
      cases hf
      exact hne rfl
    rw [records, if_pos hp, filterMap_parse_of_forall₂ hf]

theorem load_eq_taken {n : Nat} : l.load d n = .ofAnswer (l.taken n d) := by
  cases hs : l.scan n d
  case paths ps => rw [load_paths hs, taken, hs, Outcome.ofAnswer]
  case failed   => simp [load, taken, hs, Outcome.ofAnswer]
  case aborted  => simp [load, taken, hs, Outcome.ofAnswer]

end Loader
end ComponentCatalog
