import ComponentCatalog.Settings
import Mathlib.Data.List.Nodup

namespace ComponentCatalog.Settings

variable {s : Settings} {names more : List String} {name host : String}

-- The host is the configured one or a name of the machine itself, maybe with the port.
def Allows (s : Settings) (host : String) : Prop :=
  ∃ name ∈ [s.host, "127.0.0.1", "localhost"],
    host = name ∨ host = name ++ ":" ++ toString s.port

theorem mem_addNew : host ∈ addNew names name ↔ host ∈ names ∨ host = name := by
  rw [addNew]
  split
  case isTrue h =>
    refine ⟨.inl, ?_⟩
    rintro (hm | rfl)
    case inl => exact hm
    case inr => simpa using h
  case isFalse => simp

theorem addNew_nodup (hn : names.Nodup) : (addNew names name).Nodup := by
  rw [addNew]
  split
  case isTrue    => exact hn
  case isFalse h =>
    refine List.nodup_append.mpr ⟨hn, List.nodup_singleton _, ?_⟩
    rintro _ hm _ hm' rfl
    exact h <| List.contains_iff_mem.mpr (List.mem_singleton.mp hm' ▸ hm)

theorem mem_foldl_addNew : host ∈ more.foldl addNew names ↔ host ∈ names ∨ host ∈ more := by
  induction more generalizing names
  case nil          => simp
  case cons n ns hi => rw [List.foldl_cons, hi, mem_addNew, List.mem_cons, or_assoc]

theorem foldl_addNew_nodup (hn : names.Nodup) : (more.foldl addNew names).Nodup := by
  induction more generalizing names
  case nil          => exact hn
  case cons n ns hi => exact hi (addNew_nodup hn)

theorem mem_allowedHosts_iff : host ∈ s.allowedHosts ↔ s.Allows host := by
  rw [allowedHosts, mem_foldl_addNew]
  simp [Allows, or_assoc]

theorem allowedHosts_nodup : s.allowedHosts.Nodup :=
  foldl_addNew_nodup List.nodup_nil

variable {cwd : List String} {env : Environment} {given : Option String} {port : Option Int}
  {root dir : Option Path}

theorem hostOf_ne_empty : hostOf env ≠ "" := by
  rw [hostOf, Environment.set?]
  split
  case isTrue  => decide
  case isFalse => assumption

-- Where each setting comes from.
structure Reads (cwd : List String) (env : Environment) (given : Option String)
    (port : Option Int) (root dir : Option Path) (s : Settings) : Prop where
  host          : s.host = (given.filter (· ≠ "")).getD (hostOf env)
  port          : port.elim (portOf env) .ok = .ok s.port
  path          : s.path = pathOf env
  projectRoot   : projectRootOf cwd env root = .ok s.projectRoot
  componentsDir : ∃ p, componentsDirOf cwd env (some s.projectRoot) dir = .ok p ∧
    s.componentsDir = some p
  jsonResponse  : s.jsonResponse = jsonResponseOf env

theorem filter_getD_hostOf :
    (given.filter (· ≠ "")).getD (hostOf env) =
      match given with
      | none | some "" => hostOf env
      | some host      => host := by
  split
  case h_1          => rfl
  case h_2          => rfl
  case h_3 host hne => simp [Option.filter, show host ≠ "" from hne]

theorem ofEnvironment_eq_ok_iff :
    ofEnvironment cwd env given port root dir = .ok s ↔ Reads cwd env given port root dir s := by
  simp only [ofEnvironment, bind, Except.bind, pure, Except.pure]
  constructor
  case mp =>
    intro h
    cases hroot : projectRootOf cwd env root <;> simp only [hroot] at h
    case error => cases h
    case ok p =>
      cases hport : port.elim (portOf env) .ok <;> simp only [hport] at h
      case error => cases h
      case ok n =>
        cases hdir : componentsDirOf cwd env (some p) dir <;> simp only [hdir] at h
        case error => cases h
        case ok d  =>
          cases h
          exact ⟨filter_getD_hostOf.symm, hport, rfl, hroot, ⟨d, hdir, rfl⟩, rfl⟩
  case mpr =>
    intro h
    obtain ⟨d, hdir, hd⟩ := h.componentsDir
    simp only [h.projectRoot, h.port, hdir, ← h.path, ← hd, ← h.jsonResponse]
    exact congrArg (fun host => Except.ok { s with host }) (h.host.trans filter_getD_hostOf).symm

theorem host_ne_empty (h : ofEnvironment cwd env given port root dir = .ok s) : s.host ≠ "" := by
  rw [(ofEnvironment_eq_ok_iff.mp h).host]
  cases hg : given.filter (· ≠ "")
  case none      => exact hostOf_ne_empty
  case some host => simpa using (Option.filter_eq_some_iff.mp hg).2

-- The directory of the components needs no other root than the one that is already known.
theorem exists_resolvedComponentsDir (h : ofEnvironment cwd env given port root dir = .ok s) :
    ∃ p, s.resolvedComponentsDir cwd env = .ok p := by
  obtain ⟨_, hd, _⟩ := (ofEnvironment_eq_ok_iff.mp h).componentsDir
  unfold resolvedComponentsDir
  unfold componentsDirOf at hd ⊢
  cases hp : projectRootOf cwd env (some s.projectRoot) <;> rw [hp] at hd
  case error => cases hd
  case ok p  => exact ⟨_, rfl⟩

-- A host is named, unless the configured one is nameless.
theorem ne_empty_of_allows (hs : s.host ≠ "") (h : s.Allows host) : host ≠ "" := by
  obtain ⟨name, hm, rfl | rfl⟩ := h
  case inl =>
    simp only [List.mem_cons, List.not_mem_nil, or_false] at hm
    rcases hm with rfl | rfl | rfl
    case inl => exact hs
    all_goals decide
  case inr => simp

end ComponentCatalog.Settings
