import ComponentCatalog.Proofs.Path.Relative
import ComponentCatalog.Proofs.Settings

namespace ComponentCatalog

namespace Path

variable {p q : Path} {cwd place parts : List String} {s : String}

-- The path goes from the root by names alone, and a disk can have a place there.
structure Resolved (p : Path) : Prop where
  anchor : p.anchor = .root
  names  : ∀ n ∈ p.parts, IsName n
  noNul  : p.hasNul = false

theorem isAbsolute_of_anchor (h : p.anchor = .root) : p.isAbsolute := by
  rw [isAbsolute, h]
  rfl

theorem Resolved.isAbsolute (hp : p.Resolved) : p.isAbsolute :=
  isAbsolute_of_anchor hp.anchor

theorem hasNul_eq_false_iff : p.hasNul = false ↔ ∀ n ∈ p.parts, '\x00' ∉ n.toList := by
  simp [hasNul]

theorem mem_foldl_descend (h : s ∈ parts.foldl descend place) : s ∈ place ∨ s ∈ parts := by
  induction parts generalizing place
  case nil           => exact .inl h
  case cons t ts hi =>
    rcases hi h with h | h
    case inr => exact .inr <| List.mem_cons_of_mem _ h
    case inl =>
      rw [descend] at h
      split at h
      case isTrue  => exact .inl <| List.dropLast_subset _ h
      case isFalse =>
        rcases List.mem_append.mp h with h | h
        case inl => exact .inl h
        case inr => exact .inr <| List.mem_singleton.mp h ▸ List.mem_cons_self

theorem mem_segments (h : s ∈ p.segments cwd) : s ∈ cwd ∨ s ∈ p.parts := by
  rcases mem_foldl_descend h with h | h
  case inr => exact .inr h
  case inl =>
    split at h
    case isTrue  => cases h
    case isFalse => exact .inl h

theorem resolved_resolve (hp : p.Clean) (hn : p.hasNul = false)
    (hc : Resolved ⟨.root, cwd⟩) : (p.resolve cwd).Resolved where
  anchor := rfl
  names  := isName_segments hp hc.names
  noNul  := hasNul_eq_false_iff.mpr fun _ hm =>
    (mem_segments hm).elim (hasNul_eq_false_iff.mp hc.noNul _) (hasNul_eq_false_iff.mp hn _)

-- There is nothing left to resolve.
theorem Resolved.resolve_eq (hp : p.Resolved) : p.resolve cwd = p := by
  have hs : p.segments cwd = p.parts := by
    rw [segments, if_pos hp.isAbsolute, foldl_descend (not_back_mem hp.names), List.nil_append]
  rw [resolve, hs, ← hp.anchor]

theorem join_of_isAbsolute (hq : q.isAbsolute) : p.join q = q :=
  if_pos hq

theorem isAbsolute_join (hp : p.isAbsolute) : (p.join q).isAbsolute := by
  rw [join]
  split
  case isTrue hq => exact hq
  case isFalse   => exact hp

end Path

namespace Environment

variable {env env' : Environment} {name : String}

def Unset (env : Environment) (name : String) : Prop :=
  env.lookup name = none ∨ env.lookup name = some ""

-- The environments differ at most in whether they lack a variable or have it empty.
def Alike (env env' : Environment) : Prop :=
  ∀ name, env.lookup name = env'.lookup name ∨ env.Unset name ∧ env'.Unset name

theorem value_of_unset (h : env.Unset name) : env.value name = "" := by
  rcases h with h | h <;> rw [value, h] <;> rfl

theorem Alike.value_eq (h : env.Alike env') : env.value = env'.value := by
  funext name
  rcases h name with h | ⟨h, h'⟩
  case inl => rw [value, value, h]
  case inr => rw [value_of_unset h, value_of_unset h']

theorem Alike.set?_eq (h : env.Alike env') : env.set? = env'.set? := by
  funext name
  rw [set?, set?, h.value_eq]

end Environment

namespace Settings

variable {cwd : List String} {env env' : Environment} {host : Option String} {port : Option Int}
  {root dir : Option Path} {p q : Path} {s s' : Settings}

theorem projectRootOf_of_resolved (hp : p.Resolved) : projectRootOf cwd env (some p) = .ok p := by
  rw [projectRootOf, Option.some_or]
  simp only [hp.noNul, hp.resolve_eq, Bool.false_eq_true, if_false]

theorem resolved_of_projectRootOf (hc : Path.Resolved ⟨.root, cwd⟩) (hr : ∀ p ∈ root, p.Clean)
    (h : projectRootOf cwd env root = .ok p) : p.Resolved := by
  rw [projectRootOf] at h
  split at h
  case h_2 => cases h; exact hc
  case h_1 q hq =>
    have hclean : q.Clean := by
      rcases Option.or_eq_some_iff.mp hq with hq | ⟨_, hq⟩
      case inl => exact hr q hq
      case inr =>
        obtain ⟨text, _, rfl⟩ := Option.map_eq_some_iff.mp hq
        exact Path.clean_ofString text
    split at h
    case isTrue     => cases h
    case isFalse hn => cases h; exact Path.resolved_resolve hclean (Bool.eq_false_iff.mpr hn) hc

theorem componentsDirOf_of_resolved (hp : p.Resolved) :
    componentsDirOf cwd env (some p) dir = .ok (p.join
      ((dir.or ((env.set? "CODZILLA_COMPONENTS_DIR").map .ofString)).getD componentsSubdir)) := by
  rw [componentsDirOf, projectRootOf_of_resolved hp]
  rfl

theorem componentsDirOf_of_isAbsolute (hp : p.Resolved) (hq : q.isAbsolute) :
    componentsDirOf cwd env (some p) (some q) = .ok q := by
  rw [componentsDirOf_of_resolved hp, Option.some_or, Option.getD_some, Path.join_of_isAbsolute hq]

-- Nothing else of the environment is looked at.
theorem ofEnvironment_of_alike (h : env.Alike env') :
    ofEnvironment cwd env host port root dir = ofEnvironment cwd env' host port root dir := by
  have hhost : hostOf env = hostOf env' := by rw [hostOf, hostOf, h.set?_eq]
  have hport : portOf env = portOf env' := by rw [portOf, portOf, h.set?_eq]
  have hpath : pathOf env = pathOf env' := by rw [pathOf, pathOf, h.set?_eq]
  have hjson : jsonResponseOf env = jsonResponseOf env' := by
    rw [jsonResponseOf, jsonResponseOf, h.value_eq]
  have hroot : projectRootOf cwd env = projectRootOf cwd env' := by
    funext root
    rw [projectRootOf, projectRootOf, h.set?_eq]
  have hdir : componentsDirOf cwd env = componentsDirOf cwd env' := by
    funext root dir
    rw [componentsDirOf, componentsDirOf, h.set?_eq, hroot]
  unfold ofEnvironment
  rw [hhost, hport, hpath, hjson, hroot, hdir]

-- Settings from the same arguments in two environments. Most arguments hide the environment.
structure Shares (host : Option String) (port : Option Int) (root dir : Option Path)
    (s s' : Settings) : Prop where
  host          : (∃ name, host = some name ∧ name ≠ "") → s'.host = s.host
  port          : port.isSome → s'.port = s.port
  projectRoot   : root.isSome → s'.projectRoot = s.projectRoot
  componentsDir : (∃ p, dir = some p ∧ (p.isAbsolute ∨ root.isSome)) →
    s'.componentsDir = s.componentsDir

-- Settings that were resolved once.
structure Settled (cwd : List String) (env : Environment) (host : Option String)
    (port : Option Int) (root dir : Option Path) (s : Settings) : Prop where
  projectRoot   : s.projectRoot.isAbsolute ∧ ∀ part ∈ s.projectRoot.parts, part ≠ "." ∧ part ≠ ".."
  -- Neither another environment nor another directory moves the components.
  componentsDir : ∃ p, s.componentsDir = some p ∧ p.isAbsolute ∧
    ∀ cwd' env', s.resolvedComponentsDir cwd' env' = .ok p
  again         : ∀ cwd', ofEnvironment cwd' env (some s.host) (some s.port) (some s.projectRoot)
    s.componentsDir = .ok s
  elsewhere     : ∀ env' s', ofEnvironment cwd env' host port root dir = .ok s' →
    Shares host port root dir s s'
  told          : port.isSome → root.isSome →
    ∀ env', ∃ s', ofEnvironment cwd env' host port root dir = .ok s'
  emptied       : ∀ env', env.Alike env' → ofEnvironment cwd env' host port root dir = .ok s

theorem Reads.shares (hp : s.projectRoot.Resolved) (hp' : s'.projectRoot.Resolved)
    (h : Reads cwd env host port root dir s) (h' : Reads cwd env' host port root dir s') :
    Shares host port root dir s s' := by
  have hroot : root.isSome → s'.projectRoot = s.projectRoot := by
    intro hs
    obtain ⟨p, rfl⟩ := Option.isSome_iff_exists.mp hs
    exact Except.ok.inj <| h'.projectRoot.symm.trans h.projectRoot
  constructor
  case host =>
    rintro ⟨name, rfl, hne⟩
    rw [h.host, h'.host]
    simp [Option.filter, hne]
  case port =>
    intro hs
    obtain ⟨n, rfl⟩ := Option.isSome_iff_exists.mp hs
    exact Except.ok.inj <| h'.port.symm.trans h.port
  case projectRoot => exact hroot
  case componentsDir =>
    rintro ⟨q, rfl, hq⟩
    obtain ⟨d, hd, he⟩ := h.componentsDir
    obtain ⟨d', hd', he'⟩ := h'.componentsDir
    rw [componentsDirOf_of_resolved hp, Option.some_or, Option.getD_some] at hd
    rw [componentsDirOf_of_resolved hp', Option.some_or, Option.getD_some] at hd'
    cases hd
    cases hd'
    rw [he, he']
    rcases hq with hq | hq
    case inl => rw [Path.join_of_isAbsolute hq, Path.join_of_isAbsolute hq]
    case inr => rw [hroot hq]

theorem Reads.exists_ofEnvironment (hp : s.projectRoot.Resolved)
    (h : Reads cwd env host port root dir s) (hn : port.isSome) (hr : root.isSome) :
    ∃ s', ofEnvironment cwd env' host port root dir = .ok s' := by
  obtain ⟨n, rfl⟩ := Option.isSome_iff_exists.mp hn
  obtain ⟨p, rfl⟩ := Option.isSome_iff_exists.mp hr
  obtain ⟨d, hd⟩ : ∃ d, componentsDirOf cwd env' (some s.projectRoot) dir = .ok d :=
    ⟨_, componentsDirOf_of_resolved hp⟩
  refine ⟨{
    host          := (host.filter (· ≠ "")).getD (hostOf env')
    port          := s.port
    path          := pathOf env'
    projectRoot   := s.projectRoot
    componentsDir := some d
    jsonResponse  := jsonResponseOf env' }, ofEnvironment_eq_ok_iff.mpr ?_⟩
  exact ⟨rfl, h.port, rfl, h.projectRoot, ⟨d, hd, rfl⟩, rfl⟩

theorem settings_settled (hc : Path.Resolved ⟨.root, cwd⟩) (hr : ∀ p ∈ root, p.Clean)
    (h : ofEnvironment cwd env host port root dir = .ok s) :
    Settled cwd env host port root dir s := by
  have hs := ofEnvironment_eq_ok_iff.mp h
  have hp : s.projectRoot.Resolved := resolved_of_projectRootOf hc hr hs.projectRoot
  obtain ⟨d, hd, he⟩ := hs.componentsDir
  have ha : d.isAbsolute := by
    rw [componentsDirOf_of_resolved hp] at hd
    cases hd
    exact Path.isAbsolute_join hp.isAbsolute
  constructor
  case projectRoot =>
    exact ⟨hp.isAbsolute, fun part hm => ⟨(hp.names part hm).notHere, (hp.names part hm).notBack⟩⟩
  case componentsDir =>
    refine ⟨d, he, ha, fun cwd' env' => ?_⟩
    rw [resolvedComponentsDir, he, componentsDirOf_of_isAbsolute hp ha]
  case again =>
    intro cwd'
    have hne : s.host ≠ "" := host_ne_empty h
    refine ofEnvironment_eq_ok_iff.mpr ⟨?_, rfl, hs.path, projectRootOf_of_resolved hp, ?_,
      hs.jsonResponse⟩
    case refine_1 => simp [Option.filter, hne]
    case refine_2 => exact ⟨d, by rw [he, componentsDirOf_of_isAbsolute hp ha], he⟩
  case elsewhere =>
    intro env' s' h'
    have hs' := ofEnvironment_eq_ok_iff.mp h'
    exact hs.shares hp (resolved_of_projectRootOf hc hr hs'.projectRoot) hs'
  case told => exact fun hn hr _ => hs.exists_ofEnvironment hp hn hr
  case emptied =>
    intro env' hv
    rw [← ofEnvironment_of_alike hv, h]

-- The project lies beside the directory, and its components beside their usual place.
theorem settings_settled_workshop :
    Path.Resolved ⟨.root, ["srv", "tools"]⟩ ∧
      (∀ p ∈ some (Path.ofString "../web/./app//x/.."), p.Clean) ∧
      ∃ s, ofEnvironment ["srv", "tools"] [("HOST", ""), ("PORT", "4000")] none none
          (some (.ofString "../web/./app//x/..")) (some (.ofString "lib/../ui")) = .ok s ∧
        s.host = "127.0.0.1" ∧ s.port = 4000 ∧
        s.projectRoot = ⟨.root, ["srv", "web", "app"]⟩ ∧
        Settled ["srv", "tools"] [("HOST", ""), ("PORT", "4000")] none none
          (some (.ofString "../web/./app//x/..")) (some (.ofString "lib/../ui")) s := by
  have hc : Path.Resolved ⟨.root, ["srv", "tools"]⟩ := ⟨rfl, by decide, by decide⟩
  have hr : ∀ p ∈ some (Path.ofString "../web/./app//x/.."), p.Clean := by
    intro p hp
    exact Option.some.inj hp ▸ Path.clean_ofString _
  have h : ofEnvironment ["srv", "tools"] [("HOST", ""), ("PORT", "4000")] none none
      (some (.ofString "../web/./app//x/..")) (some (.ofString "lib/../ui")) = .ok {
        host := "127.0.0.1"
        port := 4000
        path := "/mcp"
        projectRoot := ⟨.root, ["srv", "web", "app"]⟩
        componentsDir := some ⟨.root, ["srv", "web", "app", "lib", "..", "ui"]⟩
        jsonResponse := true } := by
    rfl
  exact ⟨hc, hr, _, h, rfl, rfl, rfl, settings_settled hc hr h⟩

end Settings
end ComponentCatalog
