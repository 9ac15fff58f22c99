import ComponentCatalog.CommandLine
import ComponentCatalog.Proofs.Catalog.Steady
import ComponentCatalog.Proofs.Http.Setup
import ComponentCatalog.Proofs.Operation.Reply
import ComponentCatalog.Proofs.Settings
import Mathlib.Data.List.TakeDrop
import Mathlib.Data.List.TakeWhile

namespace ComponentCatalog

namespace CommandLine

variable {env : Environment} {d : Disk} {args ws rest : List String} {c : Command} {e : Failure}
  {name value : String} {spec : OptionSpec} {o : Options} {v : Json} {res : Result}

-- What other programs see of a command.
structure Outcome where
  code   : Nat
  stdout : String
deriving DecidableEq

def Outcome.failed : Outcome where
  code   := 1
  stdout := ""

def Outcome.misused : Outcome where
  code   := 2
  stdout := ""

-- A failure that cannot even be told ends the program.
def outcome (env : Environment) (d : Disk) (args : List String) : Outcome :=
  match main env d args with
  | .ok r    => ⟨r.code, output r⟩
  | .error _ => .failed

-- The disk that a command reads.
abbrev diskOf (env : Environment) (d : Disk) : Disk :=
  Log.openOn d (Log.fileOf env)

theorem main_of_error (hp : parse args = .command c) (hr : run env (diskOf env d) c = .error e) :
    main env d args = told e := by
  simp only [main, hp, hr]
  rfl

theorem main_of_ok (hp : parse args = .command c) (hr : run env (diskOf env d) c = .ok res) :
    main env d args =
      match res.check with
      | .ok _    => .ok res
      | .error e => told (.markup e) := by
  simp only [main, hp, hr]
  cases h : res.check <;> simp [shown, h, bind, Except.bind, Except.mapError, Except.map]

theorem outcome_of_told (hm : main env d args = told e) : outcome env d args = .failed := by
  rw [outcome, hm, told]
  cases (Result.fail e).check <;> rfl

theorem code_of_told (h : told e = .ok res) : res.code = 1 := by
  rw [told] at h
  cases hc : (Result.fail e).check <;> rw [hc] at h <;> cases h
  rfl

theorem outcome_of_error (hp : parse args = .command c) (hr : run env (diskOf env d) c = .error e) :
    outcome env d args = .failed :=
  outcome_of_told (main_of_error hp hr)

theorem outcome_of_fail (hp : parse args = .command c)
    (hr : run env (diskOf env d) c = .ok (.fail e)) : outcome env d args = .failed := by
  have hm := main_of_ok hp hr
  cases hc : (Result.fail e).check <;> rw [hc] at hm
  case error => exact outcome_of_told hm
  case ok    =>
    rw [outcome, hm]
    rfl

theorem outcome_of_json (hp : parse args = .command c)
    (hr : run env (diskOf env d) c = .ok (.ok [.json v])) :
    outcome env d args = ⟨0, v.render .indentedAscii ++ "\n"⟩ := by
  have hm : main env d args = .ok (.ok [.json v]) := main_of_ok hp hr
  rw [outcome, hm]
  simp [output, Result.ok]

theorem outcome_of_misuse (hp : parse args = .misuse) : outcome env d args = .misused := by
  rw [outcome, main, hp]
  rfl

-- The ways to write an option with its value.
inductive Spells (name value : String) : List String → Prop
  | joined : Spells name value [name ++ "=" ++ value]
  | apart (hv : isValue value) : Spells name value [name, value]

-- The words for an option that may be left out.
inductive SpellsOptional (name : String) : Option String → List String → Prop
  | absent : SpellsOptional name none []
  | given {value : String} {ws : List String} (hs : Spells name value ws) :
    SpellsOptional name (some value) ws

-- The name of an option is not mistaken for anything else.
structure Clear (name : String) : Prop where
  joins    : '=' ∉ name.toList
  hyphens  : '_' ∉ name.toList
  not_help : isHelp name = false
  not_end  : name ≠ "--"

instance : Decidable (Clear name) :=
  decidable_of_iff
    ('=' ∉ name.toList ∧ '_' ∉ name.toList ∧ isHelp name = false ∧ name ≠ "--")
    ⟨fun ⟨hj, hy, hh, he⟩ => ⟨hj, hy, hh, he⟩, fun ⟨hj, hy, hh, he⟩ => ⟨hj, hy, hh, he⟩⟩

theorem Clear.map_hyphens (hn : Clear name) :
    name.toList.map (fun c => if c = '_' then '-' else c) = name.toList := by
  refine (List.map_congr_left fun c hc => if_neg ?_).trans (List.map_id _)
  rintro rfl
  exact hn.hyphens hc

theorem Clear.ne_equals (hn : Clear name) : ∀ c ∈ name.toList, (c != '=') = true := by
  intro c hc
  rw [bne_iff_ne]
  rintro rfl
  exact hn.joins hc

theorem cutOption_joined (hn : Clear name) :
    cutOption (name ++ "=" ++ value) = (name, some value) := by
  have hl : (name ++ "=" ++ value).toList = name.toList ++ '=' :: value.toList := by simp
  have hs : (name ++ "=" ++ value).toList.span (· != '=') = (name.toList, '=' :: value.toList) := by
    rw [hl, List.span_eq_takeWhile_dropWhile, List.takeWhile_append_of_pos hn.ne_equals,
      List.dropWhile_append_of_pos hn.ne_equals]
    simp
  simp only [cutOption, hs, hn.map_hyphens]
  simp

theorem cutOption_name (hn : Clear name) : cutOption name = (name, none) := by
  have hs : name.toList.span (· != '=') = (name.toList, []) := by
    rw [List.span_eq_takeWhile_dropWhile, List.takeWhile_eq_self_iff.mpr hn.ne_equals,
      List.dropWhile_eq_nil_iff.mpr hn.ne_equals]
  simp only [cutOption, hs, hn.map_hyphens]
  simp

theorem read_spells {k : OptionKind} (hs : Spells name value ws) (hn : Clear name)
    (hl : spec.lookup name = some k) (hk : k ≠ .switch) (ha : accepts k value) :
    read spec o (ws ++ rest) = read spec (o.set name value) rest := by
  cases hs
  case joined =>
    have hne : ∀ s : String, '=' ∉ s.toList → name ++ "=" ++ value ≠ s := by
      rintro _ hs rfl
      simp at hs
    have hhelp : isHelp (name ++ "=" ++ value) = false := by
      simp [isHelp, hne "--help" (by decide), hne "-h" (by decide)]
    have hend : name ++ "=" ++ value ≠ "--" := hne "--" (by decide)
    cases k
    case switch => exact absurd rfl hk
    all_goals
      rw [List.singleton_append, read]
      simp [hhelp, hend, cutOption_joined hn, hl, ha]
  case apart hv =>
    cases k
    case switch => exact absurd rfl hk
    all_goals
      rw [List.cons_append, List.singleton_append, read]
      simp [hn.not_help, hn.not_end, cutOption_name hn, hl, ha, hv]

theorem read_switch (hn : Clear name) (hl : spec.lookup name = some .switch) :
    read spec o (name :: rest) = read spec (o.set name "") rest := by
  rw [read]
  simp [hn.not_help, hn.not_end, cutOption_name hn, hl]

def Options.setOptional (o : Options) (name : String) : Option String → Options
  | none       => o
  | some value => o.set name value

theorem read_spellsOptional {given : Option String} (hs : SpellsOptional name given ws)
    (hn : Clear name) (hl : spec.lookup name = some .value) :
    read spec o (ws ++ rest) = read spec (o.setOptional name given) rest := by
  cases hs
  case absent   => rfl
  case given hs => exact read_spells hs hn hl nofun rfl

-- The words that say where the components are.
structure Places (directory componentsDir : Option String) (ws : List String) : Prop where
  split : ∃ ds cs, ws = ds ++ cs ∧ SpellsOptional "--directory" directory ds ∧
    SpellsOptional "--components-dir" componentsDir cs

-- `None` stands for nothing.
def place (given : Option String) : Option Path :=
  (given.filter (· ≠ "None")).map .ofString

variable {directory componentsDir : Option String} {category : Category} {ns : List String}

theorem read_places (hw : Places directory componentsDir ws)
    (hd : spec.lookup "--directory" = some .value)
    (hc : spec.lookup "--components-dir" = some .value) :
    read spec o (ws ++ rest) =
      read spec ((o.setOptional "--directory" directory).setOptional "--components-dir"
        componentsDir) rest := by
  obtain ⟨ds, cs, rfl, hds, hcs⟩ := hw.split
  rw [List.append_assoc, read_spellsOptional hds (by decide) hd,
    read_spellsOptional hcs (by decide) hc]

theorem value?_set {name' : String} :
    (o.set name value).value? name' = if name' = name then some value else o.value? name' :=
  lookup_cons_eq_ite

theorem value?_setOptional {name' : String} {given : Option String} :
    (o.setOptional name given).value? name' =
      if name' = name then given.or (o.value? name') else o.value? name' := by
  cases given
  case none       => simp [Options.setOptional]
  case some value => simp [Options.setOptional, value?_set]

theorem strange_setOptional {given : Option String} :
    (o.setOptional name given).strange = o.strange := by
  cases given <;> rfl

theorem parse_of_read {command : String} (hs : optionsOf command = some spec)
    (hh : isHelp command = false) (hne : command ≠ "--")
    (hr : read spec { values := [], strange := false } args = .ok o) (ho : o.strange = false)
    (hc : o.command? command = some c) : parse (command :: args) = .command c := by
  simp [parse, parse.go, hs, hh, hne, parseCommand, hr, ho, hc]

-- The options without any of the words.
abbrev Options.none : Options where
  values  := []
  strange := false

theorem value?_none : Options.none.value? name = .none := rfl

theorem parse_serve (hw : Places directory componentsDir ws) :
    parse ("serve" :: ws) =
      .command (.serve .none .none (place directory) (place componentsDir)) := by
  have hr : read ([("--host", .value), ("--port", .value)] ++ places) .none (ws ++ []) = _ :=
    read_places hw rfl rfl
  rw [List.append_nil] at hr
  refine parse_of_read rfl rfl (by decide) hr (by simp [strange_setOptional]) ?_
  simp [Options.command?, Options.optional?, Options.integer?, Options.path?, value?_setOptional,
    value?_none, place]

theorem spells_category : Spells "--category" category.name ["--category", category.name] :=
  .apart (by cases category <;> decide)

theorem parse_components (hw : Places directory componentsDir ws) :
    parse ("components" :: (ws ++ ["--category", category.name, "--json"])) =
      .command (.components (place directory) (place componentsDir) category true) := by
  have hname : Category.ofName? category.name = some category := by cases category <;> rfl
  let flags : OptionSpec := [("--category", .category), ("--json", .switch), ("--no-json", .switch)]
  have hr : read (places ++ flags) .none (ws ++ ["--category", category.name, "--json"]) = _ :=
    read_places hw rfl rfl
  have hc := hr.trans <| read_spells (k := .category) spells_category (by decide) rfl nofun
    (by simp [accepts, hname])
  rw [read_switch (by decide) rfl, read] at hc
  refine parse_of_read rfl rfl (by decide) hc ?_ ?_
  case refine_1 => simp [Options.set, strange_setOptional]
  case refine_2 =>
    have hj : ∀ o : Options, (o.set "--json" "").switch "--json" "--no-json" = true := fun _ => rfl
    simp [Options.command?, Options.optional?, Options.path?, value?_set, value?_setOptional, hname,
      hj, value?_none, place]

theorem parse_show (hw : Places directory componentsDir ws) (hn : Spells "--name" name ns) :
    parse ("show" :: (ns ++ ws)) =
      .command (.show name (place directory) (place componentsDir)) := by
  have hname : read (("--name", .value) :: places) .none (ns ++ (ws ++ [])) = _ :=
    read_spells hn (by decide) rfl nofun rfl
  have hr : read (("--name", .value) :: places) (Options.none.set "--name" name) (ws ++ []) = _ :=
    read_places hw rfl rfl
  rw [hr, List.append_nil] at hname
  refine parse_of_read rfl rfl (by decide) hname (by simp [Options.set, strange_setOptional]) ?_
  simp [Options.command?, Options.path?, Options.optional?, value?_set, value?_setOptional,
    value?_none, place]

theorem parse_misuse {command : String} (hs : optionsOf command = some spec)
    (hh : isHelp command = false) (hne : command ≠ "--") (hn : Clear name)
    (hl : spec.lookup name = some .value) (hv : ¬isValue value) :
    parse (command :: name :: value :: ws) = .misuse := by
  have hr : read spec .none (name :: value :: ws) = .error .misuse := by
    rw [read]
    simp [hn.not_help, hn.not_end, cutOption_name hn, hl, hv]
  simp [parse, parse.go, hs, hh, hne, parseCommand, hr]

-- The application that a server starts.
def application (env : Environment) (d : Disk) (host : Option String) (port : Option Int)
    (directory componentsDir : Option Path) : Except Failure Http.App := do
  let s ← (Settings.ofEnvironment d.cwd env host port directory componentsDir).mapError .settings
  let dir ← (s.resolvedComponentsDir d.cwd env).mapError .settings
  (Http.App.create s (Settings.enabledOperations env)
    (.cold (.standard dir s.projectRoot) d)).mapError .path

variable {root dir : Option Path} {a : Http.App} {cat : Catalog} {p : Path} {reply : Reply}
  {records : List Component} {e' : SettingsError} {err : CallError}

theorem catalog_of_create {settings : Settings} {enabled : List Operation}
    (hc : Http.App.create settings enabled cat = .ok a) : a.catalog = cat := by
  rw [Http.App.create] at hc
  cases hp : Http.PathTemplate.ofString? settings.path <;> rw [hp] at hc <;> cases hc
  rfl

theorem application_of_settings {host : Option String} {port : Option Int} {s : Settings}
    (hs : Settings.ofEnvironment d.cwd env host port root dir = .ok s)
    (hd : s.resolvedComponentsDir d.cwd env = .ok p) :
    application env d host port root dir = (Http.App.create s (Settings.enabledOperations env)
      (.cold (.standard p s.projectRoot) d)).mapError .path := by
  simp only [application, hs, hd, Except.mapError, bind, Except.bind]

-- The server starts or fails as its application does.
theorem run_serve_eq_error_iff {host : Option String} {port : Option Int} :
    run env d (.serve host port root dir) = .error e ↔
      application env d host port root dir = .error e := by
  rw [run, runServe]
  cases hs : Settings.ofEnvironment d.cwd env host port root dir
  case error e' => simp [application, hs, Except.mapError, bind, Except.bind]
  case ok s     =>
    obtain ⟨p, hd⟩ := Settings.exists_resolvedComponentsDir hs
    rw [application_of_settings hs hd, Http.App.create]
    cases hp : Http.PathTemplate.ofString? s.path
    all_goals simp [hp, Except.mapError, bind, Except.bind, pure, Except.pure, discard,
      Functor.discard, Functor.mapConst, Except.map]

theorem catalog_of_settings {s : Settings}
    (hs : Settings.ofEnvironment d.cwd env none none root dir = .ok s)
    (hd : s.resolvedComponentsDir d.cwd env = .ok p) :
    catalog env d root dir = .ok (p, .cold (.standard p s.projectRoot) d) := by
  simp only [catalog, hs, hd, bind, Except.bind, pure, Except.pure]

theorem catalog_of_error
    (hs : Settings.ofEnvironment d.cwd env none none root dir = .error e') :
    catalog env d root dir = .error e' := by
  simp only [catalog, hs, bind, Except.bind]

-- How a server without a host and a port of its own starts.
theorem application_cases (env : Environment) (d : Disk) (root dir : Option Path) :
    (∃ e', application env d none none root dir = .error (.settings e') ∧
      catalog env d root dir = .error e') ∨
    ∃ p cat records, catalog env d root dir = .ok (p, cat) ∧ cat.Steady records ∧
      (∀ e', application env d none none root dir ≠ .error (.settings e')) ∧
      ∀ a, application env d none none root dir = .ok a → a.catalog = cat := by
  cases hs : Settings.ofEnvironment d.cwd env none none root dir
  case error e' =>
    exact .inl ⟨e', by rw [application, hs]; rfl, catalog_of_error hs⟩
  case ok s     =>
    obtain ⟨p, hd⟩ := Settings.exists_resolvedComponentsDir hs
    obtain ⟨records, hsteady⟩ := Catalog.exists_steady_cold p s.projectRoot d
    refine .inr ⟨p, _, records, catalog_of_settings hs hd, hsteady, ?_⟩
    rw [application_of_settings hs hd]
    cases hc : Http.App.create s (Settings.enabledOperations env)
      (.cold (.standard p s.projectRoot) d)
    case error => simp [Except.mapError]
    case ok a  =>
      refine ⟨fun _ => nofun, ?_⟩
      rintro _ ⟨⟩
      exact catalog_of_create hc

theorem run_components_of_error {json : Bool} (hc : catalog env d root dir = .error e') :
    run env d (.components root dir category json) = .error (.settings e') := by
  simp only [run, runComponents, hc, Except.mapError, bind, Except.bind]

theorem call_components (hs : cat.Steady records) :
    call cat .components [("category", .string category.name)] =
      .ok (.listing (records.filter (·.matchesCategory category))) := by
  have hrun : Catalog.Settles records (Catalog.run · (.components category))
      (Catalog.reply records (.components category)) := Catalog.settles_run
  have ⟨_, hr, _⟩ := hrun cat hs
  have hq : Catalog.request? Operation.components.name
      (.object [("category", .string category.name)]) = .ok (.components category) := by
    cases category <;> rfl
  simp only [call, Catalog.call, hq, hr]
  rfl

theorem run_components {json : Bool} (hc : catalog env d root dir = .ok (p, cat))
    (hs : cat.Steady records) :
    run env d (.components root dir category json) =
      let cs := records.filter (·.matchesCategory category)
      .ok (.ok (if json then [.json (.array (cs.map Component.toJson))]
        else [listing cs category, scanNote d p])) := by
  simp only [run, runComponents, hc, Except.mapError, bind, Except.bind, call_components hs]
  cases json <;> rfl

-- One document and nothing else is written.
structure Prints (o : Outcome) (v : Json) : Prop where
  code     : o.code = 0
  stdout   : o.stdout = v.render .indentedAscii ++ "\n"
  document : Json.read o.stdout.toList = .ok v

theorem prints_of_json {n : Nat} (hp : parse args = .command c)
    (hr : run env (diskOf env d) c = .ok (.ok [.json v])) (hv : Json.Plain n v)
    (hn : n ≤ Json.Read.depthLimit) : Prints (outcome env d args) v := by
  rw [outcome_of_json hp hr]
  exact ⟨rfl, rfl, Json.read_render_line hv hn⟩

section Runs

variable (hl : Log.fileOf env = none)
include hl

theorem diskOf_eq : diskOf env d = d := by
  rw [diskOf, hl]
  rfl

theorem outcome_listing_of_catalog_error
    (hp : parse args = .command (.components root dir category true))
    (hc : catalog env d root dir = .error e') : outcome env d args = .failed := by
  refine outcome_of_error (e := .settings e') hp ?_
  rw [diskOf_eq hl]
  exact run_components_of_error hc

theorem outcome_show_of_catalog_error (hp : parse args = .command (.show name root dir))
    (hc : catalog env d root dir = .error e') : outcome env d args = .failed := by
  refine outcome_of_error (e := .settings e') hp ?_
  simp only [diskOf_eq hl, run, runShow, hc, Except.mapError, bind, Except.bind]

variable (hc : catalog env d root dir = .ok (p, cat))
include hc

theorem prints_listing (hp : parse args = .command (.components root dir category true))
    (hs : cat.Steady records) :
    Prints (outcome env d args)
      (.array ((records.filter (·.matchesCategory category)).map Component.toJson)) := by
  refine prints_of_json hp ?_ Component.plain_toJson_all (n := 4) (by decide)
  rw [diskOf_eq hl]
  exact run_components hc hs

theorem outcome_show_of_error (hp : parse args = .command (.show name root dir))
    (hcall : call cat .componentByName [("name", .string name)] = .error err) :
    outcome env d args = .failed := by
  have hfails : (∃ e, run env (diskOf env d) (.show name root dir) = .ok (.fail e)) ∨
      ∃ e, run env (diskOf env d) (.show name root dir) = .error e := by
    simp only [diskOf_eq hl, run, runShow, hc, Except.mapError, bind, Except.bind, hcall]
    cases err
    case notFound name => exact .inl ⟨_, rfl⟩
    all_goals exact .inr ⟨_, rfl⟩
  rcases hfails with ⟨e, he⟩ | ⟨e, he⟩
  case inl => exact outcome_of_fail hp he
  case inr => exact outcome_of_error hp he

theorem prints_show (hp : parse args = .command (.show name root dir))
    (hcall : call cat .componentByName [("name", .string name)] = .ok reply) :
    Prints (outcome env d args) reply.toJson := by
  obtain ⟨n, hle, hplain⟩ := reply.exists_plain
  refine prints_of_json hp ?_ hplain hle
  simp only [diskOf_eq hl, run, runShow, hc, Except.mapError, bind, Except.bind, hcall]
  rfl

end Runs

-- How the words of commands are read. What looks like an option is no value, unless it is joined to
-- the name of its option.
structure Readable : Prop where
  serving   : ∀ directory componentsDir ws, Places directory componentsDir ws →
    parse ("serve" :: ws) = .command (.serve none none (place directory) (place componentsDir))
  listing   : ∀ directory componentsDir ws category, Places directory componentsDir ws →
    parse ("components" :: (ws ++ ["--category", category.name, "--json"])) =
      .command (.components (place directory) (place componentsDir) category true)
  showing   : ∀ directory componentsDir ws name ns, Places directory componentsDir ws →
    Spells "--name" name ns →
    parse ("show" :: (ns ++ ws)) = .command (.show name (place directory) (place componentsDir))
  misnamed  : ∀ name ws, ¬isValue name → parse ("show" :: "--name" :: name :: ws) = .misuse
  misplaced : ∀ command ∈ ["serve", "components", "show"],
    ∀ option ∈ ["--directory", "--components-dir"], ∀ value ws, ¬isValue value →
      parse (command :: option :: value :: ws) = .misuse

theorem readable : Readable where
  serving _ _ _ hw        := parse_serve hw
  listing _ _ _ _ hw      := parse_components hw
  showing _ _ _ _ _ hw hn := parse_show hw hn
  misnamed _ _ hv         := parse_misuse rfl rfl (by decide) (by decide) rfl hv
  misplaced               := by
    intro command hcommand option hoption value ws hv
    simp only [List.mem_cons, List.not_mem_nil, or_false] at hcommand hoption
    rcases hcommand with rfl | rfl | rfl <;> rcases hoption with rfl | rfl
    all_goals exact parse_misuse rfl rfl (by decide) (by decide) rfl hv

-- Commands, and the application that a server with the same options starts. What a command writes
-- for other programs is one document, and reads back as what the application answers.
structure Agrees (env : Environment) (d : Disk) (root dir : Option Path) : Prop
    extends Readable where
  served     : ∀ e, run env d (.serve none none root dir) = .error e ↔
    application env d none none root dir = .error e
  unresolved : ∀ e', application env d none none root dir = .error (.settings e') →
    (∀ args category, parse args = .command (.components root dir category true) →
      outcome env d args = .failed) ∧
    ∀ args name, parse args = .command (.show name root dir) → outcome env d args = .failed
  listed     : ∀ a, application env d none none root dir = .ok a →
    ∀ args category, parse args = .command (.components root dir category true) →
      ∃ reply v, call a.catalog .components [("category", .string category.name)] = .ok reply ∧
        reply.toJson.get? "components" = some v ∧ Prints (outcome env d args) v
  shown      : ∀ a, application env d none none root dir = .ok a →
    ∀ args name reply, parse args = .command (.show name root dir) →
      call a.catalog .componentByName [("name", .string name)] = .ok reply →
        Prints (outcome env d args) reply.toJson
  refused    : ∀ a, application env d none none root dir = .ok a →
    ∀ args name e, parse args = .command (.show name root dir) →
      call a.catalog .componentByName [("name", .string name)] = .error e →
        outcome env d args = .failed
  -- A server needs a proper path for its requests, and a command does not.
  unrouted   : ∀ e', application env d none none root dir = .error (.path e') →
    ∀ args category, parse args = .command (.components root dir category true) →
      ∃ v, Prints (outcome env d args) v
  misused    : ∀ args, parse args = .misuse → outcome env d args = .misused

theorem commands_agree (hl : Log.fileOf env = none) : Agrees env d root dir := by
  have hcases := application_cases env d root dir
  have hok : ∀ a, application env d none none root dir = .ok a →
      ∃ p records, catalog env d root dir = .ok (p, a.catalog) ∧ a.catalog.Steady records := by
    intro a ha
    rcases hcases with ⟨e', he, _⟩ | ⟨p, cat, records, hc, hs, _, hcat⟩
    case inl => cases ha.symm.trans he
    case inr => exact ⟨p, records, hcat a ha ▸ hc, hcat a ha ▸ hs⟩
  constructor
  case toReadable => exact readable
  case served     => exact fun _ => run_serve_eq_error_iff
  case unresolved =>
    intro e' he
    rcases hcases with ⟨_, _, hc⟩ | ⟨_, _, _, _, _, hn, _⟩
    case inr => exact absurd he (hn e')
    case inl =>
      exact ⟨fun _ _ hp => outcome_listing_of_catalog_error hl hp hc,
        fun _ _ hp => outcome_show_of_catalog_error hl hp hc⟩
  case listed =>
    intro a ha args category hp
    obtain ⟨p, records, hc, hs⟩ := hok a ha
    exact ⟨_, _, call_components hs, rfl, prints_listing hl hc hp hs⟩
  case shown =>
    intro a ha args name reply hp hcall
    obtain ⟨p, _, hc, _⟩ := hok a ha
    exact prints_show hl hc hp hcall
  case refused =>
    intro a ha args name e hp hcall
    obtain ⟨p, _, hc, _⟩ := hok a ha
    exact outcome_show_of_error hl hc hp hcall
  case unrouted =>
    intro e' he args category hp
    rcases hcases with ⟨_, ha, _⟩ | ⟨_, _, _, hc, hs, _, _⟩
    case inl => cases he.symm.trans ha
    case inr => exact ⟨_, prints_listing hl hc hp hs⟩
  case misused => exact fun _ => outcome_of_misuse

theorem commands_agree_barn :
    Log.fileOf [] = none ∧ Agrees [] ⟨.folder [], ["srv"]⟩ (place (some "barn")) none :=
  ⟨rfl, commands_agree rfl⟩

-- The server of an empty project.
def barnSettings : Settings where
  host          := "127.0.0.1"
  port          := 3333
  path          := "/mcp"
  projectRoot   := ⟨.root, ["srv"]⟩
  componentsDir := some ⟨.root, ["srv", "src", "components"]⟩
  jsonResponse  := true

def barn : Http.App where
  path      := ⟨"/mcp", "/mcp".toList.map .inl⟩
  transport := ⟨barnSettings.allowedHosts, barnSettings.allowedOrigins, true⟩
  shared    := ⟨Operation.all,
    .cold (.standard ⟨.root, ["srv", "src", "components"]⟩ ⟨.root, ["srv"]⟩) ⟨.folder [], ["srv"]⟩⟩
  gateway   := .stopped

theorem application_barn :
    application [] ⟨.folder [], ["srv"]⟩ none none none none = .ok barn := by
  have hs : Settings.ofEnvironment ["srv"] [] none none none none = .ok barnSettings := by
    decide +kernel
  have hd : barnSettings.resolvedComponentsDir ["srv"] [] =
      .ok ⟨.root, ["srv", "src", "components"]⟩ := by decide +kernel
  have he : Settings.enabledOperations [] = Operation.all := by decide +kernel
  have hp : Http.PathTemplate.ofString? barnSettings.path = .ok barn.path :=
    Http.PathTemplate.ofString?_of_plain (by decide) (by decide)
  simp only [application, hs, Except.mapError, bind, Except.bind, hd, he, Http.App.create, hp]
  rfl

-- A name that looks like an option.
theorem show_optionlike :
    ¬∀ (env : Environment) (d : Disk) (name : String) (a : Http.App) (e : CallError),
      Log.fileOf env = none → application env d none none none none = .ok a →
        call a.catalog .componentByName [("name", .string name)] = .error e →
          outcome env d ["show", "--name", name] = .failed := by
  intro hc
  have hcall : (call barn.catalog .componentByName [("name", .string "-x")]).isOk = false := by
    decide +kernel
  cases he : call barn.catalog .componentByName [("name", .string "-x")]
  case ok reply => rw [he] at hcall; cases hcall
  case error e =>
    have hf := hc [] ⟨.folder [], ["srv"]⟩ "-x" barn e rfl application_barn he
    have hm : outcome [] ⟨.folder [], ["srv"]⟩ ["show", "--name", "-x"] = .misused :=
      outcome_of_misuse (parse_misuse rfl rfl (by decide) (by decide) rfl (by decide))
    cases hm.symm.trans hf

end CommandLine
end ComponentCatalog
