import ComponentCatalog.Proofs.Http.AllowedHost
import ComponentCatalog.Proofs.Http.ToolCall
import ComponentCatalog.Proofs.Resource

namespace ComponentCatalog.Http

open Mcp (Envelope Members)

variable {a b : App} {t : Transport} {s : Transport.Shared} {x : Session} {r : Request}
  {e : Envelope} {h : Handle} {v : RawJson} {id fresh name : String} {tools : List Operation}
  {records : List Component} {params : Members}

-- A message that gets at the catalog, should the request get through to the application.
def Request.Consults (r : Request) (tools : List Operation) : Prop :=
  ∃ rid method params, Transport.envelope? r = .ok (.request rid method params) ∧
    Mcp.Server.Consults tools method (params.getD [])

namespace Transport

theorem envelope?_of_post (h : t.post r = .ok e) : envelope? r = .ok e := by
  obtain ⟨_, -, h⟩ := Json.Read.exists_of_bind_eq_ok h
  obtain ⟨_, -, h⟩ := Json.Read.exists_of_bind_eq_ok h
  obtain ⟨e', he, h⟩ := Json.Read.exists_of_bind_eq_ok h
  split at h
  case isTrue  => cases h; exact he
  case isFalse =>
    obtain ⟨_, -, h⟩ := Json.Read.exists_of_bind_eq_ok h
    cases h
    exact he

theorem consults_of_handlePost (h : (t.handlePost s id r).1.catalog ≠ s.catalog) :
    r.Consults s.enabled := by
  unfold handlePost at h
  split at h
  case h_2 rid method params hp =>
    exact ⟨rid, method, params, envelope?_of_post hp, Mcp.Server.consults_of_answer h⟩
  all_goals exact absurd rfl h

theorem consults_of_handle (h : (t.handle s x r).1.catalog ≠ s.catalog) :
    r.Consults s.enabled := by
  unfold handle at h
  split at h
  case h_1 => exact absurd rfl h
  case h_2 =>
    split at h
    case isTrue  => exact absurd rfl h
    case isFalse =>
      split at h
      case h_1 => exact consults_of_handlePost h
      all_goals exact absurd rfl h

end Transport

namespace App

theorem consults_of_resume (hn : (a.resume h r v).1.catalog ≠ a.catalog) :
    r.Consults a.shared.enabled := by
  unfold resume at hn
  split at hn
  case h_3 x _ _ =>
    refine Transport.consults_of_handle (t := a.transport) (x := x) fun he => hn ?_
    split
    case h_1 hh => rw [hh] at he; exact he
    case h_2 hh => rw [hh] at he; exact he
  all_goals exact absurd rfl hn

theorem consults_of_start (hn : (a.start fresh r).1.catalog ≠ a.catalog) :
    r.Consults a.shared.enabled := by
  unfold start at hn
  split at hn
  case h_1 => exact absurd rfl hn
  case h_2 => exact Transport.consults_of_handle hn

-- Whether the request is for a session or for none, and wherever it goes.
theorem consults_of_handle (hn : (a.handle fresh r).1.catalog ≠ a.catalog) :
    r.Consults a.shared.enabled := by
  have hm : a.handle fresh r = a.multiplex fresh r ∨ (a.handle fresh r).1 = a :=
    handle_eq_multiplex_or
  rcases hm with hm | hm
  case inr => exact absurd (by rw [hm]) hn
  case inl =>
    rw [hm] at hn
    cases hp : payload r
    case error => exact absurd (by rw [multiplex, hp]) hn
    case ok v  =>
      rw [multiplex_of_ok hp] at hn
      cases hr : a.route r v <;> rw [hr] at hn
      case resume => exact consults_of_resume hn
      case start  => exact consults_of_start hn
      all_goals exact absurd rfl hn

-- What is read over a session under a URI is a resource's text, with the URI in normal form.
def Reads (a : App) (records : List Component) (uri normal : String) (resource : Resource) : Prop :=
  ∀ fresh r id params, Calls a r id "resources/read" params →
    params.lookup "uri" = some (.string uri) →
    ∃ response, (a.handle fresh r).2 = answered response ∧
      response.Answers (Mcp.Server.contents normal (resource.text records))

-- What an application with these tools does, if its loads bring these records.
structure Gated (tools : List Operation) (records : List Component) (a : App) : Prop where
  listed    : ∀ fresh r id params, Calls a r id "tools/list" params →
    ∃ response, a.handle fresh r = (a, answered response) ∧
      response.Answers (.object [("tools", .array (tools.map Mcp.Tools.definition))])
  refused   : ∀ fresh r id params name, Calls a r id "tools/call" params →
    params.lookup "name" = some (.string name) → (∀ op ∈ tools, op.name ≠ name) →
    ∃ response, a.handle fresh r = (a, answered response) ∧ response.Answers (.object [
      ("content", Mcp.Tools.textContent ("Unknown tool: " ++ name)), ("isError", .bool true)])
  -- No other request, accepted or not, gets at the catalog.
  guarded   : ∀ fresh r, (a.handle fresh r).1.catalog ≠ a.catalog → r.Consults tools
  readable  : ∀ uri normal resource, Url.normalize? uri = some normal →
    Resource.Names normal resource → a.Reads records uri normal resource
  all       : a.Reads records Resource.allUri Resource.allUri .all
  component : ∀ name, name ≠ "" → (∀ c ∈ name.toList, Url.inHost c) →
    a.Reads records (Resource.scheme ++ name) (Resource.scheme ++ Resource.encoded name)
      (.component (Resource.encoded name))

theorem gated (ha : a.Ready records) : a.Gated a.shared.enabled records := by
  have hreadable : ∀ uri normal resource, Url.normalize? uri = some normal →
      Resource.Names normal resource → a.Reads records uri normal resource := by
    intro uri normal resource hn hr fresh r id params hc hu
    obtain ⟨rid, hh⟩ := hc.handle_eq fresh ha.settled (by decide)
    rw [Mcp.Server.respond_read ha.steady hu hn (Resource.ofUri?_eq_some_iff.mpr hr)] at hh
    exact ⟨_, congrArg Prod.snd hh, Transport.answers_reply⟩
  constructor
  case listed =>
    intro fresh r id params hc
    obtain ⟨rid, hh⟩ := hc.handle_eq fresh ha.settled (by decide)
    exact ⟨_, hh, Transport.answers_reply⟩
  case refused =>
    intro fresh r id params name hc hn ho
    obtain ⟨rid, hh⟩ := hc.handle_eq fresh ha.settled (by decide)
    rw [Mcp.Server.respond_of_not_enabled hn ho] at hh
    exact ⟨_, hh, Transport.answers_reply⟩
  case guarded   => exact fun _ _ => consults_of_handle
  case readable  => exact hreadable
  case all       => exact hreadable _ _ _ Resource.normalize?_allUri .all
  case component =>
    intro name hn hh
    exact hreadable _ _ _ (Resource.normalize?_component hn hh) (Resource.names_encoded hn hh)

end App

-- The application in a process with an environment that may change.
structure Process where
  environment : Environment
  app         : App

namespace Process

inductive Event
  | request (fresh : String) (r : Request)
  | environment (env : Environment)

def step (p : Process) : Event → Process
  | .request fresh r => { p with app := (p.app.handle fresh r).1 }
  | .environment env => { p with environment := env }

def after (p : Process) (es : List Event) : Process :=
  es.foldl step p

variable {p : Process} {e : Event} {es : List Event}

theorem ready_step (hp : p.app.Ready records) : (p.step e).app.Ready records := by
  cases e
  case request     => exact hp.handle
  case environment => exact hp

theorem sameSetup_step : App.SameSetup (p.step e).app p.app := by
  cases e
  case request     => exact App.sameSetup_handle
  case environment => exact .refl

theorem ready_after (hp : p.app.Ready records) : (p.after es).app.Ready records := by
  induction es generalizing p
  case nil          => exact hp
  case cons e es hi => exact hi (ready_step hp)

theorem sameSetup_after : App.SameSetup (p.after es).app p.app := by
  induction es generalizing p
  case nil          => exact .refl
  case cons e es hi => exact hi.trans sameSetup_step

end Process

-- The records are those of the files, and have nothing to do with the tools.
theorem App.tools_gated {settings : Settings} {env : Environment} {dir root : Path} {d : Disk}
    (hc : create settings (Settings.enabledOperations env) (.cold (.standard dir root) d) = .ok b)
    (hr : b.run = .ok a) :
    ∃ records, (Catalog.cold (.standard dir root) d).fetch.2 = .ok records ∧
      ∀ es : List Process.Event,
        (Process.after ⟨env, a⟩ es).app.Gated (Settings.enabledOperations env) records := by
  obtain ⟨records, ha⟩ := (started_of_create hc hr).exists_ready
  refine ⟨records, ?_, fun es => ?_⟩
  · have hs : a.catalog = .cold (.standard dir root) d := (started_of_create hc hr).catalog
    obtain ⟨c, hf, -⟩ := Catalog.settles_fetch _ ha.steady
    rw [← hs, hf]
  · have hready : (Process.after ⟨env, a⟩ es).app.Ready records := Process.ready_after ha
    have hsetup : SameSetup (Process.after ⟨env, a⟩ es).app a := Process.sameSetup_after
    have he : a.shared.enabled = Settings.enabledOperations env := by rw [eq_of_create hc hr]
    rw [← he, ← hsetup.enabled]
    exact gated hready

-- The session that a post asks for is there afterwards.
theorem OpeningPost.live (ho : OpeningPost a.transport r) (hp : a.path.takes r.path)
    (hr : a.gateway.running) (hs : a.gateway.store.Settled) (hu : a.gateway.store.Unused fresh) :
    fresh ∈ (a.handle fresh r).1.gateway.store.ids := by
  have hh : Exchange.HandsOut ⟨a, fresh, r⟩ fresh := ho.handsOut hr hu
  have hm : fresh ∈ (Exchange.next ⟨a, fresh, r⟩).gateway.store.ids :=
    (Exchange.mem_ids_next_iff hs hr).mpr (.inl hh)
  rw [App.Opens.handle_eq ⟨hp, hh⟩ .refl]
  exact hm

def tokensEnv : Environment :=
  [("CODZILLA_TOOLS", " Tokens ")]

-- A workshop whose tools know nothing of components.
def App.tokensOnly : App where
  path      := App.workshop.path
  transport := App.workshop.transport
  shared    := ⟨[.designTokens], .cold (.standard ⟨.none, []⟩ ⟨.none, []⟩) ⟨.folder [], []⟩⟩
  gateway   := ⟨.empty, true⟩

def Request.toWorkshop (r : Request) : Request :=
  { r with headers := ("host", "workshop") :: r.headers }

-- A session is opened, and then the environment asks for all tools.
abbrev Process.reconsidered : Process :=
  Process.after ⟨tokensEnv, .tokensOnly⟩
    [.request "3e7a" Request.opening.toWorkshop, .environment []]

theorem accepts_toWorkshop (hp : r.method = "POST")
    (hc : r.toWorkshop.header? "content-type" = some "application/json")
    (ha : r.toWorkshop.header? "accept" = some "application/json")
    (hv : r.toWorkshop.header? "mcp-protocol-version" = none)
    (ho : r.toWorkshop.header? "origin" = none) :
    App.tokensOnly.transport.Accepts r.toWorkshop := by
  have hm : "workshop" ∈ App.workshopSettings.allowedHosts :=
    Settings.mem_allowedHosts_iff.mpr ⟨"workshop", by decide, .inl rfl⟩
  have hhost : App.tokensOnly.transport.hostFits r.toWorkshop :=
    Transport.hostFits_of_mem rfl (by decide) hm
  have horigin : App.tokensOnly.transport.originFits r.toWorkshop := by
    rw [Transport.originFits, ho]
    rfl
  exact Transport.accepts_of_json (.inr ⟨hhost, horigin⟩) rfl hp hc ha hv

theorem openingPost_toWorkshop :
    OpeningPost App.tokensOnly.transport Request.opening.toWorkshop where
  accepts     := accepts_toWorkshop rfl rfl rfl rfl rfl
  sessionless := rfl
  host        := by decide +kernel
  message     := exists_message_opening

theorem reconsidered_live : "3e7a" ∈ Process.reconsidered.app.gateway.store.ids := by
  have hn : ∀ (p : Process) (r : Request), (p.after [.request "3e7a" r, .environment []]).app =
      (p.app.handle "3e7a" r).1 := fun _ _ => rfl
  rw [hn]
  exact openingPost_toWorkshop.live (by decide) rfl .empty ⟨List.not_mem_nil, List.not_mem_nil⟩

theorem calls_reconsidered :
    Calls Process.reconsidered.app (Request.toolCall "3e7a" .components []).toWorkshop "3e7a"
      "tools/call" [("name", .string "get_components"), ("arguments", .object [])] := by
  have hs : App.SameSetup Process.reconsidered.app .tokensOnly := Process.sameSetup_after
  constructor
  case path    => rw [hs.path]; decide
  case named   => rfl
  case ne      => decide
  case live    => exact SessionStore.contains_iff_mem.mpr reconsidered_live
  case accepts => rw [hs.transport]; exact accepts_toWorkshop rfl rfl rfl rfl rfl
  case message =>
    have hp : Json.Plain 1 (.object []) := .object (by simp) (by simp)
    have hv : Json.readBytes (Request.toolCall "3e7a" .components []).body =
        .ok (toolMessage .components []).raw := readBytes_toolCall hp
    exact ⟨(toolMessage .components []).raw, .text "1", some _, hv, ofJson?_toolMessage, rfl⟩
  case fits =>
    have hf : Mcp.Params.toolCall.fits (.object
        [("name", .string Operation.components.name), ("arguments", .object [])]) :=
      fits_toolMessage
    exact hf

theorem App.tools_gated_reconsidered :
    create workshopSettings (Settings.enabledOperations tokensEnv) App.tokensOnly.catalog =
        .ok { App.tokensOnly with gateway := .stopped } ∧
      App.run { App.tokensOnly with gateway := .stopped } = .ok .tokensOnly ∧
      ∃ response, Process.reconsidered.app.handle "90b6"
          (Request.toolCall "3e7a" .components []).toWorkshop =
            (Process.reconsidered.app, answered response) ∧
        response.Answers (.object [
          ("content", Mcp.Tools.textContent "Unknown tool: get_components"),
          ("isError", .bool true)]) := by
  have he : Settings.enabledOperations tokensEnv = [.designTokens] := by decide +kernel
  have hp : PathTemplate.ofString? workshopSettings.path = .ok workshop.path :=
    PathTemplate.ofString?_of_plain (by decide) (by decide)
  have hc : create workshopSettings (Settings.enabledOperations tokensEnv)
      (.cold (.standard ⟨.none, []⟩ ⟨.none, []⟩) ⟨.folder [], []⟩) =
        .ok { App.tokensOnly with gateway := .stopped } := by
    rw [create, hp, he]
    rfl
  have hr : App.run { App.tokensOnly with gateway := .stopped } = .ok .tokensOnly := rfl
  obtain ⟨records, -, hg⟩ := App.tools_gated hc hr
  refine ⟨hc, hr, ?_⟩
  refine (hg [.request "3e7a" Request.opening.toWorkshop, .environment []]).refused "90b6" _ _ _
    "get_components" calls_reconsidered rfl ?_
  rw [he]
  decide

end ComponentCatalog.Http
