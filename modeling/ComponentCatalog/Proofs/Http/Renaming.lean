import ComponentCatalog.Http.App
import ComponentCatalog.Proofs.Catalog.Steady

namespace ComponentCatalog.Http

-- The session header may be another one.
structure Request.Alike (r r' : Request) : Prop where
  server  : r.server = r'.server
  method  : r.method = r'.method
  path    : r.path = r'.path
  query   : r.query = r'.query
  body    : r.body = r'.body
  headers : ∀ name, name ≠ "mcp-session-id" → r.header? name = r'.header? name

theorem Request.Alike.refl {r : Request} : r.Alike r :=
  ⟨rfl, rfl, rfl, rfl, rfl, fun _ _ => rfl⟩

-- The response with another name for the session.
def Response.rename (id id' : String) (response : Response) : Response :=
  { response with session := response.session.map fun i => if i = id then id' else i }

variable {r r' : Request} {id id' : String} {t : Transport} {records : List Component}
  {s s' : Transport.Shared}

theorem Refusal.rename_response {e : Refusal} :
    (e.response id).rename id id' = e.response id' := by
  cases e <;> simp [response, isBare, Response.rename, Response.json, Response.make]

namespace Transport

theorem secure_alike (hr : r.Alike r') : t.secure r = t.secure r' := by
  have hc := hr.headers "content-type" (by decide)
  have hh := hr.headers "host" (by decide)
  have ho := hr.headers "origin" (by decide)
  have hjson : declaresJson r = declaresJson r' := by simp only [declaresJson, hc]
  have hhost : t.hostFits r = t.hostFits r' := by simp only [hostFits, hh]
  have horigin : t.originFits r = t.originFits r' := by simp only [originFits, ho]
  rw [secure, secure, hr.method, hjson, hhost, horigin]

theorem accepts_alike (hr : r.Alike r') : accepts r = accepts r' := by
  have ha := hr.headers "accept" (by decide)
  funext type
  simp only [accepts, ha]

theorem checkVersion_alike (hr : r.Alike r') : checkVersion r = checkVersion r' := by
  have hv := hr.headers "mcp-protocol-version" (by decide)
  simp only [checkVersion, hv]

theorem post_alike (hr : r.Alike r') : t.post r = t.post r' := by
  have hc := hr.headers "content-type" (by decide)
  simp only [post, checkAccept, accepts_alike hr, checkMediaType, hc, envelope?, hr.body,
    checkVersion_alike hr]

theorem rename_reply {v : Json} : (t.reply id v).rename id id' = t.reply id' v := by
  rw [reply, reply]
  split <;> simp [Response.rename, Response.json, Response.make]

theorem rename_handleGet (hr : r.Alike r') :
    (handleGet id r).map (·.rename id id') = handleGet id' r' := by
  have hl : resumes r = resumes r' := by simp only [resumes, hr.headers "last-event-id" (by decide)]
  simp only [handleGet, accepts_alike hr, checkVersion_alike hr, hl]
  split
  case h_1 => rw [Option.map_some, Refusal.rename_response]
  case h_2 =>
    cases resumes r'
    case true  => rfl
    case false => simp [Response.rename, Response.make]

theorem rename_handleDelete (hr : r.Alike r') :
    handleDelete id' r' = ((handleDelete id r).1.rename id id', (handleDelete id r).2) := by
  simp only [handleDelete, checkVersion_alike hr]
  split
  case h_1 => rw [Refusal.rename_response]
  case h_2 => simp [Response.rename, Response.make]

-- What the sessions share in two runs over the same components.
structure Shared.Alike (records : List Component) (s s' : Shared) : Prop where
  enabled : s.enabled = s'.enabled
  left    : s.catalog.Steady records
  right   : s'.catalog.Steady records

theorem handlePost_alike (hr : r.Alike r') (hs : Shared.Alike records s s') :
    ∃ u u' response, t.handlePost s id r = (u, response) ∧
      t.handlePost s' id' r' = (u', response.rename id id') ∧ Shared.Alike records u u' := by
  simp only [handlePost, post_alike hr]
  cases t.post r'
  case error e => exact ⟨s, s', e.response id, rfl, by rw [Refusal.rename_response], hs⟩
  case ok e    =>
    cases e
    case request rid method params =>
      have ⟨v, hv⟩ : ∃ v, Catalog.Settles records
          (Mcp.Server.answer s.enabled · rid method params) v := Mcp.exists_settles_answer
      have ⟨c, hc, hl⟩ := hv s.catalog hs.left
      have ⟨c', hc', hl'⟩ := hv s'.catalog hs.right
      refine ⟨{ s with catalog := c }, { s' with catalog := c' }, t.reply id v, ?_, ?_,
        ⟨hs.enabled, hl, hl'⟩⟩
      · simp only [hc]
      · simp only [← hs.enabled, hc', rename_reply]
    all_goals
      exact ⟨s, s', _, rfl, by simp [Response.rename, Response.make], hs⟩

-- The transports of two sessions that have both ended or both not.
theorem handle_alike {x x' : Session} (hr : r.Alike r') (hs : Shared.Alike records s s')
    (hx : x.terminated = x'.terminated) :
    ∃ u u' response effect, t.handle s x r = (u, response, effect) ∧
      t.handle s' x' r' = (u', response.map (·.rename x.id x'.id), effect) ∧
      Shared.Alike records u u' := by
  simp only [handle, secure_alike hr, hx, hr.method]
  cases t.secure r'
  case error e => exact ⟨s, s', _, _, rfl, by simp [Refusal.rename_response], hs⟩
  case ok _    =>
    cases x'.terminated
    case true  => exact ⟨s, s', _, _, rfl, by simp [Refusal.rename_response], hs⟩
    case false =>
      by_cases hp : r'.method = "POST"
      case pos =>
        have ⟨u, u', response, h, h', hu⟩ : ∃ u u' response,
            t.handlePost s x.id r = (u, response) ∧
            t.handlePost s' x'.id r' = (u', response.rename x.id x'.id) ∧
            Shared.Alike records u u' := handlePost_alike hr hs
        exact ⟨u, u', some response, .none, by simp [hp, h], by simp [hp, h'], hu⟩
      case neg =>
        by_cases hg : r'.method = "GET"
        case pos =>
          exact ⟨s, s', handleGet x.id r, .none, by simp [hg],
            by simp [hg, rename_handleGet hr], hs⟩
        case neg =>
          by_cases hd : r'.method = "DELETE"
          case pos =>
            have h : handleDelete x'.id r' =
                ((handleDelete x.id r).1.rename x.id x'.id, (handleDelete x.id r).2) :=
              rename_handleDelete hr
            exact ⟨s, s', some (handleDelete x.id r).1, (handleDelete x.id r).2, by simp [hd],
              by simp [hd, h], hs⟩
          case neg =>
            exact ⟨s, s', some (Refusal.method.response x.id), .none, by simp,
              by simp [Refusal.rename_response], hs⟩

theorem steady_handle {x : Session} (hs : s.catalog.Steady records) :
    (t.handle s x r).1.catalog.Steady records := by
  have ⟨_, _, _, _, h, _, hu⟩ : ∃ u u' response effect, t.handle s x r = (u, response, effect) ∧
      t.handle s x r = (u', response.map (·.rename x.id x.id), effect) ∧
      Shared.Alike records u u' := handle_alike .refl ⟨rfl, hs, hs⟩ rfl
  rw [h]
  exact hu.left

end Transport
end ComponentCatalog.Http
