import ComponentCatalog.Http.Transport

namespace ComponentCatalog.Http

namespace Refusal

@[simp]
theorem response_status (e : Refusal) (session : String) :
    (e.response session).status = e.status := by
  simp only [response]
  split <;> rfl

theorem status_ge (e : Refusal) : 400 ≤ e.status := by
  cases e <;> simp [status]

end Refusal

namespace Transport

variable {t : Transport} {s : Shared} {x : Session} {r : Request} {response : Response}

-- An answer with a status below 400 carries the name of the session.
def Names (session : String) (response : Response) : Prop :=
  response.status < 400 → response.session = some session

theorem names_of_refusal (e : Refusal) : Names x.id (e.response x.id) := by
  intro h
  rw [Refusal.response_status] at h
  exact absurd h (Nat.not_lt.mpr e.status_ge)

theorem handlePost_names : Names x.id (t.handlePost s x.id r).2 := by
  rw [handlePost]
  split
  case _ e _ => exact names_of_refusal e
  case _ =>
    intro _
    simp only [reply]
    split <;> rfl
  case _ => exact fun _ => rfl

theorem handleGet_names (h : handleGet x.id r = some response) : Names x.id response := by
  rw [handleGet] at h
  dsimp only at h
  generalize (do unless accepts r Response.streamType do throw .acceptsNoStream
                 checkVersion r : Except Refusal Unit) = checked at h
  cases checked
  case error e => exact Option.some.inj h ▸ names_of_refusal e
  case ok =>
    dsimp only at h
    split at h
    case isTrue  => cases h
    case isFalse => exact Option.some.inj h ▸ fun _ => rfl

theorem handleDelete_names : Names x.id (handleDelete x.id r).1 := by
  rw [handleDelete]
  split
  case _ e _ => exact names_of_refusal e
  case _     => exact fun _ => rfl

theorem handle_names (h : (t.handle s x r).2.1 = some response) : Names x.id response := by
  rw [handle] at h
  split at h
  case _ e _ => exact Option.some.inj h ▸ names_of_refusal e
  case _ =>
    split at h
    case isTrue => exact Option.some.inj h ▸ names_of_refusal .terminated
    case isFalse =>
      split at h
      case _ => exact Option.some.inj h ▸ handlePost_names
      case _ => exact handleGet_names h
      case _ => exact Option.some.inj h ▸ handleDelete_names
      case _ => exact Option.some.inj h ▸ names_of_refusal .method

-- Every post is answered, and none ends the session.
theorem handle_post (hp : r.method = "POST") :
    ∃ response, (t.handle s x r).2 = (some response, .none) := by
  rw [handle]
  split
  case _ => exact ⟨_, rfl⟩
  case _ =>
    split
    case isTrue  => exact ⟨_, rfl⟩
    case isFalse => simp [hp]

end Transport
end ComponentCatalog.Http
