import ComponentCatalog.Proofs.Session.Store
import ComponentCatalog.Session.Route

namespace ComponentCatalog.Route

variable {allowed : List String} {store : SessionStore} {method : String}
  {session : Option String} {payload : Json} {host : Option String} {h : Handle}

theorem of_eq_resume_iff :
    of allowed store method session payload host = .resume h ↔ store.get? session = some h := by
  rw [of]
  split
  case _ h' hg => simp [hg]
  case _ hg =>
    simp only [hg, reduceCtorEq, iff_false]
    repeat' split
    all_goals simp

-- The route of a request that names no live session.
theorem of_eq_of_none (hg : store.get? session = none) :
    of allowed store method session payload host =
      if method ≠ "POST" then .rejectRequest
      else if !(namesNoSession session && Mcp.isInitialize payload) then .rejectPost
      else if hostAllowed allowed host then .start
      else .rejectHost host := by
  simp only [of, hg]

theorem eq_empty_of_namesNoSession {id : String} (hn : namesNoSession (some id)) : id = "" := by
  simpa [namesNoSession] using hn

theorem get?_of_namesNoSession (hn : namesNoSession session) : store.get? session = none := by
  match session with
  | none    => rfl
  | some id => rw [eq_empty_of_namesNoSession hn]; rfl

-- A session is started only if the request names none.
theorem of_eq_start_iff :
    of allowed store method session payload host = .start ↔
      method = "POST" ∧ namesNoSession session ∧ Mcp.isInitialize payload ∧
        hostAllowed allowed host := by
  cases hg : store.get? session
  case none   => rw [of_eq_of_none hg]; grind
  case some h =>
    have hn : ¬namesNoSession session := fun hn => by
      cases (get?_of_namesNoSession hn).symm.trans hg
    simp [of, hg, hn]

theorem of_eq_rejectHost_iff {misled : Option String} :
    of allowed store method session payload host = .rejectHost misled ↔
      method = "POST" ∧ namesNoSession session ∧ Mcp.isInitialize payload ∧
        ¬hostAllowed allowed host ∧ host = misled := by
  cases hg : store.get? session
  case none   => rw [of_eq_of_none hg]; grind
  case some h =>
    have hn : ¬namesNoSession session := fun hn => by
      cases (get?_of_namesNoSession hn).symm.trans hg
    simp [of, hg, hn]

theorem of_eq_rejectPost_iff :
    of allowed store method session payload host = .rejectPost ↔
      method = "POST" ∧ store.get? session = none ∧
        ¬(namesNoSession session ∧ Mcp.isInitialize payload) := by
  cases hg : store.get? session
  case none   => rw [of_eq_of_none hg]; grind
  case some h => simp [of, hg]

theorem of_eq_rejectRequest_iff :
    of allowed store method session payload host = .rejectRequest ↔
      method ≠ "POST" ∧ store.get? session = none := by
  cases hg : store.get? session
  case none   => rw [of_eq_of_none hg]; grind
  case some h => simp [of, hg]

end ComponentCatalog.Route
