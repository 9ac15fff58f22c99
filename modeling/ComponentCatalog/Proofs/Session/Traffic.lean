import ComponentCatalog.Proofs.Session.Segment

namespace ComponentCatalog

open Gateway (Segment)

-- Work that waits to be continued.
inductive Task
  -- a start that was let in and is about to bring its session into the store
  | entering (id : String)
  -- a start whose session waits for its loop
  | awaiting (h : Handle)
  -- a start whose opening request is handled
  | opening (h : Handle)
  | looping (h : Handle)
  -- a request that the transport of its session handles
  | serving (h : Handle)
  -- a request that ended its session and is about to close it
  | leaving (h : Handle)
  | server
  -- the end of the server, with the transports that are still to be ended
  | ending (hs : List Handle)
deriving DecidableEq

namespace Task

-- The work on requests can be cut off by the client. A loop and the server always end properly.
def isRequest : Task → Bool
  | .entering _ | .awaiting _ | .opening _ | .serving _ | .leaving _ => true
  | .looping _ | .server | .ending _                                 => false

-- The session that the task starts.
def start? : Task → Option Handle
  | .awaiting h | .opening h => some h
  | _                        => none

-- The server ends one transport after the other, and stops when none is left.
def endingSegments : List Handle → List Segment
  | []     => [.stop]
  | h :: _ => [.terminate h]

def endingRest : List Handle → List Task
  | []      => []
  | _ :: hs => [.ending hs]

-- What a task does until it waits again.
def segments (g : Gateway) : Task → List Segment
  | .entering id            => [.insert id]
  | .opening h              => [.activate h]
  | .looping h | .leaving h => [.close h]
  | .server                 => .clear :: endingSegments g.clear.2
  | .ending hs              => endingSegments hs
  | .awaiting _ | .serving _ => []

-- What is left to do then. There are no loops without a server, so a start that comes too late
-- fails.
def rest (g : Gateway) : Task → List Task
  | .entering id =>
    match g.insert id with
    | .ok (g, h) => if g.running then [.awaiting h] else []
    | .error _   => []
  | .awaiting h => [.opening h, .looping h]
  | .serving h  => if (g.store.session? h).any (·.terminated) then [.leaving h] else []
  | .server     => endingRest g.clear.2
  | .ending hs  => endingRest hs
  | .opening _ | .looping _ | .leaving _ => []

end Task

inductive Move
  | run
  -- A request to start a session is let in.
  | letIn (id : String)
  -- A request names a session, which is found.
  | resolve (name : Option String)
  -- An opening request that is handled ends well, and any other task goes on.
  | proceed (task : Task)
  -- An opening request is refused.
  | refuse (h : Handle)
  -- A request ends the transport that handles it.
  | hangUp (h : Handle)
  | interrupt (task : Task)

namespace Move

def segments (g : Gateway) : Move → List Segment
  | .run                                => [.run]
  | .proceed task                       => task.segments g
  | .refuse h | .hangUp h               => [.terminate h]
  | .letIn _ | .resolve _ | .interrupt _ => []

-- The task that is worked on.
def task? : Move → Option Task
  | .proceed task | .interrupt task          => some task
  | .refuse h                                => some (.opening h)
  | .run | .letIn _ | .resolve _ | .hangUp _ => none

def rest (g : Gateway) : Move → List Task
  | .run                   => [.server]
  | .letIn id              => [.entering id]
  | .resolve name          => (g.store.get? name).toList.map .serving
  | .proceed task          => task.rest g
  | .refuse h              => [.leaving h]
  | .hangUp _ | .interrupt _ => []

end Move

-- Tasks that are worked on at the same time. A move is the work of one task up to the point where
-- it waits, and whatever task is left can make the next move.
structure Traffic where
  gateway : Gateway
  tasks   : List Task

namespace Traffic

def idle : Traffic where
  gateway := .stopped
  tasks   := []

abbrev store (t : Traffic) : SessionStore :=
  t.gateway.store

def allows (t : Traffic) (m : Move) : Bool :=
  m.task?.all (· ∈ t.tasks) &&
    match m with
    | .run                  => !t.gateway.running
    | .letIn _              => t.gateway.running
    | .resolve name         => (t.store.get? name).isSome
    | .hangUp h             => .serving h ∈ t.tasks
    | .interrupt task       => task.isRequest
    | .proceed _ | .refuse _ => true

-- A move that is not allowed changes nothing.
def step (t : Traffic) (m : Move) : Traffic :=
  if t.allows m then {
    gateway := t.gateway.after (m.segments t.gateway)
    tasks   := m.rest t.gateway ++ m.task?.elim t.tasks t.tasks.erase }
  else t

def after (t : Traffic) (ms : List Move) : Traffic :=
  ms.foldl step t

variable {t : Traffic} {m : Move} {ms : List Move} {id : String} {h : Handle}
  {hs : List Handle} {task : Task}

theorem after_concat : t.after (ms ++ [m]) = (t.after ms).step m := by
  simp [after]

theorem after_append {ms' : List Move} : t.after (ms ++ ms') = (t.after ms).after ms' := by
  simp [after]

theorem step_of_allows (ha : t.allows m) :
    t.step m =
      { gateway := t.gateway.after (m.segments t.gateway)
        tasks   := m.rest t.gateway ++ m.task?.elim t.tasks t.tasks.erase } :=
  if_pos ha

theorem allows_proceed : t.allows (.proceed task) ↔ task ∈ t.tasks := by
  simp [allows, Move.task?]

theorem step_proceed (hm : task ∈ t.tasks) :
    t.step (.proceed task) =
      { gateway := t.gateway.after (task.segments t.gateway)
        tasks   := task.rest t.gateway ++ t.tasks.erase task } :=
  step_of_allows (allows_proceed.mpr hm)

theorem step_of_not_allows (ha : ¬t.allows m) : t.step m = t :=
  if_neg ha

-- The gateway takes no other steps than its segments.
theorem exists_eq_after : ∃ xs, (idle.after ms).gateway = Gateway.stopped.after xs := by
  induction ms using List.reverseRecOn
  case nil => exact ⟨[], rfl⟩
  case append_singleton ms m hi =>
    obtain ⟨xs, hxs⟩ := hi
    rw [after_concat, step]
    split
    case isFalse => exact ⟨xs, hxs⟩
    case isTrue  =>
      exact ⟨xs ++ m.segments (idle.after ms).gateway, by rw [Gateway.after_append, ← hxs]⟩

-- What a move did at some time.
def Happened (p : Traffic → Move → Prop) (ms : List Move) : Prop :=
  ∃ before m later, ms = before ++ m :: later ∧ p (idle.after before) m

variable {p : Traffic → Move → Prop}

theorem not_happened_nil : ¬Happened p [] := by
  simp [Happened]

theorem happened_concat : Happened p (ms ++ [m]) ↔ Happened p ms ∨ p (idle.after ms) m := by
  constructor
  case mp =>
    rintro ⟨before, m', later, he, hp⟩
    cases later using List.reverseRecOn
    case nil =>
      obtain ⟨rfl, hm⟩ := List.append_inj' he rfl
      obtain rfl := List.singleton_inj.mp hm
      exact .inr hp
    case append_singleton later m'' _ =>
      rw [← List.cons_append, ← List.append_assoc] at he
      exact .inl ⟨before, m', later, (List.append_inj' he rfl).1, hp⟩
  case mpr =>
    rintro (⟨before, m', later, rfl, hp⟩ | hp)
    case inl => exact ⟨before, m', later ++ [m], by simp, hp⟩
    case inr => exact ⟨ms, m, [], rfl, hp⟩

section Alone

-- Tasks that nothing gets in between of do what the gateway does in one go.

variable {g : Gateway} {ts : List Task}

theorem step_proceed_cons :
    step ⟨g, task :: ts⟩ (.proceed task) = ⟨g.after (task.segments g), task.rest g ++ ts⟩ := by
  rw [step_proceed List.mem_cons_self, List.erase_cons_head]

theorem step_refuse_cons :
    step ⟨g, .opening h :: ts⟩ (.refuse h) = ⟨g.terminate h, .leaving h :: ts⟩ := by
  rw [step_of_allows (by simp [allows, Move.task?])]
  simp [Move.segments, Move.rest, Move.task?, Gateway.after, Gateway.step]

def startMoves (id : String) (h : Handle) (e : StartEnd) : List Move :=
  [.letIn id, .proceed (.entering id), .proceed (.awaiting h)] ++
    match e with
    | .completed (some status) =>
      if status < 400 then [.proceed (.opening h)] else [.refuse h, .proceed (.leaving h)]
    | .completed none          => [.refuse h, .proceed (.leaving h)]
    | .interrupted             => [.interrupt (.opening h)]

theorem after_startMoves (hr : t.gateway.reserve id = .ok (g, h)) (e : StartEnd) :
    t.after (startMoves id h e) = ⟨g.conclude h e, .looping h :: t.tasks⟩ := by
  have ⟨hrun, hi⟩ := Gateway.reserve_eq_ok_iff.mp hr
  have ⟨hstep, hg⟩ := Gateway.step_insert_of_ok hi
  have hletIn : t.step (.letIn id) = ⟨t.gateway, .entering id :: t.tasks⟩ := step_of_allows hrun
  have henter : step ⟨t.gateway, .entering id :: t.tasks⟩ (.proceed (.entering id)) =
      ⟨g, .awaiting h :: t.tasks⟩ := by
    rw [step_proceed_cons]
    simp [Task.segments, Task.rest, Gateway.after, hstep, hi, hg, hrun]
  have hawait : step ⟨g, .awaiting h :: t.tasks⟩ (.proceed (.awaiting h)) =
      ⟨g, .opening h :: .looping h :: t.tasks⟩ := step_proceed_cons
  have hopen : t.after [.letIn id, .proceed (.entering id), .proceed (.awaiting h)] =
      ⟨g, .opening h :: .looping h :: t.tasks⟩ := by
    simp only [after, List.foldl_cons, List.foldl_nil, hletIn, henter, hawait]
  have hrefuse : after ⟨g, .opening h :: .looping h :: t.tasks⟩
      [.refuse h, .proceed (.leaving h)] =
        ⟨(g.terminate h).close h, .looping h :: t.tasks⟩ := by
    simp only [after, List.foldl_cons, List.foldl_nil, step_refuse_cons, step_proceed_cons]
    rfl
  unfold startMoves
  rw [after_append, hopen]
  cases e
  case interrupted =>
    rw [after, List.foldl_cons, List.foldl_nil,
      step_of_allows (by simp [allows, Move.task?, Task.isRequest])]
    simp [Move.segments, Move.rest, Move.task?, Gateway.after, Gateway.conclude]
  case completed status =>
    cases status
    case none        => exact hrefuse
    case some status =>
      simp only [Gateway.conclude]
      split
      case isTrue  => exact step_proceed_cons
      case isFalse => exact hrefuse

theorem after_serving :
    after ⟨g, .serving h :: ts⟩ (.proceed (.serving h) ::
        if (g.store.session? h).any (·.terminated) then [.proceed (.leaving h)] else []) =
      ⟨g.settle h, ts⟩ := by
  rw [Gateway.settle, after, List.foldl_cons, step_proceed_cons, Task.rest]
  split
  case isTrue  => exact step_proceed_cons
  case isFalse => rfl

def endMoves : List Handle → List Move
  | []      => []
  | _ :: hs => .proceed (.ending hs) :: endMoves hs

theorem after_endMoves (g : Gateway) :
    after ⟨g.after (Task.endingSegments hs), Task.endingRest hs ++ ts⟩ (endMoves hs) =
      ⟨(hs.foldl .terminate g).stop, ts⟩ := by
  induction hs generalizing g
  case nil          => rfl
  case cons h hs hi =>
    rw [endMoves, after, List.foldl_cons, Task.endingRest, List.singleton_append, step_proceed_cons]
    exact hi (g.terminate h)

theorem after_server :
    after ⟨g, .server :: ts⟩ (.proceed .server :: endMoves g.clear.2) = ⟨g.shutdown, ts⟩ := by
  rw [after, List.foldl_cons, step_proceed_cons]
  exact after_endMoves g.clear.1

end Alone

end Traffic
end ComponentCatalog
