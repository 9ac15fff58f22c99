import ComponentCatalog.Proofs.Session.Closing

namespace ComponentCatalog

namespace Gateway

open SessionStore

variable {g : Gateway} {id : String} {h : Handle} {x : Segment} {xs : List Segment}

theorem not_mem_live_close (hn : g.store.Named) : (id, h) ∉ (g.close h).store.live := by
  by_cases hm : (id, h) ∈ g.store.live
  case pos =>
    obtain ⟨x, hx, rfl, _⟩ := hn.keyed hm
    simp [close, hx, remove_of_lookup (hn.lookup_eq_some_iff.mpr hm)]
  case neg =>
    rcases close_cases (h := h) hn with he | ⟨_, _, ht, _⟩
    case inl => rwa [he]
    case inr => exact fun hm' => hm (ht.left_subset hm')

theorem running_close : (g.close h).running = g.running := by
  rw [close]
  split <;> rfl

-- Only a run of the server begins one.
theorem running_of_step (hr : (g.step x).running) (hx : x ≠ .run) : g.running := by
  cases x
  case run         => exact absurd rfl hx
  case activate h  => exact hr
  case terminate h => exact hr
  case close h     => exact running_close ▸ hr
  case clear       => exact hr
  case stop        => cases hr
  case insert id   =>
    rcases step_insert_cases g id with he | ⟨_, he⟩
    all_goals rw [he] at hr; exact hr
  case settle h    =>
    rw [step, settle] at hr
    split at hr
    case isTrue  => exact running_close ▸ hr
    case isFalse => exact hr

theorem running_of_after (hr : (g.after xs).running) (hx : .run ∉ xs) : g.running := by
  induction xs generalizing g
  case nil          => exact hr
  case cons x xs hi =>
    rw [List.mem_cons, not_or] at hx
    exact running_of_step (hi hr hx.2) (Ne.symm hx.1)

end Gateway

namespace Task

variable {g : Gateway} {hs : List Handle}

-- The server runs, or is about to stop.
def isServer : Task → Bool
  | .server | .ending _ => true
  | _                   => false

theorem live_after_endingSegments : (g.after (endingSegments hs)).store.live = g.store.live := by
  cases hs <;> rfl

end Task

namespace Traffic

open SessionStore

variable {t : Traffic} {m : Move} {ms : List Move} {id : String} {h : Handle} {x : Session}
  {task : Task}

theorem mem_tasks_step (hm : task ∈ t.tasks) (hn : m.task? ≠ some task) :
    task ∈ (t.step m).tasks := by
  rw [step]
  split
  case isFalse => exact hm
  case isTrue  =>
    refine List.mem_append_right _ ?_
    cases he : m.task?
    case none       => exact hm
    case some task' =>
      have hne : task ≠ task' := fun heq => hn (by rw [he, heq])
      exact (List.mem_erase_of_ne hne).mpr hm

theorem mem_tasks_proceed {task' : Task} (hm : task ∈ t.tasks) (hr : task' ∈ task.rest t.gateway) :
    task' ∈ (t.step (.proceed task)).tasks := by
  rw [step_proceed hm]
  exact List.mem_append_left _ hr

-- An entry of the store was there before, or belongs to a start that comes into the store.
theorem mem_live_step (hn : t.store.Named) (hm : (id, h) ∈ (t.step m).store.live) :
    (id, h) ∈ t.store.live ∨ t.Enters id m ∧ h = t.store.next := by
  obtain ⟨y, hy, rfl, _⟩ := (named_step hn).keyed hm
  rcases exists_session?_step hn hy with ⟨x, hx⟩ | ⟨id, he, hh, rfl⟩
  case inr => exact .inr ⟨he, hh⟩
  case inl =>
    refine .inl ?_
    by_cases ho : t.Opens h m
    case pos =>
      rw [store, ho.step_eq] at hm
      exact hm
    case neg =>
      obtain ⟨z, hz⟩ := becomes_step hn hx ho
      cases hz.session.symm.trans hy
      rw [hz.id_eq] at hm ⊢
      rcases hz.stage with ⟨_, hl⟩ | ⟨hl, _⟩
      case inl => exact hl.mp hm
      case inr => exact hl

-- The loop of the session is to come and to close it, or is already there.
def Attended (t : Traffic) (h : Handle) : Prop :=
  .awaiting h ∈ t.tasks ∨ .looping h ∈ t.tasks

-- A start comes into the store without a server, or is interrupted while it waits for the loop.
inductive Strands (h : Handle) (t : Traffic) (m : Move) : Prop
  | late {id : String} (he : t.Enters id m) (hh : h = t.store.next) (hr : ¬t.gateway.running)
  | interrupted (hm : m = .interrupt (.awaiting h)) (ht : .awaiting h ∈ t.tasks)

theorem Enters.attended_or_strands (he : t.Enters id m) :
    (t.step m).Attended t.store.next ∨ Strands t.store.next t m := by
  by_cases hr : t.gateway.running
  case neg => exact .inr (.late he rfl hr)
  case pos =>
    obtain ⟨rfl, hm, hu⟩ := he
    exact .inl (.inl (mem_tasks_proceed hm (by simp [Task.rest_entering hu, hr])))

-- A loop that ends closes its session.
theorem Attended.step (hn : t.store.Named) (ha : t.Attended h)
    (hm : (id, h) ∈ (t.step m).store.live) : (t.step m).Attended h ∨ Strands h t m := by
  rcases ha with ha | ha
  case inl =>
    by_cases ht : m.task? = some (.awaiting h)
    case neg => exact .inl (.inl (mem_tasks_step ha ht))
    case pos =>
      cases m <;> cases ht
      case proceed   => exact .inl (.inr (mem_tasks_proceed ha (by simp [Task.rest])))
      case interrupt => exact .inr (.interrupted rfl ha)
  case inr =>
    by_cases ht : m.task? = some (.looping h)
    case neg => exact .inl (.inr (mem_tasks_step ha ht))
    case pos =>
      cases m <;> cases ht
      case interrupt =>
        rw [step_of_not_allows (by simp [allows, Task.isRequest])]
        exact .inl (.inr ha)
      case proceed   =>
        rw [step_proceed ha] at hm
        exact absurd hm (Gateway.not_mem_live_close hn)

theorem attended_or_stranded (hm : (id, h) ∈ (idle.after ms).store.live) :
    (idle.after ms).Attended h ∨ Happened (Strands h) ms := by
  induction ms using List.reverseRecOn
  case nil => cases hm
  case append_singleton ms m hi =>
    have hn : (idle.after ms).store.Named := Orderly.of_after.named
    rw [after_concat] at hm ⊢
    rw [happened_concat]
    rcases mem_live_step hn hm with hold | ⟨he, rfl⟩
    case inr => exact he.attended_or_strands.imp_right .inr
    case inl =>
      rcases hi hold with ha | hh
      case inl => exact (ha.step hn hm).imp_right .inr
      case inr => exact .inr (.inl hh)

-- The server ends and takes all sessions out of the store, this one too.
def Clears (h : Handle) (t : Traffic) (m : Move) : Prop :=
  m = .proceed .server ∧ .server ∈ t.tasks ∧ h < t.store.next

theorem next_le_step (hn : t.store.Named) : t.store.next ≤ (t.step m).store.next := by
  by_contra hlt
  have hx := List.getElem?_eq_getElem (Nat.lt_of_not_le hlt)
  obtain ⟨y, hy, _⟩ := change_step (m := m) hn hx
  exact Nat.lt_irrefl _ (lt_next_of_session? hy)

theorem Clears.live_eq (hc : Clears h t m) : (t.step m).store.live = [] := by
  obtain ⟨rfl, hm, _⟩ := hc
  rw [step_proceed hm]
  have hclear : t.gateway.clear.1.store.live = [] := by simp [Gateway.clear, removeAll]
  exact Task.live_after_endingSegments.trans hclear

theorem lt_next_of_cleared (hc : Happened (Clears h) ms) : h < (idle.after ms).store.next := by
  induction ms using List.reverseRecOn
  case nil => exact absurd hc not_happened_nil
  case append_singleton ms m hi =>
    have hle : (idle.after ms).store.next ≤ ((idle.after ms).step m).store.next :=
      next_le_step Orderly.of_after.named
    rw [after_concat]
    rcases happened_concat.mp hc with hc | hc
    case inl => exact Nat.lt_of_lt_of_le (hi hc) hle
    case inr => exact Nat.lt_of_lt_of_le hc.2.2 hle

theorem not_cleared (hm : (id, h) ∈ (idle.after ms).store.live) : ¬Happened (Clears h) ms := by
  induction ms using List.reverseRecOn
  case nil => cases hm
  case append_singleton ms m hi =>
    rw [after_concat] at hm
    intro hc
    rcases happened_concat.mp hc with hc | hc
    case inr => simp [hc.live_eq] at hm
    case inl =>
      rcases mem_live_step Orderly.of_after.named hm with hold | ⟨_, rfl⟩
      case inl => exact hi hold hc
      case inr => exact Nat.lt_irrefl _ (lt_next_of_cleared hc)

-- The end of the server stops it, or is not over yet.
theorem exists_server_ending {g : Gateway} {hs : List Handle}
    (hr : (g.after (Task.endingSegments hs)).running) :
    ∃ task ∈ Task.endingRest hs, task.isServer := by
  cases hs
  case nil  => cases hr
  case cons => exact ⟨_, List.mem_singleton.mpr rfl, rfl⟩

theorem exists_server_proceed (hm : task ∈ t.tasks) (hs : task.isServer)
    (hr : (t.step (.proceed task)).gateway.running) :
    ∃ task' ∈ (t.step (.proceed task)).tasks, task'.isServer := by
  rw [step_proceed hm] at hr
  have hend : ∃ task' ∈ task.rest t.gateway, task'.isServer := by
    cases task
    case server    => exact exists_server_ending hr
    case ending hs => exact exists_server_ending hr
    all_goals cases hs
  exact hend.imp fun _ ⟨hm', hs'⟩ => ⟨mem_tasks_proceed hm hm', hs'⟩

-- A server is not interrupted.
theorem eq_proceed_of_server (ha : t.allows m) (ht : m.task? = some task) (hs : task.isServer) :
    m = .proceed task := by
  cases m <;> cases ht
  case proceed   => rfl
  case refuse    => cases hs
  case interrupt => cases task <;> simp_all [allows, Task.isServer, Task.isRequest]

theorem exists_server_step (hs : t.gateway.running → ∃ task ∈ t.tasks, task.isServer)
    (hr : (t.step m).gateway.running) : ∃ task ∈ (t.step m).tasks, task.isServer := by
  by_cases ha : t.allows m
  case neg =>
    rw [step_of_not_allows ha] at hr ⊢
    exact hs hr
  case pos =>
    by_cases hrun : .run ∈ m.segments t.gateway
    case pos =>
      obtain rfl := eq_of_mem_segments hrun rfl
      rw [step_of_allows ha]
      exact ⟨.server, List.mem_cons_self, rfl⟩
    case neg =>
      have hold : t.gateway.running := by
        rw [step_of_allows ha] at hr
        exact Gateway.running_of_after hr hrun
      obtain ⟨task, hm, hserver⟩ := hs hold
      by_cases ht : m.task? = some task
      case neg => exact ⟨task, mem_tasks_step hm ht, hserver⟩
      case pos =>
        obtain rfl := eq_proceed_of_server ha ht hserver
        exact exists_server_proceed hm hserver hr

theorem exists_server (hr : (idle.after ms).gateway.running) :
    ∃ task ∈ (idle.after ms).tasks, task.isServer := by
  induction ms using List.reverseRecOn
  case nil => cases hr
  case append_singleton ms m hi =>
    rw [after_concat] at hr ⊢
    exact exists_server_step hi hr

-- What is left of a server and of all requests that came to it.
structure Remains (t : Traffic) (stranded cleared reopened : Handle → Prop) : Prop where
  stopped : ¬t.gateway.running
  left    : ∀ id h, (id, h) ∈ t.store.live → stranded h ∧ ¬cleared h
  taken   : ∀ h x, t.store.session? h = some x → (x.id, h) ∉ t.store.live →
    x.id ∈ t.store.retired ∧ (x.state = .closed ↔ ¬reopened h)
  nothing : (∀ h, stranded h → cleared h) → (∀ h, ¬reopened h) →
    t.store.live = [] ∧ ∀ h x, t.store.session? h = some x →
      x.state = .closed ∧ x.id ∈ t.store.retired
  -- The next run of the server finds what is left.
  rerun   : (t.step .run).gateway = { t.gateway with running := true }

theorem remains (ms : List Move) (ht : (idle.after ms).tasks = []) :
    Remains (idle.after ms) (fun h => Happened (Strands h) ms) (fun h => Happened (Clears h) ms)
      fun h => Happened (Reopens h) ms := by
  have ho : (idle.after ms).Orderly := .of_after
  have hc := closing ms
  have hstopped : ¬(idle.after ms).gateway.running := by
    intro hr
    obtain ⟨task, hm, _⟩ := exists_server hr
    simp [ht] at hm
  have hleft : ∀ id h, (id, h) ∈ (idle.after ms).store.live →
      Happened (Strands h) ms ∧ ¬Happened (Clears h) ms := by
    intro id h hm
    refine ⟨(attended_or_stranded hm).resolve_left ?_, not_cleared hm⟩
    simp [Attended, ht]
  have htaken : ∀ h x, (idle.after ms).store.session? h = some x →
      (x.id, h) ∉ (idle.after ms).store.live →
        x.id ∈ (idle.after ms).store.retired ∧ (x.state = .closed ↔ ¬Happened (Reopens h) ms) := by
    intro h x hx hl
    have hr : x.id ∈ (idle.after ms).store.retired := not_not.mp ((ho.live_iff hx).not.mp hl)
    refine ⟨hr, fun hclosed hre => ?_, fun hn => (hc.closed h x hx hn).mpr hr⟩
    obtain ⟨y, hy, ha, _⟩ := (hc.revived h).mp hre
    cases hx.symm.trans hy
    cases hclosed.symm.trans ha
  refine ⟨hstopped, hleft, htaken, ?nothing, ?rerun⟩
  case nothing =>
    intro hs hre
    have hl : (idle.after ms).store.live = [] := by
      refine List.eq_nil_iff_forall_not_mem.mpr fun e hm => ?_
      have ⟨hstranded, hn⟩ := hleft e.1 e.2 hm
      exact hn (hs e.2 hstranded)
    refine ⟨hl, fun h x hx => ?_⟩
    have ⟨hr, hclosed⟩ := htaken h x hx (by simp [hl])
    exact ⟨hclosed.mpr (hre h), hr⟩
  case rerun =>
    have hn : (idle.after ms).gateway.running = false := Bool.eq_false_iff.mpr hstopped
    rw [step_of_allows (by simp [allows, Move.task?, hn])]
    simp [Move.segments, Gateway.after, Gateway.step, Gateway.run, hn, Except.toOption]

-- One session is open and another one is about to be, when the server ends.
def evening : List Move :=
  [.run, .letIn "3e7a", .proceed (.entering "3e7a"), .proceed (.awaiting 0), .proceed (.opening 0),
    .letIn "81d0", .proceed (.entering "81d0"), .proceed .server, .proceed (.awaiting 1), .refuse 1,
    .proceed (.leaving 1), .proceed (.ending [1]), .proceed (.ending []), .proceed (.looping 0),
    .proceed (.looping 1)]

theorem remains_evening :
    (idle.after evening).store.next = 2 ∧ (idle.after evening).tasks = [] ∧
      Remains (idle.after evening) (fun h => Happened (Strands h) evening)
        (fun h => Happened (Clears h) evening) fun h => Happened (Reopens h) evening := by
  have hnext : (idle.after evening).store.next = 2 := by decide +kernel
  have ht : (idle.after evening).tasks = [] := by decide +kernel
  exact ⟨hnext, ht, remains evening ht⟩

-- The request passed the test that the server runs, and waits for the store while the server stops.
theorem late_start_left :
    ¬∀ ms, (idle.after ms).tasks = [] → (idle.after ms).store.live = [] := by
  intro hl
  have hlive := hl [.run, .letIn "3e7a", .proceed .server, .proceed (.entering "3e7a")] rfl
  cases hlive

end Traffic
end ComponentCatalog
