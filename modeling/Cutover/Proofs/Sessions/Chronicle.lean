import Cutover.Proofs.Sessions.Rotation

set_option autoImplicit false

namespace Cutover

/-- The id of the session that an event closes. -/
def SessionEvent.closedId? : SessionEvent → Option Nat
  | .opened _ => none
  | .closed id => some id

/-- What is done with an ensemble: sessions are opened and closed, and it is made to fail. -/
inductive EnsembleCall where
  | openSession (params : SessionParams)
  | close (id : Nat)
  | setUnreachable (value : Bool)
  | failOpens (count : Nat)
  | failProbes (count : Nat)

namespace Ensemble

variable {e : Ensemble} {id : Nat}

def after (e : Ensemble) : EnsembleCall → Ensemble
  | .openSession params => (e.openSession params).2
  | .close id => e.close id
  | .setUnreachable value => { e with unreachable := value }
  | .failOpens count => { e with failingOpens := count }
  | .failProbes count => { e with failingProbes := count }

def afterAll (e : Ensemble) (calls : List EnsembleCall) : Ensemble := calls.foldl after e

/-- The session that a call opens: its id, and what it was opened with. -/
def opening? (e : Ensemble) : EnsembleCall → Option (Nat × SessionParams)
  | .openSession params => (e.openSession params).1.toOption.map fun id => (id, params)
  | _ => none

/-- The sessions that calls open, in the order of the calls. -/
def openings (e : Ensemble) : List EnsembleCall → List (Nat × SessionParams)
  | [] => []
  | call :: rest => (e.opening? call).toList ++ (e.after call).openings rest

/-- What the events of an ensemble tell when certain sessions were handed out, each with what it was
opened with. -/
structure Chronicled (e : Ensemble) (handed : List (Nat × SessionParams)) : Prop where
  /-- The ids are given one after the other. -/
  ids : handed.map (·.1) = List.range' 1 handed.length
  opened : e.log.filterMap SessionEvent.openedId? = handed.map (·.1)
  closedOnce : ∀ id, e.log.count (.closed id) ≤ 1
  closedAfter : ∀ {earlier later id}, e.log = earlier ++ .closed id :: later → .opened id ∈ earlier
  closed_iff : ∀ x ∈ e.sessions, x.closed = true ↔ .closed x.id ∈ e.log
  closes : ∀ x ∈ e.sessions, x.closed = false → (e.close x.id).log = e.log ++ [.closed x.id]
  closedAlready : ∀ id, (∀ x ∈ e.sessions, x.id = id → x.closed = true) → e.close id = e
  /-- Of the sessions that were opened, those are open that no event closes. -/
  openCount : e.openSessions.length + (e.log.filterMap SessionEvent.closedId?).length =
    (e.log.filterMap SessionEvent.openedId?).length
  sessions : e.sessions.map (fun x => (x.id, x.params)) = handed
  /-- An open that fails adds no session and no event, and uses no id. -/
  refused : ∀ {params fault e'}, e.openSession params = (.error fault, e') →
    e'.sessions = e.sessions ∧ e'.log = e.log ∧ e'.lastId = e.lastId
  served : ∀ {params id e'}, e.openSession params = (.ok id, e') →
    id = handed.length + 1 ∧ e'.log = e.log ++ [.opened id]
  probe : ∀ x ∈ e.sessions, x.closed = true → e.probe x.id = .error (.closed x.id)

theorem Arises.after (arises : e.Arises) (call : EnsembleCall) : (e.after call).Arises := by
  cases call with
  | openSession params => exact arises.opened params
  | close id => exact arises.closed id
  | setUnreachable value => exact arises.disturbed value e.failingOpens e.failingProbes
  | failOpens count => exact arises.disturbed e.unreachable count e.failingProbes
  | failProbes count => exact arises.disturbed e.unreachable e.failingOpens count

theorem Arises.afterAll (arises : e.Arises) (calls : List EnsembleCall) :
    (e.afterAll calls).Arises := by
  induction calls generalizing e with
  | nil => exact arises
  | cons call rest ih => exact ih (arises.after call)

theorem Recorded.sessions_after (recorded : e.Recorded) (call : EnsembleCall) :
    (e.after call).sessions.map (fun x => (x.id, x.params)) =
      e.sessions.map (fun x => (x.id, x.params)) ++ (e.opening? call).toList := by
  cases call with
  | openSession params =>
    rcases result : e.openSession params with ⟨fault | id, e'⟩
    · have adds := adds_of_openSession_error result
      simp [after, opening?, result, adds.sessions, Except.toOption]
    · obtain ⟨failsProbe, adds⟩ := adds_of_openSession_ok result
      simp [after, opening?, result, adds.sessions, Except.toOption]
  | close id => simp [after, opening?, recorded.sessions_close]
  | setUnreachable value => simp [after, opening?]
  | failOpens count => simp [after, opening?]
  | failProbes count => simp [after, opening?]

theorem Arises.sessions_afterAll (arises : e.Arises) (calls : List EnsembleCall) :
    (e.afterAll calls).sessions.map (fun x => (x.id, x.params)) =
      e.sessions.map (fun x => (x.id, x.params)) ++ e.openings calls := by
  induction calls generalizing e with
  | nil => exact (List.append_nil _).symm
  | cons call rest ih =>
    have step := arises.recorded.sessions_after call
    have run := ih (arises.after call)
    rw [step, List.append_assoc] at run
    exact run

theorem Arises.opened_mem_of_closed (arises : e.Arises) {start : List SessionEvent}
    (begins : start <+: e.log) (closed : .closed id ∈ start) : .opened id ∈ start := by
  induction arises generalizing start with
  | empty =>
    rw [List.prefix_nil.1 begins] at closed
    exact absurd closed List.not_mem_nil
  | @opened e arises params ih =>
    rcases result : e.openSession params with ⟨fault | new, e'⟩
    · have log : e'.log = e.log := by simpa using (adds_of_openSession_error result).log
      rw [result, log] at begins
      exact ih begins closed
    · obtain ⟨failsProbe, adds⟩ := adds_of_openSession_ok result
      have log : e'.log = e.log ++ [.opened new] := adds.log
      rw [result, log, List.prefix_concat_iff] at begins
      rcases begins with whole | earlier
      · rw [whole] at closed ⊢
        have before : .closed id ∈ e.log := by simpa using closed
        exact List.mem_append_left _ (ih (List.prefix_refl e.log) before)
      · exact ih earlier closed
  | @closed e arises other ih =>
    rcases arises.recorded.close_cases other with ⟨-, same⟩ | ⟨⟨x, member, named, -⟩, same⟩
    · rw [same] at begins
      exact ih begins closed
    · have log : (e.close other).log = e.log ++ [.closed other] := by rw [same]
      rw [log, List.prefix_concat_iff] at begins
      rcases begins with whole | earlier
      · rw [whole] at closed ⊢
        have opened : .opened other ∈ e.log := by
          rw [arises.recorded.opened_mem, ← named]
          exact List.mem_map_of_mem member
        rcases List.mem_append.1 closed with before | last
        · exact List.mem_append_left _ (ih (List.prefix_refl e.log) before)
        · have this : id = other := by simpa using last
          rw [this]
          exact List.mem_append_left _ opened
      · exact ih earlier closed
  | disturbed arises unreachable opens probes ih => exact ih begins closed

theorem Arises.closed_after (arises : e.Arises) {earlier later : List SessionEvent}
    (split : e.log = earlier ++ .closed id :: later) : .opened id ∈ earlier := by
  have begins : earlier ++ [.closed id] <+: e.log := by simp [split]
  have closed : .closed id ∈ earlier ++ [SessionEvent.closed id] := by simp
  have opened := arises.opened_mem_of_closed begins closed
  simpa using opened

theorem Arises.closed_mem_after (arises : e.Arises) (call : EnsembleCall) :
    .closed id ∈ (e.after call).log ↔
      .closed id ∈ e.log ∨ call = .close id ∧ .opened id ∈ e.log := by
  cases call with
  | openSession params =>
    rcases result : e.openSession params with ⟨fault | new, e'⟩
    · have log : e'.log = e.log := by simpa using (adds_of_openSession_error result).log
      simp [Ensemble.after, result, log]
    · obtain ⟨failsProbe, adds⟩ := adds_of_openSession_ok result
      have log : e'.log = e.log ++ [.opened new] := adds.log
      simp [Ensemble.after, result, log]
  | close other =>
    have recorded := arises.recorded
    rcases recorded.close_cases other with ⟨closed, same⟩ | ⟨⟨x, member, named, -⟩, same⟩
    · have already (opened : .opened other ∈ e.log) : .closed other ∈ e.log := by
        obtain ⟨x, member, rfl⟩ := List.mem_map.1 (recorded.opened_mem.1 opened)
        exact (recorded.closed x member).2 (closed x member rfl)
      simp only [Ensemble.after, same, EnsembleCall.close.injEq, iff_self_or]
      rintro ⟨rfl, opened⟩
      exact already opened
    · have opened : .opened other ∈ e.log := by
        rw [recorded.opened_mem, ← named]
        exact List.mem_map_of_mem member
      simp only [Ensemble.after, same, List.mem_append, List.mem_singleton, SessionEvent.closed.injEq,
        EnsembleCall.close.injEq]
      constructor
      · rintro (before | rfl)
        · exact .inl before
        · exact .inr ⟨rfl, opened⟩
      · rintro (before | ⟨rfl, -⟩)
        · exact .inl before
        · exact .inr rfl
  | setUnreachable value => simp [Ensemble.after]
  | failOpens count => simp [Ensemble.after]
  | failProbes count => simp [Ensemble.after]

theorem Arises.closed_mem_afterAll (arises : e.Arises) (calls : List EnsembleCall) :
    .closed id ∈ (e.afterAll calls).log ↔ .closed id ∈ e.log ∨ ∃ earlier later,
      calls = earlier ++ .close id :: later ∧ .opened id ∈ (e.afterAll earlier).log := by
  induction calls generalizing e with
  | nil => simp [Ensemble.afterAll]
  | cons call rest ih =>
    have run : e.afterAll (call :: rest) = (e.after call).afterAll rest := rfl
    -- A session is closed by the first call or by one of the rest, which start from where it leads.
    rw [run, ih (arises.after call), arises.closed_mem_after, or_assoc]
    refine or_congr_right ?_
    constructor
    · rintro (⟨rfl, opened⟩ | ⟨earlier, later, rfl, opened⟩)
      · exact ⟨[], rest, rfl, opened⟩
      · exact ⟨call :: earlier, later, rfl, opened⟩
    · rintro ⟨earlier, later, split, opened⟩
      rcases List.cons_eq_append_iff.1 split with ⟨rfl, same⟩ | ⟨earlier', rfl, rfl⟩
      · exact .inl ⟨(List.cons.inj same).1.symm, opened⟩
      · exact .inr ⟨earlier', later, rfl, opened⟩

theorem Arises.closed_perm (arises : e.Arises) :
    (e.log.filterMap SessionEvent.closedId?).Perm ((e.sessions.filter (·.closed)).map (·.id)) := by
  have recorded := arises.recorded
  have events : (e.log.filterMap SessionEvent.closedId?).Nodup := by
    apply List.Nodup.filterMap _ arises.nodup_log
    intro first second id closes closes'
    cases first <;> cases second <;> simp_all [SessionEvent.closedId?]
  have sessions : ((e.sessions.filter (·.closed)).map (·.id)).Nodup :=
    (List.filter_sublist.map _).nodup recorded.nodup
  have mem_events : ∀ id, id ∈ e.log.filterMap SessionEvent.closedId? ↔ .closed id ∈ e.log := by
    intro id
    rw [List.mem_filterMap]
    constructor
    · rintro ⟨event, member, closes⟩
      cases event <;> simp_all [SessionEvent.closedId?]
    · intro member
      exact ⟨_, member, rfl⟩
  rw [List.perm_ext_iff_of_nodup events sessions]
  intro id
  rw [mem_events, List.mem_map]
  constructor
  · intro closed
    obtain ⟨x, member, rfl⟩ := List.mem_map.1 (recorded.known id closed)
    have isClosed := (recorded.closed x member).1 closed
    exact ⟨x, List.mem_filter.2 ⟨member, isClosed⟩, rfl⟩
  · rintro ⟨x, inside, rfl⟩
    obtain ⟨member, isClosed⟩ := List.mem_filter.1 inside
    exact (recorded.closed x member).2 isClosed

theorem Recorded.length_sessions (recorded : e.Recorded) : e.sessions.length = e.lastId := by
  have lengths := congrArg List.length recorded.ids
  simpa using lengths

theorem Arises.openCount (arises : e.Arises) :
    e.openSessions.length + (e.log.filterMap SessionEvent.closedId?).length =
      (e.log.filterMap SessionEvent.openedId?).length := by
  have closed : (e.log.filterMap SessionEvent.closedId?).length =
      (e.sessions.filter (·.closed)).length := by
    simpa using arises.closed_perm.length_eq
  have opened : (e.log.filterMap SessionEvent.openedId?).length = e.sessions.length := by
    rw [arises.recorded.opened, List.length_range', arises.recorded.length_sessions]
  have parts := List.length_eq_length_filter_add (l := e.sessions) (·.closed)
  rw [openSessions]
  omega

/-- A session that is closed serves no requests, whether or not its probe was made to fail. -/
theorem Recorded.probe_closed (recorded : e.Recorded) {x : Session} (member : x ∈ e.sessions)
    (closed : x.closed = true) : e.probe x.id = .error (.closed x.id) := by
  rw [Ensemble.probe, recorded.session? member]
  simp [closed]

theorem chronicled (calls : List EnsembleCall) :
    (empty.afterAll calls).Chronicled (empty.openings calls) := by
  have arises : (empty.afterAll calls).Arises := Arises.empty.afterAll calls
  have recorded := arises.recorded
  have sessions : (empty.afterAll calls).sessions.map (fun x => (x.id, x.params)) =
      empty.openings calls := Arises.empty.sessions_afterAll calls
  have named : (empty.openings calls).map (·.1) = (empty.afterAll calls).sessions.map (·.id) := by
    rw [← sessions, List.map_map]
    rfl
  have lastId : (empty.afterAll calls).lastId = (empty.openings calls).length := by
    rw [← recorded.length_sessions, ← sessions, List.length_map]
  constructor
  · rw [named, recorded.ids, lastId]
  · rw [named, recorded.ids, recorded.opened]
  · exact fun id => List.nodup_iff_count_le_one.1 arises.nodup_log (.closed id)
  · exact arises.closed_after
  · exact fun x member => (recorded.closed x member).symm
  · intro x member isOpen
    rcases recorded.close_cases x.id with ⟨closed, -⟩ | ⟨-, same⟩
    · exact absurd (closed x member rfl) (by simp [isOpen])
    · rw [same]
  · intro id closed
    rcases recorded.close_cases id with ⟨-, same⟩ | ⟨⟨x, member, named, isOpen⟩, -⟩
    · exact same
    · exact absurd (closed x member named) (by simp [isOpen])
  · exact arises.openCount
  · exact sessions
  · intro params fault e' result
    have adds := adds_of_openSession_error result
    exact ⟨by simpa using adds.sessions, by simpa using adds.log, adds.lastId⟩
  · intro params id e' result
    obtain ⟨failsProbe, adds⟩ := adds_of_openSession_ok result
    have ids : [id] = [(empty.afterAll calls).lastId + 1] := adds.ids
    have next : id = (empty.openings calls).length + 1 := by
      rw [← lastId]
      exact List.singleton_inj.1 ids
    exact ⟨next, adds.log⟩
  · exact fun x member closed => recorded.probe_closed member closed

theorem opened_mem_afterAll (calls : List EnsembleCall) :
    .opened id ∈ (empty.afterAll calls).log ↔ id ∈ (empty.openings calls).map (·.1) := by
  have sessions : (empty.afterAll calls).sessions.map (fun x => (x.id, x.params)) =
      empty.openings calls := Arises.empty.sessions_afterAll calls
  rw [(Arises.empty.afterAll calls).recorded.opened_mem, ← sessions, List.map_map]
  rfl

/-- Whatever is done with an ensemble, its events are a faithful history: they open the sessions
that were handed out, in the order of their ids 1, 2, 3, …, and close each closed one once, after it
was opened. The sessions that are open are the opened ones without the closed ones. Opens that fail
leave no trace, and no closed session serves requests. A session is closed just if a close call came
after it was handed out. -/
theorem log_chronicles (calls : List EnsembleCall) :
    (empty.afterAll calls).Chronicled (empty.openings calls) ∧
    ∀ id, .closed id ∈ (empty.afterAll calls).log ↔ ∃ earlier later,
      calls = earlier ++ .close id :: later ∧ id ∈ (empty.openings earlier).map (·.1) := by
  refine ⟨chronicled calls, fun id => ?_⟩
  rw [Arises.empty.closed_mem_afterAll]
  simp only [opened_mem_afterAll]
  exact or_iff_right List.not_mem_nil

/-- The second of three opens fails, and the first session is closed twice; the probe of the second
one is made to fail. A session that is closed before it was opened is not closed by that. -/
def reclosing : List EnsembleCall :=
  let params : SessionParams := ⟨.primary, "a:2181", "/", .ofMillis 5000, .ofMillis 3000⟩
  [.close 2, .openSession params, .failOpens 1, .openSession params, .close 1, .failProbes 1,
    .openSession params, .close 1]

theorem log_chronicles_reclosed :
    (empty.afterAll reclosing).log = [.opened 1, .closed 1, .opened 2] ∧
    (empty.afterAll reclosing).Chronicled (empty.openings reclosing) ∧
    (∃ earlier later, reclosing = earlier ++ .close 1 :: later ∧
      1 ∈ (empty.openings earlier).map (·.1)) ∧
    ¬ ∃ earlier later, reclosing = earlier ++ .close 2 :: later ∧
      2 ∈ (empty.openings earlier).map (·.1) := by
  have log : (empty.afterAll reclosing).log = [.opened 1, .closed 1, .opened 2] := rfl
  obtain ⟨chronicled, closings⟩ := log_chronicles reclosing
  exact ⟨log, chronicled, (closings 1).1 (by simp [log]), fun closed =>
    absurd ((closings 2).2 closed) (by simp [log])⟩

end Ensemble

end Cutover
