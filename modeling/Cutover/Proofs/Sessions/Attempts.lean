import Cutover.Proofs.Sessions.Opening

set_option autoImplicit false

namespace Cutover

/-- The id of the session that an event opens. -/
def SessionEvent.openedId? : SessionEvent → Option Nat
  | .opened id => some id
  | .closed _ => none

/-- The events of a session that was opened and, if it is closed, closed at once. -/
def Session.story (x : Session) : List SessionEvent :=
  if x.closed then [.opened x.id, .closed x.id] else [.opened x.id]

namespace Session

variable {x : Session} {id : Nat}

/-- The session after the session with an id was closed. -/
def closedIf (id : Nat) (x : Session) : Session :=
  if x.id = id then { x with closed := true } else x

@[simp] theorem id_closedIf : (x.closedIf id).id = x.id := by
  unfold closedIf
  split <;> rfl

@[simp] theorem params_closedIf : (x.closedIf id).params = x.params := by
  unfold closedIf
  split <;> rfl

@[simp] theorem failsProbe_closedIf : (x.closedIf id).failsProbe = x.failsProbe := by
  unfold closedIf
  split <;> rfl

@[simp] theorem closed_closedIf :
    (x.closedIf id).closed = true ↔ x.closed = true ∨ x.id = id := by
  unfold closedIf
  split <;> simp_all

theorem closedIf_eq_self (settled : x.id = id → x.closed = true) : x.closedIf id = x := by
  unfold closedIf
  split
  · next same => rw [← settled same]
  · rfl

@[simp] theorem filterMap_story (x : Session) : x.story.filterMap SessionEvent.openedId? = [x.id] := by
  unfold story
  split <;> rfl

@[simp] theorem closed_mem_story : .closed id ∈ x.story ↔ x.id = id ∧ x.closed = true := by
  unfold story
  cases x.closed <;> simp [eq_comm (a := id)]

theorem filterMap_stories (new : List Session) :
    (new.flatMap story).filterMap SessionEvent.openedId? = new.map (·.id) := by
  induction new with
  | nil => rfl
  | cons x rest ih => simp [ih]

theorem closed_mem_stories {new : List Session} :
    .closed id ∈ new.flatMap story ↔ ∃ x ∈ new, x.id = id ∧ x.closed = true := by
  simp [List.mem_flatMap]

end Session

namespace Ensemble

open Session

variable {e e' e'' : Ensemble} {id : Nat} {ε δ : Type} {params : SessionParams}

/-- The ids are given in order, and the events tell which sessions were opened and which are
closed. -/
structure Recorded (e : Ensemble) : Prop where
  ids : e.sessions.map (·.id) = List.range' 1 e.lastId
  opened : e.log.filterMap SessionEvent.openedId? = List.range' 1 e.lastId
  closed : ∀ x ∈ e.sessions, .closed x.id ∈ e.log ↔ x.closed = true
  known : ∀ id, .closed id ∈ e.log → id ∈ e.sessions.map (·.id)

theorem recorded_empty : empty.Recorded := ⟨rfl, rfl, nofun, nofun⟩

theorem Recorded.changed (recorded : e.Recorded) (sessions : e'.sessions = e.sessions)
    (lastId : e'.lastId = e.lastId) (log : e'.log = e.log) : e'.Recorded where
  ids := by rw [sessions, lastId]; exact recorded.ids
  opened := by rw [log, lastId]; exact recorded.opened
  closed := by rw [sessions, log]; exact recorded.closed
  known := by rw [sessions, log]; exact recorded.known

theorem Recorded.given (recorded : e.Recorded) {x : Session} (member : x ∈ e.sessions) :
    1 ≤ x.id ∧ x.id ≤ e.lastId := by
  have inside : x.id ∈ e.sessions.map (·.id) := List.mem_map_of_mem member
  rw [recorded.ids, List.mem_range'_1] at inside
  omega

theorem Recorded.nodup (recorded : e.Recorded) : (e.sessions.map (·.id)).Nodup := by
  rw [recorded.ids]
  exact List.nodup_range'

theorem Recorded.unique (recorded : e.Recorded) {x y : Session} (left : x ∈ e.sessions)
    (right : y ∈ e.sessions) (same : x.id = y.id) : x = y :=
  List.inj_on_of_nodup_map recorded.nodup left right same

theorem Recorded.sound (recorded : e.Recorded) : e.Sound :=
  ⟨recorded.nodup, fun _ member => (recorded.given member).2⟩

theorem Recorded.session? (recorded : e.Recorded) {x : Session} (member : x ∈ e.sessions) :
    e.session? x.id = some x := by
  rw [Ensemble.session?]
  cases found : e.sessions.find? (·.id = x.id) with
  | none =>
    have apart := List.find?_eq_none.1 found x member
    simp at apart
  | some y =>
    have same : y.id = x.id := by simpa using List.find?_some found
    rw [recorded.unique (List.mem_of_find?_eq_some found) member same]

theorem Recorded.opened_mem (recorded : e.Recorded) :
    .opened id ∈ e.log ↔ id ∈ e.sessions.map (·.id) := by
  rw [recorded.ids, ← recorded.opened, List.mem_filterMap]
  constructor
  · intro member
    exact ⟨_, member, rfl⟩
  · rintro ⟨event, member, opens⟩
    cases event with
    | opened id' =>
      rw [← Option.some.inj opens]
      exact member
    | closed id' => exact nomatch opens

/-- The sessions that come after those there were, with their events after the events. -/
structure Adds (e e' : Ensemble) (new : List Session) : Prop where
  sessions : e'.sessions = e.sessions ++ new
  log : e'.log = e.log ++ new.flatMap story
  lastId : e'.lastId = e.lastId + new.length
  ids : new.map (·.id) = List.range' (e.lastId + 1) new.length

theorem adds_nothing (sessions : e'.sessions = e.sessions) (lastId : e'.lastId = e.lastId)
    (log : e'.log = e.log) : e.Adds e' [] :=
  ⟨by simp [sessions], by simp [log], by simp [lastId], rfl⟩

theorem Adds.trans {new more : List Session} (first : e.Adds e' new) (second : e'.Adds e'' more) :
    e.Adds e'' (new ++ more) where
  sessions := by rw [second.sessions, first.sessions, List.append_assoc]
  log := by rw [second.log, first.log, List.flatMap_append, List.append_assoc]
  lastId := by rw [second.lastId, first.lastId, List.length_append, Nat.add_assoc]
  ids := by
    have start : e.lastId + new.length + 1 = e.lastId + 1 + new.length := by omega
    rw [List.map_append, first.ids, second.ids, first.lastId, start, List.length_append,
      List.range'_append_1]

theorem Adds.lastId_lt {new : List Session} (adds : e.Adds e' new) {x : Session}
    (member : x ∈ new) : e.lastId < x.id := by
  have inside : x.id ∈ new.map (·.id) := List.mem_map_of_mem member
  rw [adds.ids, List.mem_range'_1] at inside
  omega

theorem Adds.unique {new : List Session} (adds : e.Adds e' new) {x y : Session} (left : x ∈ new)
    (right : y ∈ new) (same : x.id = y.id) : x = y := by
  have distinct : (new.map (·.id)).Nodup := by
    rw [adds.ids]
    exact List.nodup_range'
  exact List.inj_on_of_nodup_map distinct left right same

theorem Adds.closed_before {new : List Session} (adds : e.Adds e' new) (before : id ≤ e.lastId) :
    .closed id ∈ e'.log ↔ .closed id ∈ e.log := by
  rw [adds.log, List.mem_append, closed_mem_stories, or_iff_left_iff_imp]
  rintro ⟨x, member, rfl, -⟩
  have after := adds.lastId_lt member
  omega

theorem Recorded.adds (recorded : e.Recorded) {new : List Session} (adds : e.Adds e' new) :
    e'.Recorded where
  ids := by
    rw [adds.sessions, List.map_append, recorded.ids, adds.ids, adds.lastId, Nat.add_comm e.lastId 1,
      List.range'_append_1]
  opened := by
    rw [adds.log, List.filterMap_append, filterMap_stories, recorded.opened, adds.ids, adds.lastId,
      Nat.add_comm e.lastId 1, List.range'_append_1]
  closed x member := by
    rw [adds.sessions, List.mem_append] at member
    rcases member with before | isNew
    · rw [adds.closed_before (recorded.given before).2]
      exact recorded.closed x before
    · have unknown : .closed x.id ∉ e.log := by
        intro earlier
        obtain ⟨y, inside, same⟩ := List.mem_map.1 (recorded.known x.id earlier)
        have bound := (recorded.given inside).2
        have after := adds.lastId_lt isNew
        omega
      rw [adds.log, List.mem_append, closed_mem_stories, or_iff_right unknown]
      constructor
      · rintro ⟨y, member, same, closed⟩
        rw [← adds.unique member isNew same]
        exact closed
      · intro closed
        exact ⟨x, isNew, rfl, closed⟩
  known id member := by
    rw [adds.log, List.mem_append, closed_mem_stories] at member
    rw [adds.sessions, List.map_append, List.mem_append]
    rcases member with earlier | ⟨x, isNew, same, -⟩
    · exact .inl (recorded.known id earlier)
    · exact .inr (List.mem_map.2 ⟨x, isNew, same⟩)

theorem Recorded.close_cases (recorded : e.Recorded) (id : Nat) :
    ((∀ x ∈ e.sessions, x.id = id → x.closed = true) ∧ e.close id = e) ∨
      ((∃ x ∈ e.sessions, x.id = id ∧ x.closed = false) ∧ e.close id =
        { e with sessions := e.sessions.map (·.closedIf id), log := e.log ++ [.closed id] }) := by
  rw [close]
  cases found : e.session? id with
  | none =>
    refine .inl ⟨?_, rfl⟩
    intro x member same
    have apart := List.find?_eq_none.1 found x member
    simp [same] at apart
  | some x =>
    have member : x ∈ e.sessions := List.mem_of_find?_eq_some found
    have same : x.id = id := by simpa using List.find?_some found
    cases closed : x.closed with
    | true =>
      refine .inl ⟨?_, by simp [closed]⟩
      intro y inside sameId
      rw [recorded.unique inside member (sameId.trans same.symm)]
      exact closed
    | false =>
      refine .inr ⟨⟨x, member, same, closed⟩, ?_⟩
      simp only [closed, Bool.false_eq_true, if_false]
      rfl

theorem Recorded.sessions_close (recorded : e.Recorded) (id : Nat) :
    (e.close id).sessions = e.sessions.map (·.closedIf id) := by
  rcases recorded.close_cases id with ⟨settled, same⟩ | ⟨-, same⟩
  · have unchanged : ∀ x ∈ e.sessions, x.closedIf id = x := by
      intro x member
      exact closedIf_eq_self (settled x member)
    rw [same, List.map_congr_left unchanged, List.map_id']
  · rw [same]

theorem Recorded.close (recorded : e.Recorded) (id : Nat) : (e.close id).Recorded := by
  have ids : (e.close id).sessions.map (·.id) = e.sessions.map (·.id) := by
    simp [recorded.sessions_close]
  rcases recorded.close_cases id with ⟨-, same⟩ | ⟨⟨x, member, sameId, isOpen⟩, same⟩
  · rw [same]
    exact recorded
  · have log : (e.close id).log = e.log ++ [.closed id] := by rw [same]
    refine ⟨?_, ?_, ?_, ?_⟩
    · rw [ids, lastId_close]
      exact recorded.ids
    · rw [log, lastId_close, List.filterMap_append, recorded.opened]
      simp [SessionEvent.openedId?]
    · intro y inside
      rw [recorded.sessions_close, List.mem_map] at inside
      obtain ⟨old, before, rfl⟩ := inside
      rw [log, id_closedIf, closed_closedIf, ← recorded.closed old before]
      simp [eq_comm]
    · intro other closed
      rw [ids]
      rw [log, List.mem_append, List.mem_singleton] at closed
      rcases closed with earlier | now
      · exact recorded.known other earlier
      · rw [SessionEvent.closed.inj now, ← sameId]
        exact List.mem_map_of_mem member

theorem Recorded.log_close (recorded : e.Recorded) (id : Nat) : e.log <+: (e.close id).log := by
  rcases recorded.close_cases id with ⟨-, same⟩ | ⟨-, same⟩
  · simp only [same, List.prefix_rfl]
  · rw [same]
    exact List.prefix_append _ _

theorem attempts_close (e : Ensemble) (id : Nat) : (e.close id).attempts = e.attempts := by
  rw [Ensemble.close]
  split
  · rfl
  split <;> rfl

theorem Recorded.adds_close (recorded : e.Recorded) {x : Session} (isOpen : x.closed = false)
    (adds : e.Adds e' [x]) : e.Adds (e'.close x.id) [{ x with closed := true }] := by
  have recorded' := recorded.adds adds
  have member : x ∈ e'.sessions := by simp [adds.sessions]
  have lastId := adds.lastId
  have ids := adds.ids
  rcases recorded'.close_cases x.id with ⟨settled, -⟩ | ⟨-, same⟩
  · have closed := settled x member rfl
    simp [isOpen] at closed
  · have others : ∀ y ∈ e.sessions, y.closedIf x.id = y := by
      intro y inside
      apply closedIf_eq_self
      intro sameId
      have before := (recorded.given inside).2
      have after := adds.lastId_lt (List.mem_singleton_self x)
      omega
    have marked : x.closedIf x.id = { x with closed := true } := by simp [closedIf]
    have story : x.story ++ [.closed x.id] = Session.story { x with closed := true } := by
      simp [Session.story, isOpen]
    refine ⟨?_, ?_, ?_, ids⟩
    · rw [same, adds.sessions, List.map_append, List.map_congr_left others, List.map_id',
        List.map_singleton, marked]
    · simp only [same, adds.log, List.flatMap_cons, List.flatMap_nil, List.append_nil,
        List.append_assoc, story]
    · rw [lastId_close]
      exact lastId

theorem adds_of_openSession_error {fault : SessionError}
    (result : e.openSession params = (.error fault, e')) : e.Adds e' [] := by
  rw [openSession] at result
  split at result
  · obtain ⟨-, rfl⟩ := Prod.mk.inj result
    exact adds_nothing rfl rfl rfl
  split at result
  · obtain ⟨-, rfl⟩ := Prod.mk.inj result
    exact adds_nothing rfl rfl rfl
  · cases (Prod.mk.inj result).1

theorem adds_of_openSession_ok (result : e.openSession params = (.ok id, e')) :
    ∃ failsProbe, e.Adds e' [⟨id, params, false, failsProbe⟩] := by
  rw [openSession] at result
  split at result
  · cases (Prod.mk.inj result).1
  split at result
  · cases (Prod.mk.inj result).1
  · obtain ⟨given, rfl⟩ := Prod.mk.inj result
    obtain rfl := Except.ok.inj given
    exact ⟨decide (0 < e.failingProbes), rfl, rfl, rfl, rfl⟩

theorem exists_adds_openSession (e : Ensemble) (params : SessionParams) :
    ∃ new, e.Adds (e.openSession params).2 new := by
  rcases result : e.openSession params with ⟨fault | id, e'⟩
  · exact ⟨[], adds_of_openSession_error result⟩
  · obtain ⟨failsProbe, adds⟩ := adds_of_openSession_ok result
    exact ⟨_, adds⟩

theorem attempts_openSession (e : Ensemble) (params : SessionParams) :
    (e.openSession params).2.attempts = e.attempts + 1 := by
  rw [openSession]
  split
  · rfl
  split <;> rfl

/-- What attempts come to: sessions that failed their probe and were closed, and at the end one that
serves requests if the answer is its id. -/
inductive Tries (e e' : Ensemble) (params : SessionParams) : Except ε Nat → Prop
  | refused {fault : ε} {failed : List Session} (closed : ∀ x ∈ failed, x.closed = true)
      (adds : e.Adds e' failed) : Tries e e' params (.error fault)
  | opened {id : Nat} {failed : List Session} (closed : ∀ x ∈ failed, x.closed = true)
      (adds : e.Adds e' (failed ++ [⟨id, params, false, false⟩])) : Tries e e' params (.ok id)

theorem Adds.refused {fault : ε} (adds : e.Adds e' []) : e.Tries e' params (.error fault) :=
  .refused (List.forall_mem_nil _) adds

theorem Adds.served (adds : e.Adds e' [⟨id, params, false, false⟩]) :
    e.Tries e' params (.ok id : Except ε Nat) :=
  .opened (List.forall_mem_nil _) adds

theorem Tries.recorded {answer : Except ε Nat} (tries : e.Tries e' params answer)
    (recorded : e.Recorded) : e'.Recorded := by
  cases tries with
  | refused closed adds => exact recorded.adds adds
  | opened closed adds => exact recorded.adds adds

theorem Adds.tries {answer : Except ε Nat} {failed : List Session}
    (closed : ∀ x ∈ failed, x.closed = true) (adds : e.Adds e' failed)
    (tries : e'.Tries e'' params answer) : e.Tries e'' params answer := by
  have both {more : List Session} (later : ∀ x ∈ more, x.closed = true) :
      ∀ x ∈ failed ++ more, x.closed = true := by
    intro x member
    rcases List.mem_append.1 member with first | second
    · exact closed x first
    · exact later x second
  cases tries with
  | refused later adds' => exact .refused (both later) (adds.trans adds')
  | opened later adds' =>
    have whole := adds.trans adds'
    rw [← List.append_assoc] at whole
    exact .opened (both later) whole

end Ensemble

open Ensemble

namespace Surroundings

variable {w : Surroundings}

theorem attempt_tries (recorded : w.ensemble.Recorded) (params : SessionParams) :
    w.ensemble.Tries (w.attempt params).2.ensemble params (w.attempt params).1 := by
  rw [attempt]
  split
  · next refusal e result => exact (adds_of_openSession_error result).refused
  · next id e result =>
    obtain ⟨failsProbe, adds⟩ := adds_of_openSession_ok result
    have member : ⟨id, params, false, failsProbe⟩ ∈ e.sessions := by simp [adds.sessions]
    have found : e.session? id = some ⟨id, params, false, failsProbe⟩ :=
      (recorded.adds adds).session? member
    cases failsProbe with
    | true =>
      have refuses : e.probe id = .error (.unusable id "mock probe failure") := by
        simp [probe, found]
      rw [refuses]
      refine .refused ?_ (recorded.adds_close rfl adds)
      intro x member
      rw [List.mem_singleton.1 member]
    | false =>
      have serves : e.probe id = .ok () := by simp [probe, found]
      rw [serves]
      exact adds.served

theorem attempts_attempt (w : Surroundings) (params : SessionParams) :
    (w.attempt params).2.ensemble.attempts = w.ensemble.attempts + 1 := by
  have counted := w.ensemble.attempts_openSession params
  rw [attempt]
  split
  · next refusal e result =>
    rw [result] at counted
    exact counted
  · next id e result =>
    rw [result] at counted
    split
    · exact counted
    · exact (e.attempts_close id).trans counted

theorem attempts_tries (params : SessionParams) (left : Nat) (recorded : w.ensemble.Recorded) :
    w.ensemble.Tries (attempts params left w).2.ensemble params (attempts params left w).1 := by
  induction left generalizing w with
  | zero => exact attempt_tries recorded params
  | succ left ih =>
    have first := attempt_tries recorded params
    rw [attempts]
    split
    · next id w' result =>
      rw [result] at first
      exact first
    · next fault w' result =>
      rw [result] at first
      have later := ih (w := w'.backOff (Backoff.retries - (left + 1))) (first.recorded recorded)
      cases first with
      | refused closed adds => exact adds.tries closed later

theorem attempts_lt (params : SessionParams) (left : Nat) (w : Surroundings) :
    w.ensemble.attempts < (attempts params left w).2.ensemble.attempts := by
  induction left generalizing w with
  | zero =>
    have one := w.attempts_attempt params
    rw [attempts]
    omega
  | succ left ih =>
    have one := w.attempts_attempt params
    rw [attempts]
    split
    · next id w' result =>
      rw [result] at one
      dsimp only at one ⊢
      omega
    · next fault w' result =>
      rw [result] at one
      have more := ih (w'.backOff (Backoff.retries - (left + 1)))
      have same : (w'.backOff (Backoff.retries - (left + 1))).ensemble = w'.ensemble := rfl
      rw [same] at more
      dsimp only at one
      omega

theorem now_attempt (w : Surroundings) (params : SessionParams) :
    (w.attempt params).2.now = w.now := by
  rw [attempt]
  split
  · rfl
  split <;> rfl

/-- Attempts follow each other after waits, each of which is in the band of its retry. -/
theorem attempts_waits (params : SessionParams) (left : Nat) (few : left ≤ Backoff.retries)
    (w : Surroundings) : ∃ waits : List Nat, waits.length ≤ left ∧
      (∀ wait ∈ waits.zipIdx (Backoff.retries - left), Backoff.inBand wait.2 wait.1 = true) ∧
      (attempts params left w).2.now = waits.foldl (· + ·) w.now := by
  induction left generalizing w with
  | zero => exact ⟨[], Nat.le_refl 0, List.forall_mem_nil _, now_attempt w params⟩
  | succ left ih =>
    have same := now_attempt w params
    rw [attempts]
    split
    · next id w' result =>
      rw [result] at same
      exact ⟨[], Nat.zero_le _, List.forall_mem_nil _, same⟩
    · next fault w' result =>
      rw [result] at same
      let retry := Backoff.retries - (left + 1)
      let wait := Backoff.wait retry (w'.chance w'.drawn)
      obtain ⟨waits, length, bands, passed⟩ := ih (by omega) (w'.backOff retry)
      have later : retry + 1 = Backoff.retries - left := by omega
      refine ⟨wait :: waits, Nat.succ_le_succ length, ?_, ?_⟩
      · rw [List.zipIdx_cons, later]
        exact List.forall_mem_cons.2 ⟨Backoff.inBand_wait _ _, bands⟩
      · have waited : (w'.backOff retry).now = w.now + wait := congrArg (· + wait) same
        rw [passed, waited, List.foldl_cons]

theorem le_foldl_add (now : Nat) (waits : List Nat) : now ≤ waits.foldl (· + ·) now := by
  induction waits generalizing now with
  | nil => exact Nat.le_refl now
  | cons wait rest ih => exact (Nat.le_add_right now wait).trans (ih (now + wait))

/-- Time only passes. -/
theorem now_le_attempts (params : SessionParams) (w : Surroundings) :
    w.now ≤ (attempts params Backoff.retries w).2.now := by
  obtain ⟨waits, -, -, passed⟩ := attempts_waits params Backoff.retries (Nat.le_refl _) w
  rw [passed]
  exact le_foldl_add w.now waits

end Surroundings

namespace SessionFactory

variable {f : SessionFactory} {w : Surroundings}

theorem openSession_tries (f : SessionFactory) (kind : SessionKind) (timeout : Duration)
    (recorded : w.ensemble.Recorded) :
    w.ensemble.Tries (f.openSession kind timeout w).2.ensemble (f.params kind timeout)
      (f.openSession kind timeout w).1 := by
  have tries := Surroundings.attempts_tries (f.params kind timeout) Backoff.retries recorded
  rw [openSession]
  split
  · exact (adds_nothing rfl rfl rfl).refused
  split
  · next id w' result =>
    rw [result] at tries
    cases tries with
    | opened closed adds => exact .opened closed adds
  · next fault w' result =>
    rw [result] at tries
    cases tries with
    | refused closed adds => exact .refused closed adds

theorem unavailable_of_openSession {kind : SessionKind} {timeout : Duration}
    {error : EnsembleError} {w' : Surroundings}
    (result : f.openSession kind timeout w = (.error error, w')) :
    ∃ reason, error = .unavailable reason := by
  rw [openSession] at result
  split at result
  · exact ⟨_, (Except.error.inj (Prod.mk.inj result).1).symm⟩
  split at result
  · cases (Prod.mk.inj result).1
  · exact ⟨_, (Except.error.inj (Prod.mk.inj result).1).symm⟩

theorem servers_of_openSession {kind : SessionKind} {timeout : Duration} {id : Nat}
    {w' : Surroundings} (result : f.openSession kind timeout w = (.ok id, w')) :
    f.connection.servers ≠ [] := by
  intro none
  rw [openSession, if_pos none] at result
  cases (Prod.mk.inj result).1

theorem attempts_lt_openSession (servers : f.connection.servers ≠ []) (kind : SessionKind)
    (timeout : Duration) (w : Surroundings) :
    w.ensemble.attempts < (f.openSession kind timeout w).2.ensemble.attempts := by
  have more := Surroundings.attempts_lt (f.params kind timeout) Backoff.retries w
  rw [openSession, if_neg servers]
  split
  · next result =>
    rw [result] at more
    exact more
  · next result =>
    rw [result] at more
    exact more

theorem now_le_openSession (f : SessionFactory) (kind : SessionKind) (timeout : Duration)
    (w : Surroundings) : w.now ≤ (f.openSession kind timeout w).2.now := by
  have later := Surroundings.now_le_attempts (f.params kind timeout) w
  rw [openSession]
  split
  · exact Nat.le_refl w.now
  split
  · next result =>
    rw [result] at later
    exact later
  · next result =>
    rw [result] at later
    exact later

end SessionFactory

end Cutover
