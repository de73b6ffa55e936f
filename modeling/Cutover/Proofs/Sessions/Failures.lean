import Cutover.Proofs.Sessions.Attempts

set_option autoImplicit false

namespace Cutover

namespace Ensemble

variable {e e' e'' : Ensemble} {ε δ : Type} {params : SessionParams} {limit : Nat}

/-- The states of an ensemble: what comes of an empty one as sessions are opened and closed and as
it is made to fail. -/
inductive Arises : Ensemble → Prop
  | empty : Arises empty
  | opened {e : Ensemble} (arises : Arises e) (params : SessionParams) :
      Arises (e.openSession params).2
  | closed {e : Ensemble} (arises : Arises e) (id : Nat) : Arises (e.close id)
  | disturbed {e : Ensemble} (arises : Arises e) (unreachable : Bool) (opens probes : Nat) :
      Arises { e with unreachable, failingOpens := opens, failingProbes := probes }

theorem Recorded.openSession (recorded : e.Recorded) (params : SessionParams) :
    (e.openSession params).2.Recorded := by
  obtain ⟨new, adds⟩ := e.exists_adds_openSession params
  exact recorded.adds adds

theorem Arises.recorded (arises : e.Arises) : e.Recorded := by
  induction arises with
  | empty => exact recorded_empty
  | opened arises params recorded => exact recorded.openSession params
  | closed arises id recorded => exact recorded.close id
  | disturbed arises unreachable opens probes recorded => exact recorded.changed rfl rfl rfl

/-- The ensemble once it has opened a session. -/
def entered (e : Ensemble) (params : SessionParams) : Ensemble :=
  { e with
    lastId := e.lastId + 1
    attempts := e.attempts + 1
    failingProbes := e.failingProbes - 1
    sessions := e.sessions ++ [⟨e.lastId + 1, params, false, decide (0 < e.failingProbes)⟩]
    log := e.log ++ [.opened (e.lastId + 1)] }

theorem openSession_entered (up : e.unreachable = false) (noOpen : e.failingOpens = 0) :
    e.openSession params = (.ok (e.lastId + 1), e.entered params) := by
  simp [Ensemble.openSession, up, noOpen, entered]

theorem adds_entered (e : Ensemble) (params : SessionParams) :
    e.Adds (e.entered params) [⟨e.lastId + 1, params, false, decide (0 < e.failingProbes)⟩] :=
  ⟨rfl, rfl, rfl, rfl⟩

theorem Recorded.session?_entered (recorded : e.Recorded) (params : SessionParams) :
    (e.entered params).session? (e.lastId + 1) =
      some ⟨e.lastId + 1, params, false, decide (0 < e.failingProbes)⟩ := by
  have member : ⟨e.lastId + 1, params, false, decide (0 < e.failingProbes)⟩ ∈
      (e.entered params).sessions := by simp [entered]
  exact (recorded.adds (e.adds_entered params)).session? member

theorem Recorded.probe_entered (recorded : e.Recorded) (params : SessionParams) :
    (e.entered params).probe (e.lastId + 1) =
      if 0 < e.failingProbes then .error (.unusable (e.lastId + 1) "mock probe failure")
      else .ok () := by
  simp [probe, recorded.session?_entered]

theorem close_eq (e : Ensemble) (id : Nat) :
    e.close id = { e with sessions := (e.close id).sessions, log := (e.close id).log } := by
  rw [close]
  split
  · rfl
  split <;> rfl

theorem Recorded.close_entered (recorded : e.Recorded) (params : SessionParams) :
    (e.entered params).close (e.lastId + 1) =
      { e.entered params with
        sessions := e.sessions ++ [⟨e.lastId + 1, params, true, decide (0 < e.failingProbes)⟩]
        log := e.log ++ [.opened (e.lastId + 1), .closed (e.lastId + 1)] } := by
  have adds := recorded.adds_close rfl (e.adds_entered params)
  rw [close_eq, adds.sessions, adds.log]
  simp [Session.story]

/-- What one attempt comes to. A failing open is used up before a failing probe is, and neither by
an ensemble that cannot be reached. -/
inductive Tried (e : Ensemble) (params : SessionParams) : Except SessionError Nat → Ensemble → Prop
  | unreachable (down : e.unreachable = true) :
      Tried e params (.error (.connect params.servers "mock ensemble unreachable"))
        { e with attempts := e.attempts + 1 }
  | refused (up : e.unreachable = false) (pending : 0 < e.failingOpens) :
      Tried e params (.error (.connect params.servers "mock ensemble unreachable"))
        { e with attempts := e.attempts + 1, failingOpens := e.failingOpens - 1 }
  | unusable (up : e.unreachable = false) (noOpen : e.failingOpens = 0)
      (pending : 0 < e.failingProbes) :
      Tried e params (.error (.unusable (e.lastId + 1) "mock probe failure"))
        { e with
          lastId := e.lastId + 1
          attempts := e.attempts + 1
          failingProbes := e.failingProbes - 1
          sessions := e.sessions ++ [⟨e.lastId + 1, params, true, true⟩]
          log := e.log ++ [.opened (e.lastId + 1), .closed (e.lastId + 1)] }
  | served (up : e.unreachable = false) (noOpen : e.failingOpens = 0)
      (noProbe : e.failingProbes = 0) :
      Tried e params (.ok (e.lastId + 1))
        { e with
          lastId := e.lastId + 1
          attempts := e.attempts + 1
          sessions := e.sessions ++ [⟨e.lastId + 1, params, false, false⟩]
          log := e.log ++ [.opened (e.lastId + 1)] }

def returned (params : SessionParams) : Except ε Nat → List Session
  | .ok id => [⟨id, params, false, false⟩]
  | .error _ => []

/-- What at most `limit` attempts make of an ensemble that can be reached. Failing opens are used up
first, then failing probes, and only then a session is served; what is added are the sessions that
failed, each with its opening and its closing told before the next, and the one that is returned. -/
structure Weathers (limit : Nat) (params : SessionParams) (e e' : Ensemble)
    (answer : Except ε Nat) : Prop where
  answered : (∃ id, answer = .ok id) ↔ e.failingOpens + e.failingProbes < limit
  attempts : e'.attempts = e.attempts + min limit (e.failingOpens + e.failingProbes + 1)
  failingOpens : e'.failingOpens = e.failingOpens - min e.failingOpens limit
  failingProbes : e'.failingProbes =
    e.failingProbes - min e.failingProbes (limit - min e.failingOpens limit)
  sessions : ∃ failed : List Session,
    failed.length = min e.failingProbes (limit - min e.failingOpens limit) ∧
    (∀ x ∈ failed, x.params = params ∧ x.failsProbe = true ∧ x.closed = true) ∧
    e.Adds e' (failed ++ returned params answer)

theorem weathers_nothing (fault : ε) : e.Weathers 0 params e (.error fault) where
  answered := by simp
  attempts := by simp
  failingOpens := by simp
  failingProbes := by simp
  sessions := ⟨[], by simp, List.forall_mem_nil _, adds_nothing rfl rfl rfl⟩

theorem Tried.unreachable_eq {answer : Except SessionError Nat} (tried : e.Tried params answer e') :
    e'.unreachable = e.unreachable := by
  cases tried <;> rfl

theorem Tried.serves {id : Nat} (tried : e.Tried params (.ok id) e') (limit : Nat) :
    e.Weathers (limit + 1) params e' (.ok id : Except ε Nat) := by
  cases tried with
  | served up noOpen noProbe =>
    exact {
      answered := by simp [noOpen, noProbe]
      attempts := by simp [noOpen, noProbe]
      failingOpens := by simp [noOpen]
      failingProbes := by simp [noProbe]
      sessions := ⟨[], by simp [noProbe], List.forall_mem_nil _, rfl, rfl, rfl, rfl⟩ }

/-- An attempt that fails has used up one failure, and leaves one attempt less. -/
theorem Tried.goes_on {fault : SessionError} {answer : Except ε Nat}
    (tried : e.Tried params (.error fault) e') (up : e.unreachable = false)
    (later : e'.Weathers limit params e'' answer) : e.Weathers (limit + 1) params e'' answer := by
  obtain ⟨answered, attempts, failingOpens, failingProbes, failed, length, unusable, adds⟩ := later
  cases tried with
  | unreachable down => exact absurd (up.symm.trans down) Bool.false_ne_true
  | refused up pending =>
    dsimp only at answered attempts failingOpens failingProbes length
    have whole : e.Adds e'' ([] ++ (failed ++ returned params answer)) :=
      .trans (by exact adds_nothing rfl rfl rfl) adds
    exact {
      answered := answered.trans (by omega)
      attempts := by omega
      failingOpens := by omega
      failingProbes := by omega
      sessions := ⟨failed, by omega, unusable, whole⟩ }
  | unusable up noOpen pending =>
    dsimp only at answered attempts failingOpens failingProbes length
    have whole : e.Adds e''
        ([⟨e.lastId + 1, params, true, true⟩] ++ (failed ++ returned params answer)) :=
      .trans (by exact ⟨rfl, rfl, rfl, rfl⟩) adds
    exact {
      answered := answered.trans (by omega)
      attempts := by omega
      failingOpens := by omega
      failingProbes := by omega
      sessions := by
        refine ⟨⟨e.lastId + 1, params, true, true⟩ :: failed, ?_, ?_, whole⟩
        · rw [List.length_cons]
          omega
        · intro x member
          rcases List.mem_cons.1 member with rfl | inside
          · exact ⟨rfl, rfl, rfl⟩
          · exact unusable x inside }

theorem Weathers.answer {limit : Nat} {answer : Except ε Nat} {answer' : Except δ Nat}
    (weathers : e.Weathers limit params e' answer)
    (same : ∀ id, answer' = .ok id ↔ answer = .ok id) : e.Weathers limit params e' answer' := by
  have returns : returned params answer' = returned params answer := by
    cases answer' with
    | ok id => rw [(same id).1 rfl]; rfl
    | error fault =>
      cases answer with
      | ok id => exact nomatch (same id).2 rfl
      | error fault' => rfl
  exact {
    answered := (exists_congr same).trans weathers.answered
    attempts := weathers.attempts
    failingOpens := weathers.failingOpens
    failingProbes := weathers.failingProbes
    sessions := returns ▸ weathers.sessions }

theorem Weathers.openSessions {answer : Except ε Nat} (weathers : e.Weathers limit params e' answer) :
    e'.openSessions = e.openSessions ++ returned params answer := by
  obtain ⟨failed, -, unusable, adds⟩ := weathers.sessions
  have closed : failed.filter (!·.closed) = [] := by
    rw [List.filter_eq_nil_iff]
    intro x member
    simp [(unusable x member).2.2]
  have stays : (returned params answer).filter (!·.closed) = returned params answer := by
    cases answer <;> rfl
  rw [Ensemble.openSessions, adds.sessions, List.filter_append, List.filter_append, closed, stays,
    List.nil_append, Ensemble.openSessions]

/-- What a call makes of an ensemble in whatever state it is. An ensemble that cannot be reached is
asked in vain and stays as it is. -/
structure Endures (limit : Nat) (params : SessionParams) (e e' : Ensemble)
    (answer : Except EnsembleError Nat) : Prop where
  up : e.unreachable = false → e.Weathers limit params e' answer
  down : e.unreachable = true → (∃ error, answer = .error error) ∧
    e' = { e with attempts := e.attempts + limit }
  unavailable : ∀ error, answer = .error error → ∃ reason, error = .unavailable reason
  opened : e'.openSessions = e.openSessions ++ returned params answer
  served : ∀ id, answer = .ok id → e'.session? id = some ⟨id, params, false, false⟩

end Ensemble

open Ensemble

namespace Surroundings

variable {w : Surroundings}

theorem attempt_unreached (params : SessionParams) (down : w.ensemble.unreachable = true) :
    w.attempt params = (.error (.connect params.servers "mock ensemble unreachable"),
      { w with ensemble := { w.ensemble with attempts := w.ensemble.attempts + 1 } }) := by
  simp [attempt, openSession, down]

theorem attempt_tried (recorded : w.ensemble.Recorded) (params : SessionParams) :
    w.ensemble.Tried params (w.attempt params).1 (w.attempt params).2.ensemble := by
  obtain ⟨e, now, chance, drawn⟩ := w
  dsimp only at recorded ⊢
  cases up : e.unreachable with
  | true =>
    rw [attempt_unreached params up]
    exact .unreachable up
  | false =>
    rcases Nat.eq_zero_or_pos e.failingOpens with noOpen | pending
    · rcases Nat.eq_zero_or_pos e.failingProbes with noProbe | pending
      · have serves : (e.entered params).probe (e.lastId + 1) = .ok () := by
          simp [recorded.probe_entered, noProbe]
        simp only [attempt, openSession_entered up noOpen, serves]
        have served : e.Tried params (.ok (e.lastId + 1)) _ := .served up noOpen noProbe
        simpa [entered, noProbe] using served
      · have refuses : (e.entered params).probe (e.lastId + 1) =
            .error (.unusable (e.lastId + 1) "mock probe failure") := by
          simp [recorded.probe_entered, pending]
        simp only [attempt, openSession_entered up noOpen, refuses, recorded.close_entered, pending,
          decide_true]
        exact .unusable up noOpen pending
    · have refused : e.openSession params =
          (.error (.connect params.servers "mock ensemble unreachable"),
            { e with attempts := e.attempts + 1, failingOpens := e.failingOpens - 1 }) := by
        simp [openSession, up, pending]
      simp only [attempt, refused]
      exact .refused up pending

theorem attempts_weathers (params : SessionParams) (left : Nat) (recorded : w.ensemble.Recorded)
    (up : w.ensemble.unreachable = false) :
    w.ensemble.Weathers (left + 1) params (attempts params left w).2.ensemble
      (attempts params left w).1 := by
  induction left generalizing w with
  | zero =>
    have tried := attempt_tried recorded params
    rw [attempts]
    rcases result : w.attempt params with ⟨fault | id, w'⟩
    · rw [result] at tried
      exact tried.goes_on up (weathers_nothing fault)
    · rw [result] at tried
      exact tried.serves 0
  | succ left ih =>
    have tried := attempt_tried recorded params
    have recorded' := (attempt_tries recorded params).recorded recorded
    rw [attempts]
    rcases result : w.attempt params with ⟨fault | id, w'⟩
    · rw [result] at tried recorded'
      have up' : w'.ensemble.unreachable = false := tried.unreachable_eq.trans up
      have later := ih (w := w'.backOff (Backoff.retries - (left + 1))) recorded' up'
      exact tried.goes_on up later
    · rw [result] at tried
      exact tried.serves (left + 1)

theorem attempts_unreached (params : SessionParams) (left : Nat)
    (down : w.ensemble.unreachable = true) :
    (∃ fault, (attempts params left w).1 = .error fault) ∧ (attempts params left w).2.ensemble =
      { w.ensemble with attempts := w.ensemble.attempts + (left + 1) } := by
  induction left generalizing w with
  | zero =>
    rw [attempts, attempt_unreached params down]
    exact ⟨⟨_, rfl⟩, rfl⟩
  | succ left ih =>
    rw [attempts, attempt_unreached params down]
    obtain ⟨⟨fault, failed⟩, whole⟩ := ih (w := backOff
      { w with ensemble := { w.ensemble with attempts := w.ensemble.attempts + 1 } }
      (Backoff.retries - (left + 1))) down
    refine ⟨⟨fault, failed⟩, whole.trans ?_⟩
    simp only [backOff, Ensemble.mk.injEq, and_true, true_and]
    omega

end Surroundings

namespace SessionFactory

variable {f : SessionFactory} {kind : SessionKind} {timeout : Duration} {w : Surroundings}

theorem openSession_attempts (kind : SessionKind) (timeout : Duration) (w : Surroundings)
    (servers : f.connection.servers ≠ []) :
    (f.openSession kind timeout w).2 =
        (Surroundings.attempts (f.params kind timeout) Backoff.retries w).2 ∧
      ∀ id, (f.openSession kind timeout w).1 = .ok id ↔
        (Surroundings.attempts (f.params kind timeout) Backoff.retries w).1 = .ok id := by
  rw [openSession, if_neg servers]
  split
  · next id w' result => simp [result]
  · next fault w' result => simp [result]

theorem session?_of_openSession {id : Nat} (recorded : w.ensemble.Recorded)
    (answer : (f.openSession kind timeout w).1 = .ok id) :
    (f.openSession kind timeout w).2.ensemble.session? id =
      some ⟨id, f.params kind timeout, false, false⟩ := by
  have tries := f.openSession_tries kind timeout recorded
  have recorded' := tries.recorded recorded
  rw [answer] at tries
  cases tries with
  | @opened _ failed closed adds =>
    have member : ⟨id, f.params kind timeout, false, false⟩ ∈
        (f.openSession kind timeout w).2.ensemble.sessions := by simp [adds.sessions]
    exact recorded'.session? member

/-- A call makes four attempts at most. It succeeds just if the ensemble can be reached and no more
than three failures are pending; the sessions that fail on the way are closed, each before the next
is opened, and no other session is touched. -/
theorem openSession_endures (f : SessionFactory) (servers : f.connection.servers ≠ [])
    (kind : SessionKind) (timeout : Duration) (arises : w.ensemble.Arises) :
    w.ensemble.Endures 4 (f.params kind timeout) (f.openSession kind timeout w).2.ensemble
      (f.openSession kind timeout w).1 := by
  have recorded := arises.recorded
  obtain ⟨state, same⟩ := f.openSession_attempts kind timeout w servers
  have up (reachable : w.ensemble.unreachable = false) : w.ensemble.Weathers 4
      (f.params kind timeout) (f.openSession kind timeout w).2.ensemble
      (f.openSession kind timeout w).1 := by
    have weathers := Surroundings.attempts_weathers (f.params kind timeout) Backoff.retries recorded
      reachable
    rw [← state] at weathers
    exact weathers.answer same
  have down (unreachable : w.ensemble.unreachable = true) :
      (∃ error, (f.openSession kind timeout w).1 = .error error) ∧
        (f.openSession kind timeout w).2.ensemble =
          { w.ensemble with attempts := w.ensemble.attempts + 4 } := by
    obtain ⟨⟨fault, failed⟩, unchanged⟩ :=
      Surroundings.attempts_unreached (f.params kind timeout) Backoff.retries unreachable
    rw [← state] at unchanged
    refine ⟨?_, unchanged⟩
    cases answer : (f.openSession kind timeout w).1 with
    | error error => exact ⟨error, rfl⟩
    | ok id => exact nomatch failed.symm.trans ((same id).1 answer)
  refine ⟨up, down, ?_, ?_, fun id => session?_of_openSession recorded⟩
  · intro error failed
    exact unavailable_of_openSession (Prod.ext failed rfl)
  · cases reachable : w.ensemble.unreachable with
    | false => exact (up reachable).openSessions
    | true =>
      obtain ⟨⟨error, failed⟩, unchanged⟩ := down reachable
      rw [failed, unchanged]
      exact (List.append_nil _).symm

/-- Two refused opens and one failed probe are outlasted by the fourth attempt. -/
theorem openSession_endures_mixed : ∃ (f : SessionFactory) (w : Surroundings),
    f.connection.servers ≠ [] ∧ w.ensemble.Arises ∧
    w.ensemble.failingOpens = 2 ∧ w.ensemble.failingProbes = 1 ∧
    (f.openSession .lock (.ofSeconds 10) w).1 = .ok 2 ∧
    (f.openSession .lock (.ofSeconds 10) w).2.ensemble.log = [.opened 1, .closed 1, .opened 2] ∧
    w.ensemble.Endures 4 (f.params .lock (.ofSeconds 10))
      (f.openSession .lock (.ofSeconds 10) w).2.ensemble
      (f.openSession .lock (.ofSeconds 10) w).1 := by
  let f : SessionFactory := ⟨⟨.zookeeper, [⟨"localhost", 2181⟩], none⟩, .ofSeconds 5, rfl⟩
  let w : Surroundings := ⟨{ empty with failingOpens := 2, failingProbes := 1 }, 0, fun _ => 0, 0⟩
  have servers : f.connection.servers ≠ [] := nofun
  have arises : w.ensemble.Arises := .disturbed .empty false 2 1
  exact ⟨f, w, servers, arises, rfl, rfl, by decide +kernel, by decide +kernel,
    f.openSession_endures servers .lock (.ofSeconds 10) arises⟩

end SessionFactory

end Cutover
