import Cutover.Proofs.Sessions.LockSlot

set_option autoImplicit false

namespace Cutover

/-- How far a call for the lock session is: it waits for the slot, it has the slot and makes
attempts, with `left` retries remaining, or it has its answer. -/
inductive LockCaller where
  | waiting
  | opening (left : Nat)
  | answered (answer : Except EnsembleError Nat)

namespace SessionManager

/-- The end of a call's attempts: the slot is given the new session, or left as it is. -/
def conclude (m : SessionManager) :
    Except SessionError Nat × Surroundings → Except EnsembleError Nat × SessionManager × Surroundings
  | (.ok id, w) => (.ok id, { m with lock := some ⟨id, w.now⟩ }, m.closeLock w)
  | (.error fault, w) =>
      (.error (.unavailable ("failed to create " ++ SessionKind.lock.name ++ " session against " ++
        m.factory.connection.text ++ ": " ++ fault.message)), m, w)

variable {m : SessionManager} {w : Surroundings}

theorem lockSession_live {id : Nat} (live : m.live? w.now = some id) :
    m.lockSession w = (.ok id, m, w) := by
  rw [lockSession, live]

theorem lockSession_due (due : m.live? w.now = none)
    (servers : m.factory.connection.servers ≠ []) :
    m.lockSession w = m.conclude (Surroundings.attempts m.lockParams Backoff.retries w) := by
  rw [lockSession, due, SessionFactory.openSession, if_neg servers, lockParams]
  dsimp only
  rcases Surroundings.attempts (m.factory.params .lock m.settings.sessionTimeout)
    Backoff.retries w with ⟨fault | id, w'⟩
  · rfl
  · rfl

end SessionManager

namespace LockCaller

open SessionManager

variable {m : SessionManager} {w : Surroundings} {caller : LockCaller}

/-- What a caller does with the slot when it is given a turn: it looks at the session there, or
makes one attempt and waits out the time before the next. -/
def act (m : SessionManager) (w : Surroundings) :
    LockCaller → LockCaller × SessionManager × Surroundings
  | .answered answer => (.answered answer, m, w)
  | .waiting =>
      if m.live? w.now = none ∧ m.factory.connection.servers ≠ [] then
        (.opening Backoff.retries, m, w)
      else
        let (answer, m, w) := m.lockSession w
        (.answered answer, m, w)
  | .opening left =>
      match w.attempt m.lockParams, left with
      | (.error _, w), left + 1 => (.opening left, m, w.backOff (Backoff.retries - (left + 1)))
      | told, _ =>
          let (answer, m, w) := m.conclude told
          (.answered answer, m, w)

/-- What a caller comes to once it has the slot for itself. -/
def finish (m : SessionManager) (w : Surroundings) :
    LockCaller → Except EnsembleError Nat × SessionManager × Surroundings
  | .answered answer => (answer, m, w)
  | .waiting => m.lockSession w
  | .opening left => m.conclude (Surroundings.attempts m.lockParams left w)

def turns : LockCaller → Nat
  | .answered _ => 0
  | .waiting => Backoff.retries + 2
  | .opening left => left + 1

theorem finish_act (m : SessionManager) (w : Surroundings) (caller : LockCaller) :
    (caller.act m w).1.finish (caller.act m w).2.1 (caller.act m w).2.2 = caller.finish m w := by
  cases caller with
  | answered answer => rfl
  | waiting =>
    rw [act]
    split
    · next due => exact (lockSession_due due.1 due.2).symm
    · rfl
  | opening left =>
    rcases told : w.attempt m.lockParams with ⟨fault | id, w'⟩
    · cases left with
      | zero => simp only [act, told, finish, Surroundings.attempts, conclude]
      | succ left => simp only [act, told, finish, Surroundings.attempts]
    · cases left with
      | zero => simp only [act, told, finish, Surroundings.attempts, conclude]
      | succ left => simp only [act, told, finish, Surroundings.attempts, conclude]

theorem turns_act (unanswered : caller.turns ≠ 0) (m : SessionManager) (w : Surroundings) :
    (caller.act m w).1.turns < caller.turns := by
  cases caller with
  | answered answer => exact absurd rfl unanswered
  | waiting =>
    rw [act]
    split
    · exact Nat.lt_succ_self _
    · exact Nat.succ_pos _
  | opening left =>
    rcases told : w.attempt m.lockParams with ⟨fault | id, w'⟩
    · cases left with
      | zero => simp only [act, told, turns, Nat.lt_add_one]
      | succ left => simp only [act, told, turns, Nat.lt_add_one]
    · simp only [act, told, turns, Nat.succ_pos]

theorem answered_of_turns (none : caller.turns = 0) : ∃ answer, caller = .answered answer := by
  cases caller with
  | answered answer => exact ⟨answer, rfl⟩
  | waiting => exact nomatch none
  | opening left => exact nomatch none

end LockCaller

/-- The calls for a manager's lock session, in the order of their arrival. -/
structure LockQueue where
  callers : List LockCaller
  manager : SessionManager
  surroundings : Surroundings

namespace LockQueue

variable {q q' : LockQueue}

def ofCalls (m : SessionManager) (w : Surroundings) (count : Nat) : LockQueue :=
  ⟨List.replicate count .waiting, m, w⟩

/-- A turn of the caller at a place in a queue. It has the slot when all before it have their
answers; until then it goes on waiting. -/
def turnOf (m : SessionManager) (w : Surroundings) :
    Nat → List LockCaller → List LockCaller × SessionManager × Surroundings
  | _, [] => ([], m, w)
  | 0, caller :: rest =>
      let (caller, m, w) := caller.act m w
      (caller :: rest, m, w)
  | place + 1, .answered answer :: rest =>
      let (rest, m, w) := turnOf m w place rest
      (.answered answer :: rest, m, w)
  | _ + 1, callers => (callers, m, w)

def turn (q : LockQueue) (place : Nat) : LockQueue :=
  let (callers, m, w) := turnOf q.manager q.surroundings place q.callers
  ⟨callers, m, w⟩

/-- The queue after some turns, given to whichever callers. -/
def afterTurns (q : LockQueue) (places : List Nat) : LockQueue := places.foldl turn q

/-- What the callers come to that are served one after the other. -/
def outcomeOf (m : SessionManager) (w : Surroundings) :
    List LockCaller → List (Except EnsembleError Nat) × SessionManager × Surroundings
  | [] => ([], m, w)
  | caller :: rest =>
      let (first, m, w) := caller.finish m w
      let (others, m, w) := outcomeOf m w rest
      (first :: others, m, w)

def outcome (q : LockQueue) : List (Except EnsembleError Nat) × SessionManager × Surroundings :=
  outcomeOf q.manager q.surroundings q.callers

def Answered (q : LockQueue)
    (told : List (Except EnsembleError Nat) × SessionManager × Surroundings) : Prop :=
  q = ⟨told.1.map .answered, told.2.1, told.2.2⟩

theorem outcomeOf_turnOf (place : Nat) (callers : List LockCaller) (m : SessionManager)
    (w : Surroundings) :
    outcomeOf (turnOf m w place callers).2.1 (turnOf m w place callers).2.2
      (turnOf m w place callers).1 = outcomeOf m w callers := by
  induction callers generalizing place with
  | nil =>
    cases place <;> rfl
  | cons caller rest ih =>
    cases place with
    | zero =>
      rw [turnOf, outcomeOf, outcomeOf, LockCaller.finish_act]
    | succ place =>
      cases caller with
      | answered answer =>
        rw [turnOf, outcomeOf, outcomeOf, LockCaller.finish, LockCaller.finish]
        dsimp only
        rw [ih place]
      | waiting => rfl
      | opening left => rfl

theorem outcome_turn (q : LockQueue) (place : Nat) : (q.turn place).outcome = q.outcome :=
  outcomeOf_turnOf place q.callers q.manager q.surroundings

theorem outcome_afterTurns (q : LockQueue) (places : List Nat) :
    (q.afterTurns places).outcome = q.outcome := by
  induction places generalizing q with
  | nil => rfl
  | cons place rest ih => exact (ih (q.turn place)).trans (q.outcome_turn place)

theorem outcome_answered (answers : List (Except EnsembleError Nat)) (m : SessionManager)
    (w : Surroundings) :
    outcome ⟨answers.map .answered, m, w⟩ = (answers, m, w) := by
  induction answers with
  | nil => rfl
  | cons answer rest ih =>
    have rest' : outcomeOf m w (rest.map .answered) = (rest, m, w) := ih
    rw [outcome, List.map_cons, outcomeOf, LockCaller.finish]
    dsimp only
    rw [rest']

theorem outcome_ofCalls (m : SessionManager) (w : Surroundings) (count : Nat) :
    (ofCalls m w count).outcome = m.lockSessions w count := by
  induction count generalizing m w with
  | zero => rfl
  | succ count ih =>
    have rest := ih (m.lockSession w).2.1 (m.lockSession w).2.2
    rw [outcome, ofCalls] at rest ⊢
    rw [List.replicate_succ, outcomeOf, LockCaller.finish, SessionManager.lockSessions]
    dsimp only at rest ⊢
    rw [rest]

theorem Answered.outcome_eq {told : List (Except EnsembleError Nat) × SessionManager × Surroundings}
    (answered : q.Answered told) : q.outcome = told := by
  rw [Answered] at answered
  rw [answered, outcome_answered]

def turnsOf : List LockCaller → Nat
  | [] => 0
  | caller :: rest => caller.turns + turnsOf rest

def turns (q : LockQueue) : Nat := turnsOf q.callers

theorem turns_ofCalls (m : SessionManager) (w : Surroundings) (count : Nat) :
    (ofCalls m w count).turns = count * (Backoff.retries + 2) := by
  induction count with
  | zero => rw [Nat.zero_mul]; rfl
  | succ count ih =>
    rw [turns, ofCalls] at ih ⊢
    rw [List.replicate_succ, turnsOf, ih, LockCaller.turns, Nat.succ_mul, Nat.add_comm]

/-- A turn brings the callers nearer to their answers, or it is one that has no effect. -/
theorem turnOf_cases (place : Nat) (callers : List LockCaller) (m : SessionManager)
    (w : Surroundings) : turnOf m w place callers = (callers, m, w) ∨
      turnsOf (turnOf m w place callers).1 < turnsOf callers := by
  induction callers generalizing place with
  | nil =>
    left
    cases place <;> rfl
  | cons caller rest ih =>
    by_cases done : caller.turns = 0
    · obtain ⟨answer, rfl⟩ := LockCaller.answered_of_turns done
      cases place with
      | zero => exact .inl rfl
      | succ place =>
        rw [turnOf]
        rcases ih place with same | nearer
        · left
          rw [same]
        · right
          rw [turnsOf, turnsOf]
          exact Nat.add_lt_add_left nearer _
    · cases place with
      | zero =>
        right
        rw [turnOf, turnsOf, turnsOf]
        exact Nat.add_lt_add_right (LockCaller.turns_act done m w) _
      | succ place =>
        left
        cases caller with
        | answered answer => exact absurd rfl done
        | waiting => rfl
        | opening left => rfl

/-- As long as a caller is without an answer, the turn of one of them has an effect. -/
theorem exists_turnOf {callers : List LockCaller} (unanswered : turnsOf callers ≠ 0)
    (m : SessionManager) (w : Surroundings) :
    ∃ place < callers.length, turnsOf (turnOf m w place callers).1 < turnsOf callers := by
  induction callers with
  | nil => exact absurd rfl unanswered
  | cons caller rest ih =>
    by_cases done : caller.turns = 0
    · obtain ⟨answer, rfl⟩ := LockCaller.answered_of_turns done
      rw [turnsOf, done, Nat.zero_add] at unanswered
      obtain ⟨place, within, nearer⟩ := ih unanswered
      refine ⟨place + 1, Nat.succ_lt_succ within, ?_⟩
      rw [turnOf, turnsOf, turnsOf]
      exact Nat.add_lt_add_left nearer _
    · refine ⟨0, Nat.succ_pos _, ?_⟩
      rw [turnOf, turnsOf, turnsOf]
      exact Nat.add_lt_add_right (LockCaller.turns_act done m w) _

theorem length_turnOf (place : Nat) (callers : List LockCaller) (m : SessionManager)
    (w : Surroundings) : (turnOf m w place callers).1.length = callers.length := by
  induction callers generalizing place with
  | nil => cases place <;> rfl
  | cons caller rest ih =>
    cases place with
    | zero => rfl
    | succ place =>
      cases caller with
      | answered answer => exact congrArg Nat.succ (ih place)
      | waiting => rfl
      | opening left => rfl

theorem length_afterTurns (q : LockQueue) (places : List Nat) :
    (q.afterTurns places).callers.length = q.callers.length := by
  induction places generalizing q with
  | nil => rfl
  | cons place rest ih =>
    exact (ih (q.turn place)).trans (length_turnOf place q.callers q.manager q.surroundings)

theorem turn_cases (q : LockQueue) (place : Nat) :
    q.turn place = q ∨ (q.turn place).turns < q.turns := by
  rcases turnOf_cases place q.callers q.manager q.surroundings with same | nearer
  · left
    rw [turn, same]
  · exact .inr nearer

theorem turns_afterTurns_le (q : LockQueue) (places : List Nat) :
    (q.afterTurns places).turns ≤ q.turns := by
  induction places generalizing q with
  | nil => exact Nat.le_refl _
  | cons place rest ih =>
    rcases q.turn_cases place with same | nearer
    · rw [afterTurns, List.foldl_cons, same]
      exact ih q
    · exact (ih (q.turn place)).trans nearer.le

/-- A turn that has an effect has it in the end, whoever is given turns before. -/
theorem turns_afterTurns_lt {place : Nat} (effective : (q.turn place).turns < q.turns)
    {places : List Nat} (given : place ∈ places) : (q.afterTurns places).turns < q.turns := by
  induction places with
  | nil => exact nomatch given
  | cons first rest ih =>
    rw [afterTurns, List.foldl_cons]
    rcases q.turn_cases first with same | nearer
    · rw [same]
      rcases List.mem_cons.1 given with rfl | later
      · rw [same] at effective
        exact absurd effective (Nat.lt_irrefl _)
      · exact ih later
    · exact ((q.turn first).turns_afterTurns_le rest).trans_lt nearer

theorem answers_of_turnsOf {callers : List LockCaller} (none : turnsOf callers = 0) :
    ∃ answers : List (Except EnsembleError Nat), callers = answers.map LockCaller.answered := by
  induction callers with
  | nil => exact ⟨[], rfl⟩
  | cons caller rest ih =>
    rw [turnsOf] at none
    obtain ⟨answer, rfl⟩ := LockCaller.answered_of_turns (Nat.eq_zero_of_add_eq_zero_right none)
    obtain ⟨answers, rfl⟩ := ih (Nat.eq_zero_of_add_eq_zero_left none)
    exact ⟨answer :: answers, rfl⟩

theorem answered_outcome (done : q.turns = 0) : q.Answered q.outcome := by
  obtain ⟨callers, m, w⟩ := q
  obtain ⟨answers, rfl⟩ := answers_of_turnsOf done
  rw [Answered, outcome_answered]

/-- Rounds in which every caller has a turn: each brings the callers nearer to their answers. -/
theorem answered_of_rounds {rounds : List (List Nat)}
    (fair : ∀ round ∈ rounds, ∀ place < q.callers.length, place ∈ round)
    (enough : q.turns ≤ rounds.length) : (q.afterTurns rounds.flatten).Answered q.outcome := by
  induction rounds generalizing q with
  | nil => exact answered_outcome (Nat.le_zero.1 enough)
  | cons round rest ih =>
    rw [afterTurns, List.flatten_cons, List.foldl_append, ← q.outcome_afterTurns round]
    apply ih
    · intro later member place within
      rw [← afterTurns, length_afterTurns] at within
      exact fair later (List.mem_cons_of_mem _ member) place within
    · rw [← afterTurns]
      rw [List.length_cons] at enough
      by_cases done : q.turns = 0
      · have still := q.turns_afterTurns_le round
        omega
      · obtain ⟨place, within, effective⟩ := exists_turnOf done q.manager q.surroundings
        have nearer := turns_afterTurns_lt (q := q) effective
          (fair round List.mem_cons_self place within)
        omega

end LockQueue

end Cutover
