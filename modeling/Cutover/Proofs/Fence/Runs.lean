import Cutover.Process.Turn
import Cutover.Proofs.Fence.Queues

set_option autoImplicit false

namespace Cutover

/-- What somebody wants from the fence of an event type. -/
inductive FenceDemand where
  | permit (limit : Duration)
  | start (limit : Duration)
  | finish
  deriving DecidableEq

/-- A millisecond passes; somebody calls under a name of the caller's; or the call of that name is
dropped while it waits, or gives up the permit that it got. -/
inductive FenceMove where
  | tick
  | call (eventType : String) (name : Nat) (demand : FenceDemand)
  | leave (eventType : String) (name : Nat)
  deriving DecidableEq

/-- Whether a move is one on an event type. Time passes for all. -/
def FenceMove.concerns (eventType : String) : FenceMove → Bool
  | .tick => true
  | .call e _ _ => e = eventType
  | .leave e _ => e = eventType

/-- What a call ends with; one for a permit keeps the ticket. -/
abbrev FenceAnswer := Except FenceError (Option Ticket)

/-- A demand as the process that the fences run for it. -/
def FenceDemand.process (eventType : String) :
    FenceDemand → Process LocalFences FenceAnswer
  | .permit limit => (LocalFences.permit eventType limit).bind fun answer =>
      .done (answer.map some)
  | .start limit => (LocalFences.sync.start eventType limit).bind fun answer =>
      .done (answer.map fun _ => none)
  | .finish => (LocalFences.sync.finish eventType).bind fun answer =>
      .done (answer.map fun _ => none)

/-- How far a call has come: it waits until an alarm, it has ended at some time and may hold a
permit, or it was dropped. -/
inductive FenceStage : Type 1 where
  | waiting (rest : Process LocalFences FenceAnswer) (alarm : Option Nat)
  | ended (answer : Except FenceError Unit) (time : Nat) (permit : Option Ticket)
  | dropped

namespace FenceStage

/-- The stage that the progress of a call's process leads to. -/
def after (now : Nat) : Process.Progress LocalFences FenceAnswer → FenceStage × LocalFences
  | .ended (.ok permit) f => (.ended (.ok ()) now permit, f)
  | .ended (.error fault) f => (.ended (.error fault) now none, f)
  | .blocked rest limit f => (.waiting rest (limit.map (now + ·)), f)
  | .forked _ _ f => (.dropped, f)

/-- No call waits for the end of a task. -/
def noTask : Nat → Bool := fun _ => false

/-- Lets a call go on if it has what it waits for or its limit is up. -/
def poll (now : Nat) : FenceStage → LocalFences → FenceStage × LocalFences
  | .waiting rest alarm, f =>
      if alarm.any (· ≤ now) then
        after now ((rest.expire f).1.advance noTask (rest.expire f).2)
      else if rest.canGo noTask f then after now (rest.advance noTask f)
      else (.waiting rest alarm, f)
  | stage, f => (stage, f)

def leave : FenceStage → LocalFences → FenceStage × LocalFences
  | .waiting rest _, f => (.dropped, (rest.drop f).2)
  | .ended answer time (some ticket), f => (.ended answer time none, f.giveUp ticket)
  | stage, f => (stage, f)

end FenceStage

/-- A call for the fence of an event type. -/
structure FenceClient : Type 1 where
  eventType : String
  name : Nat
  stage : FenceStage

/-- Drops a call or its permit if it has this name. -/
def FenceClient.leave (eventType : String) (name : Nat) (c : FenceClient) (f : LocalFences) :
    FenceStage × LocalFences :=
  if c.eventType = eventType ∧ c.name = name then c.stage.leave f else (c.stage, f)

/-- The calls of a run, in the order in which they were made. -/
structure FenceRun : Type 1 where
  fences : LocalFences
  now : Nat
  calls : List FenceClient

namespace FenceRun

def start : FenceRun := ⟨.empty, 0, []⟩

def visit (change : FenceClient → LocalFences → FenceStage × LocalFences) :
    List FenceClient → LocalFences → List FenceClient × LocalFences
  | [], f => ([], f)
  | c :: rest, f =>
      let (stage, f) := change c f
      let (rest, f) := visit change rest f
      ({ c with stage := stage } :: rest, f)

def settle (s : FenceRun) : FenceRun :=
  let (calls, fences) := visit (fun c => c.stage.poll s.now) s.calls s.fences
  { s with fences := fences, calls := calls }

def act (s : FenceRun) : FenceMove → FenceRun
  | .tick => { s with now := s.now + 1 }
  | .call eventType name demand =>
      let (stage, fences) :=
        FenceStage.after s.now ((demand.process eventType).advance FenceStage.noTask s.fences)
      { s with fences := fences, calls := s.calls ++ [⟨eventType, name, stage⟩] }
  | .leave eventType name =>
      let (calls, fences) := visit (FenceClient.leave eventType name) s.calls s.fences
      { s with fences := fences, calls := calls }

def move (s : FenceRun) (m : FenceMove) : FenceRun := (s.act m).settle

def run (moves : List FenceMove) : FenceRun := moves.foldl move start

end FenceRun

/-- What a caller sees of a call. -/
inductive FenceOutcome where
  | waiting
  | ended (answer : Except FenceError Unit) (time : Nat)
  | dropped
  deriving DecidableEq

def FenceStage.outcome : FenceStage → FenceOutcome
  | .waiting _ _ => .waiting
  | .ended answer time _ => .ended answer time
  | .dropped => .dropped

/-- What the callers of an event type see, in the order of their calls. -/
def FenceRun.outcomes (s : FenceRun) (eventType : String) : List (Nat × FenceOutcome) :=
  (s.calls.filter (·.eventType = eventType)).map fun c => (c.name, c.stage.outcome)

/-- Where a call stands, with what is known of its request: it waits, publishes or updates, or is in
the queue no longer. -/
inductive FencePlace (τ : Type) where
  | waiting (mode : LockMode) (limit : Duration) (alarm : Nat) (ticket : τ)
  | publishing (time : Nat) (ticket : τ)
  | updating (time : Nat) (ticket : τ)
  | closed (answer : Option (Except FenceError Unit × Nat))

/-- A call by its place. -/
structure FenceSeat (τ : Type) where
  eventType : String
  name : Nat
  place : FencePlace τ

namespace FencePlace

variable {τ : Type}

/-- The mode in which a call in the queue wants or has the lock. -/
def mode? : FencePlace τ → Option LockMode
  | .waiting mode _ _ _ => some mode
  | .publishing _ _ => some .shared
  | .updating _ _ => some .exclusive
  | .closed _ => none

def outcome : FencePlace τ → FenceOutcome
  | .waiting _ _ _ _ => .waiting
  | .publishing time _ => .ended (.ok ()) time
  | .updating time _ => .ended (.ok ()) time
  | .closed (some (answer, time)) => .ended answer time
  | .closed none => .dropped

def isUpdating : FencePlace τ → Bool
  | .updating _ _ => true
  | _ => false

/-- What becomes of a waiting call that is looked at. -/
def poll (eventType : String) (now : Nat) (earlier : List LockMode) : FencePlace τ → FencePlace τ
  | .waiting mode limit alarm ticket =>
      if grantedBehind earlier mode then
        match mode with
        | .shared => .publishing now ticket
        | .exclusive => .updating now ticket
      else if alarm ≤ now then .closed (some (.error (.timeout eventType limit), now))
      else .waiting mode limit alarm ticket
  | place => place

def leave : FencePlace τ → FencePlace τ
  | .waiting _ _ _ _ => .closed none
  | .publishing time _ => .closed (some (.ok (), time))
  | place => place

def finish : FencePlace τ → FencePlace τ
  | .updating time _ => .closed (some (.ok (), time))
  | place => place

end FencePlace

namespace FenceSeat

variable {τ : Type}

/-- The modes of the calls in the queue of an event type. -/
def modes (seats : List (FenceSeat τ)) (eventType : String) : List LockMode :=
  (seats.filter (·.eventType = eventType)).filterMap (·.place.mode?)

/-- Changes the calls one after the other, each with those before it as they have become. -/
def pass (change : List (FenceSeat τ) → FenceSeat τ → FenceSeat τ) :
    List (FenceSeat τ) → List (FenceSeat τ) → List (FenceSeat τ)
  | _, [] => []
  | earlier, s :: rest => change earlier s :: pass change (earlier ++ [change earlier s]) rest

def poll (now : Nat) (earlier : List (FenceSeat τ)) (s : FenceSeat τ) : FenceSeat τ :=
  { s with place := s.place.poll s.eventType now (modes earlier s.eventType) }

def isUpdating (eventType : String) (s : FenceSeat τ) : Bool :=
  s.eventType = eventType && s.place.isUpdating

def leave (eventType : String) (name : Nat) (s : FenceSeat τ) : FenceSeat τ :=
  if s.eventType = eventType ∧ s.name = name then { s with place := s.place.leave } else s

def finish (eventType : String) (s : FenceSeat τ) : FenceSeat τ :=
  if s.eventType = eventType then { s with place := s.place.finish } else s

def asked (eventType : String) (name now : Nat) (mode : LockMode) (limit : Duration) (ticket : τ) :
    FenceSeat τ :=
  ⟨eventType, name, .waiting mode limit (now + limit.millis) ticket⟩

def act (now : Nat) (ticket : τ) (seats : List (FenceSeat τ)) : FenceMove → List (FenceSeat τ)
  | .tick => seats
  | .call eventType name (.permit limit) =>
      seats ++ [(asked eventType name now .shared limit ticket).poll now seats]
  | .call eventType name (.start limit) =>
      seats ++ [(asked eventType name now .exclusive limit ticket).poll now seats]
  | .call eventType name .finish =>
      let answer := if seats.any (isUpdating eventType) then .ok () else .error (.notHeld eventType)
      seats.map (finish eventType) ++ [⟨eventType, name, .closed (some (answer, now))⟩]
  | .leave eventType name => seats.map (leave eventType name)

def clock (now : Nat) : FenceMove → Nat
  | .tick => now + 1
  | _ => now

def move (now : Nat) (ticket : τ) (seats : List (FenceSeat τ)) (m : FenceMove) :
    List (FenceSeat τ) :=
  pass (poll (clock now m)) [] (act now ticket seats m)

end FenceSeat

namespace FenceSeat

def pending (eventType : String) (limit : Duration) (t : Ticket) :
    LockMode → Process LocalFences FenceAnswer
  | .shared =>
      .waiting (·.isGranted t) limit.millis (·.giveUp t)
        (LocalFences.permitEnded eventType limit t) fun answer => .done (answer.map some)
  | .exclusive =>
      .waiting (·.isGranted t) limit.millis (·.giveUp t)
        (LocalFences.startEnded eventType limit t) fun answer => .done (answer.map fun _ => none)

def stage (s : FenceSeat Ticket) : FenceStage :=
  match s.place with
  | .waiting mode limit alarm t => .waiting (pending s.eventType limit t mode) (some alarm)
  | .publishing time t => .ended (.ok ()) time (some t)
  | .updating time _ => .ended (.ok ()) time none
  | .closed (some (answer, time)) => .ended answer time none
  | .closed none => .dropped

def call (s : FenceSeat Ticket) : FenceClient := ⟨s.eventType, s.name, s.stage⟩

/-- What a call in the queue does with the lock. -/
def user? (s : FenceSeat Ticket) : Option FenceUser :=
  match s.place with
  | .waiting mode _ _ t => some ⟨s.eventType, t, .waiting mode⟩
  | .publishing _ t => some ⟨s.eventType, t, .publishing⟩
  | .updating _ t => some ⟨s.eventType, t, .updating⟩
  | .closed _ => none

def users (seats : List (FenceSeat Ticket)) : List FenceUser := seats.filterMap user?

theorem users_append (A B : List (FenceSeat Ticket)) : users (A ++ B) = users A ++ users B :=
  List.filterMap_append

theorem users_cons_some {s : FenceSeat Ticket} {u : FenceUser} (user : s.user? = some u)
    (B : List (FenceSeat Ticket)) : users (s :: B) = u :: users B :=
  List.filterMap_cons_some user

theorem users_cons_none {s : FenceSeat Ticket} (user : s.user? = none)
    (B : List (FenceSeat Ticket)) : users (s :: B) = users B :=
  List.filterMap_cons_none user

theorem users_append_over (seats : List (FenceSeat Ticket)) (e : String) (name : Nat)
    (answer : Option (Except FenceError Unit × Nat)) :
    users (seats ++ [⟨e, name, .closed answer⟩]) = users seats := by
  rw [users_append, users_cons_none rfl]
  exact List.append_nil _

theorem mode?_eq (s : FenceSeat Ticket) : s.place.mode? = s.user?.map (·.role.mode) := by
  obtain ⟨e, name, place⟩ := s
  cases place <;> rfl

theorem eventType_of_user? {s : FenceSeat Ticket} {u : FenceUser} (user : s.user? = some u) :
    u.eventType = s.eventType := by
  obtain ⟨e, name, place⟩ := s
  cases place with
  | closed answer => cases user
  | _ => exact congrArg FenceUser.eventType (Option.some.inj user).symm

theorem modes_eq_modesOf (seats : List (FenceSeat Ticket)) (e : String) :
    modes seats e = FenceUser.modesOf (users seats) e := by
  induction seats with
  | nil => rfl
  | cons s rest ih =>
    rw [modes, FenceUser.modesOf] at ih ⊢
    cases user : s.user? with
    | none =>
      have mode : s.place.mode? = none := by rw [mode?_eq, user, Option.map_none]
      rw [users_cons_none user, ← ih, List.filter_cons]
      split
      · rw [List.filterMap_cons, mode]
      · rfl
    | some u =>
      have mode : s.place.mode? = some u.role.mode := by rw [mode?_eq, user, Option.map_some]
      rw [users_cons_some user, List.filter_cons, List.filter_cons, eventType_of_user? user]
      split
      · rw [List.filterMap_cons, mode, List.map_cons, ih]
      · exact ih

theorem pass_map {τ : Type} (change : FenceSeat τ → FenceSeat τ)
    (earlier seats : List (FenceSeat τ)) :
    pass (fun _ => change) earlier seats = seats.map change := by
  induction seats generalizing earlier with
  | nil => rfl
  | cons s rest ih => rw [pass, ih, List.map_cons]

open LocalFences

variable {f : LocalFences} {earlier later : List (FenceSeat Ticket)} {s : FenceSeat Ticket}

theorem after_advance_pending (now : Nat) (e : String) (limit : Duration) (t : Ticket)
    (mode : LockMode) (f : LocalFences) :
    FenceStage.after now ((pending e limit t mode).advance FenceStage.noTask f) =
      FenceStage.poll now (.waiting (pending e limit t mode) (some (now + limit.millis))) f := by
  have due : (some (now + limit.millis)).any (· ≤ now) = (limit.millis == 0) := by
    rw [Option.any_some, Bool.eq_iff_iff, decide_eq_true_iff, beq_iff_eq]
    omega
  simp only [FenceStage.poll, due]
  cases mode <;> cases up : limit.millis == 0 <;> cases granted : f.isGranted t <;>
    simp [pending, Process.advance, Process.expire, Process.canGo, FenceStage.after, up, granted]

/-- A call that has the lock goes on, whether or not its limit is up. -/
theorem poll_granted {e : String} {limit : Duration} {t : Ticket} (now alarm : Nat)
    (granted : f.isGranted t = true) :
    FenceStage.poll now (.waiting (pending e limit t .shared) (some alarm)) f =
        (.ended (.ok ()) now (some t), f) ∧
      FenceStage.poll now (.waiting (pending e limit t .exclusive) (some alarm)) f =
        (.ended (.ok ()) now none, f.hold e t) := by
  have permitted := permitEnded_of_granted granted e limit
  have started := startEnded_of_granted granted e limit
  cases due : decide (alarm ≤ now) <;>
    simp [FenceStage.poll, pending, Process.expire, Process.advance, Process.canGo,
      FenceStage.after, due, granted, permitted, started, Except.map]

theorem poll_refused {e : String} {limit : Duration} {t : Ticket} {now alarm : Nat}
    (due : alarm ≤ now) (waits : f.isGranted t = false) :
    FenceStage.poll now (.waiting (pending e limit t .shared) (some alarm)) f =
        (.ended (.error (.timeout e limit)) now none, f.giveUp t) ∧
      FenceStage.poll now (.waiting (pending e limit t .exclusive) (some alarm)) f =
        (.ended (.error (.timeout e limit)) now none, (f.giveUp t).prune e) := by
  have noPermit := permitEnded_of_waiting waits e limit
  have noStart := startEnded_of_waiting waits e limit
  simp [FenceStage.poll, pending, Process.expire, Process.advance, FenceStage.after, due, noPermit,
    noStart, Except.map]

theorem poll_waiting {e : String} {limit : Duration} {t : Ticket} {now alarm : Nat}
    (early : ¬alarm ≤ now) (waits : f.isGranted t = false) (mode : LockMode) :
    FenceStage.poll now (.waiting (pending e limit t mode) (some alarm)) f =
      (.waiting (pending e limit t mode) (some alarm), f) := by
  cases mode <;> simp [FenceStage.poll, pending, Process.canGo, early, waits]

theorem poll_seat (now : Nat) (queued : f.Queued (users (earlier ++ s :: later))) :
    ∃ f', s.stage.poll now f = ((s.poll now earlier).stage, f') ∧
      f'.Queued (users (earlier ++ s.poll now earlier :: later)) := by
  obtain ⟨e, name, place⟩ := s
  rw [users_append] at queued ⊢
  cases place with
  | publishing time t => exact ⟨f, rfl, queued⟩
  | updating time t => exact ⟨f, rfl, queued⟩
  | closed answer =>
    refine ⟨f, ?_, queued⟩
    cases answer <;> rfl
  | waiting mode limit alarm t =>
    rw [users_cons_some (u := ⟨e, t, .waiting mode⟩) rfl] at queued
    have told := queued.isGranted_eq
    rw [← modes_eq_modesOf] at told
    cases granted : f.isGranted t with
    | true =>
      have behind : grantedBehind (modes earlier e) mode = true := told.symm.trans granted
      cases mode with
      | shared =>
        have seat : poll now earlier ⟨e, name, .waiting .shared limit alarm t⟩ =
            ⟨e, name, .publishing now t⟩ := by
          simp only [poll, FencePlace.poll, if_pos behind]
        rw [seat]
        exact ⟨f, (poll_granted now alarm granted).1, queued.permit granted⟩
      | exclusive =>
        have seat : poll now earlier ⟨e, name, .waiting .exclusive limit alarm t⟩ =
            ⟨e, name, .updating now t⟩ := by
          simp only [poll, FencePlace.poll, if_pos behind]
        rw [seat]
        exact ⟨f.hold e t, (poll_granted now alarm granted).2, queued.hold granted⟩
    | false =>
      have behind : ¬grantedBehind (modes earlier e) mode = true := by
        intro first
        rw [granted] at told
        exact Bool.false_ne_true (told.trans first)
      by_cases due : alarm ≤ now
      · have seat : poll now earlier ⟨e, name, .waiting mode limit alarm t⟩ =
            ⟨e, name, .closed (some (.error (.timeout e limit), now))⟩ := by
          simp only [poll, FencePlace.poll, if_neg behind, if_pos due]
        have left := queued.giveUp (FenceRole.waiting_ne_updating mode)
        rw [seat, users_cons_none rfl]
        cases mode with
        | shared => exact ⟨f.giveUp t, (poll_refused due granted).1, left⟩
        | exclusive => exact ⟨(f.giveUp t).prune e, (poll_refused due granted).2, left.prune e⟩
      · have seat : poll now earlier ⟨e, name, .waiting mode limit alarm t⟩ =
            ⟨e, name, .waiting mode limit alarm t⟩ := by
          simp only [poll, FencePlace.poll, if_neg behind, if_neg due]
        rw [seat]
        exact ⟨f, poll_waiting due granted mode, queued⟩

theorem leave_seat (e : String) (name : Nat) (queued : f.Queued (users (earlier ++ s :: later))) :
    ∃ f', s.call.leave e name f = ((s.leave e name).stage, f') ∧
      f'.Queued (users (earlier ++ s.leave e name :: later)) := by
  unfold leave
  change ∃ f', (if s.eventType = e ∧ s.name = name then s.stage.leave f else (s.stage, f)) = _ ∧ _
  by_cases named : s.eventType = e ∧ s.name = name
  · rw [if_pos named, if_pos named]
    obtain ⟨e', name', place⟩ := s
    rw [users_append] at queued ⊢
    cases place with
    | updating time t => exact ⟨f, rfl, queued⟩
    | closed answer =>
      refine ⟨f, ?_, queued⟩
      cases answer <;> rfl
    | publishing time t =>
      rw [users_cons_some (u := ⟨e', t, .publishing⟩) rfl] at queued
      rw [users_cons_none rfl]
      exact ⟨f.giveUp t, rfl, queued.giveUp FenceRole.publishing_ne_updating⟩
    | waiting mode limit alarm t =>
      rw [users_cons_some (u := ⟨e', t, .waiting mode⟩) rfl] at queued
      rw [users_cons_none rfl]
      have left := queued.giveUp (FenceRole.waiting_ne_updating mode)
      cases mode <;> exact ⟨f.giveUp t, rfl, left⟩
  · rw [if_neg named, if_neg named]
    exact ⟨f, rfl, queued⟩

/-- What holds of one call holds of all calls that are changed one after the other. -/
theorem visit_pass (change : FenceClient → LocalFences → FenceStage × LocalFences)
    (next : List (FenceSeat Ticket) → FenceSeat Ticket → FenceSeat Ticket)
    (kept : ∀ earlier s, (next earlier s).eventType = s.eventType ∧ (next earlier s).name = s.name)
    (step : ∀ {earlier later s f}, f.Queued (users (earlier ++ s :: later)) →
      ∃ f', change s.call f = ((next earlier s).stage, f') ∧
        f'.Queued (users (earlier ++ next earlier s :: later)))
    (queued : f.Queued (users (earlier ++ later))) :
    ∃ f', FenceRun.visit change (later.map call) f = ((pass next earlier later).map call, f') ∧
      f'.Queued (users (earlier ++ pass next earlier later)) := by
  induction later generalizing earlier f with
  | nil => exact ⟨f, rfl, queued⟩
  | cons s rest ih =>
    obtain ⟨middle, first, queued⟩ := step queued
    rw [List.append_cons] at queued
    obtain ⟨f', others, queued⟩ := ih queued
    refine ⟨f', ?_, ?_⟩
    · obtain ⟨eventType, name⟩ := kept earlier s
      have changed : FenceClient.mk s.eventType s.name (next earlier s).stage =
          (next earlier s).call := by rw [call, eventType, name]
      simp only [List.map_cons, FenceRun.visit, first, others, pass, ← changed]
      rfl
    · rw [pass, List.append_cons]
      exact queued

theorem map_finish_eq {e : String} {seats : List (FenceSeat Ticket)}
    (others : ∀ u ∈ users seats, ¬(u.eventType = e ∧ u.role = .updating)) :
    seats.map (finish e) = seats ∧ seats.any (isUpdating e) = false := by
  have each : ∀ s ∈ seats, s.finish e = s ∧ s.isUpdating e = false := by
    intro s member
    obtain ⟨e', name, place⟩ := s
    cases place with
    | updating time t =>
      have user := others ⟨e', t, .updating⟩ (List.mem_filterMap.2 ⟨_, member, rfl⟩)
      have apart : e' ≠ e := fun same => user ⟨same, rfl⟩
      simp [finish, isUpdating, apart]
    | _ => simp [finish, isUpdating, FencePlace.finish, FencePlace.isUpdating]
  constructor
  · rw [List.map_congr_left fun s member => (each s member).1, List.map_id']
  · rw [List.any_eq_false]
    intro s member
    simp [(each s member).2]

theorem exists_updating {e : String} {t : Ticket} {seats : List (FenceSeat Ticket)}
    (member : ⟨e, t, .updating⟩ ∈ users seats) :
    ∃ earlier name time later, seats = earlier ++ ⟨e, name, .updating time t⟩ :: later := by
  obtain ⟨s, inside, user⟩ := List.mem_filterMap.1 member
  obtain ⟨earlier, later, split⟩ := List.append_of_mem inside
  obtain ⟨e', name, place⟩ := s
  cases place with
  | updating time t' =>
    obtain ⟨rfl, rfl⟩ : e' = e ∧ t' = t := by simpa [user?] using user
    exact ⟨earlier, name, time, later, split⟩
  | waiting mode limit alarm t' => simp [user?] at user
  | publishing time t' => simp [user?] at user
  | closed answer => simp [user?] at user

end FenceSeat

namespace FenceRun

open FenceSeat LocalFences

/-- The calls of a run have these seats. -/
structure Seated (s : FenceRun) (seats : List (FenceSeat Ticket)) : Prop where
  calls : s.calls = seats.map FenceSeat.call
  queued : s.fences.Queued (users seats)

theorem seated_start : start.Seated [] := ⟨rfl, queued_empty⟩

variable {s : FenceRun} {seats : List (FenceSeat Ticket)}

theorem Seated.settle (seated : s.Seated seats) :
    s.settle.Seated (pass (poll s.now) [] seats) := by
  have whole : s.fences.Queued (users ([] ++ seats)) := seated.queued
  obtain ⟨f, visited, queued⟩ :=
    visit_pass (fun c => c.stage.poll s.now) (poll s.now) (fun _ _ => ⟨rfl, rfl⟩) (poll_seat s.now)
      whole
  rw [← seated.calls] at visited
  have settled : s.settle = ⟨f, s.now, (pass (poll s.now) [] seats).map FenceSeat.call⟩ := by
    simp only [FenceRun.settle, visited]
  rw [settled]
  exact ⟨rfl, queued⟩

theorem Seated.leave (seated : s.Seated seats) (e : String) (name : Nat) :
    (s.act (.leave e name)).Seated (seats.map (FenceSeat.leave e name)) := by
  have whole : s.fences.Queued (users ([] ++ seats)) := seated.queued
  have kept : ∀ s : FenceSeat Ticket,
      (s.leave e name).eventType = s.eventType ∧ (s.leave e name).name = s.name := by
    intro s
    unfold FenceSeat.leave
    split <;> exact ⟨rfl, rfl⟩
  obtain ⟨f, visited, queued⟩ :=
    visit_pass (FenceClient.leave e name) (fun _ => FenceSeat.leave e name) (fun _ => kept)
      (leave_seat e name) whole
  rw [pass_map, ← seated.calls] at visited
  rw [pass_map] at queued
  have left : s.act (.leave e name) =
      ⟨f, s.now, (seats.map (FenceSeat.leave e name)).map FenceSeat.call⟩ := by
    simp only [FenceRun.act, visited]
  rw [left]
  exact ⟨rfl, queued⟩

theorem act_finish (s : FenceRun) (e : String) (name : Nat) :
    s.act (.call e name .finish) =
      ⟨(LocalFences.finish e s.fences).2, s.now,
        s.calls ++ [⟨e, name, .ended (LocalFences.finish e s.fences).1 s.now none⟩]⟩ := by
  simp only [FenceRun.act, FenceDemand.process, sync, Process.perform, Process.bind,
    Process.advance]
  cases answer : (LocalFences.finish e s.fences).1 <;> simp [FenceStage.after, Except.map]

theorem Seated.map_finish_of_unheld (seated : s.Seated seats) {e : String}
    (unheld : s.fences.held.get? e = none) :
    seats.map (FenceSeat.finish e) = seats ∧ seats.any (isUpdating e) = false := by
  apply map_finish_eq
  rintro ⟨e', t', role⟩ member ⟨rfl, rfl⟩
  have updating := seated.queued.sound.updates.2 (Multiset.mem_coe.2 member)
  rw [unheld] at updating
  cases updating

/-- Where an update is in progress its call is the only one that is over when it ends. -/
theorem Seated.exists_finished (seated : s.Seated seats) {e : String} {t : Ticket}
    (held : s.fences.held.get? e = some t) :
    (∃ earlier name time later, seats = earlier ++ ⟨e, name, .updating time t⟩ :: later ∧
      seats.map (FenceSeat.finish e) =
        earlier ++ ⟨e, name, .closed (some (.ok (), time))⟩ :: later) ∧
    seats.any (isUpdating e) = true := by
  have member := seated.queued.sound.updates.1 held
  obtain ⟨earlier, name, time, later, split⟩ := exists_updating (Multiset.mem_coe.1 member)
  have queued := seated.queued
  rw [split, users_append, users_cons_some (u := ⟨e, t, .updating⟩) rfl] at queued
  have alone : ∀ u ∈ users earlier ++ users later, ¬(u.eventType = e ∧ u.role = .updating) := by
    rintro ⟨e', t', role⟩ inside ⟨rfl, rfl⟩
    have other : (⟨e', t', .updating⟩ : FenceUser) ∈
        users earlier ++ ⟨e', t, .updating⟩ :: users later := by
      rcases List.mem_append.1 inside with before | after
      · exact List.mem_append_left _ before
      · exact List.mem_append_right _ (List.mem_cons_of_mem _ after)
    have same := queued.sound.updates.2 (Multiset.mem_coe.2 other)
    rw [held] at same
    obtain rfl := Option.some.inj same
    exact queued.number_ne _ inside rfl
  have before := (map_finish_eq fun u inside => alone u (List.mem_append_left _ inside)).1
  have after := (map_finish_eq fun u inside => alone u (List.mem_append_right _ inside)).1
  have here : FenceSeat.finish e (⟨e, name, .updating time t⟩ : FenceSeat Ticket) =
      ⟨e, name, .closed (some (.ok (), time))⟩ := by
    simp only [FenceSeat.finish, if_true, FencePlace.finish]
  refine ⟨⟨earlier, name, time, later, split, ?_⟩, ?_⟩
  · rw [split, List.map_append, List.map_cons, before, after, here]
  · rw [split]
    simp [isUpdating, FencePlace.isUpdating]

theorem Seated.finish (seated : s.Seated seats) (e : String) (name : Nat) (t : Ticket) :
    (s.act (.call e name .finish)).Seated (FenceSeat.act s.now t seats (.call e name .finish)) := by
  rw [act_finish]
  cases held : s.fences.held.get? e with
  | none =>
    obtain ⟨same, noUpdate⟩ := seated.map_finish_of_unheld held
    rw [finish_of_unheld held]
    simp only [FenceSeat.act, same, noUpdate]
    refine ⟨?_, ?_⟩
    · rw [List.map_append, ← seated.calls]
      rfl
    · rw [users_append_over]
      exact seated.queued
  | some updating =>
    obtain ⟨⟨earlier, name', time, later, split, finished⟩, anyUpdate⟩ :=
      seated.exists_finished held
    have queued := seated.queued
    rw [split, users_append, users_cons_some (u := ⟨e, updating, .updating⟩) rfl] at queued
    have calls : seats.map FenceSeat.call =
        (seats.map (FenceSeat.finish e)).map FenceSeat.call := by
      rw [finished, split, List.map_append, List.map_append, List.map_cons, List.map_cons]
      rfl
    rw [finish_answer held]
    simp only [FenceSeat.act, anyUpdate]
    refine ⟨?_, ?_⟩
    · rw [List.map_append, ← calls, ← seated.calls]
      rfl
    · rw [users_append_over, finished, users_append, users_cons_none rfl]
      exact queued.finish

theorem Seated.asking (seated : s.Seated seats) {demand : FenceDemand} {e : String}
    {limit : Duration} {mode : LockMode}
    (process : demand.process e = .act (fun f => f.ask e mode) fun t => pending e limit t mode)
    (name : Nat) :
    ∃ t, (s.act (.call e name demand)).Seated
      (seats ++ [(asked e name s.now mode limit t).poll s.now seats]) := by
  have asking := seated.queued.ask e mode
  have user : (asked e name s.now mode limit (s.fences.ask e mode).1).user? =
      some ⟨e, (s.fences.ask e mode).1, .waiting mode⟩ := rfl
  have queued : (s.fences.ask e mode).2.Queued
      (users (seats ++ asked e name s.now mode limit (s.fences.ask e mode).1 :: [])) := by
    rw [users_append, users_cons_some user]
    exact asking
  obtain ⟨f, polled, queued⟩ := poll_seat s.now queued
  have advanced : (demand.process e).advance FenceStage.noTask s.fences =
      (pending e limit (s.fences.ask e mode).1 mode).advance FenceStage.noTask
        (s.fences.ask e mode).2 := by
    rw [process, Process.advance]
  have acted : s.act (.call e name demand) =
      ⟨f, s.now, s.calls ++ [⟨e, name,
        ((asked e name s.now mode limit (s.fences.ask e mode).1).poll s.now seats).stage⟩]⟩ := by
    have stage : (asked e name s.now mode limit (s.fences.ask e mode).1).stage =
      .waiting (pending e limit (s.fences.ask e mode).1 mode) (some (s.now + limit.millis)) := rfl
    rw [stage] at polled
    simp only [FenceRun.act, advanced, after_advance_pending, polled]
  refine ⟨(s.fences.ask e mode).1, ?_, ?_⟩
  · rw [acted, List.map_append, ← seated.calls]
    rfl
  · rw [acted]
    exact queued

theorem Seated.act (seated : s.Seated seats) (m : FenceMove) :
    ∃ t, (s.act m).Seated (FenceSeat.act s.now t seats m) := by
  cases m with
  | tick => exact ⟨⟨0, 0⟩, seated.calls, seated.queued⟩
  | leave e name => exact ⟨⟨0, 0⟩, seated.leave e name⟩
  | call e name demand =>
    cases demand with
    | permit limit => exact seated.asking rfl name
    | start limit => exact seated.asking rfl name
    | finish => exact ⟨⟨0, 0⟩, seated.finish e name ⟨0, 0⟩⟩

theorem act_now (s : FenceRun) (m : FenceMove) : (s.act m).now = FenceSeat.clock s.now m := by
  cases m <;> rfl

theorem Seated.move (seated : s.Seated seats) (m : FenceMove) :
    ∃ t, (s.move m).Seated (FenceSeat.move s.now t seats m) := by
  obtain ⟨t, acted⟩ := seated.act m
  have settled := acted.settle
  rw [act_now] at settled
  exact ⟨t, settled⟩

theorem move_now (s : FenceRun) (m : FenceMove) : (s.move m).now = FenceSeat.clock s.now m :=
  act_now s m

theorem outcome_stage (s : FenceSeat Ticket) : s.stage.outcome = s.place.outcome := by
  obtain ⟨e, name, place⟩ := s
  cases place with
  | closed answer => cases answer <;> rfl
  | _ => rfl

theorem Seated.outcomes_eq (seated : s.Seated seats) (e : String) :
    s.outcomes e =
      (seats.filter (·.eventType = e)).map fun seat => (seat.name, seat.place.outcome) := by
  rw [FenceRun.outcomes, seated.calls, List.filter_map, List.map_map]
  apply List.map_congr_left
  intro seat _
  exact congrArg (Prod.mk seat.name) (outcome_stage seat)

theorem Seated.isFenced_eq (seated : s.Seated seats) (e : String) :
    s.fences.isFenced e = seats.any (isUpdating e) := by
  rw [isFenced, Table.contains]
  cases held : s.fences.held.get? e with
  | some t => rw [(seated.exists_finished held).2, Option.isSome_some]
  | none =>
    rw [(seated.map_finish_of_unheld held).2, Option.isSome_none]

end FenceRun

end Cutover
