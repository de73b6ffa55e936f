import Cutover.Data.Table.Lemmas
import Cutover.Ensemble.Script
import Cutover.Proofs.Sessions.Opening
import Mathlib.Data.Multiset.Bind

set_option autoImplicit false

namespace Cutover

open Ensemble

def Surroundings.closeAll (w : Surroundings) (ids : List Nat) : Surroundings :=
  { w with ensemble := w.ensemble.closeAll ids }

/-- The sessions that a handle closes when it is closed. -/
def Handle.owns (h : Handle) : List Nat :=
  match h.ownership with
  | .shared => []
  | .owned => [h.session]

theorem Handle.close_eq (h : Handle) (w : Surroundings) : h.close w = w.closeAll h.owns := by
  obtain ⟨session, ownership⟩ := h
  cases ownership <;> rfl

namespace SessionManager

variable {m : SessionManager} {w : Surroundings}

/-- The primary and the shared subscription session, which are open until the shutdown. -/
def standing (m : SessionManager) (down : Bool) : List Nat :=
  if down then [] else [m.subscription, m.primary]

def slot (m : SessionManager) : List Nat := (m.lock.map (·.session)).toList

theorem closeLock_eq (m : SessionManager) (w : Surroundings) :
    m.closeLock w = w.closeAll m.slot := by
  rw [closeLock, slot]
  cases m.lock <;> rfl

theorem shutdown_eq (m : SessionManager) (w : Surroundings) : m.shutdown w =
    ({ m with lock := none }, w.closeAll (m.slot ++ [m.subscription, m.primary])) := by
  rw [shutdown, closeLock_eq, Surroundings.closeAll, Surroundings.closeAll,
    Ensemble.closeAll, Ensemble.closeAll, List.foldl_append]
  rfl

/-- Connecting opens both sessions, or leaves open what was. -/
inductive Connects (w : Surroundings) : Except EnsembleError SessionManager → Surroundings → Prop
  | failed {e : EnsembleError} {w' : Surroundings} (settles : w.ensemble.Settles w'.ensemble) :
      Connects w (.error e) w'
  | connected {m : SessionManager} {w' : Surroundings} (unlocked : m.slot = [])
      (gains : w.ensemble.Gains w'.ensemble [m.subscription, m.primary]) : Connects w (.ok m) w'

theorem connects (factory : SessionFactory) (settings : SessionSettings)
    (sound : w.ensemble.Sound) :
    Connects w (connect factory settings w).1 (connect factory settings w).2 := by
  have first := factory.openSession_opens .primary settings.sessionTimeout sound
  rw [connect]
  split
  · next e w' result =>
    rw [result] at first
    exact .failed first.refused_settles
  · next primary w' result =>
    rw [result] at first
    have second := factory.openSession_opens .subscription settings.maxCommitTimeout first.sound
    split
    · next e w'' result' =>
      rw [result'] at second
      exact .failed (first.close_settles sound second.refused_settles)
    · next subscription w'' result' =>
      rw [result'] at second
      exact .connected rfl (first.gains.trans second.gains)

/-- A call for the lock session gives the current one, or leaves open what was, or replaces the one
in the slot. -/
inductive Locks (m : SessionManager) (w : Surroundings) :
    Except EnsembleError Nat → SessionManager → Surroundings → Prop
  | current {id : Nat} : Locks m w (.ok id) m w
  | failed {e : EnsembleError} {w' : Surroundings} (settles : w.ensemble.Settles w'.ensemble) :
      Locks m w (.error e) m w'
  | replaced {id createdAt : Nat} {e : Ensemble} {w' : Surroundings}
      (gains : w.ensemble.Gains e [id]) (ensemble : w'.ensemble = e.closeAll m.slot) :
      Locks m w (.ok id) { m with lock := some ⟨id, createdAt⟩ } w'

theorem locks (m : SessionManager) (sound : w.ensemble.Sound) :
    m.Locks w (m.lockSession w).1 (m.lockSession w).2.1 (m.lockSession w).2.2 := by
  have opens := m.factory.openSession_opens .lock m.settings.sessionTimeout sound
  rw [lockSession]
  split
  · exact .current
  split
  · next e w' result =>
    rw [result] at opens
    exact .failed opens.refused_settles
  · next id w' result =>
    rw [result] at opens
    exact .replaced opens.gains (congrArg Surroundings.ensemble (m.closeLock_eq w'))

/-- Subscribing opens what the handle owns, or leaves open what was. -/
inductive Subscribes (w : Surroundings) : Except EnsembleError Handle → Surroundings → Prop
  | failed {e : EnsembleError} {w' : Surroundings} (settles : w.ensemble.Settles w'.ensemble) :
      Subscribes w (.error e) w'
  | handed {h : Handle} {w' : Surroundings} (gains : w.ensemble.Gains w'.ensemble h.owns) :
      Subscribes w (.ok h) w'

theorem subscribes (m : SessionManager) (timeout : Duration) (sound : w.ensemble.Sound) :
    Subscribes w (m.subscribe timeout w).1 (m.subscribe timeout w).2 := by
  have opens := m.factory.openSession_opens .subscription timeout sound
  rw [subscribe]
  split
  · exact .handed (Settles.gains (sound.settles rfl rfl))
  split
  · next e w' result =>
    rw [result] at opens
    exact .failed opens.refused_settles
  · next id w' result =>
    rw [result] at opens
    exact .handed opens.gains

end SessionManager

namespace SessionScript

variable {s : SessionScript} {down : Bool}

def openSessions (s : SessionScript) : List Session := s.surroundings.ensemble.openSessions

def openIds (s : SessionScript) : Multiset Nat := s.surroundings.ensemble.openIds

/-- The sessions of owned handles that are not closed. -/
def held (s : SessionScript) : List Nat := s.handles.values.flatMap Handle.owns

def accounted (s : SessionScript) (down : Bool) : List Nat :=
  match s.manager with
  | none => []
  | some m => m.standing down ++ m.slot ++ s.held

/-- The open sessions are accounted for, and after the shutdown the manager's own are closed. -/
structure Kept (s : SessionScript) (down : Bool) : Prop where
  sound : s.surroundings.ensemble.Sound
  openIds : s.openIds = s.accounted down
  unconnected : s.manager = none → s.handles = .empty ∧ down = false
  spent : down = true → ∀ m, s.manager = some m →
    ∀ id ∈ [m.subscription, m.primary], s.surroundings.ensemble.Spent id

theorem accounted_connected {m : SessionManager} (connected : s.manager = some m) :
    (s.accounted down : Multiset Nat) = m.standing down + m.slot + (s.held : Multiset Nat) := by
  rw [accounted, connected, Multiset.coe_add, Multiset.coe_add]

/-- Where sessions are gained and then others closed, the accounts have to change alike. -/
theorem Kept.moved (kept : s.Kept down) {s' : SessionScript} {e : Ensemble}
    {gained : List Nat} (closed : List Nat) {m' : SessionManager}
    (gains : s.surroundings.ensemble.Gains e gained)
    (ensemble : s'.surroundings.ensemble = e.closeAll closed) (connected : s'.manager = some m')
    (balance : (gained + s.accounted down : Multiset Nat) =
      closed + (m'.standing down + m'.slot + (s'.held : Multiset Nat)))
    (standing : down = true → ∃ m, s.manager = some m ∧
      m'.subscription = m.subscription ∧ m'.primary = m.primary) : s'.Kept down where
  sound := ensemble ▸ gains.sound.closeAll closed
  openIds := by
    rw [SessionScript.openIds, ensemble]
    refine gains.sound.openIds_closeAll ?_
    rw [accounted_connected connected, gains.openIds, ← balance]
    exact congrArg _ kept.openIds
  unconnected none := nomatch none.symm.trans connected
  spent isDown m₁ manager id inside := by
    obtain rfl := Option.some.inj (connected.symm.trans manager)
    obtain ⟨m, before, subscription, primary⟩ := standing isDown
    rw [subscription, primary] at inside
    rw [ensemble]
    exact (gains.spent id (kept.spent isDown m before id inside)).closeAll gains.sound closed

theorem Kept.settled (kept : s.Kept down) {s' : SessionScript}
    (settles : s.surroundings.ensemble.Settles s'.surroundings.ensemble)
    (manager : s'.manager = s.manager) (handles : s'.handles = s.handles) : s'.Kept down where
  sound := settles.sound
  openIds := by
    rw [accounted, held, manager, handles]
    exact settles.openIds.trans kept.openIds
  unconnected := by
    rw [manager, handles]
    exact kept.unconnected
  spent isDown m connected id inside :=
    settles.spent (kept.spent isDown m (manager ▸ connected) id inside)

theorem Kept.connect (kept : s.Kept down) (none : s.manager = none) : s.connect.2.Kept down := by
  have connects := fun factory => SessionManager.connects factory s.settings kept.sound
  rw [SessionScript.connect]
  split
  · exact kept
  next factory made =>
  have connects := connects factory
  split
  · next e w result =>
    rw [result] at connects
    cases connects with
    | failed settles => exact kept.settled settles rfl rfl
  · next m w result =>
    rw [result] at connects
    obtain ⟨unheld, up⟩ := kept.unconnected none
    cases connects with
    | connected unlocked gains =>
      refine kept.moved [] gains rfl rfl ?_ fun down => nomatch down.symm.trans up
      rw [accounted, none, unlocked, up, held, unheld]
      rfl

theorem Kept.lock (kept : s.Kept down) : s.lock.2.Kept down := by
  rw [SessionScript.lock, withManager]
  split
  · exact kept
  next m connected =>
  have locks := m.locks kept.sound
  split
  · next e m' w result =>
    rw [result] at locks
    cases locks with
    | failed settles => exact kept.settled settles connected.symm rfl
  · next id m' w result =>
    rw [result] at locks
    cases locks with
    | current => exact kept.settled (kept.sound.settles rfl rfl) connected.symm rfl
    | replaced gains ensemble =>
      refine kept.moved m.slot gains ensemble rfl ?_ fun _ => ⟨m, connected, rfl, rfl⟩
      rw [accounted_connected connected]
      change [id] + (m.standing down + m.slot + (s.held : Multiset Nat)) =
        m.slot + (m.standing down + [id] + (s.held : Multiset Nat))
      ac_rfl

/-- The sessions that the handle with a name owns. -/
def ownedBy (s : SessionScript) (name : String) : List Nat :=
  match s.handles.get? name with
  | none => []
  | some h => h.owns

theorem closeHandle_eq (s : SessionScript) (name : String) : (s.closeHandle name).2 =
    { s with
      surroundings := s.surroundings.closeAll (s.ownedBy name)
      handles := s.handles.erase name } := by
  rw [closeHandle, ownedBy]
  cases found : s.handles.get? name with
  | none =>
    rw [Table.erase_of_get?_none found]
    rfl
  | some h =>
    dsimp only
    rw [h.close_eq]

theorem keepHandle_eq (s : SessionScript) (name : String) (h : Handle) : s.keepHandle name h =
    { s with
      surroundings := s.surroundings.closeAll (s.ownedBy name)
      handles := s.handles.insert name h } := by
  rw [keepHandle, ownedBy]
  cases s.handles.get? name with
  | none => rfl
  | some old =>
    dsimp only
    rw [old.close_eq]

theorem held_eq (s : SessionScript) (name : String) : (s.held : Multiset Nat) =
    s.ownedBy name + ((s.handles.erase name).values.flatMap Handle.owns : List Nat) := by
  rw [held, ownedBy]
  cases found : s.handles.get? name with
  | none =>
    rw [Table.erase_of_get?_none found]
    exact (Multiset.zero_add _).symm
  | some h =>
    rw [Multiset.coe_add, Multiset.coe_eq_coe]
    exact (Table.values_perm found).flatMap_right Handle.owns

theorem owns_insert (handles : Table String Handle) (name : String) (h : Handle) :
    ((handles.insert name h).values.flatMap Handle.owns : Multiset Nat) =
      h.owns + ((handles.erase name).values.flatMap Handle.owns : List Nat) := by
  rw [Multiset.coe_add, Multiset.coe_eq_coe]
  exact (Table.values_insert_perm handles name h).flatMap_right Handle.owns

theorem Kept.closeHandle (kept : s.Kept down) (name : String) :
    (s.closeHandle name).2.Kept down := by
  cases connected : s.manager with
  | none =>
    have unknown : s.handles.get? name = none := by
      rw [(kept.unconnected connected).1, Table.get?_empty]
    rw [SessionScript.closeHandle, unknown]
    exact kept
  | some m =>
    rw [closeHandle_eq]
    refine kept.moved (s.ownedBy name) (Settles.gains (kept.sound.settles rfl rfl)) rfl connected
      ?_ fun _ => ⟨m, connected, rfl, rfl⟩
    rw [accounted_connected connected, s.held_eq name, Multiset.coe_nil, Multiset.zero_add]
    exact add_left_comm _ _ _

theorem Kept.subscribe (kept : s.Kept down) (timeout : Duration) (name : String) :
    (s.subscribe timeout name).2.Kept down := by
  rw [SessionScript.subscribe, withManager]
  split
  · exact kept
  next m connected =>
  have subscribes := m.subscribes timeout kept.sound
  split
  · next e w result =>
    rw [result] at subscribes
    cases subscribes with
    | failed settles => exact kept.settled settles rfl rfl
  · next h w result =>
    rw [result] at subscribes
    cases subscribes with
    | handed gains =>
      rw [keepHandle_eq]
      refine kept.moved (s.ownedBy name) gains rfl connected ?_ fun _ => ⟨m, connected, rfl, rfl⟩
      rw [accounted_connected connected, s.held_eq name]
      change (_ : Multiset Nat) = s.ownedBy name + (m.standing down + m.slot +
        ((s.handles.insert name h).values.flatMap Handle.owns : List Nat))
      rw [owns_insert]
      ac_rfl

theorem Kept.openIds_shutdown (kept : s.Kept down) {m : SessionManager}
    (connected : s.manager = some m) :
    (s.surroundings.ensemble.closeAll (m.slot ++ [m.subscription, m.primary])).openIds =
      s.held := by
  have before : s.surroundings.ensemble.openIds =
      m.standing down + m.slot + (s.held : Multiset Nat) :=
    kept.openIds.trans (accounted_connected connected)
  cases down with
  | false =>
    refine kept.sound.openIds_closeAll (before.trans ?_)
    rw [← Multiset.coe_add, add_comm (m.slot : Multiset Nat)]
    rfl
  | true =>
    have standing : m.standing true + m.slot + (s.held : Multiset Nat) = m.slot + s.held :=
      congrArg (· + (s.held : Multiset Nat)) (Multiset.zero_add _)
    have unlocked : (s.surroundings.ensemble.closeAll m.slot).openIds = s.held :=
      kept.sound.openIds_closeAll (before.trans standing)
    rw [Ensemble.closeAll, List.foldl_append]
    refine ((kept.sound.closeAll m.slot).openIds_closeAll_spent fun id inside => ?_).trans unlocked
    exact (kept.spent rfl m connected id inside).closeAll kept.sound m.slot

theorem Kept.shutdown (kept : s.Kept down) :
    s.shutdown.2.Kept (down || s.manager.isSome) := by
  rw [SessionScript.shutdown, withManager]
  cases connected : s.manager with
  | none =>
    rw [Option.isSome_none, Bool.or_false]
    exact kept
  | some m =>
    dsimp only
    rw [m.shutdown_eq, Option.isSome_some, Bool.or_true]
    have own : ∀ id ∈ [m.subscription, m.primary], id ≤ s.surroundings.ensemble.lastId := by
      intro id inside
      cases down with
      | true => exact (kept.spent rfl m connected id inside).given
      | false =>
        refine kept.sound.openIds_given (?_ : id ∈ s.openIds)
        rw [kept.openIds, accounted, connected]
        exact List.mem_append_left _ (List.mem_append_left _ inside)
    refine ⟨kept.sound.closeAll _, ?_, nofun, ?_⟩
    · exact kept.openIds_shutdown connected
    · rintro - m' ⟨⟩ id inside
      exact kept.sound.spent_closeAll (List.mem_append_right _ inside) (own id inside)

def lockAnswer : Except EnsembleError Nat → SessionAnswer
  | .error e => .failed e
  | .ok id => .session id

theorem lock_eq {m : SessionManager} (connected : s.manager = some m) : s.lock =
    (lockAnswer (m.lockSession s.surroundings).1,
      { s with
        surroundings := (m.lockSession s.surroundings).2.2
        manager := some (m.lockSession s.surroundings).2.1 }) := by
  rw [SessionScript.lock, withManager, connected]
  dsimp only
  split
  · next e m' w result => rw [result, lockAnswer]
  · next id m' w result => rw [result, lockAnswer]

/-- The script after some calls for the lock session, one after the other. -/
def afterLocks (s : SessionScript) (count : Nat) : SessionScript :=
  (fun s => (s.run .lock).2)^[count] s

theorem afterLocks_succ (s : SessionScript) (count : Nat) :
    s.afterLocks (count + 1) = s.lock.2.afterLocks count :=
  Function.iterate_succ_apply ..

theorem lockMany_eq {m : SessionManager} (connected : s.manager = some m) (count : Nat) :
    s.lockMany count = (.locks (m.lockSessions s.surroundings count).1,
      { s with
        surroundings := (m.lockSessions s.surroundings count).2.2
        manager := some (m.lockSessions s.surroundings count).2.1 }) := by
  rw [SessionScript.lockMany, withManager, connected]

/-- Calls made at the same moment are served as if they came one after the other. -/
theorem lockMany_in_turn {m : SessionManager} (connected : s.manager = some m) (count : Nat) :
    ∃ results, s.lockMany count = (.locks results, s.afterLocks count) ∧
      results.map lockAnswer = (List.range count).map fun i => ((s.afterLocks i).run .lock).1 := by
  induction count generalizing s m with
  | zero =>
    refine ⟨[], (lockMany_eq connected 0).trans (congrArg (Prod.mk _) ?_), rfl⟩
    rw [SessionManager.lockSessions, ← connected]
    rfl
  | succ count ih =>
    have first := lock_eq connected
    have next : s.lock.2.manager = some (m.lockSession s.surroundings).2.1 := by rw [first]
    obtain ⟨rest, answered, told⟩ := ih next
    refine ⟨(m.lockSession s.surroundings).1 :: rest, ?_, ?_⟩
    · obtain ⟨answer, after⟩ := Prod.mk.inj ((lockMany_eq next count).symm.trans answered)
      rw [first] at answer after
      rw [lockMany_eq connected, afterLocks_succ, first, ← after, ← SessionAnswer.locks.inj answer]
      rfl
    · rw [List.map_cons, told, List.range_succ_eq_map, List.map_cons, List.map_map]
      refine congrArg₂ List.cons (congrArg Prod.fst first).symm (List.map_congr_left fun i _ => ?_)
      rw [Function.comp_apply, Nat.succ_eq_add_one, afterLocks_succ]

theorem Kept.afterLocks (kept : s.Kept down) (count : Nat) : (s.afterLocks count).Kept down := by
  induction count generalizing s with
  | zero => exact kept
  | succ count ih =>
    rw [afterLocks_succ]
    exact ih kept.lock

theorem Kept.lockMany (kept : s.Kept down) (count : Nat) : (s.lockMany count).2.Kept down := by
  cases connected : s.manager with
  | none =>
    rw [SessionScript.lockMany, withManager, connected]
    exact kept
  | some m =>
    obtain ⟨results, answered, -⟩ := lockMany_in_turn connected count
    rw [answered]
    exact kept.afterLocks count

/-- The steps of callers that have one manager and close sessions only through their handles. -/
def Allows (s : SessionScript) : SessionStep → Prop
  | .create _ _ => False
  | .closeSession _ => False
  | .connect => s.manager = none
  | _ => True

def isDownAfter (s : SessionScript) (down : Bool) : SessionStep → Bool
  | .shutdown => down || s.manager.isSome
  | _ => down

/-- What a script can come to, and whether its manager was shut down on the way. -/
inductive Lives (first : SessionScript) : Bool → SessionScript → Prop
  | start : Lives first false first
  | step {down : Bool} {s : SessionScript} (lives : Lives first down s) (step : SessionStep)
      (allowed : s.Allows step) : Lives first (s.isDownAfter down step) (s.run step).2

theorem Kept.run (kept : s.Kept down) {step : SessionStep} (allowed : s.Allows step) :
    (s.run step).2.Kept (s.isDownAfter down step) := by
  cases step with
  | setUnreachable value => exact kept.settled (kept.sound.settles rfl rfl) rfl rfl
  | failOpens count => exact kept.settled (kept.sound.settles rfl rfl) rfl rfl
  | failProbes count => exact kept.settled (kept.sound.settles rfl rfl) rfl rfl
  | advance ms => exact kept.settled (kept.sound.settles rfl rfl) rfl rfl
  | livePeriod => exact kept
  | connect => exact kept.connect allowed
  | lock => exact kept.lock
  | lockMany count => exact kept.lockMany count
  | subscribe timeout name => exact kept.subscribe timeout name
  | closeHandle name => exact kept.closeHandle name
  | shutdown => exact kept.shutdown
  | create kind timeout => exact nomatch allowed
  | closeSession id => exact nomatch allowed
  | primary =>
    rw [SessionScript.run, withManager]
    split <;> exact kept
  | inspectHandle name =>
    rw [SessionScript.run]
    split <;> exact kept
  | probe id =>
    rw [SessionScript.run, withSession]
    split
    · exact kept
    split <;> exact kept
  | inspectSession id =>
    rw [SessionScript.run, withSession]
    split <;> exact kept

variable {error : EnsembleError}

theorem openSessions_of_connect (sound : s.surroundings.ensemble.Sound)
    (failed : s.connect.1 = .failed error) : s.connect.2.openSessions = s.openSessions := by
  have connects := fun factory => SessionManager.connects factory s.settings sound
  rw [SessionScript.connect] at failed ⊢
  split
  · rfl
  next factory made =>
  have connects := connects factory
  rw [made] at failed
  dsimp only at failed
  split
  · next e w result =>
    rw [result] at connects
    cases connects with
    | failed settles => exact settles.same
  · next m w result =>
    rw [result] at failed
    exact nomatch failed

theorem openSessions_of_create (sound : s.surroundings.ensemble.Sound) {kind : SessionKind}
    {timeout : Duration} (failed : (s.create kind timeout).1 = .failed error) :
    (s.create kind timeout).2.openSessions = s.openSessions := by
  have opens := fun factory : SessionFactory =>
    factory.openSession_opens kind timeout sound
  rw [SessionScript.create] at failed ⊢
  split
  · rfl
  next factory made =>
  have opens := opens factory
  rw [made] at failed
  dsimp only at failed
  split
  · next e w result =>
    rw [result] at opens
    exact opens.refused_settles.same
  · next id w result =>
    rw [result] at failed
    exact nomatch failed

theorem openSessions_of_lock (sound : s.surroundings.ensemble.Sound)
    (failed : s.lock.1 = .failed error) : s.lock.2.openSessions = s.openSessions := by
  cases connected : s.manager with
  | none =>
    rw [SessionScript.lock, withManager, connected]
  | some m =>
    have locks := m.locks sound
    rw [lock_eq connected] at failed ⊢
    generalize m.lockSession s.surroundings = told at locks failed ⊢
    obtain ⟨answer, m', w⟩ := told
    cases locks with
    | failed settles => exact settles.same
    | current => exact nomatch failed
    | replaced gains ensemble => exact nomatch failed

theorem openSessions_of_subscribe (sound : s.surroundings.ensemble.Sound) {timeout : Duration}
    {name : String} (failed : (s.subscribe timeout name).1 = .failed error) :
    (s.subscribe timeout name).2.openSessions = s.openSessions := by
  cases connected : s.manager with
  | none =>
    rw [SessionScript.subscribe, withManager, connected]
  | some m =>
    have subscribes := m.subscribes timeout sound
    rw [SessionScript.subscribe, withManager, connected] at failed ⊢
    dsimp only at failed ⊢
    generalize m.subscribe timeout s.surroundings = told at subscribes failed ⊢
    obtain ⟨answer, w⟩ := told
    cases subscribes with
    | failed settles => exact settles.same
    | handed gains => exact nomatch failed

theorem openSessions_of_failed (sound : s.surroundings.ensemble.Sound) {step : SessionStep}
    (failed : (s.run step).1 = .failed error) :
    (s.run step).2.openSessions = s.openSessions := by
  cases step with
  | connect => exact openSessions_of_connect sound failed
  | create kind timeout => exact openSessions_of_create sound failed
  | lock => exact openSessions_of_lock sound failed
  | subscribe timeout name => exact openSessions_of_subscribe sound failed
  | setUnreachable value => exact nomatch failed
  | failOpens count => exact nomatch failed
  | failProbes count => exact nomatch failed
  | advance ms => exact nomatch failed
  | livePeriod => exact nomatch failed
  | lockMany count =>
    rw [run, SessionScript.lockMany, withManager] at failed
    split at failed <;> exact nomatch failed
  | closeHandle name =>
    rw [run, SessionScript.closeHandle] at failed
    split at failed <;> exact nomatch failed
  | shutdown =>
    rw [run, SessionScript.shutdown, withManager] at failed
    split at failed <;> exact nomatch failed
  | closeSession id =>
    rw [run, withSession] at failed
    split at failed <;> exact nomatch failed
  | primary =>
    rw [run, withManager]
    split <;> rfl
  | inspectHandle name =>
    rw [run]
    split <;> rfl
  | probe id =>
    rw [run, withSession]
    split
    · rfl
    split <;> rfl
  | inspectSession id =>
    rw [run, withSession]
    split <;> rfl

/-- What holds of a script in which sessions are closed only through handles. -/
structure Balanced (s : SessionScript) (down : Bool) : Prop where
  openIds : s.openIds = s.accounted down
  distinct : (s.accounted down).Nodup
  failed : ∀ step error, (s.run step).1 = .failed error →
    (s.run step).2.openSessions = s.openSessions
  atOnce : s.manager.isSome → ∀ count, ∃ results,
    s.run (.lockMany count) = (.locks results, s.afterLocks count) ∧
      results.map lockAnswer = (List.range count).map fun i => ((s.afterLocks i).run .lock).1
  shared : ∀ name h, s.handles.get? name = some h → h.ownership = .shared →
    (s.run (.closeHandle name)).2.openSessions = s.openSessions
  owned : ∀ name h, s.handles.get? name = some h → h.ownership = .owned →
    h.session ∈ s.openIds ∧
      (s.run (.closeHandle name)).2.openSessions = s.openSessions.filter (·.id ≠ h.session)

theorem Kept.balanced (kept : s.Kept down) : s.Balanced down where
  openIds := kept.openIds
  distinct := by
    rw [← Multiset.coe_nodup, ← kept.openIds]
    exact kept.sound.nodup_openIds
  failed step error failed := openSessions_of_failed kept.sound failed
  atOnce connected count := by
    obtain ⟨m, manager⟩ := Option.isSome_iff_exists.1 connected
    exact lockMany_in_turn manager count
  shared name h found shared := by
    rw [SessionScript.run, closeHandle_eq, ownedBy, found]
    dsimp only
    rw [Handle.owns, shared]
    rfl
  owned name h found owned := by
    have owns : s.ownedBy name = [h.session] := by
      rw [ownedBy, found]
      dsimp only
      rw [Handle.owns, owned]
    constructor
    · obtain ⟨m, connected⟩ : ∃ m, s.manager = some m := by
        refine Option.isSome_iff_exists.1 (Option.isSome_iff_ne_none.2 fun none => ?_)
        rw [(kept.unconnected none).1] at found
        exact nomatch found
      rw [kept.openIds, accounted_connected connected, s.held_eq name, owns]
      refine Multiset.mem_add.2 (.inr (Multiset.mem_add.2 (.inl ?_)))
      exact Multiset.mem_singleton_self _
    · rw [SessionScript.run, closeHandle_eq, owns]
      exact kept.sound.openSessions_close h.session

end SessionScript

/-- Whatever callers do who have one manager and close sessions only through their handles, the open
sessions are, each once, the manager's two until the shutdown, that in the lock slot and those that
handles own; a step that fails changes none, and closing a handle closes what it owns. -/
theorem sessions_accounted {connection : Connection} {connectionTimeout : Duration}
    {settings : SessionSettings} {chance : Nat → Nat} {down : Bool} {s : SessionScript}
    (lives : (SessionScript.start connection connectionTimeout settings chance).Lives down s) :
    s.Balanced down := by
  have kept : s.Kept down := by
    induction lives with
    | start => exact ⟨sound_empty, rfl, fun _ => ⟨rfl, rfl⟩, nofun⟩
    | step _ step allowed ih => exact ih.run allowed
  exact kept.balanced

def SessionScript.single : SessionScript :=
  .start ⟨.zookeeper, [⟨"localhost", 2181⟩], none⟩ (.ofSeconds 5) ⟨.ofSeconds 30, .ofSeconds 60⟩
    fun _ => 0

/-- The lock session is replaced after a refused attempt, while one handle owns a session and
another shares the subscription session. -/
theorem sessions_accounted_rotated : ∃ s : SessionScript, SessionScript.single.Lives false s ∧
    s.accounted false = [2, 1, 5, 4] ∧ s.Balanced false := by
  have connected : SessionScript.single.Lives false _ := .step .start .connect rfl
  have subscribed : SessionScript.single.Lives false _ :=
    ((connected.step .lock trivial).step (.subscribe (.ofSeconds 10) "owned") trivial).step
      (.subscribe (.ofSeconds 60) "shared") trivial
  have replaced : SessionScript.single.Lives false _ :=
    ((subscribed.step (.advance 300001) trivial).step (.failOpens 1) trivial).step
      (.lockMany 2) trivial
  exact ⟨_, replaced, by decide +kernel, sessions_accounted replaced⟩

end Cutover
