import Cutover.Proofs.Fence.Steps

set_option autoImplicit false

namespace Cutover

/-- The fence of one event type: all requests for it in the order of their arrival, and the number
of the request under which an update is in progress. -/
@[ext] structure AbstractFence where
  requests : List LockRequest
  update : Option Nat

/-- What happens to a fence: a request arrives, is granted to a publisher or to an update, is
refused when its limit is up, or is given up; an update ends, or there is none that could end. -/
inductive FenceEvent where
  | asked (request : LockRequest)
  | permitted (number : Nat)
  | started (number : Nat)
  | refused (number : Nat)
  | left (number : Nat)
  | finished
  | notHeld

namespace AbstractFence

def idle : AbstractFence := ⟨[], none⟩

def leave (a : AbstractFence) (number : Nat) : AbstractFence :=
  { a with requests := a.requests.filter (·.number ≠ number) }

/-- The events of a fence. A request is granted if it is the oldest, or if it is shared and so are
all before it. -/
inductive Step : AbstractFence → FenceEvent → AbstractFence → Prop where
  | ask {a : AbstractFence} {r : LockRequest} (fresh : ∀ x ∈ a.requests, x.number ≠ r.number) :
      Step a (.asked r) ⟨a.requests ++ [r], a.update⟩
  | permit {a : AbstractFence} {number : Nat} (granted : Lock.Granted a.requests number) :
      Step a (.permitted number) a
  | start {a : AbstractFence} {number : Nat} (granted : Lock.Granted a.requests number)
      (free : a.update = none) : Step a (.started number) ⟨a.requests, some number⟩
  | refuse {a : AbstractFence} {number : Nat} (waits : ¬ Lock.Granted a.requests number) :
      Step a (.refused number) (a.leave number)
  | leave {a : AbstractFence} {number : Nat} (apart : a.update ≠ some number) :
      Step a (.left number) (a.leave number)
  | finish {a : AbstractFence} {number : Nat} (updating : a.update = some number) :
      Step a .finished ⟨(a.leave number).requests, none⟩
  | notHeld {a : AbstractFence} (free : a.update = none) : Step a .notHeld a

end AbstractFence

namespace LocalFences

def view (f : LocalFences) (eventType : String) : AbstractFence :=
  ⟨(f.lockOf eventType).requests, (f.held.get? eventType).map (·.request)⟩

/-- One event of the fence of an event type, and none of any other fence. -/
structure Event (f : LocalFences) (eventType : String) (event : FenceEvent) (f' : LocalFences) :
    Prop where
  here : (f.view eventType).Step event (f'.view eventType)
  elsewhere : ∀ e, e ≠ eventType → f'.view e = f.view e

variable {f : LocalFences} {users : Multiset FenceUser} {e : String} {t : Ticket}

theorem Sound.granted_iff {u : FenceUser} (sound : f.Sound users) (member : u ∈ users) :
    f.isGranted u.ticket = true ↔ Lock.Granted (f.view u.eventType).requests u.number := by
  rw [sound.isGranted_eq member]
  exact (sound.orderly.fair u.eventType).isGranted_iff_granted u.number

theorem Sound.ask_event (sound : f.Sound users) (e : String) (mode : LockMode) :
    f.Event e (.asked (f.nextRequest mode)) (f.ask e mode).2 where
  here := by
    have asked : (f.ask e mode).2.view e =
        ⟨(f.view e).requests ++ [f.nextRequest mode], (f.view e).update⟩ := by
      rw [view, ask_held, sound.orderly.lockOf_ask, if_pos rfl, Lock.request_requests]
      rfl
    rw [asked]
    refine .ask fun r member => ?_
    obtain ⟨u, inside, _, rfl⟩ := sound.accounts.user_of_mem member
    have drawn := sound.accounts.drawn u inside
    change u.number ≠ f.lastRequest + 1
    omega
  elsewhere := by
    intro e' other
    rw [view, ask_held, sound.orderly.lockOf_ask, if_neg other]
    rfl

theorem Orderly.view_giveUp (orderly : f.Orderly) (registered : f.registry.get? e = some t.lock)
    (e' : String) :
    (f.giveUp t).view e' = if e' = e then (f.view e).leave t.request else f.view e' := by
  rw [view, orderly.lockOf_giveUp registered]
  split
  · next same =>
    rw [Lock.remove_requests, same]
    rfl
  · rfl

theorem Orderly.view_prune (orderly : f.Orderly) (e e' : String) :
    (f.prune e).view e' = f.view e' := by
  rw [view, prune_held, orderly.lockOf_prune]
  rfl

theorem Sound.giveUp_event {u : FenceUser} (sound : f.Sound (u ::ₘ users))
    (role : u.role ≠ .updating) : f.Event u.eventType (.left u.number) (f.giveUp u.ticket) := by
  have registered := sound.accounts.ticketed u (Multiset.mem_cons_self u users)
  have views := sound.orderly.view_giveUp registered
  refine ⟨?_, fun e' other => by rw [views, if_neg other]⟩
  rw [views, if_pos rfl]
  refine .leave fun same => ?_
  obtain ⟨t, held, number⟩ := Option.map_eq_some_iff.1 same
  have updating := sound.updates.1 held
  have alike := sound.accounts.eq_of_number updating (Multiset.mem_cons_self u users) number
  rw [← alike] at role
  exact role rfl

theorem Sound.permit_event (sound : f.Sound (⟨e, t, .waiting .shared⟩ ::ₘ users))
    (granted : f.isGranted t = true) : f.Event e (.permitted t.request) f where
  here := .permit ((sound.granted_iff (Multiset.mem_cons_self _ users)).1 granted)
  elsewhere := fun _ _ => rfl

theorem Sound.refuse_event {u : FenceUser} (sound : f.Sound (u ::ₘ users))
    (waits : f.isGranted u.ticket = false) :
    f.Event u.eventType (.refused u.number) (f.giveUp u.ticket) := by
  have member := Multiset.mem_cons_self u users
  have views := sound.orderly.view_giveUp (sound.accounts.ticketed u member)
  refine ⟨?_, fun e' other => by rw [views, if_neg other]⟩
  rw [views, if_pos rfl]
  refine .refuse fun granted => ?_
  rw [(sound.granted_iff member).2 granted] at waits
  exact nomatch waits

theorem Sound.start_event (sound : f.Sound (⟨e, t, .waiting .exclusive⟩ ::ₘ users))
    (granted : f.isGranted t = true) : f.Event e (.started t.request) (f.hold e t) := by
  have waiting := Multiset.mem_cons_self (⟨e, t, .waiting .exclusive⟩ : FenceUser) users
  rw [sound.hold_eq granted]
  constructor
  · have started : ({ f with held := f.held.insert e t } : LocalFences).view e =
        ⟨(f.view e).requests, some t.request⟩ := by
      rw [view, Table.get?_insert_self]
      rfl
    rw [started]
    refine .start ((sound.granted_iff waiting).1 granted) ?_
    rw [view, sound.unheld granted, Option.map_none]
  · intro e' other
    rw [view, Table.get?_insert_of_ne _ _ other]
    rfl

theorem Event.prune {f' : LocalFences} {event : FenceEvent} (happens : f.Event e event f')
    (orderly : f'.Orderly) (e' : String) : f.Event e event (f'.prune e') := by
  refine ⟨?_, fun other apart => ?_⟩
  · rw [orderly.view_prune]
    exact happens.here
  · rw [orderly.view_prune]
    exact happens.elsewhere other apart

theorem Sound.finish_event (sound : f.Sound (⟨e, t, .updating⟩ ::ₘ users)) :
    f.Event e .finished (LocalFences.finish e f).2 := by
  have updating := Multiset.mem_cons_self (⟨e, t, .updating⟩ : FenceUser) users
  have held := sound.updates.2 updating
  have erased := sound.orderly.erase_held e
  have views : ∀ e', (LocalFences.finish e f).2.view e' =
      (({ f with held := f.held.erase e } : LocalFences).giveUp t).view e' := by
    intro e'
    rw [LocalFences.finish, held]
    exact (erased.giveUp t).view_prune e e'
  have left := erased.view_giveUp (sound.accounts.ticketed _ updating)
  constructor
  · have ended : (LocalFences.finish e f).2.view e =
        ⟨((f.view e).leave t.request).requests, none⟩ := by
      rw [views, left, if_pos rfl, AbstractFence.leave, view, Table.get?_erase_self]
      rfl
    rw [ended]
    exact .finish (by rw [view, held, Option.map_some])
  · intro e' other
    rw [views, left, if_neg other, view, Table.get?_erase_of_ne _ other]
    rfl

theorem notHeld_event (unheld : f.held.get? e = none) : f.Event e .notHeld f :=
  ⟨.notHeld (by rw [view, unheld, Option.map_none]), fun _ _ => rfl⟩

end LocalFences

end Cutover
