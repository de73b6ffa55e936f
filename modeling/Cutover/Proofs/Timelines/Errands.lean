import Cutover.Proofs.Ledger
import Cutover.Proofs.Timelines.Commits

set_option autoImplicit false

namespace Cutover

namespace LocalFences

variable {f : LocalFences} {e : String} {t : Ticket}

theorem isGranted_giveUp (f : LocalFences) (t : Ticket) : (f.giveUp t).isGranted t = false := by
  rw [isGranted, giveUp]
  cases found : f.locks.get? t.lock with
  | none =>
    have gone : (f.locks.modify t.lock (·.remove t.request)).get? t.lock = none := by
      rw [Table.get?_modify_self, found, Option.map_none]
    rw [gone, Option.any_none]
  | some l =>
    rw [Table.get?_modify_of_get? _ found, Option.any_some, Bool.eq_false_iff]
    intro granted
    obtain ⟨r, member, number⟩ := (Lock.isGranted_iff _ _).1 granted
    have kept : r ∈ (l.remove t.request).requests := List.mem_append_left _ member
    rw [Lock.remove_requests] at kept
    simpa [number] using (List.mem_filter.1 kept).2

theorem isGranted_prune (refused : f.isGranted t = false) (e : String) :
    (f.prune e).isGranted t = false := by
  rw [prune]
  split
  · exact refused
  · next number registered =>
    split
    · rw [isGranted] at refused ⊢
      by_cases same : t.lock = number
      · rw [same, Table.get?_erase_self, Option.any_none]
      · rw [Table.get?_erase_of_ne _ same]
        exact refused
    · exact refused

/-- A receiver that has lost nothing finds all that was announced since it last read. -/
theorem unread_of_nothing_lost {read : Nat} (nothingLost : (f.unread read).1 = 0) :
    (f.unread read).2 = f.announced.drop read := by
  have lost : (f.announced.drop read).length - capacity = 0 := nothingLost
  change (f.announced.drop read).drop ((f.announced.drop read).length - capacity) = _
  rw [lost, List.drop_zero]

end LocalFences

namespace Deed

variable {d : Deed World} {e : String} {t : Ticket}

def messages (d : Deed World) : List String :=
  d.after.fences.announced.drop d.before.fences.announced.length

/-- No fence is obtained or released, nothing is sent, and no timeline changes. -/
structure Silent (d : Deed World) : Prop where
  held : d.after.fences.held = d.before.fences.held
  announced : d.after.fences.announced = d.before.fences.announced
  timelines : d.after.store.timelines = d.before.store.timelines

/-- The fence of an event type, which nobody held, is obtained. -/
structure Obtains (d : Deed World) (e : String) (t : Ticket) : Prop where
  free : d.before.fences.held.get? e = none
  held : d.after.fences.held = d.before.fences.held.insert e t
  announced : d.after.fences.announced = d.before.fences.announced
  timelines : d.after.store.timelines = d.before.store.timelines

/-- While the fence is held, at most timelines of the event type change. -/
structure Works (d : Deed World) (e : String) (t : Ticket) : Prop where
  held : d.before.fences.held.get? e = some t
  fences : d.after.fences = d.before.fences
  elsewhere : ∀ e', e' ≠ e →
    (d.after.store.part e').timelines = (d.before.store.part e').timelines

/-- The fence is released: the call holds it no longer, its ticket is not granted any more, the
store is as it was, and the event type is announced, all in this one step. -/
structure Releases (d : Deed World) (e : String) (t : Ticket) : Prop where
  held : d.before.fences.held.get? e = some t
  store : d.after.store = d.before.store
  sends : ∃ free : LocalFences, free.held = d.before.fences.held.erase e ∧
    free.isGranted t = false ∧ free.announced = d.before.fences.announced ∧
      d.after.fences = { free with announced := free.announced ++ [e] }

theorem messages_of_same (same : d.after.fences.announced = d.before.fences.announced) :
    d.messages = [] := by
  rw [messages, same, List.drop_length]

theorem Releases.held_after (releases : d.Releases e t) :
    d.after.fences.held = d.before.fences.held.erase e := by
  obtain ⟨free, held, -, -, after⟩ := releases.sends
  rw [after]
  exact held

theorem Releases.announced (releases : d.Releases e t) :
    d.after.fences.announced = d.before.fences.announced ++ [e] := by
  obtain ⟨free, -, -, announced, after⟩ := releases.sends
  rw [after, ← announced]

theorem Releases.messages (releases : d.Releases e t) : d.messages = [e] := by
  rw [Deed.messages, releases.announced, List.drop_left]

end Deed

/-- How far a call has come with its one fence. While it holds the fence it may have seen that a
timeline is the active one. -/
inductive Errand where
  | idle
  | waiting (eventType : String) (ticket : Ticket)
  | fenced (eventType : String) (ticket : Ticket) (doomed : Option Uuid)
  | closed

namespace Errand

def user? : Errand → Option FenceUser
  | .idle => none
  | .waiting e t => some ⟨e, t, .waiting .exclusive⟩
  | .fenced e t _ => some ⟨e, t, .updating⟩
  | .closed => none

/-- The steps of a call on the world, by what they do to its errand. -/
inductive Move : Errand → World → Sight → Errand → World → Prop where
  | quiet {k : Errand} {w w' : World} {sight : Sight} (fences : w'.fences = w.fences)
      (timelines : w'.store.timelines = w.store.timelines) : Move k w sight k w'
  | ask {e : String} {w : World} {sight : Sight} :
      Move .idle w sight (.waiting e (w.fences.ask e .exclusive).1)
        (w.withFences (w.fences.ask e .exclusive).2)
  | refuse {e : String} {t : Ticket} {w : World} {sight : Sight} :
      Move (.waiting e t) w sight .closed (w.withFences ((w.fences.giveUp t).prune e))
  | withdraw {e : String} {t : Ticket} {w : World} {sight : Sight} :
      Move (.waiting e t) w sight .closed (w.withFences (w.fences.giveUp t))
  | fence {e : String} {t : Ticket} {w : World} {sight : Sight}
      (granted : w.fences.isGranted t = true) :
      Move (.waiting e t) w sight (.fenced e t none) (w.withFences (w.fences.hold e t))
  | switch {e : String} {t : Ticket} {superseded : Option Timeline} {next : Timeline} {w : World}
      {s : Store} {sight : Sight} (committed : w.store.commitSwitch superseded next = .ok s)
      (named : next.eventType = e)
      (same : ∀ previous, superseded = some previous → previous.eventType = e) :
      Move (.fenced e t none) w sight (.fenced e t none) (w.withStore s)
  | doom {e : String} {t : Ticket} {id : Uuid} {w : World} {sight : Sight}
      (active : (w.store.active? e).map (·.id) = some id) :
      Move (.fenced e t none) w sight (.fenced e t (some id)) w
  | delete {e : String} {t : Ticket} {id : Uuid} {w : World} {s : Store} {sight : Sight}
      (deleted : w.store.deleteTimeline id = .ok s) :
      Move (.fenced e t (some id)) w sight (.fenced e t none) (w.withStore s)
  | finish {e : String} {t : Ticket} {doomed : Option Uuid} {w : World} {sight : Sight} :
      Move (.fenced e t doomed) w sight .closed (w.withFences (LocalFences.finish e w.fences).2)

/-- The protocol of a call with one fence, which its cleanup takes over. -/
def protocol : Protocol World Errand where
  moves := Move
  splits k owed kept := (∃ e t doomed, k = .fenced e t doomed) ∧ owed = k ∧ kept = .closed
  settled k := k.user? = none

/-- What a deed does to an errand, seen in the states before and after it. -/
inductive Does : Errand → Deed World → Errand → Prop where
  | rest {k : Errand} {d : Deed World} (silent : d.Silent) : Does k d k
  | ask {e : String} {t : Ticket} {d : Deed World} (silent : d.Silent) :
      Does .idle d (.waiting e t)
  | refuse {e : String} {t : Ticket} {d : Deed World} (silent : d.Silent) :
      Does (.waiting e t) d .closed
  | fence {e : String} {t : Ticket} {d : Deed World} (obtains : d.Obtains e t) :
      Does (.waiting e t) d (.fenced e t none)
  | work {e : String} {t : Ticket} {doomed doomed' : Option Uuid} {d : Deed World}
      (works : d.Works e t) : Does (.fenced e t doomed) d (.fenced e t doomed')
  | finish {e : String} {t : Ticket} {doomed : Option Uuid} {d : Deed World}
      (releases : d.Releases e t) : Does (.fenced e t doomed) d .closed

def users (stakes : Multiset (Nat × Errand)) : Multiset FenceUser :=
  stakes.filterMap fun x => x.2.user?

variable {k k' : Errand} {i : Nat} {others : Multiset (Nat × Errand)} {u : FenceUser}

theorem users_cons_none (none : k.user? = none) : users ((i, k) ::ₘ others) = users others :=
  Multiset.filterMap_cons_none _ _ none

theorem users_cons_some (user : k.user? = some u) :
    users ((i, k) ::ₘ others) = u ::ₘ users others :=
  Multiset.filterMap_cons_some _ _ _ user

theorem mem_users {x : Nat × Errand} (member : x ∈ others) (user : x.2.user? = some u) :
    u ∈ users others :=
  (Multiset.mem_filterMap _ _).2 ⟨x, member, user⟩

theorem fenced_alone {f : LocalFences} {e : String} {t : Ticket}
    (sound : f.Sound (users ((i, k) ::ₘ others))) (user : k.user? = some ⟨e, t, .updating⟩)
    {x : Nat × Errand} (other : x ∈ others) {u : Ticket} :
    x.2.user? ≠ some ⟨e, u, .updating⟩ := by
  intro user'
  rw [users_cons_some user] at sound
  have inside := mem_users other user'
  have held := sound.updates.2 (Multiset.mem_cons_self _ _)
  have held' := sound.updates.2 (Multiset.mem_cons_of_mem inside)
  obtain rfl := Option.some_inj.1 (held.symm.trans held')
  have distinct := sound.accounts.distinct
  rw [Multiset.map_cons, Multiset.nodup_cons] at distinct
  exact distinct.1 (Multiset.mem_map_of_mem FenceUser.number inside)

end Errand

/-- The fences and the store fit the errands: who has seen under its fence that a timeline is the
active one can rely on it. -/
structure World.Hosts (w : World) (stakes : Multiset (Nat × Errand)) : Prop where
  fences : w.fences.Sound (Errand.users stakes)
  keyed : w.store.Keyed
  doomed : ∀ {i e t id}, (i, Errand.fenced e t (some id)) ∈ stakes →
    (w.store.active? e).map (·.id) = some id

namespace World.Hosts

open Errand

variable {w w' : World} {k k' : Errand} {i : Nat} {others : Multiset (Nat × Errand)} {e : String}
  {t : Ticket} {sight : Sight}

theorem active_eq_of_part {s s' : Store} (same : (s'.part e).timelines = (s.part e).timelines) :
    s'.active? e = s.active? e := by
  rw [← Store.active?_part, ← Store.active?_part s, Store.active?, Store.active?, same]

theorem held_of_fenced (hosts : w.Hosts ((i, k) ::ₘ others))
    (user : k.user? = some ⟨e, t, .updating⟩) : w.fences.held.get? e = some t :=
  hosts.fences.updates.2 (mem_users (Multiset.mem_cons_self _ _) user)

theorem part_eq (hosts : w.Hosts ((i, k) ::ₘ others)) (moved : k.Move w sight k' w')
    {e' : String} (other : ∀ t, k.user? ≠ some ⟨e', t, .updating⟩) :
    (w'.store.part e').timelines = (w.store.part e').timelines := by
  cases moved with
  | quiet fences timelines => exact Store.part_of_timelines_eq timelines
  | switch committed named same =>
    subst named
    have apart : e' ≠ _ := fun same => other _ (by rw [same]; rfl)
    exact hosts.keyed.part_commitSwitch committed same apart
  | delete deleted =>
    have apart : _ ≠ e' := fun same => other _ (by rw [← same]; rfl)
    obtain rfl := Store.deleteTimeline_ok deleted
    obtain ⟨a, stored, named⟩ := hosts.keyed.get?_active (hosts.doomed (Multiset.mem_cons_self _ _))
    apply Store.part_erase_of_ne
    intro u found
    obtain rfl := Option.some_inj.1 (stored.symm.trans found)
    rw [named]
    exact apart
  | _ => rfl

theorem keyed_moved (hosts : w.Hosts ((i, k) ::ₘ others)) (moved : k.Move w sight k' w') :
    w'.store.Keyed := by
  cases moved with
  | quiet fences timelines =>
    rw [Store.Keyed, timelines]
    exact hosts.keyed
  | switch committed named same => exact hosts.keyed.commitSwitch committed
  | delete deleted =>
    obtain rfl := Store.deleteTimeline_ok deleted
    exact hosts.keyed.erase _
  | _ => exact hosts.keyed

theorem fences_moved (hosts : w.Hosts ((i, k) ::ₘ others)) (moved : k.Move w sight k' w') :
    w'.fences.Sound (users ((i, k') ::ₘ others)) := by
  have sound := hosts.fences
  cases moved with
  | quiet fences timelines =>
    rw [fences]
    exact sound
  | ask =>
    rw [users_cons_none rfl] at sound
    rw [users_cons_some rfl]
    exact sound.ask _ _
  | refuse =>
    rw [users_cons_some rfl] at sound
    rw [users_cons_none rfl]
    exact (sound.giveUp (FenceRole.waiting_ne_updating _)).prune _
  | withdraw =>
    rw [users_cons_some rfl] at sound
    rw [users_cons_none rfl]
    exact sound.giveUp (FenceRole.waiting_ne_updating _)
  | fence granted =>
    rw [users_cons_some rfl] at sound ⊢
    exact sound.hold granted
  | switch committed named same => exact sound
  | doom active =>
    rw [users_cons_some rfl] at sound ⊢
    exact sound
  | delete deleted =>
    rw [users_cons_some rfl] at sound ⊢
    exact sound
  | finish =>
    rw [users_cons_some rfl] at sound
    rw [users_cons_none rfl]
    exact sound.finish

theorem moved (hosts : w.Hosts ((i, k) ::ₘ others)) (moved : k.Move w sight k' w') :
    w'.Hosts ((i, k') ::ₘ others) where
  fences := hosts.fences_moved moved
  keyed := hosts.keyed_moved moved
  doomed := by
    intro j e t id member
    rcases Multiset.mem_cons.1 member with here | other
    · obtain ⟨rfl, rfl⟩ := Prod.mk.inj here
      cases moved with
      | quiet fences timelines =>
        rw [Store.active?, timelines]
        exact hosts.doomed (Multiset.mem_cons_self _ _)
      | doom active => exact active
    · have before := hosts.doomed (Multiset.mem_cons_of_mem other)
      have unfenced : ∀ t', k.user? ≠ some ⟨e, t', .updating⟩ := by
        intro t' user
        exact fenced_alone hosts.fences user other (u := t) rfl
      rw [active_eq_of_part (hosts.part_eq moved unfenced)]
      exact before

theorem split {owed kept : Errand} (hosts : w.Hosts ((i, k) ::ₘ others))
    (split : Errand.protocol.splits k owed kept) :
    w.Hosts ((i, owed) ::ₘ (i, kept) ::ₘ others) := by
  obtain ⟨-, rfl, rfl⟩ := split
  refine ⟨?_, hosts.keyed, ?_⟩
  · rw [Multiset.cons_swap, users_cons_none rfl]
    exact hosts.fences
  · intro j e t id member
    rw [Multiset.cons_swap, Multiset.mem_cons] at member
    exact hosts.doomed (member.resolve_left fun same => nomatch congrArg Prod.snd same)

theorem enter {stakes : Multiset (Nat × Errand)} (hosts : w.Hosts stakes) (i : Nat) :
    w.Hosts ((i, .idle) ::ₘ stakes) where
  fences := by
    rw [users_cons_none rfl]
    exact hosts.fences
  keyed := hosts.keyed
  doomed member :=
    hosts.doomed ((Multiset.mem_cons.1 member).resolve_left fun same =>
      nomatch congrArg Prod.snd same)

theorem of_same {stakes : Multiset (Nat × Errand)} (hosts : w.Hosts stakes)
    (fences : w'.fences = w.fences) (timelines : w'.store.timelines = w.store.timelines) :
    w'.Hosts stakes where
  fences := fences ▸ hosts.fences
  keyed := by
    rw [Store.Keyed, timelines]
    exact hosts.keyed
  doomed member := by
    rw [Store.active?, timelines]
    exact hosts.doomed member

theorem does (hosts : w.Hosts ((i, k) ::ₘ others)) (moved : k.Move w sight k' w') :
    k.Does ⟨i, w, w'⟩ k' := by
  have elsewhere : ∀ {e t}, k.user? = some ⟨e, t, .updating⟩ → ∀ e', e' ≠ e →
      (w'.store.part e').timelines = (w.store.part e').timelines := by
    intro e t user e' other
    apply hosts.part_eq moved
    intro t' same
    exact other (congrArg FenceUser.eventType (Option.some_inj.1 (user.symm.trans same))).symm
  cases moved with
  | quiet fences timelines =>
    exact .rest ⟨congrArg LocalFences.held fences, congrArg LocalFences.announced fences, timelines⟩
  | ask =>
    exact .ask ⟨LocalFences.ask_held _ _ _, LocalFences.ask_announced _ _ _, rfl⟩
  | refuse =>
    exact .refuse ⟨LocalFences.prune_held _ _, LocalFences.prune_announced _ _, rfl⟩
  | withdraw => exact .refuse ⟨rfl, rfl, rfl⟩
  | fence granted =>
    have sound := hosts.fences
    rw [users_cons_some rfl] at sound
    have held := congrArg LocalFences.held (sound.hold_eq granted)
    have announced := congrArg LocalFences.announced (sound.hold_eq granted)
    exact .fence ⟨sound.unheld granted, held, announced, rfl⟩
  | switch committed named same => exact .work ⟨hosts.held_of_fenced rfl, rfl, elsewhere rfl⟩
  | doom active => exact .work ⟨hosts.held_of_fenced rfl, rfl, elsewhere rfl⟩
  | delete deleted => exact .work ⟨hosts.held_of_fenced rfl, rfl, elsewhere rfl⟩
  | @finish e t doomed =>
    have held := hosts.held_of_fenced (e := e) (t := t) rfl
    let free := (({ w.fences with held := w.fences.held.erase e } : LocalFences).giveUp t).prune e
    refine .finish ⟨held, rfl, free, LocalFences.prune_held _ _, ?_, ?_, ?_⟩
    · exact LocalFences.isGranted_prune (LocalFences.isGranted_giveUp _ t) e
    · exact LocalFences.prune_announced _ _
    · change (LocalFences.finish e w.fences).2 = _
      rw [LocalFences.finish, held]

end World.Hosts

end Cutover
