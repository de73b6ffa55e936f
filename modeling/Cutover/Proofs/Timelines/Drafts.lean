import Cutover.Proofs.Fence.Steps
import Cutover.Proofs.Timelines.Plan
import Cutover.Proofs.Timelines.Sequence

set_option autoImplicit false

namespace Cutover

/-- The timeline that a task is about to store. -/
def Plan.draft : Plan → Option Timeline
  | .next _ _ t => some t
  | .measured _ _ t => some t
  | _ => none

def Plan.seen : Plan → Option Timeline
  | .idle => none
  | .saw _ active => active
  | .located _ active _ => active
  | .next active _ _ => active
  | .measured previous _ _ => some previous
  | .found t => some t
  | .doomed t => some t

namespace Stake

def draftId (k : Stake) : Option Uuid := k.plan.draft.map (·.id)

def users (stakes : Multiset Stake) : Multiset FenceUser := stakes.filterMap Stake.user

def drafts (stakes : Multiset Stake) : Multiset Uuid := stakes.filterMap draftId

variable {k : Stake} {others : Multiset Stake} {u : FenceUser} {id : Uuid}

theorem users_cons_none (none : k.user = none) : users (k ::ₘ others) = users others :=
  Multiset.filterMap_cons_none _ _ none

theorem users_cons_some (user : k.user = some u) : users (k ::ₘ others) = u ::ₘ users others :=
  Multiset.filterMap_cons_some _ _ _ user

theorem users_cons_plan (user : Option FenceUser) (plan plan' : Plan) :
    users (⟨user, plan⟩ ::ₘ others) = users (⟨user, plan'⟩ ::ₘ others) := by
  cases user with
  | none => rw [users_cons_none rfl, users_cons_none rfl]
  | some u => rw [users_cons_some rfl, users_cons_some rfl]

theorem drafts_cons_none (none : k.plan.draft = none) : drafts (k ::ₘ others) = drafts others :=
  Multiset.filterMap_cons_none _ _ (by rw [draftId, none]; rfl)

theorem drafts_cons_some {t : Timeline} (draft : k.plan.draft = some t) :
    drafts (k ::ₘ others) = t.id ::ₘ drafts others :=
  Multiset.filterMap_cons_some _ _ _ (by rw [draftId, draft]; rfl)

theorem mem_users (member : k ∈ others) (user : k.user = some u) : u ∈ users others :=
  (Multiset.mem_filterMap _ _).2 ⟨k, member, user⟩

theorem update_alone {f : LocalFences} {e : String} {t t' : Ticket}
    (sound : f.Sound (users (k ::ₘ others))) (user : k.user = some ⟨e, t, .updating⟩)
    {k' : Stake} (other : k' ∈ others) : k'.user ≠ some ⟨e, t', .updating⟩ := by
  intro user'
  rw [users_cons_some user] at sound
  have inside := mem_users other user'
  have held := sound.updates.2 (Multiset.mem_cons_self _ _)
  have held' := sound.updates.2 (Multiset.mem_cons_of_mem inside)
  obtain rfl := Option.some_inj.1 (held.symm.trans held')
  have distinct := sound.accounts.distinct
  rw [Multiset.map_cons, Multiset.nodup_cons] at distinct
  exact distinct.1 (Multiset.mem_map_of_mem FenceUser.number inside)

end Stake

/-- The ids that were given out are distinct, and none is nil. -/
structure IdSource.Fresh (ids : IdSource) : Prop where
  injective : ∀ m < ids.drawn, ∀ n < ids.drawn, ids.fresh m = ids.fresh n → m = n
  genuine : ∀ n < ids.drawn, ids.fresh n ≠ .nil

instance (ids : IdSource) : Decidable ids.Fresh :=
  decidable_of_iff
    ((∀ m < ids.drawn, ∀ n < ids.drawn, ids.fresh m = ids.fresh n → m = n) ∧
      ∀ n < ids.drawn, ids.fresh n ≠ .nil)
    ⟨fun both => ⟨both.1, both.2⟩, fun fresh => ⟨fresh.injective, fresh.genuine⟩⟩

def IdSource.Drawn (ids : IdSource) (id : Uuid) : Prop := ∃ n < ids.drawn, ids.fresh n = id

theorem IdSource.Fresh.of_draw {ids : IdSource} (fresh : ids.draw.2.Fresh) : ids.Fresh where
  injective m before n before' :=
    fresh.injective m (Nat.lt_succ_of_lt before) n (Nat.lt_succ_of_lt before')
  genuine n before := fresh.genuine n (Nat.lt_succ_of_lt before)

theorem IdSource.Fresh.not_drawn {ids : IdSource} (fresh : ids.draw.2.Fresh) :
    ¬ ids.Drawn ids.draw.1 := by
  rintro ⟨n, before, same⟩
  have last := fresh.injective n (Nat.lt_succ_of_lt before) ids.drawn (Nat.lt_succ_self _) same
  exact Nat.ne_of_lt before last

theorem IdSource.drawn_draw_iff {ids : IdSource} {id : Uuid} :
    ids.draw.2.Drawn id ↔ id = ids.draw.1 ∨ ids.Drawn id := by
  constructor
  · rintro ⟨n, before, rfl⟩
    rcases Nat.lt_succ_iff_lt_or_eq.1 before with earlier | rfl
    · exact .inr ⟨n, earlier, rfl⟩
    · exact .inl rfl
  · rintro (rfl | ⟨n, before, same⟩)
    · exact ⟨ids.drawn, Nat.lt_succ_self _, rfl⟩
    · exact ⟨n, Nat.lt_succ_of_lt before, same⟩

/-- A stored timeline with the id of this one differs from it at most in its end. -/
def Store.Knows (s : Store) (t : Timeline) : Prop :=
  ∀ u ∈ s.timelines.values, u.id = t.id → t = { u with lastPosition := t.lastPosition }

/-- What a task has seen and is about to store fits the store, the ids that were drawn and the
drafts that there are. -/
structure Stake.Fits (s : Store) (ids : IdSource) (drafts : Multiset Uuid) (k : Stake) : Prop where
  new : ∀ t, k.plan.draft = some t →
    t.lastPosition = none ∧ t.fake = false ∧ t.order = Timeline.orderAfter k.plan.seen
  seen : ∀ t, k.plan.seen = some t → ids.Drawn t.id ∧ t.id ∉ drafts ∧ s.Knows t
  doomed : ∀ t, k.plan = .doomed t → (∃ ticket, k.user = some ⟨t.eventType, ticket, .updating⟩) ∧
    (s.active? t.eventType).map (·.id) = some t.id ∧ t.order = 0

/-- The timelines are in sequence, drafts have ids of their own, and what tasks hold fits. -/
structure Drafted (s : Store) (ids : IdSource) (stakes : Multiset Stake) : Prop where
  sequenced : s.Sequenced
  fresh : ids.Fresh
  stored : ∀ t ∈ s.timelines.values, ids.Drawn t.id ∧ t.id ∉ Stake.drafts stakes
  distinct : (Stake.drafts stakes).Nodup
  drawn : ∀ id ∈ Stake.drafts stakes, ids.Drawn id
  each : ∀ k ∈ stakes, k.Fits s ids (Stake.drafts stakes)

/-- What plans write to the store, by event type: the first timeline, a switch of the active
timeline to the next one, or the deletion of a first timeline that is the active one. -/
inductive Plan.Writes (s : Store) : Plan → String → Store → Prop where
  | first {number : Nat} {next : Timeline} {switchedAt : Timestamp}
      (none : s.active? next.eventType = none) (free : s.timelines.get? next.id = .none)
      (first : next.order = 0) (genuine : next.fake = false ∧ next.id ≠ .nil)
      (unended : next.lastPosition = .none) :
      Writes s (.next .none number next) next.eventType
        (s.put { next with switchedAt := some switchedAt })
  | switch {previous next a : Timeline} {position : Position} {switchedAt : Timestamp}
      (active : s.active? next.eventType = some a)
      (known : previous = { a with lastPosition := previous.lastPosition })
      (free : s.timelines.get? next.id = none) (follows : next.order = a.order + 1)
      (genuine : next.fake = false ∧ next.id ≠ .nil) (unended : next.lastPosition = none) :
      Writes s (.measured previous position next) next.eventType
        (s.switched a { next with switchedAt := some switchedAt } position)
  | delete {t a : Timeline} (active : s.active? t.eventType = some a) (first : a.order = 0) :
      Writes s (.doomed t) t.eventType { s with timelines := s.timelines.erase a.id }

variable {s s' : Store} {ids : IdSource} {k k' : Stake} {stakes stakes' others : Multiset Stake}
  {drafts drafts' : Multiset Uuid} {e : String} {t a : Timeline} {u u' : Option FenceUser}
  {plan : Plan}

namespace Stake.Fits

theorem of_nothing (draftless : k.plan.draft = none) (unseen : k.plan.seen = none) :
    k.Fits s ids drafts where
  new _ draft := nomatch draftless.symm.trans draft
  seen _ saw := nomatch unseen.symm.trans saw
  doomed _ doomed := by
    rw [doomed] at unseen
    exact nomatch unseen

theorem idle : (⟨u, .idle⟩ : Stake).Fits s ids drafts := .of_nothing rfl rfl

theorem mono (fits : k.Fits s ids drafts) (fewer : drafts' ≤ drafts) : k.Fits s ids drafts' where
  new := fits.new
  seen t seen :=
    have ⟨drawn, apart, knows⟩ := fits.seen t seen
    ⟨drawn, fun member => apart (Multiset.mem_of_le fewer member), knows⟩
  doomed := fits.doomed

/-- A task that does not update keeps what it knows when its use of a lock changes. -/
theorem with_user (fits : (⟨u, plan⟩ : Stake).Fits s ids drafts)
    (unfenced : ∀ e ticket, u ≠ some ⟨e, ticket, .updating⟩) :
    (⟨u', plan⟩ : Stake).Fits s ids drafts where
  new := fits.new
  seen := fits.seen
  doomed t doomed :=
    have ⟨⟨ticket, user⟩, _⟩ := fits.doomed t doomed
    absurd user (unfenced _ ticket)

end Stake.Fits

namespace Store

theorem Sequenced.knows (sequenced : s.Sequenced) (inside : t ∈ s.timelines.values) : s.Knows t :=
  fun u inside' same => by rw [sequenced.keyed.eq_of_id inside' inside same]

end Store

namespace Plan.Writes

theorem sequenced (writes : plan.Writes s e s') (sequenced : s.Sequenced) : s'.Sequenced := by
  cases writes with
  | first none free first genuine unended =>
    refine sequenced.put_first (Store.unstored_of_get? sequenced.keyed free) ?_ first
      ⟨rfl, genuine⟩ unended
    exact fun t inside named => absurd named (sequenced.active_none_iff.1 none t inside)
  | switch active _ free follows genuine unended =>
    exact sequenced.switched _ active (Store.unstored_of_get? sequenced.keyed free) follows
      ⟨rfl, genuine⟩ unended
  | delete active first => exact sequenced.delete_first active first

/-- What is stored afterwards was stored before, if for its end, or is the draft. -/
theorem written (writes : plan.Writes s e s') (sequenced : s.Sequenced) :
    ∀ t ∈ s'.timelines.values, plan.draft.map (·.id) = some t.id ∨
      ∃ v ∈ s.timelines.values, t = { v with lastPosition := t.lastPosition } := by
  intro t member
  cases writes with
  | first =>
    rcases sequenced.keyed.mem_put.1 member with rfl | ⟨old, _⟩
    · exact .inl rfl
    · exact .inr ⟨t, old, rfl⟩
  | switch active _ free =>
    have new := Store.unstored_of_get? sequenced.keyed free
    have inside := (Store.active_spec active).1
    rw [sequenced.keyed.mem_switched _ inside (by exact new)] at member
    rcases member with rfl | rfl | ⟨old, _⟩
    · exact .inl rfl
    · exact .inr ⟨_, inside, rfl⟩
    · exact .inr ⟨t, old, rfl⟩
  | delete => exact .inr ⟨t, ((sequenced.keyed.mem_erase _).1 member).1, rfl⟩

theorem elsewhere (writes : plan.Writes s e s') (sequenced : s.Sequenced)
    (other : t.eventType ≠ e) : t ∈ s'.timelines.values ↔ t ∈ s.timelines.values := by
  cases writes with
  | first none free =>
    have new := Store.unstored_of_get? sequenced.keyed free
    rw [sequenced.keyed.mem_put]
    constructor
    · rintro (rfl | ⟨old, _⟩)
      · exact absurd rfl other
      · exact old
    · exact fun old => .inr ⟨old, new t old⟩
  | switch active _ free =>
    have new := Store.unstored_of_get? sequenced.keyed free
    obtain ⟨inside, named, _⟩ := Store.active_spec active
    rw [sequenced.keyed.mem_switched _ inside (by exact new)]
    constructor
    · rintro (rfl | rfl | ⟨old, _⟩)
      · exact absurd rfl other
      · exact absurd named other
      · exact old
    · intro old
      refine .inr (.inr ⟨old, ?_⟩)
      rintro rfl
      exact other named
  | delete active =>
    obtain ⟨inside, named, _⟩ := Store.active_spec active
    refine (sequenced.keyed.mem_erase _).trans (and_iff_left_of_imp fun old same => other ?_)
    rw [sequenced.keyed.eq_of_id old inside same, named]

theorem active_eq (writes : plan.Writes s e s') (sequenced : s.Sequenced) {e' : String}
    (apart : e' ≠ e) : s'.active? e' = s.active? e' := by
  have sequenced' := writes.sequenced sequenced
  cases active : s.active? e' with
  | none =>
    refine sequenced'.active_none_iff.2 fun t inside named => ?_
    have old := (writes.elsewhere sequenced (named ▸ apart)).1 inside
    exact sequenced.active_none_iff.1 active t old named
  | some a =>
    obtain ⟨inside, named, highest⟩ := sequenced.active_iff.1 active
    refine sequenced'.active_iff.2 ⟨?_, named, fun t inside' named' => ?_⟩
    · exact (writes.elsewhere sequenced (named ▸ apart)).2 inside
    · exact highest t ((writes.elsewhere sequenced (named' ▸ apart)).1 inside') named'

end Plan.Writes

namespace Drafted

theorem start (sequenced : s.Sequenced) (fresh : ids.Fresh)
    (drawn : ∀ t ∈ s.timelines.values, ids.Drawn t.id) : Drafted s ids 0 := by
  have draftless : Stake.drafts 0 = 0 := Multiset.filterMap_zero _
  refine ⟨sequenced, fresh, ?_, ?_, ?_, ?_⟩
  · intro t inside
    rw [draftless]
    exact ⟨drawn t inside, Multiset.notMem_zero t.id⟩
  · rw [draftless]
    exact Multiset.nodup_zero
  · rw [draftless]
    exact fun id member => absurd member (Multiset.notMem_zero id)
  · exact fun k member => absurd member (Multiset.notMem_zero k)

theorem of_timelines_eq (drafted : Drafted s ids stakes) (same : s'.timelines = s.timelines) :
    Drafted s' ids stakes where
  sequenced := drafted.sequenced.of_timelines_eq same
  fresh := drafted.fresh
  stored := by
    rw [same]
    exact drafted.stored
  distinct := drafted.distinct
  drawn := drafted.drawn
  each k member :=
    have fits := drafted.each k member
    { new := fits.new
      seen := by
        intro t seen
        rw [Store.Knows, same]
        exact fits.seen t seen
      doomed := by
        intro t doomed
        rw [Store.active?, same]
        exact fits.doomed t doomed }

theorem revise (drafted : Drafted s ids stakes)
    (fewer : Stake.drafts stakes' ≤ Stake.drafts stakes)
    (each : ∀ k ∈ stakes', k ∈ stakes ∨ k.Fits s ids (Stake.drafts stakes)) :
    Drafted s ids stakes' where
  sequenced := drafted.sequenced
  fresh := drafted.fresh
  stored t inside :=
    have ⟨drawn, apart⟩ := drafted.stored t inside
    ⟨drawn, fun member => apart (Multiset.mem_of_le fewer member)⟩
  distinct := Multiset.nodup_of_le fewer drafted.distinct
  drawn id member := drafted.drawn id (Multiset.mem_of_le fewer member)
  each k member := by
    refine Stake.Fits.mono ?_ fewer
    rcases each k member with old | fits
    · exact drafted.each k old
    · exact fits

theorem enter (drafted : Drafted s ids stakes) (draftless : k.plan.draft = none)
    (fits : k.Fits s ids (Stake.drafts stakes)) : Drafted s ids (k ::ₘ stakes) := by
  refine drafted.revise (Stake.drafts_cons_none draftless).le fun k' member => ?_
  rcases Multiset.mem_cons.1 member with rfl | old
  · exact .inr fits
  · exact .inl old

theorem replace (drafted : Drafted s ids (k ::ₘ others))
    (draft : k'.plan.draft = k.plan.draft)
    (fits : k'.Fits s ids (Stake.drafts (k ::ₘ others))) : Drafted s ids (k' ::ₘ others) := by
  refine drafted.revise ?_ fun k'' member => ?_
  · cases found : k.plan.draft with
    | none =>
      rw [Stake.drafts_cons_none found, Stake.drafts_cons_none (draft.trans found)]
    | some t =>
      rw [Stake.drafts_cons_some found, Stake.drafts_cons_some (draft.trans found)]
  · rcases Multiset.mem_cons.1 member with rfl | old
    · exact .inr fits
    · exact .inl (Multiset.mem_cons_of_mem old)

theorem draw (drafted : Drafted s ids (k ::ₘ others)) (fresh : ids.draw.2.Fresh)
    (draftless : k.plan.draft = none)
    (draft : k'.plan.draft = some t) (id : t.id = ids.draw.1) (seen : k'.plan.seen = k.plan.seen)
    (new : t.lastPosition = none ∧ t.fake = false ∧ t.order = Timeline.orderAfter k'.plan.seen) :
    Drafted s ids.draw.2 (k' ::ₘ others) := by
  have before : Stake.drafts (k ::ₘ others) = Stake.drafts others :=
    Stake.drafts_cons_none draftless
  have after : Stake.drafts (k' ::ₘ others) = t.id ::ₘ Stake.drafts others :=
    Stake.drafts_cons_some draft
  -- An id that was drawn before is not that of the draft.
  have spent : ∀ {id'}, ids.Drawn id' ∧ id' ∉ Stake.drafts (k ::ₘ others) →
      ids.draw.2.Drawn id' ∧ id' ∉ Stake.drafts (k' ::ₘ others) := by
    rintro id' ⟨drawn, apart⟩
    refine ⟨IdSource.drawn_draw_iff.2 (.inr drawn), ?_⟩
    rw [after, Multiset.mem_cons, not_or, id]
    refine ⟨?_, before ▸ apart⟩
    rintro rfl
    exact fresh.not_drawn drawn
  have looked : ∀ j ∈ k ::ₘ others, ∀ u, j.plan.seen = some u → ids.draw.2.Drawn u.id ∧
      u.id ∉ Stake.drafts (k' ::ₘ others) ∧ s.Knows u := by
    intro j member u saw
    obtain ⟨drawn, apart, knows⟩ := (drafted.each j member).seen u saw
    obtain ⟨drawn', apart'⟩ := spent ⟨drawn, apart⟩
    exact ⟨drawn', apart', knows⟩
  refine ⟨drafted.sequenced, fresh, ?_, ?_, ?_, ?_⟩
  · exact fun u inside => spent (drafted.stored u inside)
  · rw [after, Multiset.nodup_cons, id, ← before]
    exact ⟨fun member => fresh.not_drawn (drafted.drawn _ member), drafted.distinct⟩
  · intro id' member
    rw [after, Multiset.mem_cons, id] at member
    refine IdSource.drawn_draw_iff.2 (member.imp_right fun old => drafted.drawn id' ?_)
    rw [before]
    exact old
  · intro j member
    rcases Multiset.mem_cons.1 member with rfl | old
    · refine ⟨?_, ?_, ?_⟩
      · intro u draft'
        obtain rfl := Option.some_inj.1 (draft.symm.trans draft')
        exact new
      · intro u saw
        exact looked k (Multiset.mem_cons_self k others) u (seen ▸ saw)
      · intro u doomed
        rw [doomed] at draft
        exact nomatch draft
    · have fits := drafted.each j (Multiset.mem_cons_of_mem old)
      exact ⟨fits.new, looked j (Multiset.mem_cons_of_mem old), fits.doomed⟩

theorem draft_genuine (drafted : Drafted s ids (k ::ₘ others)) (draft : k.plan.draft = some t) :
    t.fake = false ∧ t.id ≠ .nil := by
  have drawn := drafted.drawn t.id
  rw [Stake.drafts_cons_some draft] at drawn
  obtain ⟨n, before, same⟩ := drawn (Multiset.mem_cons_self _ _)
  obtain ⟨_, fake, _⟩ := (drafted.each k (Multiset.mem_cons_self k others)).new t draft
  exact ⟨fake, same ▸ drafted.fresh.genuine n before⟩

/-- A task writes for an event type for which nobody else is about to delete a timeline. -/
theorem write (drafted : Drafted s ids (k ::ₘ others)) (writes : k.plan.Writes s e s')
    (alone : ∀ j ∈ others, ∀ t, j.plan = .doomed t → t.eventType ≠ e) :
    Drafted s' ids (⟨u, .idle⟩ ::ₘ others) := by
  have after : Stake.drafts (⟨u, .idle⟩ ::ₘ others) = Stake.drafts others :=
    Stake.drafts_cons_none rfl
  have fewer : Stake.drafts others ≤ Stake.drafts (k ::ₘ others) := by
    rw [Stake.drafts, Stake.drafts]
    exact Multiset.filterMap_le_filterMap _ (Multiset.le_cons_self others k)
  have written : ∀ {id}, k.draftId = some id →
      Stake.drafts (k ::ₘ others) = id ::ₘ Stake.drafts others := fun draft =>
    Multiset.filterMap_cons_some _ _ _ draft
  refine ⟨writes.sequenced drafted.sequenced, drafted.fresh, ?_, ?_, ?_, ?_⟩
  · intro v inside
    rw [after]
    rcases writes.written drafted.sequenced v inside with draft | ⟨v', old, same⟩
    · have drawn := drafted.drawn v.id
      have distinct := drafted.distinct
      rw [written draft] at drawn distinct
      exact ⟨drawn (Multiset.mem_cons_self _ _), (Multiset.nodup_cons.1 distinct).1⟩
    · obtain ⟨drawn, apart⟩ := drafted.stored v' old
      rw [same]
      exact ⟨drawn, fun member => apart (Multiset.mem_of_le fewer member)⟩
  · rw [after]
    exact Multiset.nodup_of_le fewer drafted.distinct
  · intro id member
    rw [after] at member
    exact drafted.drawn id (Multiset.mem_of_le fewer member)
  · intro j member
    rw [after]
    rcases Multiset.mem_cons.1 member with rfl | old
    · exact .idle
    have fits := drafted.each j (Multiset.mem_cons_of_mem old)
    refine ⟨fits.new, ?_, ?_⟩
    · intro t saw
      obtain ⟨drawn, apart, knows⟩ := fits.seen t saw
      refine ⟨drawn, fun member => apart (Multiset.mem_of_le fewer member), ?_⟩
      intro v inside same
      rcases writes.written drafted.sequenced v inside with draft | ⟨v', old', same'⟩
      · rw [written draft, same, Multiset.mem_cons, not_or] at apart
        exact absurd rfl apart.1
      · have known := knows v' old' (by rw [← same, same'])
        rw [same']
        exact known
    · intro t doomed
      obtain ⟨user, active, first⟩ := fits.doomed t doomed
      rw [writes.active_eq drafted.sequenced (alone j old t doomed)]
      exact ⟨user, active, first⟩

end Drafted

end Cutover
