import Cutover.Proofs.Timelines.Traffic

set_option autoImplicit false

namespace Cutover

namespace Store

variable {s s' : Store} {t a : Timeline} {position : Position} {e : String} {plan : Plan}

/-- From one store to the next a timeline is superseded, with its last position. -/
def Ends (s s' : Store) (t : Timeline) (position : Position) : Prop :=
  t ∈ s.timelines.values ∧ t.lastPosition = none ∧
    { t with lastPosition := some position } ∈ s'.timelines.values

theorem Keyed.not_ended (keyed : s.Keyed) (inside : t ∈ s.timelines.values)
    (unended : t.lastPosition = none) :
    { t with lastPosition := some position } ∉ s.timelines.values := by
  intro ended
  have same := keyed.eq_of_id inside ended rfl
  rw [same] at unended
  exact nomatch unended

theorem Keyed.not_ends (keyed : s.Keyed) (same : s'.timelines = s.timelines) :
    ¬ s.Ends s' t position := by
  rintro ⟨inside, unended, ended⟩
  rw [same] at ended
  exact keyed.not_ended inside unended ended

end Store

namespace Plan.Writes

variable {s s' : Store} {t a : Timeline} {position : Position} {e : String} {plan : Plan}

/-- Only a switch ends a timeline, the active one, with the position that was read for it. -/
theorem ends (writes : plan.Writes s e s') (sequenced : s.Sequenced)
    (ends : s.Ends s' t position) :
    s.active? e = some t ∧ ∃ previous next, plan = .measured previous position next ∧
      previous = { t with lastPosition := previous.lastPosition } := by
  obtain ⟨inside, unended, ended⟩ := ends
  have kept : { t with lastPosition := some position } ∉ s.timelines.values :=
    sequenced.keyed.not_ended inside unended
  cases writes with
  | first none free first genuine unended' =>
    rcases sequenced.keyed.mem_put.1 ended with same | ⟨old, _⟩
    · have last := congrArg Timeline.lastPosition same
      exact nomatch last.trans unended'
    · exact absurd old kept
  | @switch previous next a position' switchedAt active known free follows genuine unended' =>
    have new := Store.unstored_of_get? sequenced.keyed free
    have stored := (Store.active_spec active).1
    rw [sequenced.keyed.mem_switched _ stored (by exact new)] at ended
    rcases ended with same | same | ⟨old, _⟩
    · have last := congrArg Timeline.lastPosition same
      exact nomatch last.trans unended'
    · have one : t = a := sequenced.keyed.eq_of_id inside stored (Timeline.mk.inj same).1
      have last : some position = some position' := congrArg Timeline.lastPosition same
      rw [one, Option.some_inj.1 last]
      exact ⟨active, previous, next, rfl, known⟩
    · exact absurd old kept
  | delete active first => exact absurd ((sequenced.keyed.mem_erase _).1 ended).1 kept

theorem active_after (writes : plan.Writes s e s') (sequenced : s.Sequenced)
    (active : s.active? e = some a) :
    (∃ b, s'.active? e = some b ∧ a.order < b.order) ∨ a.order = 0 ∧ ∃ t, plan = .doomed t := by
  have sequenced' := writes.sequenced sequenced
  cases writes with
  | first none =>
    rw [none] at active
    exact nomatch active
  | @switch previous next a' position switchedAt active' known free follows genuine unended =>
    obtain rfl := Option.some_inj.1 (active.symm.trans active')
    obtain ⟨stored, _, highest⟩ := sequenced.active_iff.1 active
    have new := Store.unstored_of_get? sequenced.keyed free
    refine .inl ⟨{ next with switchedAt := some switchedAt }, ?_, ?_⟩
    · rw [sequenced'.active_iff, sequenced.keyed.mem_switched _ stored (by exact new)]
      refine ⟨.inl rfl, rfl, fun t inside named => ?_⟩
      rw [sequenced.keyed.mem_switched _ stored (by exact new)] at inside
      rcases inside with rfl | rfl | ⟨old, _⟩
      · exact Nat.le_refl _
      · exact (Nat.le_succ a.order).trans follows.ge
      · exact (highest t old named).trans ((Nat.le_succ a.order).trans follows.ge)
    · exact follows ▸ Nat.lt_succ_self a.order
  | delete active' first =>
    obtain rfl := Option.some_inj.1 (active.symm.trans active')
    exact .inr ⟨first, _, rfl⟩

end Plan.Writes

namespace Traffic

/-- What tasks hold. Whatever publishers have seen counts as seen by a task that holds nothing
else. -/
def stakes (t : Traffic) (parties : Multiset Party) : Multiset Stake :=
  parties.map Party.stake +
    ((t.steps.map fun step => ⟨none, .found step.timeline⟩ : List Stake) : Multiset Stake)

variable {t : Traffic} {k : Party} {parties others : Multiset Party} {step : PublisherStep}
  {u : FenceUser}

theorem stakes_cons : t.stakes (k ::ₘ others) = k.stake ::ₘ t.stakes others := by
  rw [stakes, Multiset.map_cons, Multiset.cons_add, stakes]

theorem stakes_step {w : World} : (⟨w, t.steps ++ [step]⟩ : Traffic).stakes parties =
    ⟨none, .found step.timeline⟩ ::ₘ t.stakes parties := by
  rw [stakes, List.map_append, add_coe_append, List.map_singleton, Multiset.coe_singleton,
    Multiset.singleton_add, stakes]

theorem mem_users (member : k ∈ parties) (user : k.stake.user = some u) :
    u ∈ Stake.users (t.stakes parties) := by
  refine Stake.mem_users (k := k.stake) ?_ user
  exact Multiset.mem_add.2 (.inl (Multiset.mem_map_of_mem _ member))

end Traffic

namespace Stake.Move

variable {w w' : World} {k k' : Stake} {sight : Sight}

theorem workers (moved : Stake.Move k w sight k' w') : w.workers.Extends w'.workers := by
  cases moved with
  | aside aside => exact aside.workers
  | _ => exact .refl _

end Stake.Move

namespace Party.Move

variable {e : String} {k k' : Party} {t t' : Traffic} {sight : Sight}

theorem serving (moved : Move e k t sight k' t') :
    t'.world.workers.serving = t.world.workers.serving := by
  cases moved with
  | update moved => exact moved.workers.serving
  | advance latest further =>
    obtain ⟨workers, set, serving⟩ := t.world.setPosition_eq _ _
    rw [set]
    exact serving
  | _ => rfl

/-- Positions stay as they are unless somebody publishes. -/
theorem position? (moved : Move e k t sight k' t') {a : Timeline} {p : Position}
    (known : t.world.position? a = some p) : t'.world.position? a = some p ∨
      (∃ ticket, k.stake.user = some ⟨e, ticket, .publishing⟩) ∧
        ∃ q, t'.world.position? a = some q ∧ q.Covers p := by
  cases moved with
  | update moved => exact .inl (World.position?_of_extends moved.workers known)
  | advance latest further =>
    exact .inr ⟨⟨_, rfl⟩, World.position?_setPosition latest further known⟩
  | _ => exact .inl known

/-- Only a publisher with a permit does anything to a timeline: it reads the active one, or
publishes to the one that it has read. -/
theorem steps (moved : Move e k t sight k' t') : t'.steps = t.steps ∨
    ∃ ticket step target, t'.steps = t.steps ++ [step] ∧
      k = .publisher (some ⟨e, ticket, .publishing⟩) target ∧
        (t.world.store.active? e = some step.timeline ∨ target = some step.timeline) := by
  cases moved with
  | target active => exact .inr ⟨_, _, _, rfl, rfl, .inl active⟩
  | advance latest further => exact .inr ⟨_, _, _, rfl, rfl, .inr rfl⟩
  | _ => exact .inl rfl

end Party.Move

/-- The timeline that is to be superseded, with the worker that was looked up for it. -/
def Plan.source : Plan → Option (Timeline × Nat)
  | .located _ (some a) number => some (a, number)
  | .next (some a) number _ => some (a, number)
  | _ => none

/-- The last position of a timeline was read, and since then nobody has published and the position
has stayed as it was. -/
def Traffic.Read (t : Traffic) (past : List (Answered Traffic)) (a : Timeline)
    (position : Position) : Prop :=
  t.world.position? a = some position ∧
    ∃ read : Traffic, ⟨Except TimelineError Position, .ok position, read, read⟩ ∈ past ∧
      read.world.position? a = some position ∧ read.steps = t.steps

/-- No event is lost when a timeline is superseded: its last position was read at a moment after
which no publisher has touched it, is the position that it has at the switch, and covers whatever
was published to it. All that publishers do afterwards they do to its successors. -/
structure Lossless (e : String) (earlier : List (Answered Traffic)) (before : Traffic)
    (steps : List PublisherStep) (a : Timeline) (position : Position) : Prop where
  read : before.Read earlier a position
  covers : ∀ b p, .advances b p ∈ before.steps → b.id = a.id → position.Covers p
  later : ∃ later, steps = before.steps ++ later ∧
    ∀ step ∈ later, step.timeline.eventType = e ∧ a.order < step.timeline.order

/-- What holds of the traffic of an event type. -/
structure Traffic.Flows (e : String) (t : Traffic) (past : List (Answered Traffic))
    (parties : Multiset Party) : Prop where
  fits : t.world.Fits (t.stakes parties)
  targets : ∀ {ticket a}, .publisher (some ⟨e, ticket, .publishing⟩) (some a) ∈ parties →
    t.world.store.active? e = some a
  serves : ∀ {k a number}, .updater k ∈ parties → k.plan.source = some (a, number) →
    t.world.workers.serving.get? a.storage.id = some number
  measured : ∀ {user previous position next},
    .updater ⟨user, .measured previous position next⟩ ∈ parties →
      ∃ e' ticket, user = some ⟨e', ticket, .updating⟩ ∧ (e' = e → t.Read past previous position)
  covered : ∀ {a p}, .advances a p ∈ t.steps → ∃ q, t.world.position? a = some q ∧ q.Covers p
  committed : ∀ {earlier commit later}, past = earlier ++ commit :: later → ∀ {a position},
    a.eventType = e → commit.before.world.store.Ends commit.after.world.store a position →
      Lossless e earlier commit.before t.steps a position ∧
        ∃ b, t.world.store.active? e = some b ∧ a.order < b.order

namespace Traffic.Flows

variable {e : String} {k k' : Party} {t t' : Traffic} {sight : Sight}
  {past : List (Answered Traffic)} {others : Multiset Party} {a : Timeline} {position : Position}

/-- What becomes of the active timeline of the event type: it stays, unless somebody updates the
event type and supersedes or deletes it. -/
theorem active_after (flows : t.Flows e past (k ::ₘ others)) (moved : Party.Move e k t sight k' t')
    (active : t.world.store.active? e = some a) : t'.world.store.active? e = some a ∨
      (∃ ticket, k.stake.user = some ⟨e, ticket, .updating⟩) ∧
        ((∃ b, t'.world.store.active? e = some b ∧ a.order < b.order) ∨ a.order = 0) := by
  cases moved with
  | @update k k' t w sight moved =>
    have fits := flows.fits
    rw [stakes_cons] at fits
    have sequenced := fits.drafted.sequenced
    change w.store.active? e = some a ∨ _
    rcases fits.stores moved with same | ⟨e', writes, admitted⟩
    · rw [same]
      exact .inl active
    by_cases named : e' = e
    · subst named
      rcases admitted with none | updating
      · rw [none] at active
        exact nomatch active
      · exact .inr ⟨updating, (writes.active_after sequenced active).imp_right And.left⟩
    · rw [writes.active_eq sequenced (Ne.symm named)]
      exact .inl active
  | advance latest further =>
    obtain ⟨workers, set, _⟩ := t.world.setPosition_eq _ _
    rw [set]
    exact .inl active
  | _ => exact .inl active

theorem quiet {parties : Multiset Party} (flows : t.Flows e past parties) {i j : Party}
    {ticket : Ticket} (updater : i ∈ parties)
    (updating : i.stake.user = some ⟨e, ticket, .updating⟩) (other : j ∈ parties)
    (ticket' : Ticket) : j.stake.user ≠ some ⟨e, ticket', .publishing⟩ := by
  intro publishing
  exact flows.fits.fences.publisher_absent (mem_users updater updating) (mem_users other publishing)

theorem read_kept (read : t.Read past a position) (moved : Party.Move e k t sight k' t')
    (quiet : ∀ ticket, k.stake.user ≠ some ⟨e, ticket, .publishing⟩) :
    t'.Read (past ++ sight.record t t') a position := by
  obtain ⟨known, read, member, before, steps⟩ := read
  refine ⟨?_, read, List.mem_append_left _ member, before, ?_⟩
  · rcases moved.position? known with same | ⟨⟨ticket, publishing⟩, _⟩
    · exact same
    · exact absurd publishing (quiet ticket)
  · rcases moved.steps with same | ⟨ticket, _, _, _, rfl, _⟩
    · exact steps.trans same.symm
    · exact absurd rfl (quiet ticket)

theorem targets_moved (flows : t.Flows e past (k ::ₘ others))
    (moved : Party.Move e k t sight k' t') {ticket : Ticket}
    (member : .publisher (some ⟨e, ticket, .publishing⟩) (some a) ∈ k' ::ₘ others) :
    t'.world.store.active? e = some a := by
  rcases Multiset.mem_cons.1 member with rfl | old
  · cases moved with
    | stay => exact flows.targets (Multiset.mem_cons_self _ _)
    | target active => exact active
    | advance latest further =>
      obtain ⟨workers, set, _⟩ := t.world.setPosition_eq _ _
      rw [set]
      exact flows.targets (Multiset.mem_cons_self _ _)
  · have active := flows.targets (Multiset.mem_cons_of_mem old)
    rcases flows.active_after moved active with same | ⟨⟨ticket', updating⟩, _⟩
    · exact same
    · exact absurd rfl (flows.quiet (Multiset.mem_cons_self k others) updating
        (Multiset.mem_cons_of_mem old) ticket)

theorem serves_moved (flows : t.Flows e past (k ::ₘ others))
    (moved : Party.Move e k t sight k' t') {j : Stake} {number : Nat}
    (member : .updater j ∈ k' ::ₘ others) (source : j.plan.source = some (a, number)) :
    t'.world.workers.serving.get? a.storage.id = some number := by
  rw [moved.serving]
  rcases Multiset.mem_cons.1 member with rfl | old
  · cases moved with
    | @update k _ t w sight moved =>
      have known : k.plan.source = some (a, number) →
          t.world.workers.serving.get? a.storage.id = some number :=
        flows.serves (Multiset.mem_cons_self _ _)
      cases moved with
      | @locate _ _ active _ _ _ serves =>
        cases active with
        | none => exact nomatch source
        | some b =>
          obtain ⟨rfl, rfl⟩ := Prod.mk.inj (Option.some_inj.1 source)
          exact serves b rfl
      | @draw _ _ active =>
        cases active with
        | none => exact nomatch source
        | some b => exact known source
      | aside | ask | fence | refuse | withdraw => exact known source
      | _ => exact nomatch source
  · exact flows.serves (Multiset.mem_cons_of_mem old) source

theorem measured_moved (flows : t.Flows e past (k ::ₘ others))
    (moved : Party.Move e k t sight k' t') {user : Option FenceUser} {previous next : Timeline}
    (member : .updater ⟨user, .measured previous position next⟩ ∈ k' ::ₘ others) :
    ∃ e' ticket, user = some ⟨e', ticket, .updating⟩ ∧
      (e' = e → t'.Read (past ++ sight.record t t') previous position) := by
  -- Who has measured keeps what it has read while it goes on and while others do.
  have kept : .updater ⟨user, .measured previous position next⟩ ∈ k ::ₘ others →
      ∃ e' ticket, user = some ⟨e', ticket, .updating⟩ ∧
        (e' = e → t'.Read (past ++ sight.record t t') previous position) := by
    intro before
    obtain ⟨e', ticket, rfl, read⟩ := flows.measured before
    refine ⟨e', ticket, rfl, ?_⟩
    rintro rfl
    exact read_kept (read rfl) moved (flows.quiet before rfl (Multiset.mem_cons_self k others))
  rcases Multiset.mem_cons.1 member with rfl | old
  · cases moved with
    | @update k _ t w sight moved =>
      cases moved with
      | aside aside => exact kept (Multiset.mem_cons_self _ _)
      | @measure e' ticket number _ _ worker _ _ registered latest =>
        refine ⟨e', ticket, rfl, ?_⟩
        rintro rfl
        have serving := flows.serves (Multiset.mem_cons_self _ _) rfl
        have known : t.world.position? previous = some position :=
          World.position?_eq_some.2
            ⟨number, worker, serving, registered, Worker.position?_of_latest latest⟩
        exact ⟨known, t, List.mem_append_right _ (List.mem_singleton.2 rfl), known, rfl⟩
      | ask | fence | refuse | withdraw =>
        -- Only an updater has measured.
        obtain ⟨_, _, none, _⟩ := flows.measured (Multiset.mem_cons_self _ _)
        exact nomatch none
  · exact kept (Multiset.mem_cons_of_mem old)

theorem covered_moved (flows : t.Flows e past (k ::ₘ others))
    (moved : Party.Move e k t sight k' t') {p : Position} (member : .advances a p ∈ t'.steps) :
    ∃ q, t'.world.position? a = some q ∧ q.Covers p := by
  have kept : .advances a p ∈ t.steps → ∃ q, t'.world.position? a = some q ∧ q.Covers p := by
    intro before
    obtain ⟨q, known, covers⟩ := flows.covered before
    rcases moved.position? known with same | ⟨_, q', known', further⟩
    · exact ⟨q, same, covers⟩
    · exact ⟨q', known', further.trans covers⟩
  cases moved with
  | update => exact kept member
  | target active =>
    rcases List.mem_append.1 member with old | new
    · exact kept old
    · exact nomatch List.mem_singleton.1 new
  | advance latest further =>
    rcases List.mem_append.1 member with old | new
    · exact kept old
    · obtain ⟨rfl, rfl⟩ := PublisherStep.advances.inj (List.mem_singleton.1 new)
      exact ⟨p, World.position?_setPosition_self latest, .refl p⟩
  | _ => exact kept member

/-- What publishers have touched is stored as they have seen it, if for its end. -/
theorem known (flows : t.Flows e past others) {step : PublisherStep} (touched : step ∈ t.steps)
    (stored : a ∈ t.world.store.timelines.values) (same : step.timeline.id = a.id) :
    step.timeline = { a with lastPosition := step.timeline.lastPosition } := by
  have member : (⟨none, .found step.timeline⟩ : Stake) ∈ t.stakes others := by
    refine Multiset.mem_add.2 (.inr (Multiset.mem_coe.2 ?_))
    exact List.mem_map.2 ⟨step, touched, rfl⟩
  obtain ⟨_, _, knows⟩ := (flows.fits.drafted.each _ member).seen _ rfl
  exact knows a stored same.symm

/-- When a timeline is superseded, everything that was published to it is covered. -/
theorem supersedes (flows : t.Flows e past (k ::ₘ others)) (moved : Party.Move e k t sight k' t')
    (named : a.eventType = e) (ends : t.world.store.Ends t'.world.store a position) :
    Lossless e past t t'.steps a position ∧
      ∃ b, t'.world.store.active? e = some b ∧ a.order < b.order := by
  have fits := flows.fits
  rw [stakes_cons] at fits
  have sequenced := fits.drafted.sequenced
  cases moved with
  | @update k _ t w sight moved =>
    rcases fits.stores moved with same | ⟨e', writes, admitted⟩
    · exact absurd ends (sequenced.keyed.not_ends (congrArg Store.timelines same))
    obtain ⟨active, previous, next, plan, known⟩ := writes.ends sequenced ends
    obtain rfl := (Store.active_spec active).2.1.symm.trans named
    obtain ⟨user, _⟩ := k
    subst plan
    have read : t.Read past a position := by
      obtain ⟨e'', ticket, updating, read⟩ := flows.measured (Multiset.mem_cons_self _ _)
      rcases admitted with none | ⟨ticket', updating'⟩
      · rw [none] at active
        exact nomatch active
      · have same := Option.some_inj.1 (updating.symm.trans updating')
        have read := read (congrArg FenceUser.eventType same)
        rw [known] at read
        exact read
    refine ⟨⟨read, ?_, [], (List.append_nil _).symm,
      fun _ none => absurd none List.not_mem_nil⟩, ?_⟩
    · intro b p advanced same
      obtain ⟨q, found, covers⟩ := flows.covered advanced
      have seen := flows.known advanced ends.1 same
      change b = { a with lastPosition := b.lastPosition } at seen
      have here : t.world.position? b = t.world.position? a := by
        rw [seen]
        rfl
      obtain rfl := Option.some_inj.1 (found.symm.trans (here.trans read.1))
      exact covers
    · rcases writes.active_after sequenced active with later | ⟨_, _, doomed⟩
      · exact later
      · exact nomatch doomed
  | advance latest further =>
    obtain ⟨workers, set, _⟩ := t.world.setPosition_eq _ _
    rw [set] at ends
    exact absurd ends (sequenced.keyed.not_ends rfl)
  | _ => exact absurd ends (sequenced.keyed.not_ends rfl)

theorem lossless_kept (flows : t.Flows e past (k ::ₘ others))
    (moved : Party.Move e k t sight k' t') {earlier : List (Answered Traffic)} {before : Traffic}
    (lossless : Lossless e earlier before t.steps a position)
    (superseded : ∃ b, t.world.store.active? e = some b ∧ a.order < b.order) :
    Lossless e earlier before t'.steps a position ∧
      ∃ b, t'.world.store.active? e = some b ∧ a.order < b.order := by
  obtain ⟨b, active, higher⟩ := superseded
  obtain ⟨read, covers, later, steps, onward⟩ := lossless
  refine ⟨⟨read, covers, ?_⟩, ?_⟩
  · rcases moved.steps with same | ⟨ticket, step, target, more, rfl, aim⟩
    · exact ⟨later, same.trans steps, onward⟩
    · have aimed : t.world.store.active? e = some step.timeline := by
        rcases aim with read | rfl
        · exact read
        · exact flows.targets (Multiset.mem_cons_self _ _)
      refine ⟨later ++ [step], by rw [more, steps, List.append_assoc], fun step' member => ?_⟩
      rcases List.mem_append.1 member with old | new
      · exact onward step' old
      · obtain rfl := List.mem_singleton.1 new
        obtain rfl := Option.some_inj.1 (active.symm.trans aimed)
        exact ⟨(Store.active_spec active).2.1, higher⟩
  · rcases flows.active_after moved active with same | ⟨_, ⟨c, active', higher'⟩ | first⟩
    · exact ⟨b, same, higher⟩
    · exact ⟨c, active', higher.trans higher'⟩
    · omega

theorem committed_moved (flows : t.Flows e past (k ::ₘ others))
    (moved : Party.Move e k t sight k' t') {earlier later : List (Answered Traffic)}
    {commit : Answered Traffic} (split : past ++ sight.record t t' = earlier ++ commit :: later)
    (named : a.eventType = e)
    (ends : commit.before.world.store.Ends commit.after.world.store a position) :
    Lossless e earlier commit.before t'.steps a position ∧
      ∃ b, t'.world.store.active? e = some b ∧ a.order < b.order := by
  have kept : ∀ {rest}, past = earlier ++ commit :: rest →
      Lossless e earlier commit.before t'.steps a position ∧
        ∃ b, t'.world.store.active? e = some b ∧ a.order < b.order := by
    intro rest before
    obtain ⟨lossless, superseded⟩ := flows.committed before named ends
    exact flows.lossless_kept moved lossless superseded
  cases sight with
  | nothing => exact kept ((List.append_nil past).symm.trans split)
  | answer value =>
    rcases List.eq_nil_or_concat later with rfl | ⟨rest, last, rfl⟩
    · obtain ⟨rfl, same⟩ := List.append_inj' split rfl
      obtain rfl := (List.cons.inj same).1
      exact flows.supersedes moved named ends
    · rw [List.concat_eq_append, ← List.cons_append, ← List.append_assoc] at split
      exact kept (List.append_inj' split rfl).1

theorem fits_moved (flows : t.Flows e past (k ::ₘ others)) (moved : Party.Move e k t sight k' t')
    (fresh : t'.world.ids.Fresh) : t'.world.Fits (t'.stakes (k' ::ₘ others)) := by
  have fits := flows.fits
  rw [stakes_cons] at fits
  have sound := fits.fences
  -- What a publisher has read counts as seen by a task of its own.
  have touched : ∀ {user : Option FenceUser} {a : Timeline} {stakes : Multiset Stake} {w : World},
      (∀ e ticket, user ≠ some ⟨e, ticket, .updating⟩) →
      w.Fits (⟨user, .found a⟩ ::ₘ stakes) →
      w.Fits (⟨none, .found a⟩ ::ₘ ⟨user, .found a⟩ ::ₘ stakes) := by
    intro user a stakes w unfenced fits
    refine ⟨?_, fits.drafted.enter rfl ?_⟩
    · rw [Stake.users_cons_none rfl]
      exact fits.fences
    · exact (fits.drafted.each _ (Multiset.mem_cons_self _ _)).with_user unfenced
  cases moved with
  | update moved =>
    rw [stakes_cons]
    exact fits.moved moved fresh
  | stay => exact flows.fits
  | ask =>
    rw [stakes_cons]
    refine fits.refence_unfenced ?_ nofun
    rw [Stake.users_cons_none rfl] at sound
    rw [Stake.users_cons_some rfl]
    exact sound.ask _ _
  | permit granted =>
    rw [stakes_cons]
    refine fits.refence_unfenced (f := t.world.fences) ?_ nofun
    rw [Stake.users_cons_some rfl] at sound ⊢
    exact sound.permit granted
  | leave shared =>
    rw [stakes_cons]
    refine fits.refence_unfenced ?_ fun e ticket same => ?_
    · rw [Stake.users_cons_some rfl] at sound
      rw [Stake.users_cons_none rfl]
      exact sound.giveUp shared
    · exact shared (congrArg FenceUser.role (Option.some_inj.1 same))
  | target active =>
    rw [stakes_step, stakes_cons]
    refine touched nofun (fits.learn rfl (fun _ made => nomatch made) (fun a saw => .inr ?_)
      fun _ doomed => nomatch doomed)
    obtain rfl := Option.some_inj.1 saw
    exact (Store.active_spec active).1
  | advance latest further =>
    rw [stakes_step, stakes_cons]
    obtain ⟨workers, set, _⟩ := t.world.setPosition_eq _ _
    rw [set]
    exact touched nofun ⟨fits.fences, fits.drafted⟩

theorem revise (flows : t.Flows e past others) {parties : Multiset Party}
    (fits : t.world.Fits (t.stakes parties))
    (each : ∀ k ∈ parties, k ∈ others ∨ k = .publisher none none ∨
      ∃ j, k = .updater j ∧ j.plan.source = none ∧ j.plan.seen = none) :
    t.Flows e past parties where
  fits := fits
  targets := by
    intro ticket a member
    rcases each _ member with old | idle | ⟨j, updater, _⟩
    · exact flows.targets old
    · exact nomatch idle
    · exact nomatch updater
  serves := by
    intro j a number member source
    rcases each _ member with old | idle | ⟨j, updater, none, _⟩
    · exact flows.serves old source
    · exact nomatch idle
    · obtain rfl := Party.updater.inj updater
      rw [none] at source
      exact nomatch source
  measured := by
    intro user previous position next member
    rcases each _ member with old | idle | ⟨j, updater, _, none⟩
    · exact flows.measured old
    · exact nomatch idle
    · obtain rfl := Party.updater.inj updater
      exact nomatch none
  covered := flows.covered
  committed := flows.committed

end Traffic.Flows

/-- A change of the traffic by others: as one of the world, but each worker keeps its place and its
positions. -/
structure Traffic.Apart (t t' : Traffic) : Prop where
  world : t.world.Apart t'.world
  workers : t.world.workers.Extends t'.world.workers
  steps : t'.steps = t.steps

namespace Traffic.Flows

variable {e : String} {t t' : Traffic} {past : List (Answered Traffic)}
  {parties : Multiset Party}

theorem apart (flows : t.Flows e past parties) (apart : t.Apart t') : t'.Flows e past parties where
  fits := by
    rw [stakes, apart.steps]
    exact flows.fits.apart apart.world
  targets member := by
    rw [Store.active?, apart.world.timelines]
    exact flows.targets member
  serves member source := by
    rw [apart.workers.serving]
    exact flows.serves member source
  measured member := by
    obtain ⟨e', ticket, updating, read⟩ := flows.measured member
    refine ⟨e', ticket, updating, fun same => ?_⟩
    obtain ⟨known, earlier, member, before, steps⟩ := read same
    exact ⟨World.position?_of_extends apart.workers known, earlier, member, before,
      steps.trans apart.steps.symm⟩
  covered member := by
    rw [apart.steps] at member
    obtain ⟨q, known, covers⟩ := flows.covered member
    exact ⟨q, World.position?_of_extends apart.workers known, covers⟩
  committed split := by
    rw [apart.steps, Store.active?, apart.world.timelines]
    exact flows.committed split

theorem enter_call (flows : t.Flows e past parties) (call : TimelineCall) :
    t.Flows e past (.updater call.stake ::ₘ parties) := by
  refine flows.revise ?_ fun k member => ?_
  · rw [stakes_cons]
    exact flows.fits.enter call
  · rcases Multiset.mem_cons.1 member with rfl | old
    · exact .inr (.inr ⟨_, rfl, by cases call <;> rfl, by cases call <;> rfl⟩)
    · exact .inl old

theorem enter_publisher (flows : t.Flows e past parties) :
    t.Flows e past (.publisher none none ::ₘ parties) := by
  refine flows.revise ?_ fun k member => ?_
  · rw [stakes_cons]
    refine ⟨?_, flows.fits.drafted.enter rfl .idle⟩
    rw [Stake.users_cons_none rfl]
    exact flows.fits.fences
  · rcases Multiset.mem_cons.1 member with rfl | old
    · exact .inr (.inl rfl)
    · exact .inl old

theorem start (fits : t.world.Fits 0) (unpublished : t.steps = []) : t.Flows e [] 0 := by
  have stakes : t.stakes 0 = 0 := by
    rw [Traffic.stakes, unpublished]
    rfl
  refine ⟨stakes ▸ fits, ?_, ?_, ?_, ?_, ?_⟩
  · exact fun member => absurd member (Multiset.notMem_zero _)
  · exact fun member => absurd member (Multiset.notMem_zero _)
  · exact fun member => absurd member (Multiset.notMem_zero _)
  · intro a p member
    rw [unpublished] at member
    exact nomatch member
  · intro earlier commit later split
    exact absurd (congrArg List.length split) (by simp)

end Traffic.Flows

namespace Party

variable {e : String}

theorem Move.fresh {k k' : Party} {t t' : Traffic} {sight : Sight}
    (moved : Move e k t sight k' t') (fresh : t'.world.ids.Fresh) : t.world.ids.Fresh := by
  cases moved with
  | update moved => exact moved.fresh fresh
  | advance latest further =>
    obtain ⟨workers, set, _⟩ := t.world.setPosition_eq _ _
    rw [set] at fresh
    exact fresh
  | _ => exact fresh

/-- As long as new ids are distinct, all that parties do keeps the traffic flowing. -/
theorem keeps_flows : (Party.protocol e).Keeps
    fun t past parties => t.world.ids.Fresh → t.Flows e past parties where
  split := by
    rintro p owed kept t past others ⟨k, ko, kk, rfl, rfl, rfl, split⟩ held fresh
    have flows := held fresh
    refine flows.revise ?_ fun k' member => ?_
    · have fits := flows.fits
      rw [Traffic.stakes_cons] at fits
      rw [Traffic.stakes_cons, Traffic.stakes_cons]
      exact fits.split split
    · obtain ⟨rfl, rfl⟩ := split
      rcases Multiset.mem_cons.1 member with rfl | rest
      · exact .inr (.inr ⟨_, rfl, rfl, rfl⟩)
      rcases Multiset.mem_cons.1 rest with rfl | old
      · exact .inr (.inr ⟨_, rfl, rfl, rfl⟩)
      · exact .inl (Multiset.mem_cons_of_mem old)
  moved := by
    intro k k' t t' sight past others moved held fresh
    have flows := held (moved.fresh fresh)
    exact
      { fits := flows.fits_moved moved fresh
        targets := flows.targets_moved moved
        serves := flows.serves_moved moved
        measured := flows.measured_moved moved
        covered := flows.covered_moved moved
        committed := fun split _ _ named ends => flows.committed_moved moved split named ends }

end Party

/-- No event is lost at a switch. Take any store whose timelines are in sequence, and any run of
operations on timelines and of publishers of one event type, in which calls may fail and be dropped
anywhere. Whenever a timeline of the event type is superseded, its last position is final. -/
theorem no_event_lost {e : String} {start : Traffic}
    {pool : Pool Traffic (Except TimelineError (Option Timeline))}
    (sequenced : start.world.store.Sequenced)
    (drawn : ∀ t ∈ start.world.store.timelines.values, start.world.ids.Drawn t.id)
    (unfenced : start.world.fences = .empty) (unpublished : start.steps = [])
    (reached : Pool.Reaches (Traffic.IsCall e) Traffic.Apart (.empty start) pool)
    (fresh : pool.state.world.ids.Fresh) {earlier later : List (Answered Traffic)}
    {commit : Answered Traffic} (split : pool.past = earlier ++ commit :: later) {a : Timeline}
    {position : Position} (named : a.eventType = e)
    (ends : commit.before.world.store.Ends commit.after.world.store a position) :
    Lossless e earlier commit.before pool.state.steps a position := by
  have begun : start.world.ids.Fresh → start.Flows e [] 0 := fun fresh =>
    .start ⟨unfenced ▸ LocalFences.sound_empty, .start sequenced fresh drawn⟩ unpublished
  have kept : pool.Keeps (Party.protocol e)
      (fun t past parties => t.world.ids.Fresh → t.Flows e past parties)
      fun _ => (Party.protocol e).settled := by
    refine Pool.Keeps.reaches Party.keeps_flows ?_ ?_ (Pool.keeps_empty begun) reached
    · rintro p (call | ⟨limit, change, onward⟩)
      · exact ⟨_, Traffic.follows_update call,
          fun t past parties held fresh => (held fresh).enter_call call⟩
      · exact ⟨_, Traffic.follows_publisher onward,
          fun t past parties held fresh => (held fresh).enter_publisher⟩
    · exact fun t t' past parties apart held fresh =>
        (held (apart.world.ids ▸ fresh)).apart apart
  obtain ⟨_, _, _, _, held⟩ := kept
  exact ((held fresh).committed split named ends).1

/-- A position with at least the given offset in one partition. -/
def Position.raise (p : Position) (partition : String) (offset : UInt64) : Position :=
  ⟨p.offsets.modify partition fun n => if n < offset then offset else n⟩

theorem Position.raise_covers (partition : String) (offset : UInt64) (p : Position) :
    (p.raise partition offset).Covers p := by
  intro other n found
  by_cases same : other = partition
  · subst same
    refine ⟨if n < offset then offset else n, ?_, ?_⟩
    · exact Table.get?_modify_of_get? _ found
    · split
      · next less => exact UInt64.le_of_lt less
      · exact UInt64.le_refl n
  · exact ⟨n, (Table.get?_modify_of_ne _ _ same).trans found, UInt64.le_refl n⟩

namespace Traffic

/-- No traffic yet, in a small world with one event type. -/
def quietStart : Traffic :=
  ⟨{ World.ofStorage ⟨"default", .inMemory, true⟩ with eventTypes := ["orders"] }, []⟩

/-- A first timeline, a publisher that writes to it, and a switch, one after the other. -/
def switchedOnce : Pool Traffic (Except TimelineError (Option Timeline)) :=
  let calls : List (Process Traffic (Except TimelineError (Option Timeline))) :=
    [(TimelineCall.createFirst "orders").operation.run.within world withWorld,
      publisher "orders" ⟨1000⟩ (·.raise "0" 7),
      (TimelineCall.switchTo "orders" "default").operation.run.within world withWorld]
  let turns : List Pool.Turn :=
    .replicate 6 (.call 0) ++ .replicate 5 (.call 1) ++ .replicate 14 (.call 2)
  turns.foldl Pool.turn ⟨quietStart, calls.map some, [], []⟩

theorem switchedOnce_reached : Pool.Reaches (IsCall "orders") Apart (.empty quietStart)
    switchedOnce := by
  have created : Pool.Reaches (IsCall "orders") Apart (.empty quietStart) _ :=
    .single (.call (.update (.createFirst "orders")))
  have published := created.tail (.call (.publish ⟨1000⟩ _ (Position.raise_covers "0" 7)))
  have switched := published.tail (.call (.update (.switchTo "orders" "default")))
  exact switched.trans (Pool.reaches_turns _ _)

theorem switchedOnce_length : 24 < switchedOnce.past.length := by decide +kernel

/-- The last answer of the run is the one to the switch. -/
def switchedOnceCommit : Answered Traffic := switchedOnce.past.get ⟨24, switchedOnce_length⟩

end Traffic

theorem no_event_lost_switched : ∃ (a : Timeline) (position : Position),
    Pool.Reaches (Traffic.IsCall "orders") Traffic.Apart (.empty .quietStart)
      Traffic.switchedOnce ∧ position.offsets.get? "0" = some 7 ∧
      Lossless "orders" (Traffic.switchedOnce.past.take 24) Traffic.switchedOnceCommit.before
        Traffic.switchedOnce.state.steps a position := by
  let a := (Traffic.switchedOnceCommit.before.world.store.active? "orders").getD default
  let position := (Traffic.switchedOnceCommit.before.world.position? a).getD default
  have split : Traffic.switchedOnce.past = Traffic.switchedOnce.past.take 24 ++
      Traffic.switchedOnceCommit :: Traffic.switchedOnce.past.drop 25 := by
    refine (List.take_append_drop 24 _).symm.trans (congrArg _ ?_)
    exact List.drop_eq_getElem_cons Traffic.switchedOnce_length
  have ends : Traffic.switchedOnceCommit.before.world.store.Ends
      Traffic.switchedOnceCommit.after.world.store a position :=
    ⟨by decide +kernel, by decide +kernel, by decide +kernel⟩
  have fresh : Traffic.switchedOnce.state.world.ids.Fresh := by
    have drawn : Traffic.switchedOnce.state.world.ids.drawn = 2 := by decide +kernel
    constructor
    · rw [drawn]
      decide +kernel
    · rw [drawn]
      decide +kernel
  refine ⟨a, position, Traffic.switchedOnce_reached, by decide +kernel,
    no_event_lost (Store.sequenced_of_no_timelines rfl) ?_ rfl rfl Traffic.switchedOnce_reached
      fresh split ?_ ends⟩
  · exact fun t inside => nomatch (inside : t ∈ [])
  · decide +kernel

end Cutover
