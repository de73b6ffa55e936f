import Cutover.Proofs.Timelines.Errands
import Cutover.Proofs.Timelines.Streams

set_option autoImplicit false

namespace Cutover

namespace Errand

/-- The deeds of a call that holds the fence of an event type. -/
def Fenced (e : String) (t : Ticket) (deeds : List (Deed World)) : Prop :=
  ∃ before obtained work, deeds = before ++ obtained :: work ∧ (∀ d ∈ before, d.Silent) ∧
    obtained.Obtains e t ∧ ∀ d ∈ work, d.Silent ∨ d.Works e t

/-- The deeds of a call that has held the fence of an event type and has had it released. -/
def Released (e : String) (t : Ticket) (deeds : List (Deed World)) : Prop :=
  ∃ fenced release after, deeds = fenced ++ release :: after ∧ Fenced e t fenced ∧
    release.Releases e t ∧ ∀ d ∈ after, d.Silent

/-- What the deeds of a call are where its errand stands. -/
def Course : Errand → List (Deed World) → Prop
  | .idle, deeds => ∀ d ∈ deeds, d.Silent
  | .waiting _ _, deeds => ∀ d ∈ deeds, d.Silent
  | .fenced e t _, deeds => Fenced e t deeds
  | .closed, deeds => (∀ d ∈ deeds, d.Silent) ∨ ∃ e t, Released e t deeds

variable {k k' : Errand} {deeds : List (Deed World)} {d : Deed World} {e : String} {t : Ticket}

theorem forall_mem_concat {P : Deed World → Prop} (all : ∀ x ∈ deeds, P x) (last : P d) :
    ∀ x ∈ deeds ++ [d], P x := by
  intro x member
  rcases List.mem_append.1 member with before | new
  · exact all x before
  · rw [List.mem_singleton.1 new]
    exact last

theorem Fenced.work (fenced : Fenced e t deeds) (works : d.Silent ∨ d.Works e t) :
    Fenced e t (deeds ++ [d]) := by
  obtain ⟨before, obtained, work, rfl, quiet, obtains, worked⟩ := fenced
  refine ⟨before, obtained, work ++ [d], ?_, quiet, obtains, forall_mem_concat worked works⟩
  rw [List.append_assoc, List.cons_append]

theorem Released.rest (released : Released e t deeds) (silent : d.Silent) :
    Released e t (deeds ++ [d]) := by
  obtain ⟨fenced, release, after, rfl, held, releases, quiet⟩ := released
  refine ⟨fenced, release, after ++ [d], ?_, held, releases, forall_mem_concat quiet silent⟩
  rw [List.append_assoc, List.cons_append]

theorem Course.rest (course : k.Course deeds) (silent : d.Silent) : k.Course (deeds ++ [d]) := by
  cases k with
  | idle => exact forall_mem_concat course silent
  | waiting e t => exact forall_mem_concat course silent
  | fenced e t doomed => exact Fenced.work course (.inl silent)
  | closed =>
    rcases course with quiet | ⟨e, t, released⟩
    · exact .inl (forall_mem_concat quiet silent)
    · exact .inr ⟨e, t, released.rest silent⟩

theorem Course.does (course : k.Course deeds) (does : k.Does d k') : k'.Course (deeds ++ [d]) := by
  cases does with
  | rest silent => exact course.rest silent
  | ask silent => exact forall_mem_concat course silent
  | refuse silent => exact .inl (forall_mem_concat course silent)
  | fence obtains => exact ⟨deeds, d, [], rfl, course, obtains, List.forall_mem_nil _⟩
  | work works => exact Fenced.work course (.inr works)
  | finish releases =>
    exact .inr ⟨_, _, deeds, d, [], rfl, course, releases, List.forall_mem_nil _⟩

/-- Among what a call and its cleanups have at stake is one errand that tells its deeds; the others
are over. -/
def Carried (errands : Multiset Errand) (deeds : List (Deed World)) : Prop :=
  (errands = 0 ∧ deeds = []) ∨
    ∃ k rest, errands = k ::ₘ rest ∧ (∀ x ∈ rest, x = .closed) ∧ k.Course deeds

variable {errands : Multiset Errand}

theorem Carried.does (carried : Carried (k ::ₘ errands) deeds) (does : k.Does d k') :
    Carried (k' ::ₘ errands) (deeds ++ [d]) := by
  obtain ⟨none, -⟩ | ⟨carrier, rest, split, others, course⟩ := carried
  · exact absurd none Multiset.cons_ne_zero
  rcases Multiset.cons_eq_cons.1 split with ⟨rfl, rfl⟩ | ⟨-, more, rfl, rfl⟩
  · exact .inr ⟨k', errands, rfl, others, course.does does⟩
  · -- The errand is one that is over, so that the deed does not change anything.
    obtain rfl := others k (Multiset.mem_cons_self k more)
    cases does with
    | rest silent =>
      refine .inr ⟨carrier, .closed ::ₘ more, Multiset.cons_swap _ _ _, ?_, course.rest silent⟩
      exact others

theorem Carried.split {owed kept : Errand} (carried : Carried (k ::ₘ errands) deeds)
    (split : protocol.splits k owed kept) : Carried (owed ::ₘ kept ::ₘ errands) deeds := by
  obtain ⟨⟨e, t, doomed, rfl⟩, rfl, rfl⟩ := split
  obtain ⟨none, -⟩ | ⟨carrier, rest, split, others, course⟩ := carried
  · exact absurd none Multiset.cons_ne_zero
  rcases Multiset.cons_eq_cons.1 split with ⟨rfl, rfl⟩ | ⟨-, more, rfl, rfl⟩
  · exact .inr ⟨_, _, rfl, Multiset.forall_mem_cons.2 ⟨rfl, others⟩, course⟩
  · exact nomatch others _ (Multiset.mem_cons_self _ more)

def errandsOf (stakes : Multiset (Nat × Errand)) (caller : Nat) : Multiset Errand :=
  (stakes.filter (·.1 = caller)).map (·.2)

variable {i j : Nat} {others : Multiset (Nat × Errand)}

theorem errandsOf_cons_self : errandsOf ((i, k) ::ₘ others) i = k ::ₘ errandsOf others i := by
  rw [errandsOf, Multiset.filter_cons_of_pos (p := (·.1 = i)) (a := (i, k)) others rfl,
    Multiset.map_cons, errandsOf]

theorem errandsOf_cons_of_ne (other : i ≠ j) :
    errandsOf ((i, k) ::ₘ others) j = errandsOf others j := by
  rw [errandsOf, Multiset.filter_cons_of_neg (p := (·.1 = j)) (a := (i, k)) others other, errandsOf]

theorem mem_errandsOf : k ∈ errandsOf others i ↔ (i, k) ∈ others := by
  rw [errandsOf, Multiset.mem_map]
  constructor
  · rintro ⟨⟨i', k'⟩, filtered, rfl⟩
    obtain ⟨inside, rfl⟩ := Multiset.mem_filter.1 filtered
    exact inside
  · exact fun inside => ⟨(i, k), Multiset.mem_filter.2 ⟨inside, rfl⟩, rfl⟩

end Errand

/-- The state that deeds have led to after the first of them. -/
def Deed.stateAfter {σ : Type} (start : σ) (deeds : List (Deed σ)) (count : Nat) : σ :=
  ((deeds.take count).getLast?).elim start Deed.after

/-- The deeds by call: each call keeps to its course. -/
def Deed.Courses (deeds : List (Deed World)) (stakes : Multiset (Nat × Errand)) : Prop :=
  ∀ i, Errand.Carried (Errand.errandsOf stakes i) (deeds.filter (·.caller = i))

/-- What has been sent since a moment and what it tells: if no message is for an event type and its
fence is free, its active timeline is the same as then. -/
structure World.HeardSince (w moment : World) (since : List (Deed World)) : Prop where
  sent : w.fences.announced = moment.fences.announced ++ since.flatMap Deed.messages
  told : ∀ e, (∀ d ∈ since, e ∉ d.messages) →
    moment.store.active? e = w.store.active? e ∨ ∃ t, w.fences.held.get? e = some t

/-- The errands fit the world, each call keeps to its course, and messages tell of all changes. -/
structure World.Recorded (start w : World) (deeds : List (Deed World))
    (stakes : Multiset (Nat × Errand)) : Prop where
  hosts : w.Hosts stakes
  courses : Deed.Courses deeds stakes
  heard : ∀ n, w.HeardSince (Deed.stateAfter start deeds n) (deeds.drop n)

namespace World

variable {start w w' moment : World} {since deeds : List (Deed World)} {i : Nat}
  {k k' owed kept : Errand} {stakes others : Multiset (Nat × Errand)} {sight : Sight}

theorem HeardSince.refl (w : World) : w.HeardSince w [] :=
  ⟨(List.append_nil _).symm, fun _ _ => .inl rfl⟩

/-- A change of an active timeline is made under a fence, whose release is announced. -/
theorem HeardSince.does (heard : w.HeardSince moment since) (does : k.Does ⟨i, w, w'⟩ k') :
    w'.HeardSince moment (since ++ [⟨i, w, w'⟩]) := by
  have silently : ∀ {d : Deed World}, d.before = w → d.after = w' → d.Silent →
      w'.HeardSince moment (since ++ [d]) := by
    rintro d rfl rfl silent
    constructor
    · rw [silent.announced, heard.sent, List.flatMap_append, List.flatMap_singleton,
        Deed.messages_of_same silent.announced, List.append_nil]
    · intro e unheard
      rw [Store.active?, Store.active?, silent.timelines, silent.held]
      exact heard.told e fun d member => unheard d (List.mem_append_left _ member)
  cases does with
  | rest silent => exact silently rfl rfl silent
  | ask silent => exact silently rfl rfl silent
  | refuse silent => exact silently rfl rfl silent
  | @fence e t _ obtains =>
    constructor
    · rw [obtains.announced, heard.sent, List.flatMap_append, List.flatMap_singleton,
        Deed.messages_of_same obtains.announced, List.append_nil]
    · intro e' unheard
      have same : w'.store.active? e' = w.store.active? e' := by
        rw [Store.active?, Store.active?, obtains.timelines]
      rw [same, obtains.held, Table.get?_insert]
      by_cases here : e' = e
      · exact .inr ⟨t, if_pos here⟩
      · rw [if_neg here]
        exact heard.told e' fun d member => unheard d (List.mem_append_left _ member)
  | @work e t _ _ _ works =>
    have fences : w'.fences = w.fences := works.fences
    constructor
    · rw [fences, heard.sent, List.flatMap_append, List.flatMap_singleton,
        Deed.messages_of_same (congrArg LocalFences.announced fences), List.append_nil]
    · intro e' unheard
      rw [fences]
      by_cases here : e' = e
      · exact .inr ⟨t, here ▸ works.held⟩
      · rw [Hosts.active_eq_of_part (works.elsewhere e' here)]
        exact heard.told e' fun d member => unheard d (List.mem_append_left _ member)
  | @finish e t _ _ releases =>
    have announced : w'.fences.announced = w.fences.announced ++ [e] := releases.announced
    constructor
    · rw [announced, heard.sent, List.flatMap_append, List.flatMap_singleton, releases.messages,
        List.append_assoc]
    · intro e' unheard
      have store : w'.store = w.store := releases.store
      have apart : e' ≠ e := by
        rintro rfl
        apply unheard _ (List.mem_append_right _ List.mem_cons_self)
        rw [releases.messages]
        exact List.mem_cons_self
      have held : w'.fences.held.get? e' = w.fences.held.get? e' := by
        rw [releases.held_after, Table.get?_erase_of_ne _ apart]
      rw [store, held]
      exact heard.told e' fun d member => unheard d (List.mem_append_left _ member)

theorem stateAfter_concat_of_le {n : Nat} (inside : n ≤ deeds.length) (d : Deed World) :
    Deed.stateAfter start (deeds ++ [d]) n = Deed.stateAfter start deeds n := by
  rw [Deed.stateAfter, Deed.stateAfter, List.take_append_of_le_length inside]

theorem stateAfter_concat_of_lt {n : Nat} (beyond : deeds.length < n) (d : Deed World) :
    Deed.stateAfter start (deeds ++ [d]) n = d.after := by
  have whole : (deeds ++ [d]).take n = deeds ++ [d] := by
    apply List.take_of_length_le
    rw [List.length_append, List.length_singleton]
    omega
  rw [Deed.stateAfter, whole, List.getLast?_concat, Option.elim_some]

theorem Recorded.does (recorded : start.Recorded w deeds ((i, k) ::ₘ others))
    (hosts : w'.Hosts ((i, k') ::ₘ others)) (does : k.Does ⟨i, w, w'⟩ k') :
    start.Recorded w' (deeds ++ [⟨i, w, w'⟩]) ((i, k') ::ₘ others) where
  hosts := hosts
  courses := by
    intro j
    have before := recorded.courses j
    rw [List.filter_append]
    by_cases here : i = j
    · subst here
      rw [Errand.errandsOf_cons_self] at before ⊢
      rw [List.filter_cons_of_pos (by simp), List.filter_nil]
      exact before.does does
    · rw [Errand.errandsOf_cons_of_ne here] at before ⊢
      rw [List.filter_cons_of_neg (by simpa using here), List.filter_nil, List.append_nil]
      exact before
  heard := by
    intro n
    by_cases inside : n ≤ deeds.length
    · rw [stateAfter_concat_of_le inside, List.drop_append_of_le_length inside]
      exact (recorded.heard n).does does
    · have beyond : deeds.length < n := by omega
      have none : (deeds ++ [(⟨i, w, w'⟩ : Deed World)]).drop n = [] := by
        apply List.drop_of_length_le
        rw [List.length_append, List.length_singleton]
        omega
      rw [stateAfter_concat_of_lt beyond, none]
      exact .refl w'

theorem records (start : World) : Errand.protocol.Records start.Recorded where
  moved moved recorded := recorded.does (recorded.hosts.moved moved) (recorded.hosts.does moved)
  rested recorded := recorded.does recorded.hosts (.rest ⟨rfl, rfl, rfl⟩)
  split := by
    intro i k owed kept w deeds others split recorded
    refine ⟨recorded.hosts.split split, fun j => ?_, recorded.heard⟩
    have before := recorded.courses j
    by_cases here : i = j
    · subst here
      rw [Errand.errandsOf_cons_self] at before
      rw [Errand.errandsOf_cons_self, Errand.errandsOf_cons_self]
      exact before.split split
    · rw [Errand.errandsOf_cons_of_ne here] at before
      rw [Errand.errandsOf_cons_of_ne here, Errand.errandsOf_cons_of_ne here]
      exact before

theorem Recorded.enter (recorded : start.Recorded w deeds stakes) (i : Nat)
    (unstaked : ∀ x ∈ stakes, x.1 ≠ i) (idle : ∀ d ∈ deeds, d.caller ≠ i) :
    start.Recorded w deeds ((i, .idle) ::ₘ stakes) where
  hosts := recorded.hosts.enter i
  courses := by
    intro j
    have before := recorded.courses j
    by_cases here : i = j
    · subst here
      have nothing : deeds.filter (·.caller = i) = [] := by
        rw [List.filter_eq_nil_iff]
        exact fun d member => by simpa using idle d member
      have nobody : Errand.errandsOf stakes i = 0 := by
        rw [Multiset.eq_zero_iff_forall_notMem]
        exact fun k member => unstaked _ (Errand.mem_errandsOf.1 member) rfl
      rw [Errand.errandsOf_cons_self, nothing, nobody]
      exact .inr ⟨.idle, 0, rfl, fun x member => absurd member (Multiset.notMem_zero x),
        List.forall_mem_nil _⟩
    · rw [Errand.errandsOf_cons_of_ne here]
      exact before
  heard := recorded.heard

theorem Recorded.apart (recorded : start.Recorded w deeds stakes) (apart : w.Apart w') :
    start.Recorded w' deeds stakes where
  hosts := recorded.hosts.of_same apart.fences apart.timelines
  courses := recorded.courses
  heard n := by
    have heard := recorded.heard n
    constructor
    · rw [apart.fences]
      exact heard.sent
    · intro e unheard
      rw [Store.active?, Store.active?, apart.timelines, apart.fences]
      exact heard.told e unheard

theorem recorded_start (unfenced : w.fences = .empty) (keyed : w.store.Keyed) :
    w.Recorded w [] 0 where
  hosts := ⟨unfenced ▸ LocalFences.sound_empty, keyed, nofun⟩
  courses _ := .inl ⟨rfl, rfl⟩
  heard n := by
    rw [List.drop_nil, Deed.stateAfter, List.take_nil]
    exact .refl w

end World

namespace Deed

variable {d : Deed World} {deeds : List (Deed World)} {e e' : String} {t t' : Ticket}

theorem Obtains.held_ne (obtains : d.Obtains e t) :
    d.after.fences.held ≠ d.before.fences.held := by
  intro same
  have before := obtains.free
  rw [← same, obtains.held, Table.get?_insert_self] at before
  exact nomatch before

theorem Obtains.same (obtains : d.Obtains e t) (obtains' : d.Obtains e' t') :
    e' = e ∧ t' = t := by
  have inserted := obtains.held.symm.trans obtains'.held
  have here := congrArg (·.get? e) inserted
  simp only [Table.get?_insert_self, Table.get?_insert, obtains.free] at here
  by_cases named : e = e'
  · rw [if_pos named] at here
    exact ⟨named.symm, (Option.some_inj.1 here).symm⟩
  · rw [if_neg named] at here
    exact nomatch here

theorem Releases.not_obtains (releases : d.Releases e t) : ¬d.Obtains e' t' := by
  intro obtains
  have after := releases.held_after.symm.trans obtains.held
  have here := congrArg (·.get? e') after
  simp only [Table.get?_insert_self] at here
  by_cases named : e' = e
  · rw [named, Table.get?_erase_self] at here
    exact nomatch here
  · rw [Table.get?_erase_of_ne _ named, obtains.free] at here
    exact nomatch here

theorem flatMap_messages_eq_nil (quiet : ∀ d ∈ deeds, d.messages = []) :
    deeds.flatMap Deed.messages = [] := List.flatMap_eq_nil_iff.2 quiet

theorem Silent.messages (silent : d.Silent) : d.messages = [] := messages_of_same silent.announced

theorem Works.active_eq (works : d.Works e t) (other : e' ≠ e) :
    d.after.store.active? e' = d.before.store.active? e' :=
  World.Hosts.active_eq_of_part (works.elsewhere e' other)

theorem Silent.active_eq (silent : d.Silent) (e : String) :
    d.after.store.active? e = d.before.store.active? e := by
  rw [Store.active?, Store.active?, silent.timelines]

end Deed

namespace Errand

variable {deeds : List (Deed World)} {d : Deed World} {e e' : String} {t t' : Ticket}

theorem Fenced.obtained (fenced : Fenced e t deeds) : ∃ d ∈ deeds, d.Obtains e t := by
  obtain ⟨before, obtained, work, rfl, -, obtains, -⟩ := fenced
  exact ⟨obtained, List.mem_append_right _ List.mem_cons_self, obtains⟩

theorem Fenced.eq_of_obtains (fenced : Fenced e t deeds) (member : d ∈ deeds)
    (obtains : d.Obtains e' t') : e = e' ∧ t = t' := by
  obtain ⟨before, obtained, work, rfl, quiet, obtains', worked⟩ := fenced
  rcases List.mem_append.1 member with early | late
  · exact absurd (quiet d early).held obtains.held_ne
  · rcases List.mem_cons.1 late with rfl | working
    · exact obtains.same obtains'
    · rcases worked d working with silent | works
      · exact absurd silent.held obtains.held_ne
      · exact absurd (congrArg LocalFences.held works.fences) obtains.held_ne

theorem Fenced.messages (fenced : Fenced e t deeds) : deeds.flatMap Deed.messages = [] := by
  obtain ⟨before, obtained, work, rfl, quiet, obtains, worked⟩ := fenced
  apply Deed.flatMap_messages_eq_nil
  intro d member
  rcases List.mem_append.1 member with early | late
  · exact (quiet d early).messages
  · rcases List.mem_cons.1 late with rfl | working
    · exact Deed.messages_of_same obtains.announced
    · rcases worked d working with silent | works
      · exact silent.messages
      · exact Deed.messages_of_same (congrArg LocalFences.announced works.fences)

/-- Under its fence a call changes no active timeline but that of the event type. -/
theorem Fenced.eq_of_active_ne (fenced : Fenced e t deeds) (member : d ∈ deeds)
    (changes : d.after.store.active? e' ≠ d.before.store.active? e') : e = e' := by
  obtain ⟨before, obtained, work, rfl, quiet, obtains, worked⟩ := fenced
  rcases List.mem_append.1 member with early | late
  · exact absurd ((quiet d early).active_eq e') changes
  · rcases List.mem_cons.1 late with rfl | working
    · refine absurd ?_ changes
      rw [Store.active?, Store.active?, obtains.timelines]
    · rcases worked d working with silent | works
      · exact absurd (silent.active_eq e') changes
      · by_contra other
        exact changes (works.active_eq (Ne.symm other))

theorem Released.obtained (released : Released e t deeds) : ∃ d ∈ deeds, d.Obtains e t := by
  obtain ⟨fenced, release, after, rfl, held, -, -⟩ := released
  obtain ⟨d, member, obtains⟩ := held.obtained
  exact ⟨d, List.mem_append_left _ member, obtains⟩

theorem Released.eq_of_obtains (released : Released e t deeds) (member : d ∈ deeds)
    (obtains : d.Obtains e' t') : e = e' ∧ t = t' := by
  obtain ⟨fenced, release, after, rfl, held, releases, quiet⟩ := released
  rcases List.mem_append.1 member with early | late
  · exact held.eq_of_obtains early obtains
  · rcases List.mem_cons.1 late with rfl | later
    · exact absurd obtains releases.not_obtains
    · exact absurd (quiet d later).held obtains.held_ne

theorem Released.messages (released : Released e t deeds) :
    deeds.flatMap Deed.messages = [e] := by
  obtain ⟨fenced, release, after, rfl, held, releases, quiet⟩ := released
  have none := Deed.flatMap_messages_eq_nil fun d member => (quiet d member).messages
  rw [List.flatMap_append, List.flatMap_cons, held.messages, releases.messages, none]
  rfl

theorem mem_of_append_eq {α : Type} {first after earlier later : List α} {x y : α}
    (split : first ++ y :: after = earlier ++ x :: later) (apart : x ≠ y) (absent : x ∉ after) :
    x ∈ first ∧ y ∈ later := by
  rcases List.append_eq_append_iff.1 split with ⟨more, rfl, tails⟩ | ⟨more, rfl, tails⟩
  · cases more with
    | nil => exact absurd (List.cons.inj tails).1.symm apart
    | cons z others =>
      have inside : x ∈ after := by
        rw [(List.cons.inj tails).2]
        exact List.mem_append_right _ List.mem_cons_self
      exact absurd inside absent
  · cases more with
    | nil => exact absurd (List.cons.inj tails).1 apart
    | cons z others =>
      obtain ⟨rfl, rfl⟩ := List.cons.inj tails
      constructor
      · exact List.mem_append_right _ List.mem_cons_self
      · exact List.mem_append_right _ List.mem_cons_self

theorem Released.sends_after (released : Released e t deeds) {earlier later : List (Deed World)}
    (split : deeds = earlier ++ d :: later)
    (changes : d.after.store.active? e' ≠ d.before.store.active? e') :
    ∃ d' ∈ later, d'.messages = [e'] := by
  obtain ⟨fenced, release, after, rfl, held, releases, quiet⟩ := released
  have apart : d ≠ release := by
    rintro rfl
    apply changes
    rw [releases.store]
  have absent : d ∉ after := fun inside => changes ((quiet d inside).active_eq e')
  obtain ⟨inside, follows⟩ := mem_of_append_eq split apart absent
  refine ⟨release, follows, ?_⟩
  rw [releases.messages, held.eq_of_active_ne inside changes]

end Errand

/-- What is promised of the messages of switches and deletions that started in a world. -/
structure Ledger.Announced {α : Type} (start : World) (l : Ledger World α) : Prop where
  /-- On the channel are the messages of the calls, in the order in which they were sent. -/
  channel : l.state.fences.announced =
    start.fences.announced ++ l.deeds.flatMap Deed.messages
  /-- A call that has obtained no fence sends nothing and changes no timeline. -/
  unfenced : ∀ {i}, (∀ d ∈ l.deedsOf i, ∀ e t, ¬d.Obtains e t) → ∀ d ∈ l.deedsOf i, d.Silent
  /-- A call sends a message only when it has done all that it does under its fence, and the fence
  is free. -/
  sends : ∀ {i e}, e ∈ (l.deedsOf i).flatMap Deed.messages →
    ∃ t, Errand.Released e t (l.deedsOf i)
  /-- For a fence that was obtained one message is sent, however the call ended. -/
  once : ∀ {i d e t}, d ∈ l.deedsOf i → d.Obtains e t → l.Settled i →
    Errand.Released e t (l.deedsOf i) ∧ (l.deedsOf i).flatMap Deed.messages = [e]
  /-- A change of an active timeline is followed by a message of the call that made it, which holds
  the fence until then. -/
  followed : ∀ {earlier d later e}, l.deeds = earlier ++ d :: later →
    d.after.store.active? e ≠ d.before.store.active? e →
      (∃ d' ∈ later, d'.caller = d.caller ∧ d'.messages = [e]) ∨
        (l.state.fences.isFenced e = true ∧ ¬l.Settled d.caller)
  /-- A receiver that has lost nothing, and finds no message for an event type that was sent after
  it looked at the active timeline, has seen the current one, unless a call holds the fence. -/
  current : ∀ {e n read}, read ≤ (Deed.stateAfter start l.deeds n).fences.announced.length →
    (l.state.fences.unread read).1 = 0 → e ∉ (l.state.fences.unread read).2 →
      l.state.fences.isFenced e = false →
        (Deed.stateAfter start l.deeds n).store.active? e = l.state.store.active? e
  /-- When all calls and their cleanups have ended no fence is held. -/
  free : (∀ i < l.calls.length, l.Settled i) → ∀ e, l.state.fences.isFenced e = false
  /-- A cleanup that has not ended ends with its next action, for which it waits for nobody. -/
  prompt : ∀ c ∈ l.cleanups, c.2 = .done () ∨ c.2.EndsNext

namespace World.Recorded

variable {α : Type} {start : World} {l : Ledger World α} {stakes : Multiset (Nat × Errand)}

theorem exists_course (recorded : start.Recorded l.state l.deeds stakes) (i : Nat) :
    l.deedsOf i = [] ∨ ∃ k, (i, k) ∈ stakes ∧ k.Course (l.deedsOf i) := by
  rcases recorded.courses i with ⟨-, none⟩ | ⟨k, rest, split, -, course⟩
  · exact .inl none
  · refine .inr ⟨k, Errand.mem_errandsOf.1 ?_, course⟩
    rw [split]
    exact Multiset.mem_cons_self k rest

/-- The deeds of a call are silent, or it holds a fence, or it has had one released. -/
theorem deeds_cases (recorded : start.Recorded l.state l.deeds stakes) (i : Nat) :
    (∀ d ∈ l.deedsOf i, d.Silent) ∨
      (∃ e t doomed, (i, Errand.fenced e t doomed) ∈ stakes ∧ Errand.Fenced e t (l.deedsOf i)) ∨
      ∃ e t, Errand.Released e t (l.deedsOf i) := by
  rcases recorded.exists_course i with none | ⟨k, member, course⟩
  · rw [none]
    exact .inl (List.forall_mem_nil _)
  · cases k with
    | idle => exact .inl course
    | waiting e t => exact .inl course
    | fenced e t doomed => exact .inr (.inl ⟨e, t, doomed, member, course⟩)
    | closed =>
      rcases course with quiet | released
      · exact .inl quiet
      · exact .inr (.inr released)

theorem isFenced_of_fenced (recorded : start.Recorded l.state l.deeds stakes) {i : Nat}
    {e : String} {t : Ticket} {doomed : Option Uuid}
    (member : (i, Errand.fenced e t doomed) ∈ stakes) : l.state.fences.isFenced e = true := by
  have held := recorded.hosts.fences.updates.2 (Errand.mem_users member rfl)
  rw [LocalFences.isFenced, Table.contains, held, Option.isSome_some]

theorem announced (recorded : start.Recorded l.state l.deeds stakes)
    (settles : ∀ {i k}, l.Settled i → (i, k) ∈ stakes → k.user? = none)
    (called : ∀ x ∈ stakes, x.1 < l.calls.length) (prompt : l.Prompt) : l.Announced start where
  channel := (recorded.heard 0).sent
  unfenced := by
    intro i none
    rcases recorded.deeds_cases i with quiet | ⟨e, t, _, _, fenced⟩ | ⟨e, t, released⟩
    · exact quiet
    · obtain ⟨d, member, obtains⟩ := fenced.obtained
      exact absurd obtains (none d member e t)
    · obtain ⟨d, member, obtains⟩ := released.obtained
      exact absurd obtains (none d member e t)
  sends := by
    intro i e sent
    rcases recorded.deeds_cases i with quiet | ⟨e', t, _, _, fenced⟩ | ⟨e', t, released⟩
    · rw [Deed.flatMap_messages_eq_nil fun d member => (quiet d member).messages] at sent
      exact absurd sent List.not_mem_nil
    · rw [fenced.messages] at sent
      exact absurd sent List.not_mem_nil
    · rw [released.messages] at sent
      obtain rfl := List.mem_singleton.1 sent
      exact ⟨t, released⟩
  once := by
    intro i d e t member obtains settled
    rcases recorded.deeds_cases i with quiet | ⟨e', t', _, stake, _⟩ | ⟨e', t', released⟩
    · exact absurd (quiet d member).held obtains.held_ne
    · cases settles settled stake
    · obtain ⟨rfl, rfl⟩ := released.eq_of_obtains member obtains
      exact ⟨released, released.messages⟩
  followed := by
    intro earlier d later e split changes
    have mine : l.deedsOf d.caller = earlier.filter (·.caller = d.caller) ++
        d :: later.filter (·.caller = d.caller) := by
      rw [Ledger.deedsOf, split, List.filter_append, List.filter_cons_of_pos (by simp)]
    have member : d ∈ l.deedsOf d.caller := by
      rw [mine]
      exact List.mem_append_right _ List.mem_cons_self
    rcases recorded.deeds_cases d.caller with quiet | ⟨e', t, _, stake, fenced⟩ | ⟨_, t, released⟩
    · exact absurd ((quiet d member).active_eq e) changes
    · obtain rfl := fenced.eq_of_active_ne member changes
      refine .inr ⟨recorded.isFenced_of_fenced stake, fun settled => ?_⟩
      cases settles settled stake
    · obtain ⟨d', inside, sends⟩ := released.sends_after mine changes
      obtain ⟨follows, same⟩ := List.mem_filter.1 inside
      exact .inl ⟨d', follows, of_decide_eq_true same, sends⟩
  current := by
    intro e n read looked nothingLost unheard free
    have heard := recorded.heard n
    rw [LocalFences.unread_of_nothing_lost nothingLost, heard.sent,
      List.drop_append_of_le_length looked] at unheard
    have silent : ∀ d ∈ l.deeds.drop n, e ∉ d.messages := by
      intro d member sent
      apply unheard
      exact List.mem_append_right _ (List.mem_flatMap.2 ⟨d, member, sent⟩)
    rcases heard.told e silent with same | ⟨t, held⟩
    · exact same
    · rw [LocalFences.isFenced, Table.contains, held] at free
      cases free
  free := by
    intro settled e
    cases held : l.state.fences.held.get? e with
    | none => rw [LocalFences.isFenced, Table.contains, held, Option.isSome_none]
    | some t =>
      have user := recorded.hosts.fences.updates.1 held
      obtain ⟨⟨i, k⟩, member, uses⟩ := (Multiset.mem_filterMap _ _).1 user
      have none := settles (settled i (called _ member)) member
      cases none.symm.trans uses
  prompt := prompt.cleanups

end World.Recorded

end Cutover
