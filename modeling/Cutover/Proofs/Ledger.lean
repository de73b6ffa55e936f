import Cutover.Proofs.Protocol

set_option autoImplicit false

namespace Cutover

/-- Something that a call has done, with the state before it and after it. -/
structure Deed (σ : Type) where
  caller : Nat
  before : σ
  after : σ

/-- A pool in which each cleanup has the number of the call that started it, with all deeds, the
oldest first. -/
structure Ledger (σ α : Type) : Type 1 where
  state : σ
  calls : List (Option (Process σ α))
  cleanups : List (Nat × Process σ Unit)
  past : List (Answered σ)
  deeds : List (Deed σ)

namespace Ledger

variable {σ α : Type}

def empty (s : σ) : Ledger σ α := ⟨s, [], [], [], []⟩

def pool (l : Ledger σ α) : Pool σ α := ⟨l.state, l.calls, l.cleanups.map (·.2), l.past⟩

def deedsOf (l : Ledger σ α) (caller : Nat) : List (Deed σ) := l.deeds.filter (·.caller = caller)

/-- A call has ended or was dropped, and all its cleanups have ended. -/
structure Settled (l : Ledger σ α) (caller : Nat) : Prop where
  call : ∀ p, l.calls[caller]? = some (some p) → ∃ a, p = .done a
  cleanups : ∀ p, (caller, p) ∈ l.cleanups → p = .done ()

theorem settled_of_ended {l : Ledger σ α}
    (calls : ∀ call ∈ l.pool.calls, ∀ p ∈ call, p.result?.isSome = true)
    (cleanups : ∀ p ∈ l.pool.cleanups, p.result?.isSome = true) (caller : Nat) :
    l.Settled caller where
  call p called := by
    obtain ⟨a, ended⟩ :=
      Option.isSome_iff_exists.1 (calls _ (List.mem_of_getElem? called) p rfl)
    exact ⟨a, Process.eq_done_of_result? ended⟩
  cleanups p started := by
    have member := List.mem_map_of_mem (f := Prod.snd) started
    obtain ⟨done, ended⟩ := Option.isSome_iff_exists.1 (cleanups p member)
    exact Process.eq_done_of_result? ended

/-- The moves of a pool, and who has made them. -/
inductive Move (admitted : Process σ α → Prop) (disturbance : σ → σ → Prop) :
    Ledger σ α → Ledger σ α → Prop where
  | call {l : Ledger σ α} {p : Process σ α} (allowed : admitted p) :
      Move admitted disturbance l { l with calls := l.calls ++ [some p] }
  | step {l : Ledger σ α} {i : Nat} {p rest : Process σ α} {sight : Sight} {s : σ}
      {started : List (Process σ Unit)} (living : l.calls[i]? = some (some p))
      (taken : p.Step l.pool.hasEnded l.cleanups.length l.state sight rest s started) :
      Move admitted disturbance l
        ⟨s, l.calls.set i (some rest), l.cleanups ++ started.map (Prod.mk i),
          l.past ++ sight.record l.state s, l.deeds ++ [⟨i, l.state, s⟩]⟩
  | drop {l : Ledger σ α} {i : Nat} {p : Process σ α} (living : l.calls[i]? = some (some p))
      (unfinished : ∀ a, p ≠ .done a) :
      Move admitted disturbance l
        ⟨(p.drop l.state).2, l.calls.set i none,
          l.cleanups ++ (p.drop l.state).1.map (Prod.mk i), l.past,
          l.deeds ++ [⟨i, l.state, (p.drop l.state).2⟩]⟩
  | clean {l : Ledger σ α} {i j : Nat} {p rest : Process σ Unit} {sight : Sight} {s : σ}
      {started : List (Process σ Unit)} (living : l.cleanups[j]? = some (i, p))
      (taken : p.Step l.pool.hasEnded l.cleanups.length l.state sight rest s started) :
      Move admitted disturbance l
        ⟨s, l.calls, l.cleanups.set j (i, rest) ++ started.map (Prod.mk i),
          l.past ++ sight.record l.state s, l.deeds ++ [⟨i, l.state, s⟩]⟩
  | disturb {l : Ledger σ α} {s : σ} (allowed : disturbance l.state s) :
      Move admitted disturbance l { l with state := s }

abbrev Reaches (admitted : Process σ α → Prop) (disturbance : σ → σ → Prop) :
    Ledger σ α → Ledger σ α → Prop :=
  Relation.ReflTransGen (Move admitted disturbance)

variable {admitted : Process σ α → Prop} {disturbance : σ → σ → Prop} {l l' : Ledger σ α}
  {pool' : Pool σ α}

theorem map_started (caller : Nat) (started : List (Process σ Unit)) :
    (started.map (Prod.mk caller)).map (·.2) = started := by
  rw [List.map_map]
  exact List.map_id started

theorem exists_move (moved : Pool.Move admitted disturbance l.pool pool') :
    ∃ l', Move admitted disturbance l l' ∧ l'.pool = pool' := by
  have count : l.pool.cleanups.length = l.cleanups.length := List.length_map _
  cases moved with
  | call allowed => exact ⟨_, .call allowed, rfl⟩
  | step living taken =>
    rw [count] at taken
    refine ⟨_, .step living taken, ?_⟩
    simp only [pool, List.map_append, map_started]
  | drop living unfinished =>
    refine ⟨_, .drop living unfinished, ?_⟩
    simp only [pool, List.map_append, map_started]
  | clean living taken =>
    rw [count] at taken
    rw [pool, List.getElem?_map, Option.map_eq_some_iff] at living
    obtain ⟨⟨caller, p⟩, found, rfl⟩ := living
    refine ⟨_, .clean found taken, ?_⟩
    simp only [pool, List.map_append, List.map_set, map_started]
  | disturb allowed => exact ⟨_, .disturb allowed, rfl⟩

theorem exists_reaches {s : σ} (reached : Pool.Reaches admitted disturbance (.empty s) pool') :
    ∃ l, Reaches admitted disturbance (empty s) l ∧ l.pool = pool' := by
  induction reached with
  | refl => exact ⟨_, .refl, rfl⟩
  | tail _ moved ih =>
    obtain ⟨l, kept, rfl⟩ := ih
    obtain ⟨l', further, same⟩ := exists_move moved
    exact ⟨l', kept.tail further, same⟩

end Ledger

variable {σ κ α : Type}

/-- What a protocol keeps: a statement about the state, the deeds, and all stakes that are held,
each with the call that it belongs to. -/
structure Protocol.Records (P : Protocol σ κ)
    (holds : σ → List (Deed σ) → Multiset (Nat × κ) → Prop) : Prop where
  moved : ∀ {i : Nat} {k k' : κ} {s s' : σ} {sight : Sight} {deeds : List (Deed σ)}
    {others : Multiset (Nat × κ)}, P.moves k s sight k' s' → holds s deeds ((i, k) ::ₘ others) →
      holds s' (deeds ++ [⟨i, s, s'⟩]) ((i, k') ::ₘ others)
  rested : ∀ {i : Nat} {k : κ} {s : σ} {deeds : List (Deed σ)} {others : Multiset (Nat × κ)},
    holds s deeds ((i, k) ::ₘ others) → holds s (deeds ++ [⟨i, s, s⟩]) ((i, k) ::ₘ others)
  split : ∀ {i : Nat} {k owed kept : κ} {s : σ} {deeds : List (Deed σ)}
    {others : Multiset (Nat × κ)}, P.splits k owed kept → holds s deeds ((i, k) ::ₘ others) →
      holds s deeds ((i, owed) ::ₘ (i, kept) ::ₘ others)

namespace Process

variable {P : Protocol σ κ} {holds : σ → List (Deed σ) → Multiset (Nat × κ) → Prop}
  {leave : κ → Prop} {post : α → κ → Prop} {i : Nat} {k : κ} {s s' : σ} {deeds : List (Deed σ)}
  {others : Multiset (Nat × κ)}

theorem Follows.step_recorded {p rest : Process σ α} {hasEnded : Nat → Prop} {number : Nat}
    {sight : Sight} {started : List (Process σ Unit)} (records : P.Records holds)
    (follows : p.Follows P leave post k) (held : holds s deeds ((i, k) ::ₘ others))
    (taken : p.Step hasEnded number s sight rest s' started) :
    ∃ (k' : κ) (stakes : List κ), rest.Follows P leave post k' ∧ P.Cleaning started stakes ∧
      holds s' (deeds ++ [⟨i, s, s'⟩]) ((i, k') ::ₘ (stakes.map (Prod.mk i) + others)) := by
  induction taken generalizing leave with
  | act action next s =>
    obtain ⟨k', moved, rest⟩ := follows.2 s
    exact ⟨k', [], rest, .nil, by simpa using records.moved moved held⟩
  | wake ready limit withdraw wake next s =>
    obtain ⟨k', moved, rest⟩ := follows.2 s
    exact ⟨k', [], rest, .nil, by simpa using records.moved moved held⟩
  | pause ms next s => exact ⟨k, [], follows.2, .nil, by simpa using records.rested held⟩
  | join next s ended => exact ⟨k, [], follows.2, .nil, by simpa using records.rested held⟩
  | inside taken ih => exact ih follows held
  | handOver destroyed result next s =>
    exact ⟨k, [], follows.2, .nil, by simpa using records.rested held⟩
  | spawn task next s =>
    obtain ⟨owed, kept, split, clean, -, rest⟩ := follows
    refine ⟨kept, [owed], rest _, .cons clean .nil, ?_⟩
    rw [List.map_singleton, Multiset.coe_singleton, Multiset.singleton_add, Multiset.cons_swap]
    exact records.split split (records.rested held)

theorem Follows.drop_recorded {p : Process σ α} (records : P.Records holds)
    (follows : p.Follows P leave post k) (ending : ∀ a, p = .done a → leave k)
    (held : holds s deeds ((i, k) ::ₘ others)) :
    ∃ (k' : κ) (stakes : List κ), leave k' ∧ P.Cleaning (p.drop s).1 stakes ∧
      holds (p.drop s).2 (deeds ++ [⟨i, s, (p.drop s).2⟩])
        ((i, k') ::ₘ (stakes.map (Prod.mk i) + others)) := by
  induction p generalizing leave k others with
  | done a => exact ⟨k, [], ending a rfl, .nil, by simpa [Process.drop] using records.rested held⟩
  | act action next ih =>
    exact ⟨k, [], follows.1, .nil, by simpa [Process.drop] using records.rested held⟩
  | waiting ready limit withdraw wake next ih =>
    obtain ⟨k', moved, left⟩ := follows.1 s
    exact ⟨k', [], left, .nil, by simpa [Process.drop] using records.moved moved held⟩
  | pause ms next ih =>
    exact ⟨k, [], follows.1, .nil, by simpa [Process.drop] using records.rested held⟩
  | join task next ih =>
    exact ⟨k, [], follows.1, .nil, by simpa [Process.drop] using records.rested held⟩
  | spawn task next _ ih =>
    obtain ⟨owed, kept, split, clean, left, -⟩ := follows
    refine ⟨kept, [owed], left, .cons clean .nil, ?_⟩
    rw [List.map_singleton, Multiset.coe_singleton, Multiset.singleton_add, Multiset.cons_swap]
    exact records.split split (records.rested held)
  | owning destroyed body next _ ihBody ih =>
    have ended : ∀ b, body = .done b → ∃ owed kept, P.splits k owed kept ∧
        destroyed.Follows P (fun _ => True) (fun _ => P.settled) owed ∧ leave kept := by
      rintro b rfl
      exact follows.1
    obtain ⟨k', stakes, ⟨owed, kept, split, clean, left⟩, cleaning, held⟩ :=
      ihBody follows ended held
    refine ⟨kept, stakes ++ [owed], left, List.rel_append cleaning (.cons clean .nil), ?_⟩
    have gathered : (((stakes ++ [owed]).map (Prod.mk i) : List (Nat × κ)) : Multiset (Nat × κ)) +
        others = (i, owed) ::ₘ (stakes.map (Prod.mk i) + others) := by
      rw [List.map_append, List.map_singleton, ← Multiset.coe_add, Multiset.coe_singleton,
        Multiset.add_comm (stakes.map (Prod.mk i) : Multiset (Nat × κ)), Multiset.add_assoc,
        Multiset.singleton_add]
    rw [gathered, Multiset.cons_swap]
    exact records.split split held

end Process

namespace Ledger

variable {P : Protocol σ κ} {holds : σ → List (Deed σ) → Multiset (Nat × κ) → Prop}
  {post : α → κ → Prop} {admitted : Process σ α → Prop} {disturbance : σ → σ → Prop}
  {l l' : Ledger σ α} {s : σ}

/-- Only calls that were made have done something or have started cleanups. -/
structure InOrder (l : Ledger σ α) : Prop where
  deeds : ∀ d ∈ l.deeds, d.caller < l.calls.length
  cleanups : ∀ c ∈ l.cleanups, c.1 < l.calls.length

theorem inOrder_empty : (empty s : Ledger σ α).InOrder := ⟨nofun, nofun⟩

theorem InOrder.act (inOrder : l.InOrder) {i : Nat} (called : i < l.calls.length) (s s' : σ)
    {calls : List (Option (Process σ α))} (same : calls.length = l.calls.length)
    {cleanups : List (Nat × Process σ Unit)}
    (old : ∀ c ∈ cleanups, c.1 = i ∨ c ∈ l.cleanups) (past : List (Answered σ)) :
    (⟨s', calls, cleanups, past, l.deeds ++ [⟨i, s, s'⟩]⟩ : Ledger σ α).InOrder where
  deeds d member := by
    change d.caller < calls.length
    rw [same]
    rcases List.mem_append.1 member with before | new
    · exact inOrder.deeds d before
    · rw [List.mem_singleton.1 new]
      exact called
  cleanups c member := by
    change c.1 < calls.length
    rw [same]
    rcases old c member with here | before
    · rw [here]
      exact called
    · exact inOrder.cleanups c before

theorem mem_append_started {i : Nat} {cleanups : List (Nat × Process σ Unit)}
    {started : List (Process σ Unit)} {c : Nat × Process σ Unit}
    (member : c ∈ cleanups ++ started.map (Prod.mk i)) : c ∈ cleanups ∨ c.1 = i := by
  rcases List.mem_append.1 member with before | new
  · exact .inl before
  · obtain ⟨p, _, rfl⟩ := List.mem_map.1 new
    exact .inr rfl

theorem InOrder.move (inOrder : l.InOrder) (moved : Move admitted disturbance l l') :
    l'.InOrder := by
  cases moved with
  | call allowed =>
    constructor
    · intro d member
      have called := inOrder.deeds d member
      rw [List.length_append]
      omega
    · intro c member
      have called := inOrder.cleanups c member
      rw [List.length_append]
      omega
  | step living taken =>
    have called := (List.getElem?_eq_some_iff.1 living).1
    apply inOrder.act called _ _ (List.length_set ..)
    exact fun c member => (mem_append_started member).symm
  | drop living unfinished =>
    have called := (List.getElem?_eq_some_iff.1 living).1
    apply inOrder.act called _ _ (List.length_set ..)
    exact fun c member => (mem_append_started member).symm
  | clean living taken =>
    have called := inOrder.cleanups _ (List.mem_of_getElem? living)
    apply inOrder.act called _ _ rfl
    intro c member
    rcases mem_append_started member with before | new
    · rcases List.mem_or_eq_of_mem_set before with old | here
      · exact .inr old
      · rw [here]
        exact .inl rfl
    · exact .inl new
  | disturb allowed => exact ⟨inOrder.deeds, inOrder.cleanups⟩

theorem inOrder_reaches (reached : Reaches admitted disturbance (empty s) l) : l.InOrder := by
  induction reached with
  | refl => exact inOrder_empty
  | tail _ moved ih => exact ih.move moved

/-- Stakes of calls, each with the number of its call. -/
def numbered (stakes : List κ) : List (Nat × κ) := stakes.mapIdx Prod.mk

theorem numbered_append (stakes : List κ) (k : κ) :
    numbered (stakes ++ [k]) = numbered stakes ++ [(stakes.length, k)] := List.mapIdx_concat

theorem getElem?_numbered {stakes : List κ} {i : Nat} {k : κ} (found : stakes[i]? = some k) :
    (numbered stakes)[i]? = some (i, k) := by
  rw [numbered, List.getElem?_mapIdx, found, Option.map_some]

theorem coe_numbered {stakes : List κ} {i : Nat} {k : κ} (found : stakes[i]? = some k) :
    (numbered stakes : Multiset (Nat × κ)) =
      (i, k) ::ₘ ((numbered stakes).eraseIdx i : Multiset (Nat × κ)) :=
  coe_eq_cons_eraseIdx (getElem?_numbered found)

theorem coe_numbered_set {stakes : List κ} {i : Nat} {k : κ} (found : stakes[i]? = some k)
    (k' : κ) : (numbered (stakes.set i k') : Multiset (Nat × κ)) =
      (i, k') ::ₘ ((numbered stakes).eraseIdx i : Multiset (Nat × κ)) := by
  rw [numbered, List.mapIdx_set]
  exact coe_set (getElem?_numbered found) _

theorem lt_of_mem_numbered {stakes : List κ} {x : Nat × κ} (member : x ∈ numbered stakes) :
    x.1 < stakes.length := by
  obtain ⟨i, inside, rfl⟩ := List.mem_mapIdx.1 member
  exact inside

theorem mem_numbered {stakes : List κ} {i : Nat} {k : κ} :
    (i, k) ∈ numbered stakes ↔ stakes[i]? = some k := by
  constructor
  · intro member
    obtain ⟨j, inside, same⟩ := List.mem_mapIdx.1 member
    obtain ⟨rfl, rfl⟩ := Prod.mk.inj same
    exact List.getElem?_eq_getElem inside
  · exact fun found => List.mem_of_getElem? (getElem?_numbered found)

/-- A cleanup and its stake belong to the same call. -/
def Cleaning (P : Protocol σ κ) (c : Nat × Process σ Unit) (k : Nat × κ) : Prop :=
  c.1 = k.1 ∧ c.2.Follows P (fun _ => True) (fun _ => P.settled) k.2

theorem cleaning_started {started : List (Process σ Unit)} {stakes : List κ} (i : Nat)
    (cleaning : P.Cleaning started stakes) :
    List.Forall₂ (Cleaning P) (started.map (Prod.mk i)) (stakes.map (Prod.mk i)) := by
  rw [List.forall₂_map_left_iff, List.forall₂_map_right_iff]
  exact List.Forall₂.imp (fun p k follows => ⟨rfl, follows⟩) cleaning

theorem InOrder.called (inOrder : l.InOrder) {calls : List κ} {cleanups : List (Nat × κ)}
    (count : l.calls.length = calls.length)
    (cleaning : List.Forall₂ (Cleaning P) l.cleanups cleanups) :
    ∀ x ∈ (numbered calls : Multiset (Nat × κ)) + cleanups, x.1 < l.calls.length := by
  intro x member
  rcases Multiset.mem_add.1 member with call | cleanup
  · rw [count]
    exact lt_of_mem_numbered (Multiset.mem_coe.1 call)
  · obtain ⟨j, found⟩ := List.mem_iff_getElem?.1 (Multiset.mem_coe.1 cleanup)
    obtain ⟨c, living, here, _⟩ := forall₂_getElem? (List.Forall₂.flip cleaning) found
    rw [← here]
    exact inOrder.cleanups c (List.mem_of_getElem? living)

def Keeps (P : Protocol σ κ) (holds : σ → List (Deed σ) → Multiset (Nat × κ) → Prop)
    (post : α → κ → Prop) (l : Ledger σ α) : Prop :=
  ∃ (calls : List κ) (cleanups : List (Nat × κ)),
    List.Forall₂ (P.Calling post) l.calls calls ∧
    List.Forall₂ (Cleaning P) l.cleanups cleanups ∧
    holds l.state l.deeds ((numbered calls : Multiset (Nat × κ)) + cleanups)

theorem keeps_empty (held : holds s [] 0) : (empty s : Ledger σ α).Keeps P holds post :=
  ⟨[], [], .nil, .nil, held⟩

/-- What a protocol keeps is kept by every move, if the calls that can be made follow the protocol
and disturbances keep it too. -/
theorem Keeps.move (records : P.Records holds)
    (follows : ∀ p, admitted p → ∃ k, p.Follows P P.settled post k ∧
      ∀ s deeds others i, (∀ x ∈ others, x.1 ≠ i) → (∀ d ∈ deeds, d.caller ≠ i) →
        holds s deeds others → holds s deeds ((i, k) ::ₘ others))
    (undisturbed : ∀ s s' deeds others, disturbance s s' → holds s deeds others →
      holds s' deeds others)
    (inOrder : l.InOrder) (kept : l.Keeps P holds post)
    (moved : Move admitted disturbance l l') : l'.Keeps P holds post := by
  obtain ⟨calls, cleanups, calling, cleaning, held⟩ := kept
  cases moved with
  | call allowed =>
    obtain ⟨k, following, enters⟩ := follows _ allowed
    have count := calling.length_eq
    refine ⟨calls ++ [k], cleanups, List.rel_append calling (.cons following .nil), cleaning, ?_⟩
    rw [numbered_append, ← Multiset.coe_add, Multiset.coe_singleton, Multiset.add_comm
      (numbered calls : Multiset (Nat × κ)), Multiset.add_assoc, Multiset.singleton_add]
    apply enters _ _ _ _ ?_ ?_ held
    · intro x member same
      have called := inOrder.called count cleaning x member
      omega
    · intro d member same
      have called := inOrder.deeds d member
      omega
  | step living taken =>
    rename_i i p rest sight s started
    obtain ⟨k, found, following⟩ := forall₂_getElem? calling living
    rw [coe_numbered found, Multiset.cons_add] at held
    obtain ⟨k', stakes, followed, begun, held⟩ := following.step_recorded records held taken
    refine ⟨calls.set i k', cleanups ++ stakes.map (Prod.mk i),
      forall₂_set (a := some rest) calling followed i,
      List.rel_append cleaning (cleaning_started i begun), ?_⟩
    rw [coe_numbered_set found, Multiset.cons_add, add_coe_append]
    exact held
  | drop living unfinished =>
    rename_i i p
    obtain ⟨k, found, following⟩ := forall₂_getElem? calling living
    rw [coe_numbered found, Multiset.cons_add] at held
    obtain ⟨k', stakes, left, begun, held⟩ :=
      following.drop_recorded records (fun a ended => absurd ended (unfinished a)) held
    refine ⟨calls.set i k', cleanups ++ stakes.map (Prod.mk i),
      forall₂_set (a := none) calling left i,
      List.rel_append cleaning (cleaning_started i begun), ?_⟩
    rw [coe_numbered_set found, Multiset.cons_add, add_coe_append]
    exact held
  | clean living taken =>
    rename_i i j p rest sight s started
    obtain ⟨⟨i', k⟩, found, rfl, following⟩ := forall₂_getElem? cleaning living
    rw [coe_eq_cons_eraseIdx found, Multiset.add_cons] at held
    obtain ⟨k', stakes, followed, begun, held⟩ := following.step_recorded records held taken
    refine ⟨calls, cleanups.set j (i, k') ++ stakes.map (Prod.mk i), calling,
      List.rel_append (forall₂_set cleaning ⟨rfl, followed⟩ j) (cleaning_started i begun), ?_⟩
    rw [add_coe_append, coe_set found, Multiset.add_cons, Multiset.add_cons]
    exact held
  | disturb allowed =>
    exact ⟨calls, cleanups, calling, cleaning, undisturbed _ _ _ _ allowed held⟩

theorem Keeps.reaches (records : P.Records holds)
    (follows : ∀ p, admitted p → ∃ k, p.Follows P P.settled post k ∧
      ∀ s deeds others i, (∀ x ∈ others, x.1 ≠ i) → (∀ d ∈ deeds, d.caller ≠ i) →
        holds s deeds others → holds s deeds ((i, k) ::ₘ others))
    (undisturbed : ∀ s s' deeds others, disturbance s s' → holds s deeds others →
      holds s' deeds others)
    (held : holds s [] 0) (reached : Reaches admitted disturbance (empty s) l) :
    l.Keeps P holds post := by
  induction reached with
  | refl => exact keeps_empty held
  | tail before moved ih => exact ih.move records follows undisturbed (inOrder_reaches before) moved

theorem Settled.stakes {caller : Nat} (settled : l.Settled caller) {calls : List κ}
    {cleanups : List (Nat × κ)} (calling : List.Forall₂ (P.Calling post) l.calls calls)
    (cleaning : List.Forall₂ (Cleaning P) l.cleanups cleanups)
    (ended : ∀ a k, post a k → P.settled k) {k : κ}
    (member : (caller, k) ∈ (numbered calls : Multiset (Nat × κ)) + cleanups) : P.settled k := by
  rcases Multiset.mem_add.1 member with call | cleanup
  · obtain ⟨p, living, follows⟩ :=
      forall₂_getElem? (List.Forall₂.flip calling) (mem_numbered.1 (Multiset.mem_coe.1 call))
    cases p with
    | none => exact follows
    | some p =>
      obtain ⟨a, rfl⟩ := settled.call p living
      exact ended a k follows
  · obtain ⟨j, found⟩ := List.mem_iff_getElem?.1 (Multiset.mem_coe.1 cleanup)
    obtain ⟨⟨i, p⟩, living, rfl, follows⟩ :=
      forall₂_getElem? (List.Forall₂.flip cleaning) found
    obtain rfl := settled.cleanups p (List.mem_of_getElem? living)
    exact follows

end Ledger

namespace Process

variable {β : Type} {good : Process σ Unit → Prop}

def EndsNext (p : Process σ Unit) : Prop :=
  ∃ (β : Type) (action : σ → β × σ), p = .act action fun _ => .done ()

/-- All cleanups that a process can leave are good. -/
def Leaves (good : Process σ Unit → Prop) : {α : Type} → Process σ α → Prop
  | _, .done _ => True
  | _, .act _ next => ∀ b, (next b).Leaves good
  | _, .waiting _ _ _ _ next => ∀ b, (next b).Leaves good
  | _, .pause _ next => next.Leaves good
  | _, .join _ next => next.Leaves good
  | _, .spawn task next => good task ∧ ∀ number, (next number).Leaves good
  | _, .owning destroyed body next =>
      good destroyed ∧ body.Leaves good ∧ ∀ b, (next b).Leaves good

theorem Leaves.bind {p : Process σ α} {f : α → Process σ β} (leaves : p.Leaves good)
    (after : ∀ a, (f a).Leaves good) : (p.bind f).Leaves good := by
  induction p with
  | done a => exact after a
  | act action next ih => exact fun b => ih b (leaves b) after
  | waiting ready limit withdraw wake next ih => exact fun b => ih b (leaves b) after
  | pause ms next ih => exact ih leaves after
  | join task next ih => exact ih leaves after
  | spawn task next _ ih => exact ⟨leaves.1, fun number => ih number (leaves.2 number) after⟩
  | owning destroyed body next _ _ ih =>
    exact ⟨leaves.1, leaves.2.1, fun b => ih b (leaves.2.2 b) after⟩

theorem Leaves.step {p rest : Process σ α} {hasEnded : Nat → Prop} {number : Nat} {s s' : σ}
    {sight : Sight} {started : List (Process σ Unit)} (leaves : p.Leaves good)
    (taken : p.Step hasEnded number s sight rest s' started) :
    rest.Leaves good ∧ ∀ c ∈ started, good c := by
  induction taken with
  | act action next s => exact ⟨leaves _, List.forall_mem_nil _⟩
  | wake ready limit withdraw wake next s => exact ⟨leaves _, List.forall_mem_nil _⟩
  | pause ms next s => exact ⟨leaves, List.forall_mem_nil _⟩
  | join next s ended => exact ⟨leaves, List.forall_mem_nil _⟩
  | inside taken ih =>
    obtain ⟨rest, started⟩ := ih leaves.2.1
    exact ⟨⟨leaves.1, rest, leaves.2.2⟩, started⟩
  | spawn task next s => exact ⟨leaves.2 _, List.forall_mem_singleton.2 leaves.1⟩
  | handOver destroyed result next s => exact ⟨leaves.2.2 result, List.forall_mem_nil _⟩

theorem Leaves.drop {p : Process σ α} (leaves : p.Leaves good) (s : σ) :
    ∀ c ∈ (p.drop s).1, good c := by
  induction p with
  | spawn task next _ _ => exact List.forall_mem_singleton.2 leaves.1
  | owning destroyed body next _ ihBody _ =>
    intro c member
    rcases List.mem_append.1 member with inner | own
    · exact ihBody leaves.2.1 c inner
    · rw [List.mem_singleton.1 own]
      exact leaves.1
  | _ => exact List.forall_mem_nil _

theorem EndsNext.step {p rest : Process σ Unit} {hasEnded : Nat → Prop} {number : Nat} {s s' : σ}
    {sight : Sight} {started : List (Process σ Unit)} (endsNext : p.EndsNext)
    (taken : p.Step hasEnded number s sight rest s' started) : rest = .done () ∧ started = [] := by
  obtain ⟨β, action, rfl⟩ := endsNext
  cases taken
  exact ⟨rfl, rfl⟩

end Process

namespace Ledger

variable {admitted : Process σ α → Prop} {disturbance : σ → σ → Prop} {l l' : Ledger σ α} {s : σ}

/-- All cleanups have ended or end with their next action, and so will all that are to come. -/
structure Prompt (l : Ledger σ α) : Prop where
  calls : ∀ p, some p ∈ l.calls → p.Leaves Process.EndsNext
  cleanups : ∀ c ∈ l.cleanups, c.2 = .done () ∨ c.2.EndsNext

theorem mem_set_some {calls : List (Option (Process σ α))} {i : Nat} {p : Process σ α}
    {new : Option (Process σ α)} (member : some p ∈ calls.set i new) :
    some p ∈ calls ∨ new = some p := by
  rcases List.mem_or_eq_of_mem_set member with old | here
  · exact .inl old
  · exact .inr here.symm

theorem prompt_append_started {i : Nat} {cleanups : List (Nat × Process σ Unit)}
    {started : List (Process σ Unit)} (old : ∀ c ∈ cleanups, c.2 = .done () ∨ c.2.EndsNext)
    (new : ∀ p ∈ started, p.EndsNext) :
    ∀ c ∈ cleanups ++ started.map (Prod.mk i), c.2 = .done () ∨ c.2.EndsNext := by
  intro c member
  rcases List.mem_append.1 member with before | begun
  · exact old c before
  · obtain ⟨p, inside, rfl⟩ := List.mem_map.1 begun
    exact .inr (new p inside)

theorem Prompt.move (prompt : l.Prompt) (calls : ∀ p, admitted p → p.Leaves Process.EndsNext)
    (moved : Move admitted disturbance l l') : l'.Prompt := by
  cases moved with
  | call allowed =>
    refine ⟨fun p member => ?_, prompt.cleanups⟩
    rcases List.mem_append.1 member with before | new
    · exact prompt.calls p before
    · rw [Option.some_inj.1 (List.mem_singleton.1 new)]
      exact calls _ allowed
  | step living taken =>
    obtain ⟨rest, started⟩ := (prompt.calls _ (List.mem_of_getElem? living)).step taken
    refine ⟨fun p member => ?_, prompt_append_started prompt.cleanups started⟩
    rcases mem_set_some member with before | new
    · exact prompt.calls p before
    · rw [← Option.some_inj.1 new]
      exact rest
  | drop living unfinished =>
    have left := (prompt.calls _ (List.mem_of_getElem? living)).drop l.state
    refine ⟨fun p member => ?_, prompt_append_started prompt.cleanups left⟩
    rcases mem_set_some member with before | new
    · exact prompt.calls p before
    · exact nomatch new
  | clean living taken =>
    rename_i i j p rest sight s started
    refine ⟨prompt.calls, ?_⟩
    rcases prompt.cleanups _ (List.mem_of_getElem? living) with ended | endsNext
    · obtain rfl : p = .done () := ended
      cases taken
    · obtain ⟨rfl, rfl⟩ := endsNext.step taken
      refine prompt_append_started (fun c member => ?_) (List.forall_mem_nil _)
      rcases List.mem_or_eq_of_mem_set member with old | here
      · exact prompt.cleanups c old
      · rw [here]
        exact .inl rfl
  | disturb allowed => exact ⟨prompt.calls, prompt.cleanups⟩

theorem Prompt.reaches (calls : ∀ p, admitted p → p.Leaves Process.EndsNext)
    (reached : Reaches admitted disturbance (empty s) l) : l.Prompt := by
  induction reached with
  | refl => exact ⟨fun _ member => absurd member List.not_mem_nil, List.forall_mem_nil _⟩
  | tail _ moved ih => exact ih.move calls moved

end Ledger

end Cutover
