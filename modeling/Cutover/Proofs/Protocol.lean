import Cutover.Proofs.Interleaving
import Mathlib.Data.List.Forall2
import Mathlib.Data.List.Perm.Basic
import Mathlib.Data.Multiset.AddSub

set_option autoImplicit false

namespace Cutover

variable {σ κ α β : Type}

/-- How a stake and the state change in a step with a given sight, how a stake is divided between a
cleanup and the task that goes on, and with which stakes a task may end or be dropped. -/
structure Protocol (σ κ : Type) where
  moves : κ → σ → Sight → κ → σ → Prop
  splits : κ → κ → κ → Prop
  settled : κ → Prop

namespace Process

/-- A process keeps to a protocol from a stake on. Wherever it can be dropped its stake satisfies
`leave`, and it ends with a result and a stake that satisfy `post`. -/
def Follows (P : Protocol σ κ) : {α : Type} →
    Process σ α → (κ → Prop) → (α → κ → Prop) → κ → Prop
  | _, .done a, _, post, k => post a k
  | _, .act action next, leave, post, k =>
      leave k ∧ ∀ s, ∃ k', P.moves k s (.answer (action s).1) k' (action s).2 ∧
        (next (action s).1).Follows P leave post k'
  | _, .waiting _ _ withdraw wake next, leave, post, k =>
      (∀ s, ∃ k', P.moves k s .nothing k' (withdraw s) ∧ leave k') ∧
        ∀ s, ∃ k', P.moves k s (.answer (wake s).1) k' (wake s).2 ∧
          (next (wake s).1).Follows P leave post k'
  | _, .pause _ next, leave, post, k => leave k ∧ next.Follows P leave post k
  | _, .join _ next, leave, post, k => leave k ∧ next.Follows P leave post k
  | _, .spawn task next, leave, post, k =>
      ∃ owed kept, P.splits k owed kept ∧
        task.Follows P (fun _ => True) (fun _ => P.settled) owed ∧ leave kept ∧
        ∀ number, (next number).Follows P leave post kept
  | _, .owning destroyed body next, leave, post, k =>
      body.Follows P
        (fun k => ∃ owed kept, P.splits k owed kept ∧
          destroyed.Follows P (fun _ => True) (fun _ => P.settled) owed ∧ leave kept)
        (fun b k => (∃ owed kept, P.splits k owed kept ∧
          destroyed.Follows P (fun _ => True) (fun _ => P.settled) owed ∧ leave kept) ∧
          (next b).Follows P leave post k) k

variable {P : Protocol σ κ} {leave : κ → Prop} {k : κ}

theorem Follows.mono {p : Process σ α} {leave' : κ → Prop} {post post' : α → κ → Prop}
    (left : ∀ k, leave k → leave' k) (ended : ∀ a k, post a k → post' a k)
    (follows : p.Follows P leave post k) : p.Follows P leave' post' k := by
  induction p generalizing leave leave' k with
  | done a => exact ended a k follows
  | act action next ih =>
    refine ⟨left k follows.1, fun s => ?_⟩
    obtain ⟨k', moved, rest⟩ := follows.2 s
    exact ⟨k', moved, ih _ left ended rest⟩
  | waiting ready limit withdraw wake next ih =>
    refine ⟨fun s => ?_, fun s => ?_⟩
    · obtain ⟨k', moved, gone⟩ := follows.1 s
      exact ⟨k', moved, left k' gone⟩
    · obtain ⟨k', moved, rest⟩ := follows.2 s
      exact ⟨k', moved, ih _ left ended rest⟩
  | pause ms next ih => exact ⟨left k follows.1, ih left ended follows.2⟩
  | join task next ih => exact ⟨left k follows.1, ih left ended follows.2⟩
  | spawn task next _ ih =>
    obtain ⟨owed, kept, split, clean, gone, rest⟩ := follows
    exact ⟨owed, kept, split, clean, left kept gone,
      fun number => ih number left ended (rest number)⟩
  | owning destroyed body next _ ihBody ih =>
    refine ihBody ?_ ?_ follows
    · rintro k ⟨owed, kept, split, clean, gone⟩
      exact ⟨owed, kept, split, clean, left kept gone⟩
    · rintro b k ⟨⟨owed, kept, split, clean, gone⟩, rest⟩
      exact ⟨⟨owed, kept, split, clean, left kept gone⟩, ih b left ended rest⟩

/-- A sequence follows a protocol if its second part does from wherever the first may end. -/
theorem Follows.bind {p : Process σ α} {f : α → Process σ β} {post : β → κ → Prop}
    (follows : p.Follows P leave (fun a k => (f a).Follows P leave post k) k) :
    (p.bind f).Follows P leave post k := by
  induction p generalizing k with
  | done a => exact follows
  | act action next ih =>
    refine ⟨follows.1, fun s => ?_⟩
    obtain ⟨k', moved, rest⟩ := follows.2 s
    exact ⟨k', moved, ih _ rest⟩
  | waiting ready limit withdraw wake next ih =>
    refine ⟨follows.1, fun s => ?_⟩
    obtain ⟨k', moved, rest⟩ := follows.2 s
    exact ⟨k', moved, ih _ rest⟩
  | pause ms next ih => exact ⟨follows.1, ih follows.2⟩
  | join task next ih => exact ⟨follows.1, ih follows.2⟩
  | spawn task next _ ih =>
    obtain ⟨owed, kept, split, clean, gone, rest⟩ := follows
    exact ⟨owed, kept, split, clean, gone, fun number => ih number (rest number)⟩
  | owning destroyed body next _ _ ih =>
    exact Follows.mono (p := body) (fun _ gone => gone) (fun b k both => ⟨both.1, ih b both.2⟩)
      follows

/-- A process on a part of a larger state follows a protocol of the larger state, in which the steps
of its own protocol have their place. -/
theorem Follows.within {τ κ' : Type} {P' : Protocol τ κ'} {get : τ → σ} {set : τ → σ → τ}
    {place : κ → κ'}
    (moves : ∀ {k k' : κ} {t : τ} {sight : Sight} {s : σ}, P.moves k (get t) sight k' s →
      P'.moves (place k) t sight (place k') (set t s))
    (splits : ∀ {k owed kept : κ}, P.splits k owed kept →
      P'.splits (place k) (place owed) (place kept))
    (settled : ∀ {k : κ}, P.settled k → P'.settled (place k)) {p : Process σ α}
    {leave' : κ' → Prop} {post : α → κ → Prop} {post' : α → κ' → Prop}
    (left : ∀ k, leave k → leave' (place k)) (ended : ∀ a k, post a k → post' a (place k))
    (follows : p.Follows P leave post k) :
    (p.within get set).Follows P' leave' post' (place k) := by
  induction p generalizing leave leave' k with
  | done a => exact ended a k follows
  | act action next ih =>
    refine ⟨left k follows.1, fun t => ?_⟩
    obtain ⟨k', moved, rest⟩ := follows.2 (get t)
    exact ⟨place k', moves moved, ih _ left ended rest⟩
  | waiting ready limit withdraw wake next ih =>
    refine ⟨fun t => ?_, fun t => ?_⟩
    · obtain ⟨k', moved, gone⟩ := follows.1 (get t)
      exact ⟨place k', moves moved, left k' gone⟩
    · obtain ⟨k', moved, rest⟩ := follows.2 (get t)
      exact ⟨place k', moves moved, ih _ left ended rest⟩
  | pause ms next ih => exact ⟨left k follows.1, ih left ended follows.2⟩
  | join task next ih => exact ⟨left k follows.1, ih left ended follows.2⟩
  | spawn task next ihTask ih =>
    obtain ⟨owed, kept, split, clean, gone, rest⟩ := follows
    exact ⟨place owed, place kept, splits split,
      ihTask (fun _ _ => trivial) (fun _ _ => settled) clean, left kept gone,
      fun number => ih number left ended (rest number)⟩
  | owning destroyed body next ihDestroyed ihBody ih =>
    have cleans : ∀ {k}, destroyed.Follows P (fun _ => True) (fun _ => P.settled) k →
        (destroyed.within get set).Follows P' (fun _ => True) (fun _ => P'.settled) (place k) :=
      ihDestroyed (fun _ _ => trivial) (fun _ _ => settled)
    refine ihBody ?_ ?_ follows
    · rintro k ⟨owed, kept, split, clean, gone⟩
      exact ⟨place owed, place kept, splits split, cleans clean, left kept gone⟩
    · rintro b k ⟨⟨owed, kept, split, clean, gone⟩, rest⟩
      exact ⟨⟨place owed, place kept, splits split, cleans clean, left kept gone⟩,
        ih b left ended rest⟩

end Process

/-- What a protocol keeps: a statement about the state, the past and all stakes that are held. -/
structure Protocol.Keeps (P : Protocol σ κ)
    (holds : σ → List (Answered σ) → Multiset κ → Prop) : Prop where
  moved : ∀ {k k' : κ} {s s' : σ} {sight : Sight} {past : List (Answered σ)} {others : Multiset κ},
    P.moves k s sight k' s' → holds s past (k ::ₘ others) →
      holds s' (past ++ sight.record s s') (k' ::ₘ others)
  split : ∀ {k owed kept : κ} {s : σ} {past : List (Answered σ)} {others : Multiset κ},
    P.splits k owed kept → holds s past (k ::ₘ others) → holds s past (owed ::ₘ kept ::ₘ others)

abbrev Protocol.Cleaning (P : Protocol σ κ) : List (Process σ Unit) → List κ → Prop :=
  List.Forall₂ fun p k => p.Follows P (fun _ => True) (fun _ => P.settled) k

namespace Process

variable {P : Protocol σ κ} {holds : σ → List (Answered σ) → Multiset κ → Prop}
  {leave : κ → Prop} {post : α → κ → Prop} {k : κ} {s s' : σ} {past : List (Answered σ)}
  {others : Multiset κ}

/-- What a step of a process does to the stakes: its own changes, and the cleanups that it starts
hold new ones. -/
theorem Follows.step {p rest : Process σ α} {hasEnded : Nat → Prop} {number : Nat} {sight : Sight}
    {started : List (Process σ Unit)} (keeps : P.Keeps holds)
    (follows : p.Follows P leave post k) (held : holds s past (k ::ₘ others))
    (taken : p.Step hasEnded number s sight rest s' started) :
    ∃ k' stakes, rest.Follows P leave post k' ∧ P.Cleaning started stakes ∧
      holds s' (past ++ sight.record s s') (k' ::ₘ (stakes + others)) := by
  induction taken generalizing leave with
  | act action next s =>
    obtain ⟨k', moved, rest⟩ := follows.2 s
    exact ⟨k', [], rest, .nil, by simpa using keeps.moved moved held⟩
  | wake ready limit withdraw wake next s =>
    obtain ⟨k', moved, rest⟩ := follows.2 s
    exact ⟨k', [], rest, .nil, by simpa using keeps.moved moved held⟩
  | pause ms next s => exact ⟨k, [], follows.2, .nil, by simpa [Sight.record] using held⟩
  | join next s ended => exact ⟨k, [], follows.2, .nil, by simpa [Sight.record] using held⟩
  | inside taken ih => exact ih follows held
  | spawn task next s =>
    obtain ⟨owed, kept, split, clean, -, rest⟩ := follows
    refine ⟨kept, [owed], rest _, .cons clean .nil, ?_⟩
    rw [Multiset.coe_singleton, Multiset.singleton_add, Multiset.cons_swap]
    simpa [Sight.record] using keeps.split split held
  | handOver destroyed result next s =>
    exact ⟨k, [], follows.2, .nil, by simpa [Sight.record] using held⟩

/-- What the drop of a process does to the stakes: it keeps one with which it may leave, and the
tasks that it leaves behind hold new ones. -/
theorem Follows.drop {p : Process σ α} (keeps : P.Keeps holds)
    (follows : p.Follows P leave post k) (ending : ∀ a, p = .done a → leave k)
    (held : holds s past (k ::ₘ others)) :
    ∃ k' stakes, leave k' ∧ P.Cleaning (p.drop s).1 stakes ∧
      holds (p.drop s).2 past (k' ::ₘ (stakes + others)) := by
  induction p generalizing leave k s others with
  | done a => exact ⟨k, [], ending a rfl, .nil, by simpa [Process.drop] using held⟩
  | act action next ih => exact ⟨k, [], follows.1, .nil, by simpa [Process.drop] using held⟩
  | waiting ready limit withdraw wake next ih =>
    obtain ⟨k', moved, left⟩ := follows.1 s
    refine ⟨k', [], left, .nil, ?_⟩
    simpa [Process.drop, Sight.record] using keeps.moved moved held
  | pause ms next ih => exact ⟨k, [], follows.1, .nil, by simpa [Process.drop] using held⟩
  | join task next ih => exact ⟨k, [], follows.1, .nil, by simpa [Process.drop] using held⟩
  | spawn task next _ ih =>
    obtain ⟨owed, kept, split, clean, left, -⟩ := follows
    refine ⟨kept, [owed], left, .cons clean .nil, ?_⟩
    rw [Multiset.coe_singleton, Multiset.singleton_add, Multiset.cons_swap]
    exact keeps.split split held
  | owning destroyed body next _ ihBody ih =>
    have ended : ∀ b, body = .done b → ∃ owed kept, P.splits k owed kept ∧
        destroyed.Follows P (fun _ => True) (fun _ => P.settled) owed ∧ leave kept := by
      rintro b rfl
      exact follows.1
    obtain ⟨k', stakes, ⟨owed, kept, split, clean, left⟩, cleaning, held⟩ :=
      ihBody follows ended held
    refine ⟨kept, stakes ++ [owed], left, List.rel_append cleaning (.cons clean .nil), ?_⟩
    have gathered : ((stakes ++ [owed] : List κ) : Multiset κ) + others =
        owed ::ₘ (stakes + others) := by
      rw [← Multiset.coe_add, Multiset.coe_singleton, Multiset.add_comm (stakes : Multiset κ),
        Multiset.add_assoc, Multiset.singleton_add]
    rw [gathered, Multiset.cons_swap]
    exact keeps.split split held

end Process

/-- What a call and its stake have to do with each other; a dropped call may have left. -/
def Protocol.Calling (P : Protocol σ κ) (post : α → κ → Prop) : Option (Process σ α) → κ → Prop
  | some p, k => p.Follows P P.settled post k
  | none, k => P.settled k

def Pool.Keeps (P : Protocol σ κ) (holds : σ → List (Answered σ) → Multiset κ → Prop)
    (post : α → κ → Prop) (pool : Pool σ α) : Prop :=
  ∃ calls cleanups : List κ, List.Forall₂ (P.Calling post) pool.calls calls ∧
    P.Cleaning pool.cleanups cleanups ∧
    holds pool.state pool.past ((calls : Multiset κ) + cleanups)

theorem forall₂_getElem? {γ δ : Type*} {R : γ → δ → Prop} {as : List γ} {bs : List δ}
    (related : List.Forall₂ R as bs) {i : Nat} {a : γ} (found : as[i]? = some a) :
    ∃ b, bs[i]? = some b ∧ R a b := by
  induction related generalizing i with
  | nil => simp at found
  | cons first _ ih =>
    cases i with
    | zero =>
      rw [List.getElem?_cons_zero, Option.some_inj] at found
      exact ⟨_, rfl, found ▸ first⟩
    | succ i => exact ih found

theorem forall₂_set {γ δ : Type*} {R : γ → δ → Prop} {as : List γ} {bs : List δ} {a : γ} {b : δ}
    (related : List.Forall₂ R as bs) (new : R a b) (i : Nat) :
    List.Forall₂ R (as.set i a) (bs.set i b) := by
  induction related generalizing i with
  | nil => exact .nil
  | cons first rest ih =>
    cases i with
    | zero => exact .cons new rest
    | succ i => exact .cons first (ih i)

theorem coe_eq_cons_eraseIdx {as : List α} {i : Nat} {a : α} (found : as[i]? = some a) :
    (as : Multiset α) = a ::ₘ (as.eraseIdx i : Multiset α) := by
  obtain ⟨inside, rfl⟩ := List.getElem?_eq_some_iff.1 found
  exact (Multiset.coe_eq_coe.2 (List.getElem_cons_eraseIdx_perm inside)).symm

theorem coe_set {as : List α} {i : Nat} {a : α} (found : as[i]? = some a) (b : α) :
    (as.set i b : Multiset α) = b ::ₘ (as.eraseIdx i : Multiset α) := by
  obtain ⟨inside, _⟩ := List.getElem?_eq_some_iff.1 found
  exact Multiset.coe_eq_coe.2 (List.set_perm_cons_eraseIdx inside b)

theorem add_coe_append (ks : Multiset κ) (old new : List κ) :
    ks + ((old ++ new : List κ) : Multiset κ) = new + (ks + old) := by
  rw [← Multiset.coe_add, ← Multiset.add_assoc, Multiset.add_comm]

namespace Pool

variable {P : Protocol σ κ} {holds : σ → List (Answered σ) → Multiset κ → Prop}
  {post : α → κ → Prop} {admitted : Process σ α → Prop} {disturbance : σ → σ → Prop}
  {pool pool' : Pool σ α}

theorem keeps_empty {s : σ} (held : holds s [] 0) :
    (empty s : Pool σ α).Keeps P holds post := ⟨[], [], .nil, .nil, held⟩

/-- What a protocol keeps is kept by every move, if the calls that can be made follow the protocol
and disturbances keep it too. -/
theorem Keeps.move (keeps : P.Keeps holds)
    (follows : ∀ p, admitted p → ∃ k, p.Follows P P.settled post k ∧
      ∀ s past others, holds s past others → holds s past (k ::ₘ others))
    (undisturbed : ∀ s s' past others, disturbance s s' → holds s past others →
      holds s' past others)
    (kept : pool.Keeps P holds post) (moved : Move admitted disturbance pool pool') :
    pool'.Keeps P holds post := by
  obtain ⟨calls, cleanups, calling, cleaning, held⟩ := kept
  cases moved with
  | call allowed =>
    obtain ⟨k, following, entered⟩ := follows _ allowed
    refine ⟨calls ++ [k], cleanups, List.rel_append calling (.cons following .nil), cleaning, ?_⟩
    rw [← Multiset.coe_add, Multiset.coe_singleton, Multiset.add_comm (calls : Multiset κ),
      Multiset.add_assoc, Multiset.singleton_add]
    exact entered _ _ _ held
  | step living taken =>
    rename_i i p rest sight s started
    obtain ⟨k, found, following⟩ := forall₂_getElem? calling living
    rw [coe_eq_cons_eraseIdx found, Multiset.cons_add] at held
    obtain ⟨k', stakes, followed, begun, held⟩ := following.step keeps held taken
    refine ⟨calls.set i k', cleanups ++ stakes, forall₂_set (a := some rest) calling followed i,
      List.rel_append cleaning begun, ?_⟩
    rw [coe_set found, Multiset.cons_add, add_coe_append]
    exact held
  | drop living unfinished =>
    rename_i i p
    obtain ⟨k, found, following⟩ := forall₂_getElem? calling living
    rw [coe_eq_cons_eraseIdx found, Multiset.cons_add] at held
    obtain ⟨k', stakes, left, begun, held⟩ :=
      following.drop keeps (fun a ended => absurd ended (unfinished a)) held
    refine ⟨calls.set i k', cleanups ++ stakes, forall₂_set (a := none) calling left i,
      List.rel_append cleaning begun, ?_⟩
    rw [coe_set found, Multiset.cons_add, add_coe_append]
    exact held
  | clean living taken =>
    rename_i i p rest sight s started
    obtain ⟨k, found, following⟩ := forall₂_getElem? cleaning living
    rw [coe_eq_cons_eraseIdx found, Multiset.add_cons] at held
    obtain ⟨k', stakes, followed, begun, held⟩ := following.step keeps held taken
    refine ⟨calls, cleanups.set i k' ++ stakes, calling,
      List.rel_append (forall₂_set cleaning followed i) begun, ?_⟩
    rw [add_coe_append, coe_set found, Multiset.add_cons, Multiset.add_cons]
    exact held
  | disturb allowed =>
    exact ⟨calls, cleanups, calling, cleaning, undisturbed _ _ _ _ allowed held⟩

theorem Keeps.reaches (keeps : P.Keeps holds)
    (follows : ∀ p, admitted p → ∃ k, p.Follows P P.settled post k ∧
      ∀ s past others, holds s past others → holds s past (k ::ₘ others))
    (undisturbed : ∀ s s' past others, disturbance s s' → holds s past others →
      holds s' past others)
    (kept : pool.Keeps P holds post) (reached : Reaches admitted disturbance pool pool') :
    pool'.Keeps P holds post := by
  induction reached with
  | refl => exact kept
  | tail _ moved ih => exact ih.move keeps follows undisturbed moved

end Pool

end Cutover
