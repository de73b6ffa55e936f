import Cutover.Proofs.Fence.Guard
import Mathlib.Data.Multiset.Bind

set_option autoImplicit false

namespace Cutover

variable {σ τ ρ ε α β : Type}

/-- What a step does, what any number of steps can have done, and how the state and what tasks own
fit together, provided that the state has some property that was there all the time. -/
structure Rules (σ ρ : Type) where
  provided : σ → Prop
  step : σ → σ → Prop
  later : σ → σ → Prop
  holds : σ → Multiset ρ → Prop
  step_refl : ∀ s, step s s
  later_trans : ∀ {s s' s''}, later s s' → later s' s'' → later s s''
  later_of_step : ∀ {s s'}, step s s' → later s s'

namespace Rules

/-- A fact that stays true whatever others do. -/
def Stable (R : Rules σ ρ) (fact : σ → Prop) : Prop :=
  ∀ s s', R.later s s' → fact s → fact s'

theorem Stable.all {R : Rules σ ρ} {fact : τ → σ → Prop} (each : ∀ t, R.Stable (fact t)) :
    R.Stable fun s => ∀ t, fact t s := fun s s' later held t => each t s s' later (held t)

theorem Stable.imp {R : Rules σ ρ} {cause : Prop} {fact : σ → Prop} (stable : R.Stable fact) :
    R.Stable fun s => cause → fact s :=
  fun s s' later held caused => stable s s' later (held caused)

theorem stable_const {R : Rules σ ρ} (fact : Prop) : R.Stable fun _ => fact :=
  fun _ _ _ held => held

/-- What a task can take for granted, and what it owns. -/
structure Footing (R : Rules σ ρ) where
  holds : σ → Prop
  owns : Multiset ρ
  stable : R.Stable holds

variable {R : Rules σ ρ} {s s' : σ}

def Footing.nothing : R.Footing := ⟨fun _ => True, 0, fun _ _ _ _ => trivial⟩

def Footing.also (k : R.Footing) {fact : σ → Prop} (stable : R.Stable fact) : R.Footing where
  holds s := k.holds s ∧ fact s
  owns := k.owns
  stable s s' later held := ⟨k.stable s s' later held.1, stable s s' later held.2⟩

def Footing.owning (k : R.Footing) (owned : Multiset ρ) : R.Footing := { k with owns := owned }

def Footing.Grants (k : R.Footing) (fact : σ → Prop) : Prop := ∀ s, k.holds s → fact s

/-- A footing with which a task can take for granted all that it could with another. -/
def Footing.Firmer (k' k : R.Footing) : Prop := ∀ s, k'.holds s → k.holds s

theorem Footing.Grants.firmer {k k' : R.Footing} {fact : σ → Prop} (grants : k.Grants fact)
    (firmer : k'.Firmer k) : k'.Grants fact := fun s held => grants s (firmer s held)

/-- A task learns a fact and keeps what it has. -/
structure Footing.Learns (k : R.Footing) (fact : σ → Prop) (k' : R.Footing) : Prop where
  owns : k'.owns = k.owns
  firmer : k'.Firmer k
  grants : k'.Grants fact

theorem Footing.learns_also {k : R.Footing} {fact : σ → Prop} (stable : R.Stable fact) :
    k.Learns fact (k.also stable) := ⟨rfl, fun _ held => held.1, fun _ held => held.2⟩

theorem Footing.Learns.trans {k k' k'' : R.Footing} {fact fact' : σ → Prop}
    (first : k.Learns fact k') (second : k'.Learns fact' k'') : k.Learns fact' k'' where
  owns := second.owns.trans first.owns
  firmer s held := first.firmer s (second.firmer s held)
  grants := second.grants

/-- A step from one footing to another, whatever others own. -/
structure Moves (R : Rules σ ρ) (k : R.Footing) (s : σ) (k' : R.Footing) (s' : σ) : Prop where
  provided : R.provided s' → R.provided s
  moves : R.provided s' → ∀ others, R.holds s (k.owns + others) → k.holds s →
    R.step s s' ∧ k'.holds s' ∧ R.holds s' (k'.owns + others)

/-- A step that is within the rules whoever takes it. -/
structure Harmless (R : Rules σ ρ) (s s' : σ) : Prop where
  provided : R.provided s' → R.provided s
  keeps : R.provided s' → ∀ owned, R.holds s owned → R.step s s' ∧ R.holds s' owned

theorem Harmless.moves (harmless : R.Harmless s s') (k : R.Footing) : R.Moves k s k s' where
  provided := harmless.provided
  moves provided others held known := by
    obtain ⟨step, held'⟩ := harmless.keeps provided _ held
    exact ⟨step, k.stable _ _ (R.later_of_step step) known, held'⟩

theorem Harmless.moves_also {k : R.Footing} {fact : σ → Prop} (harmless : R.Harmless s s')
    (stable : R.Stable fact) (learnt : fact s') : R.Moves k s (k.also stable) s' where
  provided := harmless.provided
  moves provided others held known := by
    obtain ⟨step, known', held'⟩ := (harmless.moves k).moves provided others held known
    exact ⟨step, ⟨known', learnt⟩, held'⟩

theorem harmless_refl (R : Rules σ ρ) (s : σ) : R.Harmless s s :=
  ⟨id, fun _ _ held => ⟨R.step_refl s, held⟩⟩

theorem moves_refl (k : R.Footing) (s : σ) : R.Moves k s k s := (R.harmless_refl s).moves k

/-- In a step that leaves the state as it is, a task can learn what follows from what it knows. -/
theorem moves_also {k : R.Footing} {fact : σ → Prop} (stable : R.Stable fact)
    (learns : ∀ others, R.provided s → R.holds s (k.owns + others) → k.holds s → fact s) :
    R.Moves k s (k.also stable) s where
  provided := id
  moves provided others held known :=
    ⟨R.step_refl s, ⟨known, learns others provided held known⟩, held⟩

/-- The protocol of tasks that keep to the rules. A cleanup may take over a part of what a task
owns, and a task may end or be dropped with whatever it has. -/
def protocol (R : Rules σ ρ) : Protocol σ R.Footing where
  moves k s _ k' s' := R.Moves k s k' s'
  splits k owed kept :=
    k.owns = owed.owns + kept.owns ∧ ∀ s, k.holds s → owed.holds s ∧ kept.holds s
  settled _ := True

def owned (stakes : Multiset R.Footing) : Multiset ρ := stakes.bind Footing.owns

/-- Between the steps the invariant holds, every task has its footing, and every answer was given in
a step within the rules. -/
structure Upheld (R : Rules σ ρ) (s : σ) (past : List (Answered σ)) (stakes : Multiset R.Footing) :
    Prop where
  holds : R.holds s (owned stakes)
  known : ∀ k ∈ stakes, k.holds s
  past : ∀ a ∈ past, R.step a.before a.after ∧ R.later a.after s

theorem owned_cons (k : R.Footing) (others : Multiset R.Footing) :
    owned (k ::ₘ others) = k.owns + owned others :=
  Multiset.cons_bind ..

theorem owned_alone {stakes : List R.Footing} {others : Multiset R.Footing} {i j : Nat}
    {k k' : R.Footing} {b : ρ} (distinct : (R.owned ((stakes : Multiset R.Footing) + others)).Nodup)
    (found : stakes[i]? = some k) (found' : stakes[j]? = some k') (owns : b ∈ k.owns)
    (owns' : b ∈ k'.owns) : i = j := by
  by_contra apart
  have left : k' ∈ stakes.eraseIdx i :=
    List.mem_eraseIdx_iff_getElem?.2 ⟨j, Ne.symm apart, found'⟩
  rw [coe_eq_cons_eraseIdx found, Multiset.cons_add, owned_cons, Multiset.nodup_add] at distinct
  have elsewhere : b ∈ R.owned ((stakes.eraseIdx i : Multiset R.Footing) + others) :=
    Multiset.mem_bind.2 ⟨k', Multiset.mem_add.2 (.inl left), owns'⟩
  exact Multiset.disjoint_left.1 distinct.2.2 owns elsewhere

theorem Upheld.moved {k k' : R.Footing} {sight : Sight} {past : List (Answered σ)}
    {others : Multiset R.Footing} (upheld : R.Upheld s past (k ::ₘ others))
    (moves : R.Moves k s k' s') (provided : R.provided s') :
    R.Upheld s' (past ++ sight.record s s') (k' ::ₘ others) := by
  obtain ⟨step, known, held⟩ := moves.moves provided (owned others)
    (owned_cons k others ▸ upheld.holds) (upheld.known k (Multiset.mem_cons_self _ _))
  have later := R.later_of_step step
  refine ⟨(owned_cons k' others).symm ▸ held, ?_, ?_⟩
  · intro other inside
    rcases Multiset.mem_cons.1 inside with rfl | inside
    · exact known
    · exact other.stable _ _ later (upheld.known other (Multiset.mem_cons_of_mem inside))
  · intro a inside
    rcases List.mem_append.1 inside with before | new
    · exact ⟨(upheld.past a before).1, R.later_trans (upheld.past a before).2 later⟩
    · cases sight with
      | nothing => exact nomatch new
      | answer value =>
        rw [List.mem_singleton.1 new]
        exact ⟨step, R.later_of_step (R.step_refl s')⟩

theorem Upheld.disturbed {past : List (Answered σ)} {stakes : Multiset R.Footing}
    (upheld : R.Upheld s past stakes) (later : R.later s s')
    (holds : R.holds s (owned stakes) → R.holds s' (owned stakes)) : R.Upheld s' past stakes where
  holds := holds upheld.holds
  known k inside := k.stable _ _ later (upheld.known k inside)
  past a inside := ⟨(upheld.past a inside).1, R.later_trans (upheld.past a inside).2 later⟩

theorem Upheld.enter {past : List (Answered σ)} {stakes : Multiset R.Footing} {k : R.Footing}
    (upheld : R.Upheld s past stakes) (owns : k.owns = 0) (known : k.holds s) :
    R.Upheld s past (k ::ₘ stakes) where
  holds := by
    rw [owned_cons, owns, Multiset.zero_add]
    exact upheld.holds
  known := Multiset.forall_mem_cons.2 ⟨known, upheld.known⟩
  past := upheld.past

theorem keeps_upheld (R : Rules σ ρ) :
    R.protocol.Keeps fun s past stakes => R.provided s → R.Upheld s past stakes where
  moved moves upheld provided := (upheld (moves.provided provided)).moved moves provided
  split := by
    rintro k owed kept s past others ⟨owns, known⟩ upheld provided
    have whole := upheld provided
    have parts := known s (whole.known k (Multiset.mem_cons_self _ _))
    refine ⟨?_, ?_, whole.past⟩
    · rw [owned_cons, owned_cons, ← Multiset.add_assoc, ← owns, ← owned_cons]
      exact whole.holds
    · intro other inside
      rcases Multiset.mem_cons.1 inside with rfl | inside
      · exact parts.1
      · rcases Multiset.mem_cons.1 inside with rfl | inside
        · exact parts.2
        · exact whole.known other (Multiset.mem_cons_of_mem inside)

/-- A process keeps to the rules from a footing on, wherever it is dropped. -/
def Upholds (R : Rules σ ρ) (p : Process σ α) (post : α → R.Footing → Prop) (k : R.Footing) :
    Prop :=
  p.Follows R.protocol (fun _ => True) post k

variable {k : R.Footing} {post : α → R.Footing → Prop}

theorem upholds_act {action : σ → β × σ} {next : β → Process σ α}
    (moves : ∀ s, ∃ k', R.Moves k s k' (action s).2 ∧ R.Upholds (next (action s).1) post k') :
    R.Upholds (.act action next) post k := ⟨trivial, moves⟩

theorem upholds_bind {p : Process σ β} {f : β → Process σ α}
    (upholds : R.Upholds p (fun b k => R.Upholds (f b) post k) k) :
    R.Upholds (p.bind f) post k := Process.Follows.bind upholds

theorem Upholds.mono {p : Process σ α} {post' : α → R.Footing → Prop}
    (upholds : R.Upholds p post k) (better : ∀ a k, post a k → post' a k) :
    R.Upholds p post' k :=
  Process.Follows.mono (fun _ _ => trivial) better upholds

theorem splits_nothing (k : R.Footing) : R.protocol.splits k .nothing k :=
  ⟨(Multiset.zero_add _).symm, fun _ held => ⟨trivial, held⟩⟩

theorem upholds_spawn {task : Process σ Unit} {next : Nat → Process σ α}
    (clean : R.Upholds task (fun _ _ => True) .nothing)
    (upholds : ∀ number, R.Upholds (next number) post k) : R.Upholds (.spawn task next) post k :=
  ⟨.nothing, k, splits_nothing k, clean, trivial, upholds⟩

theorem upholds_owning {destroyed : Process σ Unit} {body : Process σ β} {next : β → Process σ α}
    (clean : R.Upholds destroyed (fun _ _ => True) .nothing)
    (upholds : R.Upholds body (fun b k => R.Upholds (next b) post k) k) :
    R.Upholds (.owning destroyed body next) post k := by
  refine Process.Follows.mono (p := body) (fun k _ => ?_) (fun b k held => ?_) upholds
  · exact ⟨.nothing, k, splits_nothing k, clean, trivial⟩
  · exact ⟨⟨.nothing, k, splits_nothing k, clean, trivial⟩, held⟩

end Rules

namespace Process

/-- All that a process does itself, and all that it has done by other tasks, is of one kind. -/
def Only (kind : σ → σ → Prop) : {α : Type} → Process σ α → Prop
  | _, .done _ => True
  | _, .act action next => (∀ s, kind s (action s).2) ∧ ∀ b, (next b).Only kind
  | _, .waiting _ _ withdraw wake next =>
      (∀ s, kind s (withdraw s)) ∧ (∀ s, kind s (wake s).2) ∧ ∀ b, (next b).Only kind
  | _, .pause _ next => next.Only kind
  | _, .join _ next => next.Only kind
  | _, .spawn task next => task.Only kind ∧ ∀ number, (next number).Only kind
  | _, .owning destroyed body next =>
      destroyed.Only kind ∧ body.Only kind ∧ ∀ b, (next b).Only kind

variable {kind : σ → σ → Prop}

theorem Only.bind {p : Process σ α} {f : α → Process σ β} (only : p.Only kind)
    (after : ∀ a, (f a).Only kind) : (p.bind f).Only kind := by
  induction p with
  | done a => exact after a
  | act action next ih => exact ⟨only.1, fun b => ih b (only.2 b) after⟩
  | waiting ready limit withdraw wake next ih =>
    exact ⟨only.1, only.2.1, fun b => ih b (only.2.2 b) after⟩
  | pause ms next ih => exact ih only after
  | join task next ih => exact ih only after
  | spawn task next _ ih => exact ⟨only.1, fun number => ih number (only.2 number) after⟩
  | owning destroyed body next _ _ ih =>
    exact ⟨only.1, only.2.1, fun b => ih b (only.2.2 b) after⟩

theorem Only.mono {kind' : σ → σ → Prop} {p : Process σ α} (only : p.Only kind)
    (better : ∀ s s', kind s s' → kind' s s') : p.Only kind' := by
  induction p with
  | done => trivial
  | act action next ih => exact ⟨fun s => better _ _ (only.1 s), fun b => ih b (only.2 b)⟩
  | waiting ready limit withdraw wake next ih =>
    exact ⟨fun s => better _ _ (only.1 s), fun s => better _ _ (only.2.1 s),
      fun b => ih b (only.2.2 b)⟩
  | pause ms next ih => exact ih only
  | join task next ih => exact ih only
  | spawn task next ihTask ih => exact ⟨ihTask only.1, fun number => ih number (only.2 number)⟩
  | owning destroyed body next ihDestroyed ihBody ih =>
    exact ⟨ihDestroyed only.1, ihBody only.2.1, fun b => ih b (only.2.2 b)⟩

theorem only_within {get : τ → σ} {set : τ → σ → τ} (p : Process σ α) :
    (p.within get set).Only fun t t' => ∃ s, t' = set t s := by
  induction p with
  | done => trivial
  | act action next ih => exact ⟨fun t => ⟨_, rfl⟩, ih⟩
  | waiting ready limit withdraw wake next ih => exact ⟨fun t => ⟨_, rfl⟩, fun t => ⟨_, rfl⟩, ih⟩
  | pause ms next ih => exact ih
  | join task next ih => exact ih
  | spawn task next ihTask ih => exact ⟨ihTask, ih⟩
  | owning destroyed body next ihDestroyed ihBody ih => exact ⟨ihDestroyed, ihBody, ih⟩

theorem Only.follows {κ : Type} {P : Protocol σ κ} {k idle : κ} {p : Process σ α}
    (only : p.Only kind)
    (moves : ∀ {k s s' sight}, kind s s' → P.moves k s sight k s') (splits : ∀ k, P.splits k idle k)
    (settled : P.settled idle) : p.Follows P (fun _ => True) (fun _ k' => k' = k) k := by
  have clean : ∀ {p : Process σ Unit}, p.Follows P (fun _ => True) (fun _ k' => k' = idle) idle →
      p.Follows P (fun _ => True) (fun _ => P.settled) idle := by
    refine fun follows => follows.mono (fun _ left => left) ?_
    rintro _ _ rfl
    exact settled
  induction p generalizing k with
  | done a => rfl
  | act action next ih => exact ⟨trivial, fun s => ⟨k, moves (only.1 s), ih _ (only.2 _)⟩⟩
  | waiting ready limit withdraw wake next ih =>
    refine ⟨fun s => ⟨k, moves (only.1 s), trivial⟩, fun s => ?_⟩
    exact ⟨k, moves (only.2.1 s), ih _ (only.2.2 _)⟩
  | pause ms next ih => exact ⟨trivial, ih only⟩
  | join task next ih => exact ⟨trivial, ih only⟩
  | spawn task next ihTask ih =>
    exact ⟨idle, k, splits k, clean (ihTask only.1), trivial, fun number => ih number (only.2 number)⟩
  | owning destroyed body next ihDestroyed ihBody ih =>
    have clean := clean (ihDestroyed only.1)
    refine Follows.mono (p := body) (fun k' _ => ?_) (fun b k' same => ?_) (ihBody only.2.1)
    · exact ⟨idle, k', splits k', clean, trivial⟩
    · exact ⟨⟨idle, k', splits k', clean, trivial⟩, same ▸ ih b (only.2.2 b)⟩

theorem Only.upholds {R : Rules σ ρ} {k : R.Footing} {p : Process σ α} (only : p.Only kind)
    (harmless : ∀ s s', kind s s' → R.Harmless s s') :
    R.Upholds p (fun _ k' => k' = k) k :=
  only.follows (fun own => (harmless _ _ own).moves _) Rules.splits_nothing trivial

/-- What a process ends with is good if all its own steps are taken in fit states. -/
def Gives (fit : σ → Prop) : {α : Type} → Process σ α → (α → Prop) → Prop
  | _, .done a, good => good a
  | _, .act action next, good => ∀ s, fit s → (next (action s).1).Gives fit good
  | _, .waiting _ _ _ wake next, good => ∀ s, fit s → (next (wake s).1).Gives fit good
  | _, .pause _ next, good => next.Gives fit good
  | _, .join _ next, good => next.Gives fit good
  | _, .spawn _ next, good => ∀ number, (next number).Gives fit good
  | _, .owning _ body next, good => body.Gives fit fun b => (next b).Gives fit good

section Giving

variable {R : Rules σ ρ} {k : R.Footing} {p : Process σ α} {good : α → Prop} {fit : σ → Prop}

/-- A task can go on from what it takes for granted, once it has something to take for granted. -/
theorem Only.upholds_granted {fact : Prop} {k' : R.Footing} (only : p.Only kind)
    (harmless : ∀ s s', kind s s' → R.Harmless s s') (learns : k.Learns (fun _ => fact) k')
    (upholds : fact → R.Upholds p (fun a k'' => k'.Learns (fun _ => good a) k'') k') :
    R.Upholds p (fun a k'' => k.Learns (fun _ => good a) k'') k' := by
  by_cases known : fact
  · exact (upholds known).mono fun a k'' learnt => learns.trans learnt
  · apply (only.upholds harmless).mono
    rintro a _ rfl
    exact ⟨learns.owns, learns.firmer, fun s held => absurd (learns.grants s held) known⟩

/-- Where all states are fit, a process of harmless steps comes to something good. -/
theorem Only.upholds_giving (only : p.Only kind) (gives : p.Gives fit good)
    (harmless : ∀ s s', kind s s' → R.Harmless s s')
    (fits : ∀ s owned, R.provided s → R.holds s owned → fit s) :
    R.Upholds p (fun a k' => k.Learns (fun _ => good a) k') k := by
  -- A step of a kind leads to a footing that grants that the state before it was fit.
  have moves : ∀ (k : R.Footing) s s', kind s s' →
      R.Moves k s (k.also (R.stable_const (fit s))) s' := by
    intro k s s' own
    have moved := (harmless s s' own).moves k
    refine ⟨moved.provided, fun provided others held known => ?_⟩
    obtain ⟨step, known', held'⟩ := moved.moves provided others held known
    exact ⟨step, ⟨known', fits s _ (moved.provided provided) held⟩, held'⟩
  induction p generalizing k with
  | done a => exact ⟨rfl, fun _ held => held, fun _ _ => gives⟩
  | act action next ih =>
    refine ⟨trivial, fun s => ⟨_, moves k s _ (only.1 s), ?_⟩⟩
    apply (only.2 _).upholds_granted harmless (Rules.Footing.learns_also _)
    exact fun fit => ih _ (only.2 _) (gives s fit)
  | waiting ready limit withdraw wake next ih =>
    refine ⟨fun s => ⟨k, (harmless _ _ (only.1 s)).moves k, trivial⟩, fun s => ?_⟩
    refine ⟨_, moves k s _ (only.2.1 s), ?_⟩
    apply (only.2.2 _).upholds_granted harmless (Rules.Footing.learns_also _)
    exact fun fit => ih _ (only.2.2 _) (gives s fit)
  | pause ms next ih => exact ⟨trivial, ih only gives⟩
  | join task next ih => exact ⟨trivial, ih only gives⟩
  | spawn task next _ ih =>
    apply Rules.upholds_spawn ((only.1.upholds harmless).mono fun _ _ _ => trivial)
    exact fun number => ih number (only.2 number) (gives number)
  | owning destroyed body next _ ihBody ih =>
    apply Rules.upholds_owning ((only.1.upholds harmless).mono fun _ _ _ => trivial)
    apply (ihBody only.2.1 gives).mono
    intro b k' learns
    apply (only.2.2 b).upholds_granted harmless learns
    exact fun gives => ih b (only.2.2 b) gives

end Giving

end Process

namespace TimelineSync

def Only (kind : σ → σ → Prop) (sync : TimelineSync σ) : Prop :=
  ∀ eventType limit, (sync.start eventType limit).Only kind ∧ (sync.finish eventType).Only kind

/-- A sync whose starts succeed as long as all states are fit. -/
def Starts (fit : σ → Prop) (sync : TimelineSync σ) : Prop :=
  ∀ eventType limit, (sync.start eventType limit).Gives fit (· = .ok ())

variable {kind : σ → σ → Prop} {sync : TimelineSync σ} {R : Rules σ ρ} {k : R.Footing} {e : String}
  {limit : Duration} {convert : FenceError → ε} {body : Process σ (Except ε α)}
  {post : Except ε α → R.Footing → Prop}

/-- A body that is fenced by a sync whose own steps are harmless, from what its start ends with. -/
theorem upholds_started {started : Except FenceError Unit → R.Footing → Prop}
    (only : sync.Only kind) (harmless : ∀ s s', kind s s' → R.Harmless s s')
    (starts : R.Upholds (sync.start e limit) started k)
    (refused : ∀ fault k', started (.error fault) k' → post (.error (convert fault)) k')
    (upholds : ∀ k', started (.ok ()) k' → R.Upholds body post k') :
    R.Upholds (sync.fenced e limit convert body) post k := by
  have released : (sync.release e).Only kind := (only e limit).2.bind fun _ => trivial
  have clean : R.Upholds (sync.release e) (fun _ _ => True) .nothing :=
    (released.upholds harmless).mono fun _ _ _ => trivial
  refine follows_fenced starts refused fun k' began => ?_
  refine Process.Follows.mono (p := body) (fun k _ => ?_) (fun _ k held => ?_) (upholds k' began)
  · exact ⟨.nothing, k, Rules.splits_nothing k, clean, trivial⟩
  · exact ⟨.nothing, k, Rules.splits_nothing k, clean, trivial, held⟩

theorem upholds_fenced (only : sync.Only kind) (harmless : ∀ s s', kind s s' → R.Harmless s s')
    (refused : ∀ fault, post (.error (convert fault)) k) (upholds : R.Upholds body post k) :
    R.Upholds (sync.fenced e limit convert body) post k := by
  apply upholds_started only harmless ((only e limit).1.upholds harmless)
  · rintro fault _ rfl
    exact refused fault
  · rintro _ rfl
    exact upholds

/-- Where all states are fit, a sync whose starts succeed then never refuses a body. -/
theorem upholds_unrefused {fit : σ → Prop} (only : sync.Only kind) (starts : sync.Starts fit)
    (harmless : ∀ s s', kind s s' → R.Harmless s s')
    (fits : ∀ s owned, R.provided s → R.holds s owned → fit s)
    (refused : ∀ fault k', k'.Grants (fun _ => False) → post (.error (convert fault)) k')
    (upholds : ∀ k' : R.Footing, k'.owns = k.owns → k'.Firmer k → R.Upholds body post k') :
    R.Upholds (sync.fenced e limit convert body) post k := by
  apply upholds_started only harmless
    ((only e limit).1.upholds_giving (starts e limit) harmless fits)
  · exact fun fault k' learns => refused fault k' fun s held => nomatch learns.grants s held
  · exact fun k' learns => upholds k' learns.owns learns.firmer

end TimelineSync

/-- What holds of whatever a pool comes to whose calls keep to the rules. -/
theorem Rules.upheld_reaches {R : Rules σ ρ} {admitted : Process σ α → Prop}
    {disturbance : σ → σ → Prop} {post : α → R.Footing → Prop} {s : σ} {pool : Pool σ α}
    (start : R.provided s → R.holds s 0)
    (calls : ∀ p, admitted p → R.Upholds p post .nothing)
    (undisturbed : ∀ s s', disturbance s s' → (R.provided s' → R.provided s) ∧
      (R.provided s' → ∀ owned, R.holds s owned → R.later s s' ∧ R.holds s' owned))
    (reached : Pool.Reaches admitted disturbance (.empty s) pool) :
    pool.Keeps R.protocol (fun s past stakes => R.provided s → R.Upheld s past stakes) post := by
  have begun : R.provided s → R.Upheld s [] 0 := fun provided => ⟨start provided, nofun, nofun⟩
  refine Pool.Keeps.reaches R.keeps_upheld ?_ ?_ (Pool.keeps_empty begun) reached
  · exact fun p allowed => ⟨.nothing, calls p allowed,
      fun s past others upheld provided => (upheld provided).enter rfl trivial⟩
  · intro s s' past others allowed upheld provided
    obtain ⟨before, keeps⟩ := undisturbed s s' allowed
    have upheld := upheld (before provided)
    obtain ⟨later, held⟩ := keeps provided _ upheld.holds
    exact upheld.disturbed later fun _ => held

end Cutover
