import Cutover.Proofs.Operation.Kinds
import Cutover.Proofs.Timelines.Rivals

set_option autoImplicit false

namespace Cutover

namespace Process

variable {σ α : Type} {kind : σ → σ → Prop}

/-- The protocol of a task that has a licence for one step that is not of a kind. A cleanup has no
licence. -/
def licensed (kind : σ → σ → Prop) : Protocol σ Bool where
  moves licence s _ licence' s' :=
    (licence' = licence ∧ kind s s') ∨ (licence = true ∧ licence' = false)
  splits licence owed kept := owed = false ∧ kept = licence
  settled _ := True

theorem keeps_licensed : (licensed kind).Keeps fun _ past licences =>
    licences.count true ≤ 1 ∧ (true ∈ licences → ∀ a ∈ past, kind a.before a.after) where
  moved := by
    rintro k k' s s' sight past others moves ⟨once, unused⟩
    rcases moves with ⟨rfl, own⟩ | ⟨rfl, rfl⟩
    · refine ⟨once, fun left a inside => ?_⟩
      rcases List.mem_append.1 inside with before | new
      · exact unused left a before
      · cases sight with
        | nothing => exact nomatch new
        | answer value =>
          rw [List.mem_singleton.1 new]
          exact own
    · rw [Multiset.count_cons_self] at once
      have none : true ∉ others := Multiset.count_eq_zero.1 (by omega)
      have gone : true ∉ false ::ₘ others := by
        rw [Multiset.mem_cons, not_or]
        exact ⟨nofun, none⟩
      refine ⟨?_, fun left => absurd left gone⟩
      rw [Multiset.count_eq_zero.2 gone]
      exact Nat.zero_le 1
  split := by
    rintro k owed kept s past others ⟨rfl, rfl⟩ ⟨once, unused⟩
    rw [Multiset.count_cons_of_ne (by decide)]
    refine ⟨once, fun left => unused ?_⟩
    exact (Multiset.mem_cons.1 left).resolve_left nofun

theorem Only.licensed {p : Process σ α} (only : p.Only kind) (licence : Bool) :
    p.Follows (licensed kind) (fun _ => True) (fun _ k => k = licence) licence :=
  only.follows (fun own => .inl ⟨rfl, own⟩) (fun _ => ⟨rfl, rfl⟩) trivial

end Process

/-- A step that leaves the stored timelines as they are. -/
def World.Spares (w w' : World) : Prop := w'.store.timelines = w.store.timelines

theorem World.Consulted.spares {w w' : World} (consulted : w.Consulted w') : w.Spares w' := by
  obtain ⟨workers, _, rfl⟩ := consulted
  rfl

theorem World.Fencing.spares {w w' : World} (fencing : w.Fencing w') : w.Spares w' := by
  obtain ⟨fences, recorder, _, rfl⟩ := fencing
  rfl

theorem World.quiet_spares : World.Quiet World.Spares := ⟨fun _ => rfl, (·.spares), fun _ => rfl⟩

namespace Operation

variable {α β : Type} {op : Operation α}

def SparesAll (op : Operation α) : Prop := op.run.Only World.Spares

/-- An operation that has written no timeline if it fails. -/
def SparesFailing (op : Operation α) : Prop :=
  op.run.Follows (Process.licensed World.Spares) (fun _ => True)
    (fun result licence => ∀ e, result = .error e → licence = true) true

theorem sparesFailing_bind {f : α → Operation β} (first : op.SparesAll)
    (second : ∀ a, (f a).SparesFailing) : (op >>= f).SparesFailing := by
  rw [SparesFailing, ExceptT.run_bind]
  apply Process.Follows.bind
  apply (Process.Only.licensed first true).mono fun _ left => left
  rintro (e | a) _ rfl
  · exact fun _ _ => rfl
  · exact second a

theorem sparesFailing_write (write : Store → Except StoreError Store) (a : α) :
    (writeStore write >>= fun _ => pure a).SparesFailing := by
  refine ⟨trivial, fun w => ?_⟩
  dsimp only
  cases write w.store with
  | error e => exact ⟨true, .inl ⟨rfl, rfl⟩, fun _ _ => rfl⟩
  | ok s => exact ⟨false, .inr ⟨rfl, rfl⟩, fun _ failed => nomatch failed⟩

theorem sparesFailing_fenced {sync : TimelineSync World} {e : String} {limit : Duration}
    (only : sync.Only World.Spares) (spares : op.SparesFailing) :
    (fenced sync e limit op).SparesFailing := by
  have released : (sync.release e).Only World.Spares := (only e limit).2.bind fun _ => trivial
  have clean : (sync.release e).Follows (Process.licensed World.Spares) (fun _ => True)
      (fun _ _ => True) false :=
    (released.licensed false).mono (fun _ left => left) fun _ _ _ => trivial
  refine TimelineSync.follows_fenced ((only e limit).1.licensed true) ?_ ?_
  · rintro fault _ rfl _ _
    rfl
  · rintro _ rfl
    refine Process.Follows.mono (p := op.run) (fun k _ => ?_) (fun result k told => ?_) spares
    · exact ⟨false, k, ⟨rfl, rfl⟩, clean, trivial⟩
    · exact ⟨false, k, ⟨rfl, rfl⟩, clean, trivial, told⟩

end Operation

namespace Timelines

open Operation

theorem sparesFailing_commit (e : String) (active : Option Timeline) (worker : Nat)
    (next : Timeline) : (commit e active worker next).SparesFailing := by
  have quiet := World.quiet_spares
  refine sparesFailing_bind (only_ensureActive quiet e _) fun _ => ?_
  refine sparesFailing_bind (only_look quiet _) fun switchedAt => ?_
  refine sparesFailing_bind (only_sealActive quiet worker active) fun superseded => ?_
  exact sparesFailing_write _ _

end Timelines

namespace Rival

open Operation

variable {sync : TimelineSync World} {e : String} {rival : Rival}

theorem sparesFailing (only : sync.Only World.Fencing) :
    (rival.operation sync e).SparesFailing := by
  have spares : sync.Only World.Spares := fun e limit =>
    ⟨(only e limit).1.mono fun _ _ => World.Fencing.spares,
      (only e limit).2.mono fun _ _ => World.Fencing.spares⟩
  cases rival with
  | createFirst =>
    rw [operation, Timelines.createFirst_eq]
    exact sparesFailing_bind (Timelines.only_firstDraft World.quiet_spares e) fun first =>
      sparesFailing_write _ _
  | switchTo storageId =>
    rw [operation, Timelines.switchTo_eq]
    apply sparesFailing_bind (Timelines.only_plan World.quiet_spares e storageId)
    exact fun s => sparesFailing_fenced spares (Timelines.sparesFailing_commit ..)

/-- A call that has failed has written no timeline, whatever was done to the world meanwhile. -/
theorem unwritten (only : sync.Only World.Fencing) {w : World}
    {pool : Pool World (Except TimelineError Timeline)}
    (reached : Pool.Reaches (fun _ => False) (fun _ _ => True)
      (.single w (rival.operation sync e).run) pool) {error : TimelineError}
    (failed : pool.calls[0]? = some (some (.done (.error error)))) :
    ∀ a ∈ pool.past, a.after.store.timelines = a.before.store.timelines := by
  have kept : pool.Keeps (Process.licensed World.Spares)
      (fun _ past licences => licences.count true ≤ 1 ∧
        (true ∈ licences → ∀ a ∈ past, a.before.Spares a.after))
      fun result licence => ∀ e, result = .error e → licence = true := by
    refine Pool.Keeps.reaches Process.keeps_licensed (fun _ none => none.elim)
      (fun _ _ _ _ _ held => held) ?_ reached
    exact ⟨[true], [], .cons (sparesFailing only) .nil, .nil, by decide,
      fun _ _ inside => nomatch inside⟩
  obtain ⟨calls, cleanups, calling, _, _, unused⟩ := kept
  obtain ⟨licence, found, told⟩ := forall₂_getElem? calling failed
  obtain rfl := told error rfl
  exact unused (Multiset.mem_add.2 (.inl (List.mem_of_getElem? found)))

end Rival

end Cutover
