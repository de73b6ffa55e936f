import Cutover.Fence.Lock
import Mathlib.Data.List.Basic

set_option autoImplicit false

namespace Cutover.Lock

/-- All requests, granted or waiting, the oldest first. -/
def requests (l : Lock) : List LockRequest := l.holders ++ l.queue

/-- Shared holds go together; an exclusive hold is alone. -/
def Compatible (holders : List LockRequest) : Prop :=
  (∀ r ∈ holders, r.mode = .shared) ∨ ∃ r, holders = [r]

theorem compatible_nil : Compatible [] := .inl fun _ member => nomatch member

theorem Compatible.append {holders : List LockRequest} {r : LockRequest}
    (admitted : admits holders r.mode = true) : Compatible (holders ++ [r]) := by
  cases mode : r.mode with
  | shared =>
    rw [mode] at admitted
    have shared : ∀ x ∈ holders, x.mode = .shared := by simpa [admits] using admitted
    left
    intro x member
    rcases List.mem_append.1 member with old | new
    · exact shared x old
    · rw [List.mem_singleton.1 new, mode]
  | exclusive =>
    rw [mode] at admitted
    have alone : holders = [] := by simpa [admits] using admitted
    exact .inr ⟨r, by simp [alone]⟩

theorem Compatible.filter {holders : List LockRequest} (compatible : Compatible holders)
    (keep : LockRequest → Bool) : Compatible (holders.filter keep) := by
  rcases compatible with shared | ⟨r, rfl⟩
  · exact .inl fun x member => shared x (List.mem_filter.1 member).1
  · cases kept : keep r with
    | false => simpa [kept] using compatible_nil
    | true => exact .inr ⟨r, by simp [kept]⟩

theorem Compatible.exclusive_alone {holders : List LockRequest} (compatible : Compatible holders)
    {r x : LockRequest} (member : r ∈ holders) (exclusive : r.mode = .exclusive)
    (other : x ∈ holders) : x = r := by
  rcases compatible with shared | ⟨only, rfl⟩
  · have := shared r member
    rw [exclusive] at this
    exact nomatch this
  · rw [List.mem_singleton.1 member, List.mem_singleton.1 other]

theorem grant_requests (holders queue : List LockRequest) :
    (grant holders queue).requests = holders ++ queue := by
  induction queue generalizing holders with
  | nil => rfl
  | cons r rest ih =>
    rw [grant]
    split
    · rw [ih, List.append_assoc, List.singleton_append]
    · rfl

theorem grant_compatible {holders : List LockRequest} (compatible : Compatible holders)
    (queue : List LockRequest) : Compatible (grant holders queue).holders := by
  induction queue generalizing holders with
  | nil => exact compatible
  | cons r rest ih =>
    rw [grant]
    split
    · next admitted => exact ih (Compatible.append admitted)
    · exact compatible

theorem holders_prefix_grant (holders queue : List LockRequest) :
    holders <+: (grant holders queue).holders := by
  induction queue generalizing holders with
  | nil => exact List.prefix_refl holders
  | cons r rest ih =>
    rw [grant]
    split
    · exact (List.prefix_append holders [r]).trans (ih (holders ++ [r]))
    · exact List.prefix_refl holders

theorem grant_append {holders first : List LockRequest} (rest : List LockRequest)
    (granted : grant holders first = ⟨holders ++ first, []⟩) :
    grant holders (first ++ rest) = grant (holders ++ first) rest := by
  induction first generalizing holders with
  | nil => simp
  | cons r others ih =>
    rw [grant] at granted
    split at granted
    · next admitted =>
      rw [List.cons_append, grant, if_pos admitted, ih (by simpa using granted),
        List.append_assoc, List.singleton_append]
    · exact nomatch (Lock.mk.injEq .. ▸ granted).2

theorem grant_shared {holders rest : List LockRequest}
    (shared : ∀ r ∈ holders ++ rest, r.mode = .shared) :
    grant holders rest = ⟨holders ++ rest, []⟩ := by
  induction rest generalizing holders with
  | nil => simp [grant]
  | cons r others ih =>
    have mode : r.mode = .shared := shared r (by simp)
    have admitted : admits holders r.mode = true := by
      rw [mode, admits, List.all_eq_true]
      intro x member
      exact decide_eq_true (shared x (List.mem_append_left _ member))
    rw [grant, if_pos admitted, ih (by simpa using shared), List.append_assoc,
      List.singleton_append]

theorem grant_of_compatible {holders : List LockRequest} (compatible : Compatible holders) :
    grant [] holders = ⟨holders, []⟩ := by
  rcases compatible with shared | ⟨r, rfl⟩
  · have granted : grant [] holders = ⟨[] ++ holders, []⟩ := grant_shared shared
    exact granted
  · cases mode : r.mode <;> simp [grant, admits, mode]

/-- A lock is fair if its requests, granted in the order of their arrival, give the lock. -/
def Fair (l : Lock) : Prop := grant [] l.requests = l

theorem fair_idle : idle.Fair := rfl

theorem Fair.compatible {l : Lock} (fair : l.Fair) : Compatible l.holders := by
  rw [← fair]
  exact grant_compatible compatible_nil l.requests

theorem Fair.grant_queue {l : Lock} (fair : l.Fair) : grant l.holders l.queue = l := by
  have granted := grant_append l.queue (grant_of_compatible fair.compatible)
  rw [List.nil_append] at granted
  rw [← granted]
  exact fair

theorem fair_of_grant {l : Lock} (compatible : Compatible l.holders)
    (granted : grant l.holders l.queue = l) : l.Fair := by
  have whole := grant_append l.queue (grant_of_compatible compatible)
  rw [List.nil_append] at whole
  rw [Fair, requests, whole, granted]

theorem request_requests (l : Lock) (r : LockRequest) :
    (l.request r).requests = l.requests ++ [r] := by
  rw [request]
  split
  · next free =>
    have empty : l.queue = [] := List.isEmpty_iff.1 (Bool.and_eq_true .. ▸ free).1
    simp [requests, empty]
  · simp [requests]

theorem Fair.request {l : Lock} (fair : l.Fair) (r : LockRequest) : (l.request r).Fair := by
  have granted := fair.grant_queue
  obtain ⟨holders, queue⟩ := l
  rw [Lock.request]
  split
  · next free =>
    have admitted : admits holders r.mode = true := (Bool.and_eq_true .. ▸ free).2
    exact fair_of_grant (Compatible.append admitted) rfl
  · next busy =>
    refine fair_of_grant fair.compatible ?_
    cases queue with
    | nil =>
      have refused : ¬ admits holders r.mode = true := by simpa using busy
      simp [grant, refused]
    | cons first rest =>
      -- A head that were admitted would not be waiting.
      have refused : ¬ admits holders first.mode = true := by
        intro admitted
        rw [grant, if_pos admitted] at granted
        have longer := (holders_prefix_grant (holders ++ [first]) rest).length_le
        rw [granted, List.length_append, List.length_singleton] at longer
        exact absurd longer (Nat.not_succ_le_self holders.length)
      simp [grant, refused]

theorem remove_requests (l : Lock) (number : Nat) :
    (l.remove number).requests = l.requests.filter (·.number ≠ number) := by
  rw [remove, grant_requests, requests, List.filter_append]

theorem Fair.remove {l : Lock} (fair : l.Fair) (number : Nat) : (l.remove number).Fair := by
  have compatible := fair.compatible.filter (fun r => decide (r.number ≠ number))
  have whole := grant_append (l.queue.filter (·.number ≠ number)) (grant_of_compatible compatible)
  rw [List.nil_append, ← List.filter_append] at whole
  rw [Fair, remove_requests, requests, whole, Lock.remove]

theorem isIdle_iff (l : Lock) : l.isIdle = true ↔ l.requests = [] := by
  simp [isIdle, requests]

theorem isGranted_iff (l : Lock) (number : Nat) :
    l.isGranted number = true ↔ ∃ r ∈ l.holders, r.number = number := by
  simp [isGranted]

theorem isGranted_request {l : Lock} {number : Nat} (granted : l.isGranted number = true)
    (r : LockRequest) : (l.request r).isGranted number = true := by
  obtain ⟨holder, member, same⟩ := (isGranted_iff l number).1 granted
  rw [isGranted_iff, request]
  split
  · exact ⟨holder, List.mem_append_left _ member, same⟩
  · exact ⟨holder, member, same⟩

theorem isGranted_remove {l : Lock} {number other : Nat} (granted : l.isGranted number = true)
    (apart : number ≠ other) : (l.remove other).isGranted number = true := by
  obtain ⟨holder, member, same⟩ := (isGranted_iff l number).1 granted
  rw [isGranted_iff, remove]
  refine ⟨holder, (holders_prefix_grant _ _).subset (List.mem_filter.2 ⟨member, ?_⟩), same⟩
  simpa [same] using apart

/-- Whether a request is granted, told from all requests in the order of their arrival: it is the
oldest one, or it is shared and so are all before it. -/
def Granted (requests : List LockRequest) (number : Nat) : Prop :=
  ∃ earlier r later, requests = earlier ++ r :: later ∧ r.number = number ∧
    (earlier = [] ∨ ∀ x ∈ earlier ++ [r], x.mode = .shared)

theorem Fair.isGranted_iff_granted {l : Lock} (fair : l.Fair) (number : Nat) :
    l.isGranted number = true ↔ Granted l.requests number := by
  rw [isGranted_iff]
  constructor
  · rintro ⟨r, member, same⟩
    obtain ⟨earlier, later, split⟩ := List.append_of_mem member
    refine ⟨earlier, r, later ++ l.queue, by simp [requests, split], same, ?_⟩
    rcases fair.compatible with shared | ⟨only, alone⟩
    · exact .inr fun x inside => shared x (by rw [split]; simp at inside ⊢; tauto)
    · rw [alone] at split
      exact .inl (List.append_eq_singleton_iff.1 split.symm |>.elim (·.1) (fun h => nomatch h.2))
  · rintro ⟨earlier, r, later, split, same, first | shared⟩
    · have held := holders_prefix_grant [r] later
      have granted : grant [] l.requests = grant [r] later := by
        rw [split, first, List.nil_append, grant]
        cases r.mode <;> simp [admits]
      rw [← fair, granted]
      exact ⟨r, held.subset (List.mem_singleton.2 rfl), same⟩
    · have begun : grant [] (earlier ++ [r]) = ⟨[] ++ (earlier ++ [r]), []⟩ := grant_shared shared
      have held := holders_prefix_grant (earlier ++ [r]) later
      have granted : grant [] l.requests = grant (earlier ++ [r]) later := by
        rw [split, List.append_cons, grant_append later begun, List.nil_append]
      rw [← fair, granted]
      exact ⟨r, held.subset (by simp), same⟩

end Cutover.Lock
