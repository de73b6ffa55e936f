set_option autoImplicit false

namespace Cutover.Backoff

/-- The retries after a failed first attempt. -/
def retries : Nat := 3

/-- The shortest wait before a retry, in milliseconds; retries are counted from zero. -/
def least (retry : Nat) : Nat := 1000 <<< retry

/-- The wait before a retry; `chance` decides where in its band it lies. -/
def wait (retry chance : Nat) : Nat := least retry + chance % (least retry + 1)

def inBand (retry delay : Nat) : Bool := least retry ≤ delay && delay ≤ 2 * least retry

theorem inBand_wait (retry chance : Nat) : inBand retry (wait retry chance) = true := by
  have below : chance % (least retry + 1) < least retry + 1 := Nat.mod_lt chance (Nat.succ_pos _)
  have upper : least retry + chance % (least retry + 1) ≤ 2 * least retry := by omega
  simp [inBand, wait, upper]

end Cutover.Backoff
