import Retention.Resolution
import Retention.Word

/-!
# Resolution by a counter

The hop budget is kept as a word that counts the hops taken so far. A hop is counted first, then
compared to the limit, and taken after a poll. There is no result if the hops cannot be counted.
-/

namespace Retention.Resolution

variable {σ : Type}

/-- Follows the pointers from `current` after so many hops. -/
def settleCounting (host : Host σ) (start : InstanceId) (limit hops : UInt64)
    (current : InstanceId) (state : σ) : Option (Except Failure RootKey × σ) :=
  match host.pointer current state with
  | (none, state) => some (.ok .unreachable, state)
  | (some next, state) =>
      if next = current then some (.ok (.root current), state)
      else
        match _hcounted : Word.sum? hops 1 with
        | none => none
        | some counted =>
            if _hexceeds : limit < counted then
              some (.error (.inconsistent (.chainTooLong start limit)), state)
            else if host.cancelled state then some (.error .interrupted, state)
            else settleCounting host start limit counted next state
termination_by limit.toNat - hops.toNat
decreasing_by
  have hcount : _ = _ + (1 : UInt64).toNat := Word.toNat_of_sum? _hcounted
  have hwithin := UInt64.le_iff_toNat_le.mp (UInt64.not_lt.mp _hexceeds)
  rw [UInt64.toNat_one] at hcount
  omega

def resolveCounting (host : Host σ) (limit : UInt64) (start : InstanceId) (state : σ) :
    Option (Except Failure RootKey × σ) :=
  settleCounting host start limit 0 start state

end Retention.Resolution
