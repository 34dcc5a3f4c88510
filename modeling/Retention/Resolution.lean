import Retention.Host
import Retention.RootKey

/-!
# Resolving roots

The root of an instance is where its pointers settle. Resolution keeps no record of the
way and so cannot tell a loop from a long chain; a hop budget ends it instead.
-/

namespace Retention.Resolution

variable {σ : Type}

/-- Follows the pointers from `current` with `budget` hops left. A hop beyond the budget
is refused before cancellation is polled, and the lookup that settles an instance is not
followed by a poll. -/
def settle (host : Host σ) (start : InstanceId) (limit : UInt64) :
    Nat → InstanceId → σ → Except Failure RootKey × σ
  | budget, current, state =>
      match host.pointer current state with
      | (none, state) => (.ok .unreachable, state)
      | (some next, state) =>
          if next = current then (.ok (.root current), state)
          else
            -- The look-up has been made, so a rest exactly at the limit is still found.
            match budget with
            | 0 => (.error (.inconsistent (.chainTooLong start limit)), state)
            | budget + 1 =>
                if host.cancelled state then (.error .interrupted, state)
                else settle host start limit budget next state

/-- Finds what the pointers from `start` settle on within `limit` hops. -/
def resolve (host : Host σ) (limit : UInt64) (start : InstanceId) (state : σ) :
    Except Failure RootKey × σ :=
  settle host start limit limit.toNat start state

end Retention.Resolution
