import EdgeCatalog.Error
import EdgeCatalog.Instant.Basic

/-! Time to live: when a record expires, and whether it has. -/
namespace EdgeCatalog.Expiry

/-- When a record updated at an instant expires: never for a negative time to live, and otherwise
that many seconds later, if there is such an instant. -/
def expiryFor (updated : Instant) (ttl : Int64) : Except Error (Option Instant) :=
  if ttl < 0 then .ok none
  else match updated.addSeconds? ttl.toInt with
    | some expiry => .ok (some expiry)
    | none => .error (.invalid (.ttlRange ttl.toInt))

/-- Is a record due for removal? At the very instant of its expiry it is. -/
def isExpired (ttl : Int64) (expires : Option Instant) (now : Instant) : Bool :=
  match expires with
  | some expiry => 0 ≤ ttl && expiry ≤ now
  | none => false

end EdgeCatalog.Expiry
