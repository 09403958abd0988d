import CrossRate.Json.Basic

/-!
# Counts of loads

How many loads were begun and how they ended, how many locations failed, and how many
subscribers failed to take a payload.
-/

namespace CrossRate

/-- What has been counted of loads. -/
structure LoadCounts where
  /-- The loads that were begun. -/
  begun : Nat := 0
  /-- Those that a remote location served. -/
  fromRemote : Nat := 0
  /-- Those that the store served. -/
  fromStore : Nat := 0
  /-- Those that the backup served. -/
  fromBackup : Nat := 0
  /-- The payloads of remote locations that were pages for rejected requests. -/
  rejected : Nat := 0
  /-- The other failures of remote locations. -/
  unfetched : Nat := 0
  /-- The loads that nothing served. -/
  failed : Nat := 0
  /-- The deliveries that failed. -/
  undelivered : Nat := 0
deriving DecidableEq

namespace LoadCounts

/-- Write counts as JSON. -/
def toJson (c : LoadCounts) : Json :=
  .object [("loads_started", .ofNat c.begun), ("remote_hits", .ofNat c.fromRemote),
    ("cache_hits", .ofNat c.fromStore), ("backup_hits", .ofNat c.fromBackup),
    ("rejected_payloads", .ofNat c.rejected), ("fetch_failures", .ofNat c.unfetched),
    ("loads_failed", .ofNat c.failed), ("listener_failures", .ofNat c.undelivered)]

end LoadCounts

end CrossRate
