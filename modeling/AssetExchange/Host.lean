import AssetExchange.TraitsData

/-!
# Hosts

The application that works with managers, as managers see it.
-/

namespace AssetExchange

/-- What a host says about itself. -/
structure Host where
  identifier : String
  displayName : String
  info : InfoDictionary

namespace Host

/-- The description of a host: its identifier only. -/
def describe (host : Host) : String :=
  "Host \x7b identifier: " ++ Text.quoted host.identifier ++ " \x7d"

/-- The description of the session that a host shares with its managers; the rest of
the session is left out. -/
def describeSession (host : Host) : String :=
  "HostSession \x7b host: " ++ host.describe ++ ", .. \x7d"

end Host
end AssetExchange
