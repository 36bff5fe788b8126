import SuiteBridge.Capability.Registry
import SuiteBridge.Suite.Calendar
import SuiteBridge.Suite.Drive
import SuiteBridge.Suite.Messenger
import SuiteBridge.Suite.Project
import SuiteBridge.Suite.Wiki

/-!
# The catalogue

All tools of the suite, in the order in which hosts list them.
-/

namespace SuiteBridge.Suite

/-- All tools. -/
def tools : List Tool :=
  Wiki.tools ++ Project.tools ++ Messenger.tools ++ Calendar.tools ++ Drive.tools

/-- All tools as capabilities. -/
def catalogue : List Capability :=
  tools.map Tool.toCapability

end SuiteBridge.Suite
