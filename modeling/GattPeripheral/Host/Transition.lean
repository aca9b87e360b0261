import GattPeripheral.Host.Lifecycle

/-!
The steps in the life of a host, as data.

Every change of an application, an advertisement, the tracker or the peripheral between hidden and
served is one of these transitions; a history of the host is a list of them.
-/

namespace GattPeripheral

inductive Transition where
  | publish
  | unpublish
  | register
  | unregister
  | shutdown
  | publishAdvertisement (key : Nat)
  | unpublishAdvertisement (key : Nat)
  | registerAdvertisement (key : Nat)
  | unregisterAdvertisement (key : Nat)
  | follow
  | unfollow
  | start
  | stop
  deriving DecidableEq, Repr

namespace Transition

def isOfApplication : Transition → Bool
  | publish | unpublish | register | unregister | shutdown => true
  | _ => false

theorem isOfApplication_publish : publish.isOfApplication = true := rfl

theorem isOfApplication_register : register.isOfApplication = true := rfl

def isOfPeripheral : Transition → Bool
  | start | stop => true
  | _ => false

variable {β : Type} [Transport β]

/-- Carries out a transition; registering an advertisement tells how it came on the air. -/
def routine : Transition → Routine (Host β) (Except GattError (Option AdvertisingMode))
  | publish => return (← Host.publishApplication).map fun _ => none
  | unpublish => return (← Host.unpublishApplication).map fun _ => none
  | register => return (← Host.registerApplication).map fun _ => none
  | unregister => return (← Host.unregisterApplication).map fun _ => none
  | shutdown => do
      Host.shutdownApplication
      return .ok none
  | publishAdvertisement key => return (← Host.publishAdvertisement key).map fun _ => none
  | unpublishAdvertisement key => return (← Host.unpublishAdvertisement key).map fun _ => none
  | registerAdvertisement key => return (← Host.registerAdvertisement key).map some
  | unregisterAdvertisement key => return (← Host.unregisterAdvertisement key).map fun _ => none
  | follow => return (← Host.startTracker).map fun _ => none
  | unfollow => do
      Host.stopTracker
      return .ok none
  | start => return (← Host.startPeripheral).map fun _ => none
  | stop => return (← Host.stopPeripheral).map fun _ => none

end Transition
end GattPeripheral
