import SignOn.Service.Basic
import SignOn.Settings.Basic

/-!
Setting up a service from its settings: the journal is told its threshold, and then the service stands.
-/

namespace SignOn.Service

def signOnName : String := "sso"

def signOnPort : Int := 8013

/-- The name of the environment in which documentation is shown. -/
def localEnvironment : String := "local"

/-- A service that stands, and what it was set up with. -/
structure Standing where
  service : Service
  settings : ServiceSettings
  deriving DecidableEq

/-- The state of the program that an environment names. -/
def commitIn (environment : Table String) : String :=
  (environment.last? "GIT_COMMIT").getD "unknown"

def setUp (name : String) (offersProvider : Bool) (environment : Table String)
    (settings : ServiceSettings) : Effect (Except Trouble Standing) := fun site =>
  let (journal, configured) := site.journal.configure settings.logLevel
  let site := { site with journal }
  match configured with
  | .error trouble => (.error trouble, site)
  | .ok () =>
    let service : Service :=
      { name
        provider := if offersProvider then some settings.provider else none
        documented := settings.environment == localEnvironment
        commit := commitIn environment }
    (.ok ⟨service, settings⟩, site)

namespace Standing

def description (s : Standing) : String :=
  "SSO Provider - " ++ s.service.title

/-- Where a service shows its documentation. -/
def docsUrl (s : Standing) : Option String :=
  if s.service.documented then some docsPath else none

/-- Where a service shows the other form of its documentation. -/
def redocUrl (s : Standing) : Option String :=
  if s.service.documented then some redocPath else none

/-- How a service is to be run: on which host and port, and with which threshold for the server's own records. -/
structure Launch where
  host : String
  port : Int
  logLevel : String
  deriving DecidableEq

def launch (s : Standing) : Launch :=
  ⟨s.settings.host, s.settings.port, Case.lower s.settings.logLevel⟩

end Standing

end SignOn.Service
