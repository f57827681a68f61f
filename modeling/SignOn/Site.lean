import SignOn.Log.Entry
import SignOn.Log.Journal
import SignOn.Realm

/-!
The surroundings of an operation: the network it talks to, the journal it writes to and the context it works in. What
goes out and what is written is kept in order.
-/

namespace SignOn

/-- The network: replies that are laid down beforehand, and behind them perhaps a realm. -/
structure Network where
  script : List Reply := []
  realm : Option Realm := none

namespace Network

/-- What comes back for a request. -/
def reply (n : Network) (request : Request) : Reply × Network :=
  match n.script, n.realm with
  | reply :: script, _ => (reply, { n with script })
  | [], some realm => (.answered (realm.answer (.ofRequest request [])).response, n)
  | [], none => (.nobody, n)

/-- What comes back for a request, as it is received. -/
def ask (n : Network) (request : Request) : Reply × Network :=
  let (reply, network) := n.reply request
  (request.receive reply, network)

@[simp] theorem ask_cons (reply : Reply) (script : List Reply) (realm : Option Realm) (request : Request) :
    ask ⟨reply :: script, realm⟩ request = (request.receive reply, ⟨script, realm⟩) := rfl

@[simp] theorem ask_nil (request : Request) : ask ⟨[], none⟩ request = (.nobody, ⟨[], none⟩) := rfl

end Network

structure Site where
  network : Network := {}
  journal : Journal := .unconfigured
  context : Correlation := .empty
  /-- the requests that went out -/
  sent : List Sent := []
  /-- the records that were written -/
  records : List Json.Members := []

/-- An action with an effect on its surroundings. -/
abbrev Effect := StateM Site

namespace Site

def send (request : Request) (timeout : Binary64) : Effect Reply := fun site =>
  let (reply, network) := site.network.ask request
  (reply, { site with network, sent := site.sent ++ [⟨request, timeout⟩] })

/-- A site with one record more, if the journal writes records of its level. -/
def record (site : Site) (entry : Log.Entry) : Site :=
  if site.journal.writes entry.level then
    { site with records := site.records ++ [entry.members site.context] }
  else site

def note (level : Level) (logger event : String) (fields : Json.Members) : Effect Unit := fun site =>
  ((), site.record ⟨level, logger, event, fields⟩)

def setContext (context : Correlation) : Effect Unit := fun site =>
  ((), { site with context })

/-- The same site with nothing sent and nothing written. -/
def fresh (site : Site) : Site :=
  { site with sent := [], records := [] }

@[simp] theorem record_network (site : Site) (entry : Log.Entry) :
    (site.record entry).network = site.network := by
  unfold record; split <;> rfl

@[simp] theorem record_sent (site : Site) (entry : Log.Entry) : (site.record entry).sent = site.sent := by
  unfold record; split <;> rfl

@[simp] theorem record_context (site : Site) (entry : Log.Entry) :
    (site.record entry).context = site.context := by
  unfold record; split <;> rfl

@[simp] theorem record_journal (site : Site) (entry : Log.Entry) :
    (site.record entry).journal = site.journal := by
  unfold record; split <;> rfl

end Site

end SignOn
