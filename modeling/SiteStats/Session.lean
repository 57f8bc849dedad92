import SiteStats.Config.Basic

/-!
# Sessions

A session keeps one configuration, one client, one gateway and one set of reports, each of which is
made when it is asked for the first time and kept from then on. What is needed to make one of them
is asked for in the same way. The configuration comes from the environment, which may change at any
time; what has been made before does not change with it.

Things that are made get a stamp, so that the same one can be told from an equal one.
-/

namespace SiteStats

/-- A thing with its stamp. -/
structure Made (α : Type) where
  stamp : Nat
  value : α

/-- What sends requests, with the time that it waits. -/
structure Client where
  timeout : Float

/-- A gateway with the client and the configuration that it was made with. -/
structure GatewayParts where
  client : Made Client
  config : Made Config

/-- Reports with the gateway that they were made with. -/
structure ReportsParts where
  gateway : Made GatewayParts

/-- The four things that a session keeps. -/
inductive Slot where
  | config | client | gateway | reports
deriving DecidableEq, Repr

/-- The environment, and what has been made so far. -/
structure Session where
  environment : Environment
  file : String
  nextStamp : Nat
  config : Option (Made Config)
  client : Option (Made Client)
  gateway : Option (Made GatewayParts)
  reports : Option (Made ReportsParts)

namespace Session

/-- A session with an empty environment, in which nothing has been made. -/
def empty : Session := ⟨[], "", 0, none, none, none, none⟩

/-- What a call does to a session, and what it returns. -/
abbrev Call (α : Type) := Session → Except Failure α × Session

/-- Puts a stamp on a thing. -/
def stamp {α : Type} (value : α) (session : Session) : Made α × Session :=
  (⟨session.nextStamp, value⟩, { session with nextStamp := session.nextStamp + 1 })

/-- The configuration of the session. If there is none yet, it is read from the environment, into
which the environment file is loaded. -/
def requireConfig : Call (Made Config) := fun session =>
  match session.config with
  | some config => (.ok config, session)
  | none =>
    let (environment, result) := session.environment.configure session.file
    let session := { session with environment }
    match result with
    | .error failure => (.error failure, session)
    | .ok config =>
      let (config, session) := session.stamp config
      (.ok config, { session with config := some config })

/-- The client of the session. -/
def requireClient : Call (Made Client) := fun session =>
  match session.client with
  | some client => (.ok client, session)
  | none =>
    match requireConfig session with
    | (.error failure, session) => (.error failure, session)
    | (.ok config, session) =>
      let (client, session) := session.stamp (Client.mk config.value.timeout)
      (.ok client, { session with client := some client })

/-- The gateway of the session. -/
def requireGateway : Call (Made GatewayParts) := fun session =>
  match session.gateway with
  | some gateway => (.ok gateway, session)
  | none =>
    match requireClient session with
    | (.error failure, session) => (.error failure, session)
    | (.ok client, session) =>
      match requireConfig session with
      | (.error failure, session) => (.error failure, session)
      | (.ok config, session) =>
        let (gateway, session) := session.stamp (GatewayParts.mk client config)
        (.ok gateway, { session with gateway := some gateway })

/-- The reports of the session. -/
def requireReports : Call (Made ReportsParts) := fun session =>
  match session.reports with
  | some reports => (.ok reports, session)
  | none =>
    match requireGateway session with
    | (.error failure, session) => (.error failure, session)
    | (.ok gateway, session) =>
      let (reports, session) := session.stamp (ReportsParts.mk gateway)
      (.ok reports, { session with reports := some reports })

/-- Forgets what has been made for a slot. What was made with it keeps it. -/
def forget (slot : Slot) (session : Session) : Session :=
  match slot with
  | .config => { session with config := none }
  | .client => { session with client := none }
  | .gateway => { session with gateway := none }
  | .reports => { session with reports := none }

/-- Whether there is something in a slot. -/
def holds (slot : Slot) (session : Session) : Bool :=
  match slot with
  | .config => session.config.isSome
  | .client => session.client.isSome
  | .gateway => session.gateway.isSome
  | .reports => session.reports.isSome

end Session

end SiteStats
