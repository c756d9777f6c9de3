import GuildRelay.Guild.Channel
import GuildRelay.Rate.Keyed
import GuildRelay.Report.Failure
import GuildRelay.Routing.Entry
/-!
# Reporting errors

An `Incident` is reported to the error handlers of a destination: to the service that collects
errors, at a limited rate for all incidents together, or to the channel of the message that led to
it, at a limited rate for every channel. A `Reporter` is the fixed part, a `ReporterState` what the
reports so far have left behind.
-/

namespace GuildRelay

/-- An error while an event was handled. -/
structure Incident where
  /-- The service that handled the event. -/
  service : String
  failure : Failure
  /-- The message of the event. -/
  message : Option Message := none

/-- An incident as it is collected. -/
structure ErrorReport where
  service : String
  error : String
  context : List (String × String)
deriving DecidableEq, Repr

/-- A text for a channel. -/
structure Notice where
  channelId : String
  content : String
deriving DecidableEq, Repr

/-- What became of a report. -/
structure ReportOutcome where
  logged : Bool := false
  captured : Bool := false
  notified : Bool := false
deriving DecidableEq, Repr

namespace Incident

/-- What is known about a message when its handling fails. -/
def messageContext (m : Message) : List (String × String) :=
  [("message_id", m.id), ("author_id", m.author.id), ("channel_id", m.channelId),
   ("content", m.content)] ++
    (m.timestamp.map fun t => ("timestamp", t.renderOffset)).toList

/-- The incident as it is collected. -/
def report (i : Incident) : ErrorReport where
  service := i.service
  error := i.failure.explanation
  context := (i.message.map messageContext).getD []

/-- The notice for the channel of a message. -/
def notice (i : Incident) (m : Message) : Notice where
  channelId := m.channelId
  content := "Something went wrong.\n```\n" ++ i.failure.message ++ "\n```"

end Incident

/-- Where incidents are reported and how often. -/
structure Reporter where
  /-- The limit for all collected reports. -/
  globalLimit : RateLimit
  /-- The limit for the notices of one channel. -/
  channelLimit : RateLimit
  /-- Whether reports are collected. -/
  collects : Bool := true
  /-- How many notices may wait; there are none without a queue. -/
  noticeRoom : Option Nat := none

/-- What the reports so far have left behind. -/
structure ReporterState where
  globalBucket : TokenBucket
  channelBuckets : KeyedBuckets := {}
  /-- The collected reports, the first one first. -/
  collected : List ErrorReport := []
  /-- The notices that wait, the first one first. -/
  notices : List Notice := []
  /-- Nobody takes notices any more. -/
  isClosed : Bool := false
deriving DecidableEq

namespace Reporter

/-- The state in which nothing was reported yet. -/
def start (r : Reporter) (now : Rat) : ReporterState where
  globalBucket := .full r.globalLimit now

/-- Hands an incident to the service that collects errors, if the rate allows it. -/
def collect (r : Reporter) (now : Rat) (i : Incident) (s : ReporterState) :
    Bool × ReporterState :=
  if r.collects then
    let (result, globalBucket) := s.globalBucket.take r.globalLimit now
    if result = .taken then
      (true, { s with globalBucket, collected := s.collected ++ [i.report] })
    else (false, { s with globalBucket })
  else (false, s)

/-- Queues a notice; it is lost when the queue is full or closed. -/
def enqueue (room : Nat) (n : Notice) (s : ReporterState) : Bool × ReporterState :=
  if s.isClosed || room ≤ s.notices.length then (false, s)
  else (true, { s with notices := s.notices ++ [n] })

/-- Tells the channel of the message, if the rate allows it. -/
def notify (r : Reporter) (now : Rat) (i : Incident) (s : ReporterState) :
    Bool × ReporterState :=
  match r.noticeRoom, i.message with
  | some room, some m =>
    let (result, channelBuckets) := s.channelBuckets.take r.channelLimit m.channelId now
    let s := { s with channelBuckets }
    if result = .taken then enqueue room (i.notice m) s else (false, s)
  | _, _ => (false, s)

/-- Reports to one handler. -/
def tell (r : Reporter) (now : Rat) (i : Incident) (progress : ReportOutcome × ReporterState) :
    ErrorHandler → ReportOutcome × ReporterState
  | .sentry =>
    let (done, s) := r.collect now i progress.2
    ({ progress.1 with captured := progress.1.captured || done }, s)
  | .discord =>
    let (done, s) := r.notify now i progress.2
    ({ progress.1 with notified := progress.1.notified || done }, s)

/-- Reports an incident to handlers in turn. Expected failures are not reported. -/
def report (r : Reporter) (now : Rat) (i : Incident) (handlers : List ErrorHandler)
    (s : ReporterState) : ReportOutcome × ReporterState :=
  if i.failure.isExpected then ({}, s)
  else handlers.foldl (r.tell now i) ({ logged := true }, s)

end Reporter

namespace ReporterState

/-- Takes the notices that wait. -/
def drain (s : ReporterState) : List Notice × ReporterState :=
  (s.notices, { s with notices := [] })

/-- Gives up the queue with all that waits in it. -/
def close (s : ReporterState) : ReporterState :=
  { s with notices := [], isClosed := true }

end ReporterState

end GuildRelay
