import Tailserver.EndToEnd

/-! A client that reopens its file, and the servers it finds there. It keeps its buffer
and its output from one server to the next; every server has its own standard input and
may end at any time. A server that starts late takes no step before. -/

set_option autoImplicit false

namespace Tailserver.Reopening

open CMemory Buffer
open EndToEnd (MayNotice MayRead)

variable {ι : Type} {bufsiz : Nat}

/-- A connection of the client. -/
structure Visit (ι : Type) where
  server : ι
  /-- The number of the connection, once the server has accepted it. -/
  socket : Option Nat := none
  taken : List UInt8 := []

def Visit.accepted (socket : Nat) (visit : Visit ι) : Visit ι :=
  { visit with socket := some socket }

def Visit.read (bytes : List UInt8) (visit : Visit ι) : Visit ι :=
  { visit with taken := visit.taken ++ bytes }

structure State (ι : Type) (bufsiz : Nat) where
  servers : ι → Server.State bufsiz
  exited : ι → Bool := fun _ => false
  client : Client.State bufsiz
  /-- The connections before the last one. -/
  earlier : List (Visit ι) := []
  last : Option (Visit ι) := none

namespace State

/-- All connections, from the first one on. -/
def visits (s : State ι bufsiz) : List (Visit ι) := s.earlier ++ s.last.toList

/-- What the client and one server see of a connection. -/
def view (s : State ι bufsiz) (visit : Visit ι) : EndToEnd.State bufsiz where
  server := s.servers visit.server
  client := s.client
  connected := true
  socket := visit.socket
  taken := visit.taken
  exited := s.exited visit.server

def connection (s : State ι bufsiz) (visit : Visit ι) : Server.Connection :=
  (s.view visit).connection

variable [DecidableEq ι]

def serve (s : State ι bufsiz) (who : ι) (server : Server.State bufsiz) : State ι bufsiz :=
  { s with servers := Function.update s.servers who server }

def exit (s : State ι bufsiz) (who : ι) (server : Server.State bufsiz) : State ι bufsiz :=
  { s.serve who server with exited := Function.update s.exited who true }

end State

/-! ## Steps -/

inductive Event (ι : Type) (bufsiz : Nat) where
  /-- The last argument says whether a connection that is accepted is the client's. -/
  | server (who : ι) (event : Server.Event bufsiz) (ours : Bool)
  | exit (who : ι)
  /-- The last argument says whose socket file it is that is opened. -/
  | client (event : Client.Event bufsiz) (who : ι)

variable [DecidableEq ι]

def handle (serverOptions : ι → Server.Options) (clientOptions : Client.Options)
    (s : State ι bufsiz) : Event ι bufsiz → Except Fault (State ι bufsiz)
  | .server who event ours => do
      let server ← Server.handle (serverOptions who) (s.servers who) event
      return { s.serve who server with
        last := if ours && server.accepted ≠ (s.servers who).accepted then
            s.last.map (Visit.accepted (s.servers who).accepted)
          else s.last }
  | .exit who => do
      let server ← Server.socketsFinal (s.servers who)
      return s.exit who server
  | .client event who => do
      let client ← Client.handle clientOptions s.client event
      return if EndToEnd.opens event then
          { s with client, earlier := s.visits, last := some { server := who } }
        else { s with client, last := s.last.map (Visit.read (EndToEnd.arrived event)) }

/-- A socket file can be opened as long as its server runs, and bytes are read off the
last connection. -/
def MayRun (s : State ι bufsiz) (who : ι) : Client.Event bufsiz → Prop
  | .connect opened => opened ≠ Client.invalidSocket → s.exited who = false
  | .write _ => True
  | .readable answer _ _ _ => ∀ visit ∈ s.last, MayRead (s.view visit) answer

/-- When a step is taken. A connection that the client has left is as any other client's. -/
def Possible (s : State ι bufsiz) : Event ι bufsiz → Prop
  | .server who event ours =>
      s.exited who = false ∧ Server.Possible (s.servers who) event ∧
        (∀ visit ∈ s.last, visit.server = who → MayNotice (s.view visit) event) ∧
        (ours = true → ∃ visit ∈ s.last, visit.server = who ∧ visit.socket = none)
  | .exit who => s.exited who = false
  | .client event who => Client.Possible s.client event ∧ MayRun s who event

/-- Allocations succeed, and standard output takes what the client writes to it. -/
def Granted : Event ι bufsiz → Prop
  | .server _ event _ => Server.Granted event
  | .exit _ => True
  | .client event _ => EndToEnd.Granted (.client event)

/-- The client reads fast enough not to be cut off. -/
def Complete (s' : State ι bufsiz) : Event ι bufsiz → Prop
  | .server _ _ _ => ∀ visit ∈ s'.last, (s'.connection visit).cut = false
  | .exit _ => True
  | .client _ _ => True

inductive Reachable (serverOptions : ι → Server.Options) (clientOptions : Client.Options)
    (serverAppend : ι → Nat × LineBuffer bufsiz) (clientAppend : Nat × LineBuffer bufsiz) :
    State ι bufsiz → Prop where
  | start (serverFirst : ι → Nat × LineBuffer bufsiz) (clientFirst : Nat × LineBuffer bufsiz)
      (opened : ι → Bool) {servers : ι → Server.State bufsiz} {client : Client.State bufsiz} :
      (∀ i, FreshBuffer ({} : Buffer.State bufsiz) (serverFirst i).1) →
      (∀ i, FreshBuffer ({ heap := single (serverFirst i) } : Buffer.State bufsiz)
        (serverAppend i).1) →
      (∀ i, Server.initAll (serverOptions i) (some (serverFirst i)) (some (serverAppend i))
        (opened i) = .ok (true, servers i)) →
      FreshBuffer ({} : Buffer.State bufsiz) clientFirst.1 →
      FreshBuffer ({ heap := single clientFirst } : Buffer.State bufsiz) clientAppend.1 →
      Client.initAll (some clientFirst) (some clientAppend) = .ok (true, client) →
      Reachable serverOptions clientOptions serverAppend clientAppend { servers, client }
  | step {s s' : State ι bufsiz} (event : Event ι bufsiz) :
      Reachable serverOptions clientOptions serverAppend clientAppend s →
      Possible s event → Granted event →
      handle serverOptions clientOptions s event = .ok s' → Complete s' event →
      Reachable serverOptions clientOptions serverAppend clientAppend s'

end Tailserver.Reopening
