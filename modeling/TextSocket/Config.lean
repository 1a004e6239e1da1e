import TextSocket.Duration
import TextSocket.Error
import TextSocket.Header.Fields
import TextSocket.Settings.Document

/-!
# `TextSocket.Config` — the configuration of a transport

A configuration is what settings amount to once their headers are admitted and their numbers are spans of
time. It can also be built up step by step, with spans finer than a millisecond, several values for one header
and values that are no text, none of which settings can express.

## Contents

* `Config` and `Config.default`;
* `Config.Fault` — why settings or a configuration are refused;
* `Config.ofSettings`, `Config.settings` — to and from settings;
* `Config.validate`, `Config.load` — the rules, and a document that obeys them.
-/

namespace TextSocket

/-- Which roots an encrypted dial trusts. -/
inductive TlsPolicy where
  /-- The roots that come with the library. -/
  | builtinRoots
  /-- A policy of the caller. -/
  | custom
  deriving DecidableEq, Repr

/-- The configuration of a transport. -/
structure Config where
  /-- Time between heartbeats. -/
  pingInterval : Duration
  /-- Time that a heartbeat waits for its answer. -/
  pingTimeout : Duration
  /-- Deadline of a read. -/
  receiveTimeout : Duration
  /-- Deadline of a write. -/
  sendTimeout : Duration
  /-- Size of the buffers of an accepted socket, in bytes. -/
  bufferSize : UInt64
  /-- Headers of a dialled request. -/
  headers : Header.Fields
  /-- Which roots an encrypted dial trusts. -/
  tls : TlsPolicy
  deriving DecidableEq

namespace Config

/-- Half a minute between heartbeats. -/
def defaultPingInterval : Duration := .ofSeconds 30 0

/-- A minute for the answer to a heartbeat. -/
def defaultPingTimeout : Duration := .ofSeconds 60 0

/-- A minute for a read. -/
def defaultReceiveTimeout : Duration := .ofSeconds 60 0

/-- A minute for a write. -/
def defaultSendTimeout : Duration := .ofSeconds 60 0

/-- Buffers of 32 KiB. -/
def defaultBufferSize : UInt64 := 32768

/-- A configuration with given headers and policy, and defaults for everything else. -/
def withTls (headers : Header.Fields) (tls : TlsPolicy) : Config where
  pingInterval := defaultPingInterval
  pingTimeout := defaultPingTimeout
  receiveTimeout := defaultReceiveTimeout
  sendTimeout := defaultSendTimeout
  bufferSize := defaultBufferSize
  headers := headers
  tls := tls

/-- The configuration that counts where nothing is configured. -/
protected def default : Config := withTls Header.Fields.empty .builtinRoots

instance : Inhabited Config := ⟨Config.default⟩

/-- Sets the only value of a header. -/
def withHeader (config : Config) (name : Header.Name) (value : Header.Value) : Config :=
  { config with headers := config.headers.insert name value }

/-! ## Rules -/

/-- A number of a configuration that must not be zero. -/
inductive Quantity where
  /-- Time between heartbeats. -/
  | pingInterval
  /-- Time that a heartbeat waits. -/
  | pingTimeout
  /-- Deadline of a read. -/
  | receiveTimeout
  /-- Deadline of a write. -/
  | sendTimeout
  /-- Size of the buffers. -/
  | bufferSize
  deriving DecidableEq, Repr

/-- The name of a quantity in an error message. -/
def Quantity.describe : Quantity → String
  | pingInterval => "ping interval"
  | pingTimeout => "ping timeout"
  | receiveTimeout => "receive timeout"
  | sendTimeout => "send timeout"
  | bufferSize => "buffer size"

/-- Why settings or a configuration are refused. -/
inductive Fault where
  /-- A key among the headers is no header name. -/
  | badHeaderName (key : String)
  /-- The text of a header is no header value. -/
  | badHeaderValue (name : Header.Name)
  /-- A quantity is zero. -/
  | zero (quantity : Quantity)
  deriving DecidableEq

namespace Fault

/-- The wording of a cause. -/
def message : Fault → String
  | badHeaderName key =>
    "invalid header name '" ++ key ++ "': " ++ Http.PartFault.headerName.message
  | badHeaderValue name =>
    "invalid header value for '" ++ name.text ++ "': " ++ Http.PartFault.headerValue.message
  | zero quantity => quantity.describe ++ " must be greater than zero"

/-- The cause as a failure. -/
def toError (fault : Fault) : Error := .config fault.message

end Fault

/-- Refuses a configuration for its first quantity that is zero. -/
def validate (config : Config) : Except Fault Unit :=
  if config.pingInterval.isZero then .error (.zero .pingInterval)
  else if config.pingTimeout.isZero then .error (.zero .pingTimeout)
  else if config.receiveTimeout.isZero then .error (.zero .receiveTimeout)
  else if config.sendTimeout.isZero then .error (.zero .sendTimeout)
  else if config.bufferSize = 0 then .error (.zero .bufferSize)
  else .ok ()

/-! ## From and to settings -/

/-- Admits the entries of a table as header fields, in order. Keys that differ only in case are one name, and
    the last of them counts. -/
def admitHeaders (entries : List (String × String)) : Except Fault Header.Fields :=
  entries.foldlM
    (fun fields entry =>
      match Header.Name.ofBytes? (Bytes.ofText entry.1) with
      | none => .error (.badHeaderName entry.1)
      | some name =>
        match Header.Value.ofBytes? (Bytes.ofText entry.2) with
        | none => .error (.badHeaderValue name)
        | some value => .ok (fields.insert name value))
    Header.Fields.empty

/-- The configuration that settings amount to, if their headers are admitted. -/
def ofSettings (settings : Settings) : Except Fault Config := do
  let headers ← admitHeaders settings.headers.entries
  return {
    pingInterval := .ofMillis settings.pingIntervalMs
    pingTimeout := .ofMillis settings.pingTimeoutMs
    receiveTimeout := .ofMillis settings.receiveTimeoutMs
    sendTimeout := .ofMillis settings.sendTimeoutMs
    bufferSize := settings.bufferSize
    headers := headers
    tls := .builtinRoots }

/-- The table of the header fields that are printable; of several values of one name the last one counts. -/
def exportHeaders (fields : Header.Fields) : Table :=
  Table.ofList (fields.toList.filterMap fun pair =>
    pair.2.text?.map fun text => (pair.1.text, text))

/-- The settings that come closest to a configuration. -/
def settings (config : Config) : Settings where
  pingIntervalMs := config.pingInterval.millis
  pingTimeoutMs := config.pingTimeout.millis
  receiveTimeoutMs := config.receiveTimeout.millis
  sendTimeoutMs := config.sendTimeout.millis
  bufferSize := config.bufferSize
  headers := exportHeaders config.headers

/-- The configuration that a document of settings amounts to, if it is well-formed and obeys the rules. -/
def load (document : String) : Except Error Config := do
  let settings ← (Settings.read document).mapError Error.json
  let config ← (ofSettings settings).mapError Fault.toError
  config.validate.mapError Fault.toError
  return config

end Config

end TextSocket
