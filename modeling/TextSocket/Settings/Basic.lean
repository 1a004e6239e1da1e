import TextSocket.Settings.Table

/-!
# `TextSocket.Settings` — the settings of a transport as data

Settings are what a configuration file says: four durations in milliseconds, the size of the buffers of an
accepted socket, and the headers that a dialled request carries. They are plain data; whether they are
admissible is decided when a `Config` is made of them.

## Contents

* `Settings` — the record;
* `Settings.default` — what counts where a document leaves a member out.
-/

namespace TextSocket

/-- The settings of a transport. -/
structure Settings where
  /-- Time between heartbeats. -/
  pingIntervalMs : UInt64
  /-- Time that a heartbeat waits for its answer. -/
  pingTimeoutMs : UInt64
  /-- Deadline of a read. -/
  receiveTimeoutMs : UInt64
  /-- Deadline of a write. -/
  sendTimeoutMs : UInt64
  /-- Size of the buffers of an accepted socket, in bytes. -/
  bufferSize : UInt64
  /-- Headers of a dialled request. -/
  headers : Table
  deriving DecidableEq

namespace Settings

/-- Half a minute between heartbeats, a minute for everything else, buffers of 32 KiB and no headers. -/
protected def default : Settings where
  pingIntervalMs := 30000
  pingTimeoutMs := 60000
  receiveTimeoutMs := 60000
  sendTimeoutMs := 60000
  bufferSize := 32768
  headers := Table.empty

instance : Inhabited Settings := ⟨Settings.default⟩

end Settings

end TextSocket
