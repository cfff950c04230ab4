/-!
# Silencing of streams

A stream is silent while a gag is on it, and it takes one gag at a time. Handles on a stream share a
gag that counts them: the first handle puts it on, further ones join it, and the last to go takes it
off. The stream keeps the number of the gag that was shared last but no handle on it, so the gag can
be gone. A gag that was put on without a handle cannot be shared.
-/

namespace LinearModel

inductive StreamId where
  | stdout
  | stderr
deriving DecidableEq

namespace StreamId

def name : StreamId → String
  | stdout => "stdout"
  | stderr => "stderr"

def ofName? : String → Option StreamId
  | "stdout" => some stdout
  | "stderr" => some stderr
  | _ => none

end StreamId

inductive SilenceFault where
  /-- The stream already has a gag of its own. -/
  | taken
  | refused (message : String)

def SilenceFault.message : SilenceFault → String
  | taken => "Redirect already exists."
  | refused message => message

structure Stream where
  gagged : Bool := false
  /-- The gag that was shared last; it may have no handle any more. -/
  current : Option Nat := none
  /-- How many handles each of the gags opened so far has, by its number. -/
  counts : List Nat := []
deriving DecidableEq

structure StreamHandle where
  stream : StreamId
  gag : Nat
deriving DecidableEq

namespace Stream

def isSilent (s : Stream) : Bool :=
  s.gagged

def holders (s : Stream) (gag : Nat) : Nat :=
  s.counts.getD gag 0

def shared? (s : Stream) : Option Nat :=
  s.current.filter (s.holders · ≠ 0)

/-- That the stream has a gag is found out before the system is asked; `refusal` says why it would
refuse. -/
def putOn (s : Stream) (refusal : Option String) : Except SilenceFault Stream :=
  if s.gagged then .error .taken
  else
    match refusal with
    | some message => .error (.refused message)
    | none => .ok { s with gagged := true }

def takeOff (s : Stream) : Stream :=
  { s with gagged := false }

def openGag (s : Stream) (refusal : Option String) : Except SilenceFault (Nat × Stream) :=
  let gag := s.counts.length
  (s.putOn refusal).map fun s => (gag, { s with current := some gag, counts := s.counts ++ [1] })

def join (s : Stream) (gag : Nat) : Stream :=
  { s with counts := s.counts.modify gag (· + 1) }

def acquire (s : Stream) (refusal : Option String := none) : Except SilenceFault (Nat × Stream) :=
  match s.shared? with
  | some gag => .ok (gag, s.join gag)
  | none => s.openGag refusal

/-- One handle on a gag fewer. The gag stays on even if that was the last. -/
def letGo (s : Stream) (gag : Nat) : Stream :=
  { s with counts := s.counts.modify gag (· - 1) }

def release (s : Stream) (gag : Nat) : Stream :=
  let s := s.letGo gag
  if s.holders gag = 0 then s.takeOff else s

def acquireForeign (s : Stream) : Except SilenceFault Stream :=
  s.putOn none

def releaseForeign (s : Stream) : Stream :=
  s.takeOff

end Stream

structure Streams where
  stdout : Stream := {}
  stderr : Stream := {}
deriving DecidableEq

namespace Streams

def get (s : Streams) : StreamId → Stream
  | .stdout => s.stdout
  | .stderr => s.stderr

def set (s : Streams) (id : StreamId) (stream : Stream) : Streams :=
  match id with
  | .stdout => { s with stdout := stream }
  | .stderr => { s with stderr := stream }

def isOpen (s : Streams) (id : StreamId) : Bool :=
  !(s.get id).isSilent

abbrev Refusals := StreamId → Option String

def acquire (s : Streams) (id : StreamId) (refusals : Refusals := fun _ => none) :
    Except SilenceFault (StreamHandle × Streams) :=
  (((s.get id).acquire (refusals id)).map fun (gag, stream) => (⟨id, gag⟩, s.set id stream))

def release (s : Streams) (h : StreamHandle) : Streams :=
  s.set h.stream ((s.get h.stream).release h.gag)

def releaseAll (s : Streams) (handles : List StreamHandle) : Streams :=
  handles.foldl release s

/-- Handles on both streams, and the streams left behind. Where the second stream cannot be
silenced, the handle on the first is given back. -/
def acquireBoth (s : Streams) (refusals : Refusals := fun _ => none) :
    Except SilenceFault (List StreamHandle) × Streams :=
  match s.acquire .stdout refusals with
  | .error fault => (.error fault, s)
  | .ok (out, s) =>
    match s.acquire .stderr refusals with
    | .error fault => (.error fault, s.release out)
    | .ok (err, s) => (.ok [out, err], s)

/-- Handles on both streams unless the log is to be shown. That the streams cannot be silenced is no
reason to stop. -/
def acquireUnless (s : Streams) (showLog : Bool) (refusals : Refusals := fun _ => none) :
    Option (List StreamHandle) × Streams :=
  if showLog then (none, s)
  else
    match s.acquireBoth refusals with
    | (.ok handles, s) => (some handles, s)
    | (.error _, s) => (none, s)

def acquireForeign (s : Streams) (id : StreamId) : Except SilenceFault Streams :=
  (s.get id).acquireForeign.map (s.set id)

def releaseForeign (s : Streams) (id : StreamId) : Streams :=
  s.set id (s.get id).releaseForeign

end Streams

end LinearModel
