import EventBus.Frame.Decode

/-!
# Reading a frame from a blocking stream

A `Reader` is what the other end of a stream delivers: pieces of any size, interruptions between
them, and in the end the end of the stream or a failure. `Reader.frame` takes exactly one frame off
it. It takes the header, checks the length, and only then takes the body; a failure leaves what was
taken before it taken.
-/

namespace EventBus.Frame

/-- One thing that a stream delivers. -/
inductive Arrival where
  | piece (bytes : Bytes)
  /-- A read that was interrupted, and has to be tried again. -/
  | interrupted
  deriving DecidableEq

/-- How a stream goes on when it has delivered everything. -/
inductive StreamEnd where
  | closed
  | fails (error : IoError)
  deriving DecidableEq

/-- A stream as seen by its reader. -/
structure Reader where
  /-- What it delivers, in order. -/
  arrivals : List Arrival
  ending : StreamEnd

namespace Reader

def bytes (reader : Reader) : Bytes :=
  reader.arrivals.flatMap fun
    | .piece bytes => bytes
    | .interrupted => []

/-- Pieces of up to `step` bytes, behind those already cut (newest first); one piece for a step of
zero. -/
def cutOnto (step : Nat) (pieces : List Arrival) (bytes : Bytes) : List Arrival :=
  if bytes.isEmpty then pieces.reverse
  else if step = 0 then (.piece bytes :: pieces).reverse
  else cutOnto step (.piece (bytes.take step) :: pieces) (bytes.drop step)
  termination_by bytes.length
  decreasing_by
    rename_i hne hstep
    have : 0 < bytes.length := by
      cases bytes with
      | nil => simp at hne
      | cons => simp
    simp only [List.length_drop]
    omega

/-- A stream that delivers bytes in pieces of up to `step`. -/
def ofBytes (step : Nat) (bytes : Bytes) (ending : StreamEnd) : Reader :=
  ⟨cutOnto step [] bytes, ending⟩

def interrupted (reader : Reader) : Reader :=
  { reader with arrivals := .interrupted :: reader.arrivals }

/-- The failure of a read at the end of a stream. -/
def StreamEnd.error : StreamEnd → IoError
  | .closed => { kind := .unexpectedEof }
  | .fails e => e

/-- Takes exactly `n` bytes off what a stream delivers, put behind those already taken (pieces, newest
first). Interruptions are passed over. -/
def takeExact (ending : StreamEnd) (n : Nat) (taken : List Bytes) :
    List Arrival → Except IoError Bytes × List Arrival
  | [] => (.error (StreamEnd.error ending), [])
  | .interrupted :: rest => takeExact ending n taken rest
  | .piece bytes :: rest =>
    match Bytes.splitFirst? n bytes with
    | some (front, back) =>
      (.ok (front :: taken).reverse.flatten, if back.isEmpty then rest else .piece back :: rest)
    | none => takeExact ending (n - bytes.length) (bytes :: taken) rest

/-- Takes exactly `n` bytes off a stream, and does not read at all for none. -/
def exact (n : Nat) (reader : Reader) : Except IoError Bytes × Reader :=
  if n = 0 then (.ok [], reader)
  else
    let (result, arrivals) := takeExact reader.ending n [] reader.arrivals
    (result, { reader with arrivals })

/-- Takes one frame off a stream. A wait that runs out is reported as a timeout of `limit`. -/
def frame (max : Nat) (limit : Duration) (reader : Reader) : Except TransportError Frame × Reader :=
  match reader.exact headerLength with
  | (.error e, reader) => (.error (.ofIo e limit), reader)
  | (.ok header, reader) =>
    match takeUInt32 header with
    | .error e => (.error e, reader)
    | .ok (length, _) =>
      match checkLength max length.toNat with
      | .error e => (.error e, reader) -- the header is read, the body is not
      | .ok () =>
        match reader.exact length.toNat with
        | (.error e, reader) => (.error (.ofIo e limit), reader)
        | (.ok body, reader) => (ofBody body, reader)

end Reader

end EventBus.Frame
