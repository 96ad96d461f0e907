import HttpService.Pipeline.Answer
import HttpService.Wire.Framing

/-!
Contract: one connection, which brings one request and takes one response.

Owns:
- the events on the way in and the behaviour on the way out;
- reading under the read timeout, and writing under the write timeout;
- what has been read and written when the connection ends, and why it ends.

Does not own: the answer itself.
-/

namespace HttpService

inductive Arrival where
  /-- What one read brings: at least one octet, at most as many as a read may bring. -/
  | chunk (bytes : Bytes)
  /-- Nothing for a number of milliseconds. -/
  | delay (span : Nat)
  /-- Nothing ever again. -/
  | stall
  /-- The read fails. -/
  | failure (error : TransferError)
deriving DecidableEq, Repr

/-- What stands in the way of a write. -/
inductive Hindrance where
  /-- Nothing is taken for a number of milliseconds. -/
  | delay (span : Nat)
  /-- Nothing is taken ever again. -/
  | stall
  /-- The write fails. -/
  | failure (error : TransferError)
deriving DecidableEq, Repr

/-- What the other end does when octets are offered to it. -/
inductive Uptake where
  /-- It takes octets, at most a number of them. -/
  | takes (most : Nat)
  | hinders (hindrance : Hindrance)
deriving DecidableEq, Repr

/-- How the other end takes what is written: what it does for as long as octets are left, before it
takes the rest at once, and what stands in the way when they are to be passed on. -/
structure Sink where
  uptakes : List Uptake
  flushing : List Hindrance
deriving DecidableEq, Repr

namespace Sink

def accepts : Sink := ⟨[], []⟩

def stalls : Sink := ⟨[.hinders .stall], []⟩

def acceptsNothing : Sink := ⟨[.takes 0], []⟩

def fails (error : TransferError) : Sink := ⟨[.hinders (.failure error)], []⟩

/-- It takes all octets, but never passes them on. -/
def flushStalls : Sink := ⟨[], [.stall]⟩

def flushFails (error : TransferError) : Sink := ⟨[], [.failure error]⟩

end Sink

/-- Octets as they are read: in chunks that one read may bring. -/
def Arrival.ofBytes (bytes : Bytes) : List Arrival :=
  if bytes = [] then []
  else .chunk (bytes.take Wire.maxChunk) :: ofBytes (bytes.drop Wire.maxChunk)
termination_by bytes.length
decreasing_by
  rename_i nonempty
  have := List.length_pos_iff.mpr nonempty
  simp only [List.length_drop, Wire.maxChunk]
  omega

inductive Receipt where
  /-- These octets are the request; none if the other end sent nothing. -/
  | request (bytes : Bytes)
  | timedOut
  | failed (error : TransferError)
  /-- The request is too large to be counted. -/
  | uncountable
deriving DecidableEq, Repr

/-- How a connection ends: with success or an error, or with a panic. -/
structure Closing where
  result : Except Panic (Except ServiceError Unit)
  written : Bytes
  consumed : Nat

/-- The error of a response that takes too long to send. -/
def writeTimedOut : TransferError := ⟨.other, "timed out writing response"⟩

/-- The panic of a sum of sizes that is too large to be counted. -/
def sumTooLarge : Panic := ⟨some "attempt to add with overflow"⟩

/-- The error of an end that takes nothing. -/
def writeZero : TransferError := ⟨.other, "write zero"⟩

namespace Pipeline

variable {World : Type}

/-- How a request is read: the most octets that are kept, the largest body, and the
moment until which reading goes on. -/
structure Reading where
  limit : Nat
  maxBody : Nat
  deadline : Nat

/-- Reads a request; `buffer` holds what is kept so far and `consumed` counts what has
been read. `usedUp` says that reading began at the end of the caller's turn, and that
there has been no other turn yet. -/
def receive (reading : Reading) (usedUp : Bool) (buffer : Bytes) (consumed : Nat)
    (arrivals : List Arrival) (engine : Engine World) : Receipt × Nat × Engine World :=
  match arrivals with
  | [] => (.request buffer, consumed, engine)
  | .chunk bytes :: rest =>
      let consumed := consumed + bytes.length
      match Wire.absorb reading.limit reading.maxBody buffer bytes with
      | .more held => receive reading usedUp held consumed rest engine
      | .enough held => (.request held, consumed, engine)
      | .uncountable => (.uncountable, consumed, engine)
  | .delay span :: rest =>
      match engine.waitWithin (some (engine.clock + restSpan span)) reading.deadline usedUp with
      | (true, engine) => receive reading false buffer consumed rest engine
      | (false, engine) => (.timedOut, consumed, engine)
  | .stall :: _ => (.timedOut, consumed, (engine.waitWithin none reading.deadline usedUp).2)
  | .failure error :: _ => (.failed error, consumed, engine)

/-- Waits until a hindrance is out of the way, but not beyond a deadline: why writing ends with it,
if it does. `usedUp` says that writing began at the end of the caller's turn, and that there has been
no other turn yet. -/
def overcome (deadline : Nat) (usedUp : Bool) (hindrance : Hindrance) (engine : Engine World) :
    Except TransferError Unit × Engine World :=
  match hindrance with
  | .delay span =>
      match engine.waitWithin (some (engine.clock + restSpan span)) deadline usedUp with
      | (true, engine) => (.ok (), engine)
      | (false, engine) => (.error writeTimedOut, engine)
  | .stall => (.error writeTimedOut, (engine.waitWithin none deadline usedUp).2)
  | .failure error => (.error error, engine)

/-- Has octets passed on that have been taken. -/
def flush (deadline : Nat) (usedUp : Bool) (flushing : List Hindrance) (engine : Engine World) :
    Except TransferError Unit × Engine World :=
  match flushing with
  | [] => (.ok (), engine)
  | hindrance :: rest =>
      match overcome deadline usedUp hindrance engine with
      | (.error error, engine) => (.error error, engine)
      | (.ok (), engine) => flush deadline false rest engine

/-- Writes octets until all are taken, and has them passed on: what has been taken, and why writing
ended early, if it did. -/
def write (deadline : Nat) (flushing : List Hindrance) (usedUp : Bool) (bytes : Bytes)
    (uptakes : List Uptake) (engine : Engine World) : Bytes × Except TransferError Unit × Engine World :=
  if bytes = [] then ([], flush deadline usedUp flushing engine)
  else
    match uptakes with
    | [] => (bytes, flush deadline usedUp flushing engine)
    | .takes most :: rest =>
        if most = 0 then ([], .error writeZero, engine)
        else
          let (written, result) :=
            write deadline flushing usedUp (bytes.drop most) rest engine
          (bytes.take most ++ written, result)
    | .hinders hindrance :: rest =>
        match overcome deadline usedUp hindrance engine with
        | (.error error, engine) => ([], .error error, engine)
        | (.ok (), engine) => write deadline flushing false bytes rest engine

/-- Writes a response: what has been written, and why not all of it. -/
def transmit (sink : Sink) (bytes : Bytes) (timeout : Nat) (engine : Engine World) :
    Bytes × Except TransferError Unit × Engine World :=
  write (engine.clock + timeout) sink.flushing (engine.allowance = 0) bytes sink.uptakes engine

/-- Sends a response and closes the connection. -/
def finish (pipeline : Pipeline World) (sink : Sink) (response : Response) (consumed : Nat)
    (engine : Engine World) : Closing × Engine World :=
  match transmit sink response.toBytes pipeline.config.writeTimeout engine with
  | (written, result, engine) =>
      (⟨.ok (result.mapError .transfer), written, consumed⟩, engine)

/-- Reads a request under the read timeout. -/
def receiveRequest (pipeline : Pipeline World) (arrivals : List Arrival)
    (engine : Engine World) : Receipt × Nat × Engine World :=
  let maxBody := pipeline.config.maxBody
  match Wire.readLimit? maxBody with
  | none => (.uncountable, 0, engine)
  | some limit =>
      receive ⟨limit, maxBody, engine.clock + pipeline.config.readTimeout⟩
        (engine.allowance = 0) [] 0 arrivals engine

/-- Serves a connection: reads a request, answers it and closes. A request that is too
large to be counted ends in a panic. -/
def serve (pipeline : Pipeline World) (arrivals : List Arrival) (sink : Sink)
    (peer : Option Network.SocketAddress) (engine : Engine World) : Closing × Engine World :=
  match pipeline.receiveRequest arrivals engine with
  | (.uncountable, consumed, engine) => (⟨.error sumTooLarge, [], consumed⟩, engine)
  | (.failed error, consumed, engine) =>
      (⟨.ok (.error (.transfer error)), [], consumed⟩, engine)
  | (.timedOut, consumed, engine) =>
      let engine :=
        engine.report .warn ("Timed out reading request from " ++ describePeer peer)
      pipeline.finish sink (rejection (.ofStatus .requestTimeout)) consumed engine
  | (.request bytes, consumed, engine) =>
      if bytes = [] then (⟨.ok (.ok ()), [], consumed⟩, engine)
      else
        match pipeline.handle bytes peer engine with
        | (.error payload, engine) => (⟨.error payload, [], consumed⟩, engine)
        | (.ok response, engine) => pipeline.finish sink response consumed engine

end Pipeline

end HttpService
