/-
**Where the bytes of a log go.**

A sink passes bytes on to a place. It may hold some of them back, up to its capacity, until they do
not fit any more, or it is flushed, or closed.

* `Sink.memory`, `Sink.file`: a place in memory, where nothing is held back, and a file;
* `Sink.write`, `Sink.flush`, `Sink.close`: its operations;
* `Emitter.pour`: the operations of an emitter over a sink.
-/

import IncompleteBeta.Log.Emitter
import IncompleteBeta.Text.Utf8

namespace IncompleteBeta.Log

/-- Bytes on their way to a place. -/
structure Sink where
  capacity : Nat
  /-- What has been taken and not passed on. -/
  held : List UInt8 := []
  /-- What has reached the place. -/
  placed : List UInt8 := []
deriving DecidableEq, Repr

namespace Sink

def memory : Sink := { capacity := 0 }

def file : Sink := { capacity := 8192 }

def flush (sink : Sink) : Sink := { sink with held := [], placed := sink.placed ++ sink.held }

/-- Take bytes. Those held back are passed on first if they leave too little room, and what is too
large to be held back at all is passed on at once. -/
def write (sink : Sink) (bytes : List UInt8) : Sink :=
  let sink := if sink.capacity < sink.held.length + bytes.length then sink.flush else sink
  if sink.capacity ≤ bytes.length then { sink with placed := sink.placed ++ bytes }
  else { sink with held := sink.held ++ bytes }

/-- What is at the place once the sink is gone; that passes on what was held back. -/
def close (sink : Sink) : List UInt8 := sink.flush.placed

end Sink

/-- The operations of an emitter one after the other, over a sink. -/
def Emitter.pour (emitter : Emitter) (sink : Sink) : List Emitter.Operation → Sink
  | [] => sink
  | operation :: rest =>
    let (text, emitter) := emitter.step operation
    let sink := match operation with
      | .flush => sink.flush
      | .emit .. | .write _ => sink.write (Text.utf8Bytes text)
    emitter.pour sink rest

end IncompleteBeta.Log
