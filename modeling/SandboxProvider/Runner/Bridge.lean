import SandboxProvider.Lib.Transition

/-!
# Bridging two connections

`cmd/runner/main.go`: `bridgeConnections`, which the agent proxy (`proxyConnection`) and the CONNECT
proxy (`proxyConnect`) run on the two connections they hold. Two copy loops run side by side, one from
each connection to the other. The main routine waits for one signal and then closes both connections,
`upstream` first.

A label is one atomic step of a loop, of the main routine or of a peer. How a stream is cut into
chunks, on the way to a loop and inside it, is up to the labels.
-/

namespace SandboxProvider.Runner

/-- The two connections of a bridge. -/
inductive Conn
  | connection | upstream
  deriving DecidableEq, Repr

def Conn.other : Conn → Conn
  | .connection => .upstream
  | .upstream => .connection

/-- Where `copyStream` is. -/
inductive CopyState
  /-- In `io.Copy`, waiting for bytes. -/
  | reading
  /-- In `io.Copy`, with bytes to write. -/
  | writing (chunk : List UInt8)
  /-- After `io.Copy`. -/
  | copied
  /-- After `CloseWrite`. -/
  | halfClosed
  /-- After the send on `done`. -/
  | signalled
  deriving DecidableEq, Repr

/-- `io.Copy` has returned. -/
def CopyState.isOver : CopyState → Bool
  | .reading | .writing _ => false
  | _ => true

/-- What was read and is not written yet. -/
def CopyState.inHand : CopyState → List UInt8
  | .writing chunk => chunk
  | _ => []

/-- A copy loop with its source and its destination: `stream` is all that the peer of the source
sends before its EOF, of which some is `unsent` and some is `buffered` before the loop. -/
structure Direction where
  stream : List UInt8
  unsent : List UInt8
  buffered : List UInt8 := []
  ended : Bool := false
  loop : CopyState := .reading
  delivered : List UInt8 := []
  writeClosed : Bool := false
  deriving DecidableEq, Repr

def Direction.start (stream : List UInt8) : Direction where
  stream := stream
  unsent := stream

inductive MainState
  | waiting | received | upstreamClosed | closed
  deriving DecidableEq, Repr

/-- The main routine has not closed anything yet. -/
def MainState.allOpen : MainState → Bool
  | .waiting | .received => true
  | _ => false

/-- Whether a connection is still open. -/
def MainState.isOpen : MainState → Conn → Bool
  | .waiting, _ | .received, _ | .upstreamClosed, .connection => true
  | _, _ => false

/-- The loops are named by their source. -/
structure Bridge where
  direction : Conn → Direction
  /-- Which connections are of type `*net.TCPConn`. -/
  tcp : Conn → Bool
  /-- The buffered signals on `done`. -/
  signals : Nat := 0
  main : MainState := .waiting

inductive BridgeLabel
  /-- The peer of a connection sends bytes. -/
  | send (s : Conn) (n : Nat)
  /-- The peer of a connection ends its stream. -/
  | finish (s : Conn)
  | read (s : Conn) (n : Nat)
  | write (s : Conn)
  /-- A read or a write (after some bytes) of the loop fails. -/
  | readFail (s : Conn)
  | writeFail (s : Conn) (n : Nat)
  | closeWrite (s : Conn)
  | signal (s : Conn)
  /-- The main routine receives from `done` and closes the connections. -/
  | receive
  | closeUpstream
  | closeConnection
  deriving DecidableEq, Repr

namespace Bridge

def start (streams : Conn → List UInt8) (tcp : Conn → Bool) : Bridge where
  direction s := .start (streams s)
  tcp := tcp

/-- Replaces one loop. -/
def set (b : Bridge) (s : Conn) (d : Direction) : Bridge :=
  { b with direction := fun t => if t = s then d else b.direction t }

/-- What a read returns: a chunk, EOF, or nothing yet. -/
def readChunk (d : Direction) (n : Nat) : Option Direction :=
  if d.buffered ≠ [] then
    if 0 < n then
      some { d with loop := .writing (d.buffered.take n), buffered := d.buffered.drop n }
    else none
  else if d.ended then some { d with loop := .copied }
  else none

def step (b : Bridge) : BridgeLabel → Option Bridge
  | .send s n =>
    let d := b.direction s
    if 0 < n ∧ d.unsent ≠ [] then
      some (b.set s { d with buffered := d.buffered ++ d.unsent.take n, unsent := d.unsent.drop n })
    else none
  | .finish s =>
    let d := b.direction s
    if d.unsent = [] ∧ ¬ d.ended then some (b.set s { d with ended := true }) else none
  | .read s n =>
    let d := b.direction s
    if d.loop = .reading ∧ b.main.isOpen s then (readChunk d n).map (b.set s) else none
  | .write s =>
    let d := b.direction s
    match d.loop with
    | .writing chunk =>
      if b.main.isOpen s.other then
        some (b.set s { d with delivered := d.delivered ++ chunk, loop := .reading })
      else none
    | _ => none
  | .readFail s =>
    let d := b.direction s
    if d.loop = .reading then some (b.set s { d with loop := .copied }) else none
  | .writeFail s n =>
    let d := b.direction s
    match d.loop with
    | .writing chunk =>
      some (b.set s { d with delivered := d.delivered ++ chunk.take n, loop := .copied })
    | _ => none
  | .closeWrite s =>
    let d := b.direction s
    if d.loop = .copied then
      some (b.set s { d with writeClosed := b.tcp s.other, loop := .halfClosed })
    else none
  | .signal s =>
    let d := b.direction s
    if d.loop = .halfClosed then
      some { b.set s { d with loop := .signalled } with signals := b.signals + 1 }
    else none
  | .receive =>
    if b.main = .waiting ∧ 0 < b.signals then
      some { b with main := .received, signals := b.signals - 1 }
    else none
  | .closeUpstream =>
    if b.main = .received then some { b with main := .upstreamClosed } else none
  | .closeConnection =>
    if b.main = .upstreamClosed then some { b with main := .closed } else none

/-! ## What a step can do -/

/-- A step of one loop or of the peer of its source. -/
inductive LoopMove (b : Bridge) (s : Conn) (d : Direction) : BridgeLabel → Direction → Prop
  | send {n} (h : d.unsent ≠ []) : LoopMove b s d (.send s n)
      { d with buffered := d.buffered ++ d.unsent.take n, unsent := d.unsent.drop n }
  | finish (h : d.unsent = []) : LoopMove b s d (.finish s) { d with ended := true }
  | read {n} (h : d.loop = .reading) : LoopMove b s d (.read s n)
      { d with loop := .writing (d.buffered.take n), buffered := d.buffered.drop n }
  | eof {n} (h : d.loop = .reading) (hbuffered : d.buffered = []) (hended : d.ended = true) :
      LoopMove b s d (.read s n) { d with loop := .copied }
  | write {chunk} (h : d.loop = .writing chunk) : LoopMove b s d (.write s)
      { d with delivered := d.delivered ++ chunk, loop := .reading }
  | readFail (h : d.loop = .reading) : LoopMove b s d (.readFail s) { d with loop := .copied }
  | writeFail {chunk n} (h : d.loop = .writing chunk) : LoopMove b s d (.writeFail s n)
      { d with delivered := d.delivered ++ chunk.take n, loop := .copied }
  | closeWrite (h : d.loop = .copied) : LoopMove b s d (.closeWrite s)
      { d with writeClosed := b.tcp s.other, loop := .halfClosed }

inductive Moves (b : Bridge) : BridgeLabel → Bridge → Prop
  | loop {l s d} (h : LoopMove b s (b.direction s) l d) : Moves b l (b.set s d)
  | signal {s} (h : (b.direction s).loop = .halfClosed) : Moves b (.signal s)
      { b.set s { b.direction s with loop := .signalled } with signals := b.signals + 1 }
  | receive (h : b.main = .waiting) (hsignals : 0 < b.signals) : Moves b .receive
      { b with main := .received, signals := b.signals - 1 }
  | closeUpstream (h : b.main = .received) : Moves b .closeUpstream
      { b with main := .upstreamClosed }
  | closeConnection (h : b.main = .upstreamClosed) : Moves b .closeConnection
      { b with main := .closed }

theorem moves {b b' : Bridge} {l : BridgeLabel} (h : b.step l = some b') : Moves b l b' := by
  cases l with
  | send s n =>
    obtain ⟨⟨-, hunsent⟩, rfl⟩ := Option.ite_some_none_eq_some.mp h
    exact .loop (.send hunsent)
  | finish s =>
    obtain ⟨⟨hunsent, -⟩, rfl⟩ := Option.ite_some_none_eq_some.mp h
    exact .loop (.finish hunsent)
  | read s n =>
    obtain ⟨⟨hloop, -⟩, heq⟩ := Option.ite_none_right_eq_some.mp h
    obtain ⟨d, hd, rfl⟩ := Option.map_eq_some_iff.mp heq
    unfold readChunk at hd
    by_cases hbuffered : (b.direction s).buffered = []
    · rw [if_neg (not_not.mpr hbuffered)] at hd
      obtain ⟨hended, rfl⟩ := Option.ite_some_none_eq_some.mp hd
      exact .loop (.eof hloop hbuffered hended)
    · rw [if_pos hbuffered] at hd
      obtain ⟨-, rfl⟩ := Option.ite_some_none_eq_some.mp hd
      exact .loop (.read hloop)
  | write s =>
    simp only [step] at h
    split at h
    · rename_i chunk hloop
      obtain ⟨-, rfl⟩ := Option.ite_some_none_eq_some.mp h
      exact .loop (.write hloop)
    · cases h
  | readFail s =>
    obtain ⟨hloop, rfl⟩ := Option.ite_some_none_eq_some.mp h
    exact .loop (.readFail hloop)
  | writeFail s n =>
    simp only [step] at h
    split at h
    · rename_i chunk hloop
      cases h
      exact .loop (.writeFail hloop)
    · cases h
  | closeWrite s =>
    obtain ⟨hloop, rfl⟩ := Option.ite_some_none_eq_some.mp h
    exact .loop (.closeWrite hloop)
  | signal s =>
    obtain ⟨hloop, rfl⟩ := Option.ite_some_none_eq_some.mp h
    exact .signal hloop
  | receive =>
    obtain ⟨⟨hmain, hsignals⟩, rfl⟩ := Option.ite_some_none_eq_some.mp h
    exact .receive hmain hsignals
  | closeUpstream =>
    obtain ⟨hmain, rfl⟩ := Option.ite_some_none_eq_some.mp h
    exact .closeUpstream hmain
  | closeConnection =>
    obtain ⟨hmain, rfl⟩ := Option.ite_some_none_eq_some.mp h
    exact .closeConnection hmain

@[simp] theorem direction_set_self (b : Bridge) (s : Conn) (d : Direction) :
    (b.set s d).direction s = d := if_pos rfl

theorem direction_set_ne (b : Bridge) {s t : Conn} (d : Direction) (h : t ≠ s) :
    (b.set s d).direction t = b.direction t := if_neg h

end Bridge

end SandboxProvider.Runner
