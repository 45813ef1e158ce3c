import StarlinkTcp.Tools.PingReceiver

/-!
# The TCP ping receiver with a POP logger, `tcp_ping_receiver_pop.c`

It echoes as `tcp_ping_receiver.c` does, but a signal sets `stop_requested`, which the loop reads before
each packet and each transfer reads when a call was interrupted. A third schedule says what each of these
reads finds. The child process with the ICMP pings is left out.
-/

namespace StarlinkTcp.Tools.Pop
open Machine

/-- A connection, and how often `stop_requested` has been read. -/
structure Watched extends Conn where
  checks : Nat
deriving DecidableEq, Repr

def Watched.connected (stream : List UInt8) : Watched where
  toConn := .connected stream
  checks := 0

def readAll (recvs : Nat → CallOutcome) (stops : Nat → Bool) :
    Nat → Watched → List UInt8 → Nat → Option (ReadResult × Watched)
  | 0, _, _, _ => none
  | fuel + 1, conn, buf, left =>
      if left = 0 then some (.full buf, conn)
      else
        let called := { conn with recvCalls := conn.recvCalls + 1 }
        match recvs conn.recvCalls with
        | .interrupted =>
            let checked := { called with checks := conn.checks + 1 }
            if stops conn.checks then some (.failed, checked) else readAll recvs stops fuel checked buf left
        | .failed => some (.failed, called)
        | .transfers limit =>
            let n := min (min limit left) conn.incoming.length
            if n = 0 then some (.closed, called)
            else
              readAll recvs stops fuel { called with incoming := conn.incoming.drop n }
                (buf ++ conn.incoming.take n) (left - n)

def writeAll (sends : Nat → CallOutcome) (stops : Nat → Bool) :
    Nat → Watched → List UInt8 → Option (Bool × Watched)
  | 0, _, _ => none
  | fuel + 1, conn, rest =>
      if rest.length = 0 then some (true, conn)
      else
        let called := { conn with sendCalls := conn.sendCalls + 1 }
        match sends conn.sendCalls with
        | .interrupted =>
            let checked := { called with checks := conn.checks + 1 }
            if stops conn.checks then some (false, checked) else writeAll sends stops fuel checked rest
        | .failed => some (false, called)
        | .transfers limit =>
            let n := min limit rest.length
            if n = 0 then some (false, called)
            else writeAll sends stops fuel { called with outgoing := conn.outgoing ++ rest.take n } (rest.drop n)

/-- How the echo loop is left: at its head, or as that of the other receiver. -/
inductive EchoEnd where
  | stopped
  | broken (echoEnd : Tools.EchoEnd)
deriving DecidableEq, Repr

def echoLoop (order : ByteOrder) (recvs sends : Nat → CallOutcome) (stops : Nat → Bool) :
    Nat → Watched → Option (EchoEnd × Watched)
  | 0, _ => none
  | fuel + 1, conn =>
      let checked := { conn with checks := conn.checks + 1 }
      if stops conn.checks then some (.stopped, checked)
      else do
        let (got, conn) ← readAll recvs stops fuel checked [] pktSize
        match got with
        | .failed => some (.broken .recvFailed, conn)
        | .closed => some (.broken .closed, conn)
        | .full pkt =>
            if pktMagic order pkt ≠ pingMagic then echoLoop order recvs sends stops fuel conn
            else do
              let (written, conn) ← writeAll sends stops fuel conn pkt
              if written then echoLoop order recvs sends stops fuel conn
              else some (.broken .sendFailed, conn)

end StarlinkTcp.Tools.Pop
