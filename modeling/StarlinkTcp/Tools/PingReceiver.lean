import StarlinkTcp.Machine.Schedules

/-!
# The TCP ping receiver, `tcp_ping_receiver.c`

`read_all`, `write_all` and the echo loop of `main`, over a connection whose incoming bytes are given up to the
end of the stream. The outcomes of the `recv` and `send` calls come from two schedules. What is printed and the
setting up of the socket are left out.
-/

namespace StarlinkTcp.Tools
open Machine

def pingMagic : UInt32 := 0x50494E47

/-- `sizeof(ping_pkt_t)`: a packed `magic`, `seq` and `send_ns`. -/
def pktSize : Nat := 4 + 8 + 8

inductive ByteOrder where
  | little | big
deriving DecidableEq, Repr

/-- `pkt.magic`, the first four bytes in the order of the host. -/
def pktMagic (order : ByteOrder) (pkt : List UInt8) : UInt32 :=
  let bytes := match order with
    | .little => (pkt.take 4).reverse
    | .big => pkt.take 4
  bytes.foldl (fun word byte => word * 256 + byte.toUInt32) 0

structure Conn where
  incoming : List UInt8
  outgoing : List UInt8
  recvCalls : Nat
  sendCalls : Nat
deriving DecidableEq, Repr

def Conn.connected (stream : List UInt8) : Conn where
  incoming := stream
  outgoing := []
  recvCalls := 0
  sendCalls := 0

inductive ReadResult where
  | full (buf : List UInt8)
  | closed
  | failed
deriving DecidableEq, Repr

/-- `read_all`: `buf` has been filled so far and `left` bytes are missing. -/
def readAll (recvs : Nat → CallOutcome) : Nat → Conn → List UInt8 → Nat → Option (ReadResult × Conn)
  | 0, _, _, _ => none
  | fuel + 1, conn, buf, left =>
      if left = 0 then some (.full buf, conn)
      else
        let called := { conn with recvCalls := conn.recvCalls + 1 }
        match recvs conn.recvCalls with
        | .interrupted => readAll recvs fuel called buf left
        | .failed => some (.failed, called)
        | .transfers limit =>
            let n := min (min limit left) conn.incoming.length
            -- `recv` returns 0 at the end of the stream
            if n = 0 then some (.closed, called)
            else
              readAll recvs fuel { called with incoming := conn.incoming.drop n }
                (buf ++ conn.incoming.take n) (left - n)

/-- `write_all`, with the bytes that are left to send; `false` when it returns -1. -/
def writeAll (sends : Nat → CallOutcome) : Nat → Conn → List UInt8 → Option (Bool × Conn)
  | 0, _, _ => none
  | fuel + 1, conn, rest =>
      if rest.length = 0 then some (true, conn)
      else
        let called := { conn with sendCalls := conn.sendCalls + 1 }
        match sends conn.sendCalls with
        | .interrupted => writeAll sends fuel called rest
        | .failed => some (false, called)
        | .transfers limit =>
            let n := min limit rest.length
            if n = 0 then some (false, called)
            else writeAll sends fuel { called with outgoing := conn.outgoing ++ rest.take n } (rest.drop n)

/-- How the echo loop is left. -/
inductive EchoEnd where
  | recvFailed | closed | sendFailed
deriving DecidableEq, Repr

def echoLoop (order : ByteOrder) (recvs sends : Nat → CallOutcome) : Nat → Conn → Option (EchoEnd × Conn)
  | 0, _ => none
  | fuel + 1, conn => do
      let (got, conn) ← readAll recvs fuel conn [] pktSize
      match got with
      | .failed => some (.recvFailed, conn)
      | .closed => some (.closed, conn)
      | .full pkt =>
          if pktMagic order pkt ≠ pingMagic then echoLoop order recvs sends fuel conn
          else do
            let (written, conn) ← writeAll sends fuel conn pkt
            if written then echoLoop order recvs sends fuel conn else some (.sendFailed, conn)

end StarlinkTcp.Tools
