import Mathlib.Data.List.Basic
import StarlinkTcp.Tools.PingReceiver

/-!
# Framing of the echoed bytes

However the calls split the two streams, `read_all` takes the next 20 bytes off the incoming stream and
`write_all` puts a packet behind the outgoing one. The loop between them therefore sends back the aligned frames
that carry the magic number.
-/

namespace StarlinkTcp.Tools
open Machine

/-- The complete frames of a stream, cut at multiples of the packet size. -/
def alignedFrames (stream : List UInt8) : List (List UInt8) :=
  (List.range (stream.length / pktSize)).map fun i => (stream.drop (pktSize * i)).take pktSize

def echoed (order : ByteOrder) (stream : List UInt8) : List UInt8 :=
  ((alignedFrames stream).filter fun frame => pktMagic order frame = pingMagic).flatten

end StarlinkTcp.Tools

namespace StarlinkTcp.Proof
open Machine Tools

/-! ## Frames -/

theorem alignedFrames_of_short {stream : List UInt8} (short : stream.length < pktSize) :
    alignedFrames stream = [] := by
  rw [alignedFrames, Nat.div_eq_of_lt short]
  rfl

theorem alignedFrames_of_full {stream : List UInt8} (full : pktSize ≤ stream.length) :
    alignedFrames stream = stream.take pktSize :: alignedFrames (stream.drop pktSize) := by
  have count : stream.length / pktSize = (stream.drop pktSize).length / pktSize + 1 := by
    rw [List.length_drop]
    exact Nat.div_eq_sub_div (by decide) full
  rw [alignedFrames, count, List.range_succ_eq_map, List.map_cons, List.map_map]
  congr 1
  apply List.map_congr_left
  intro i _
  rw [Function.comp_apply, List.drop_drop, Nat.succ_eq_add_one, Nat.mul_add, Nat.mul_one, Nat.add_comm]

/-! ## More fuel -/

section Fuel

variable {order : ByteOrder} {recvs sends : Nat → CallOutcome}

theorem readAll_succ {fuel left : Nat} {conn : Conn} {buf : List UInt8} {result : ReadResult × Conn}
    (done : readAll recvs fuel conn buf left = some result) :
    readAll recvs (fuel + 1) conn buf left = some result := by
  induction fuel generalizing conn buf left with
  | zero => cases done
  | succ fuel ih =>
      rw [readAll] at done ⊢
      by_cases ready : left = 0
      · rwa [if_pos ready] at done ⊢
      · rw [if_neg ready] at done ⊢
        cases outcome : recvs conn.recvCalls with
        | interrupted =>
            simp only [outcome] at done ⊢
            exact ih done
        | failed =>
            simp only [outcome] at done ⊢
            exact done
        | transfers limit =>
            simp only [outcome] at done ⊢
            by_cases ended : min (min limit left) conn.incoming.length = 0
            · rwa [if_pos ended] at done ⊢
            · rw [if_neg ended] at done ⊢
              exact ih done

theorem writeAll_succ {fuel : Nat} {conn : Conn} {rest : List UInt8} {result : Bool × Conn}
    (done : writeAll sends fuel conn rest = some result) :
    writeAll sends (fuel + 1) conn rest = some result := by
  induction fuel generalizing conn rest with
  | zero => cases done
  | succ fuel ih =>
      rw [writeAll] at done ⊢
      by_cases ready : rest.length = 0
      · rwa [if_pos ready] at done ⊢
      · rw [if_neg ready] at done ⊢
        cases outcome : sends conn.sendCalls with
        | interrupted =>
            simp only [outcome] at done ⊢
            exact ih done
        | failed =>
            simp only [outcome] at done ⊢
            exact done
        | transfers limit =>
            simp only [outcome] at done ⊢
            by_cases refused : min limit rest.length = 0
            · rwa [if_pos refused] at done ⊢
            · rw [if_neg refused] at done ⊢
              exact ih done

theorem echoLoop_succ {fuel : Nat} {conn : Conn} {result : EchoEnd × Conn}
    (done : echoLoop order recvs sends fuel conn = some result) :
    echoLoop order recvs sends (fuel + 1) conn = some result := by
  induction fuel generalizing conn with
  | zero => cases done
  | succ fuel ih =>
      rw [echoLoop, Option.bind_eq_bind, Option.bind_eq_some_iff] at done ⊢
      obtain ⟨⟨got, read⟩, reads, done⟩ := done
      refine ⟨⟨got, read⟩, readAll_succ reads, ?_⟩
      cases got with
      | failed => exact done
      | closed => exact done
      | full pkt =>
          dsimp only at done ⊢
          by_cases other : pktMagic order pkt ≠ pingMagic
          · rw [if_pos other] at done ⊢
            exact ih done
          · rw [if_neg other, Option.bind_eq_bind, Option.bind_eq_some_iff] at done ⊢
            obtain ⟨⟨written, sent⟩, writes, done⟩ := done
            refine ⟨⟨written, sent⟩, writeAll_succ writes, ?_⟩
            cases written with
            | false => exact done
            | true => exact ih done

/-- A loop that returns with some fuel returns the same with any more. -/
theorem eventually_of_succ {Result : Type} {loop : Nat → Option Result} {fuel : Nat} {result : Result}
    (succ : ∀ fuel, loop fuel = some result → loop (fuel + 1) = some result) (done : loop fuel = some result) :
    ∀ more ≥ fuel, loop more = some result := by
  intro more le
  induction more, le using Nat.le_induction with
  | base => exact done
  | succ more _ ih => exact succ more ih

theorem readAll_more {fuel left : Nat} {conn : Conn} {buf : List UInt8} {result : ReadResult × Conn}
    (done : readAll recvs fuel conn buf left = some result) :
    ∀ more ≥ fuel, readAll recvs more conn buf left = some result :=
  @eventually_of_succ _ (fun fuel => readAll recvs fuel conn buf left) _ _ (fun _ => readAll_succ) done

theorem writeAll_more {fuel : Nat} {conn : Conn} {rest : List UInt8} {result : Bool × Conn}
    (done : writeAll sends fuel conn rest = some result) :
    ∀ more ≥ fuel, writeAll sends more conn rest = some result :=
  @eventually_of_succ _ (fun fuel => writeAll sends fuel conn rest) _ _ (fun _ => writeAll_succ) done

theorem echoLoop_more {fuel : Nat} {conn : Conn} {result : EchoEnd × Conn}
    (done : echoLoop order recvs sends fuel conn = some result) :
    ∀ more ≥ fuel, echoLoop order recvs sends more conn = some result :=
  @eventually_of_succ _ (fun fuel => echoLoop order recvs sends fuel conn) _ _ (fun _ => echoLoop_succ) done

end Fuel

/-! ## The two transfer loops -/

section Transfers

variable (recvs sends : FairSchedule)

theorem readAll_interrupted {d fuel left : Nat} {conn : Conn} {buf : List UInt8} (missing : left ≠ 0)
    (interrupted : ∀ l < d, recvs.outcome (conn.recvCalls + l) = .interrupted) :
    readAll recvs.outcome (fuel + d) conn buf left =
      readAll recvs.outcome fuel { conn with recvCalls := conn.recvCalls + d } buf left := by
  induction d generalizing conn with
  | zero => rfl
  | succ d ih =>
      obtain ⟨first, later⟩ := interrupted_succ interrupted
      have calls : conn.recvCalls + 1 + d = conn.recvCalls + (d + 1) := by omega
      rw [← Nat.add_assoc, readAll, if_neg missing]
      simp only [first]
      rw [ih later]
      simp only [calls]

theorem writeAll_interrupted {d fuel : Nat} {conn : Conn} {rest : List UInt8} (missing : rest.length ≠ 0)
    (interrupted : ∀ l < d, sends.outcome (conn.sendCalls + l) = .interrupted) :
    writeAll sends.outcome (fuel + d) conn rest =
      writeAll sends.outcome fuel { conn with sendCalls := conn.sendCalls + d } rest := by
  induction d generalizing conn with
  | zero => rfl
  | succ d ih =>
      obtain ⟨first, later⟩ := interrupted_succ interrupted
      have calls : conn.sendCalls + 1 + d = conn.sendCalls + (d + 1) := by omega
      rw [← Nat.add_assoc, writeAll, if_neg missing]
      simp only [first]
      rw [ih later]
      simp only [calls]

/-- What `read_all` makes of the bytes that are still to come. -/
def readOutcome (conn : Conn) (buf : List UInt8) (left : Nat) : ReadResult :=
  if left ≤ conn.incoming.length then .full (buf ++ conn.incoming.take left) else .closed

theorem readOutcome_rest {conn : Conn} {n left : Nat} (buf : List UInt8) (part : n ≤ left)
    (there : n ≤ conn.incoming.length) (calls : Nat) :
    readOutcome { conn with recvCalls := calls, incoming := conn.incoming.drop n } (buf ++ conn.incoming.take n)
      (left - n) = readOutcome conn buf left := by
  unfold readOutcome
  dsimp only
  have split : conn.incoming.take left = conn.incoming.take n ++ (conn.incoming.drop n).take (left - n) := by
    rw [← List.take_add, Nat.add_sub_cancel' part]
  by_cases enough : left ≤ conn.incoming.length
  · rw [if_pos enough, if_pos (by rw [List.length_drop]; omega), split, List.append_assoc]
  · rw [if_neg enough, if_neg (by rw [List.length_drop]; omega)]

theorem readAll_returns (conn : Conn) (buf : List UInt8) (left : Nat) :
    ∃ fuel conn', readAll recvs.outcome fuel conn buf left = some (readOutcome conn buf left, conn') ∧
      conn'.incoming = conn.incoming.drop left ∧ conn'.outgoing = conn.outgoing := by
  induction left using Nat.strong_induction_on generalizing conn buf with
  | _ left ih =>
      by_cases ready : left = 0
      · refine ⟨1, conn, ?_, by simp [ready], rfl⟩
        rw [readAll, if_pos ready, readOutcome, ready, if_pos (Nat.zero_le _), List.take_zero, List.append_nil]
      · obtain ⟨d, limit, interrupted, moves, positive⟩ := recvs.exists_transfer conn.recvCalls
        by_cases ended : min (min limit left) conn.incoming.length = 0
        · have empty : conn.incoming = [] := List.length_eq_zero_iff.mp (by omega)
          refine ⟨0 + 1 + d, { conn with recvCalls := conn.recvCalls + d + 1 }, ?_, by simp [empty], rfl⟩
          rw [readAll_interrupted recvs ready interrupted, readAll, if_neg ready]
          simp only [moves]
          rw [if_pos ended, readOutcome, if_neg (by simp [empty]; omega)]
        · -- one call takes a part, and the loop goes on with the rest
          generalize size : min (min limit left) conn.incoming.length = n at ended
          obtain ⟨fuel, conn', done, taken, kept⟩ := ih (left - n) (by omega)
            { conn with recvCalls := conn.recvCalls + d + 1, incoming := conn.incoming.drop n }
            (buf ++ conn.incoming.take n)
          rw [readOutcome_rest buf (by omega) (by omega)] at done
          refine ⟨fuel + 1 + d, conn', ?_, ?_, kept⟩
          · rw [readAll_interrupted recvs ready interrupted, readAll, if_neg ready]
            simp only [moves]
            rw [size, if_neg ended]
            exact done
          · rw [taken, List.drop_drop, Nat.add_sub_cancel' (by omega)]

theorem writeAll_returns (conn : Conn) (rest : List UInt8) :
    ∃ fuel conn', writeAll sends.outcome fuel conn rest = some (true, conn') ∧
      conn'.outgoing = conn.outgoing ++ rest ∧ conn'.incoming = conn.incoming := by
  induction left : rest.length using Nat.strong_induction_on generalizing conn rest with
  | _ left ih =>
      by_cases ready : rest.length = 0
      · refine ⟨1, conn, by rw [writeAll, if_pos ready], ?_, rfl⟩
        rw [List.length_eq_zero_iff.mp ready, List.append_nil]
      · obtain ⟨d, limit, interrupted, moves, positive⟩ := sends.exists_transfer conn.sendCalls
        generalize size : min limit rest.length = n
        have refused : n ≠ 0 := by omega
        obtain ⟨fuel, conn', done, added, kept⟩ := ih (rest.drop n).length (by rw [List.length_drop]; omega)
          { conn with sendCalls := conn.sendCalls + d + 1, outgoing := conn.outgoing ++ rest.take n } (rest.drop n) rfl
        refine ⟨fuel + 1 + d, conn', ?_, ?_, kept⟩
        · rw [writeAll_interrupted sends ready interrupted, writeAll, if_neg ready]
          simp only [moves]
          rw [size, if_neg refused]
          exact done
        · rw [added, List.append_assoc, List.take_append_drop]

end Transfers

/-! ## The echo loop -/

variable (order : ByteOrder) (recvs sends : FairSchedule)

theorem echoed_of_full {stream : List UInt8} (full : pktSize ≤ stream.length) :
    echoed order stream =
      (if pktMagic order (stream.take pktSize) = pingMagic then stream.take pktSize else []) ++
        echoed order (stream.drop pktSize) := by
  unfold echoed
  rw [alignedFrames_of_full full, List.filter_cons]
  split <;> simp_all

theorem echoLoop_returns (conn : Conn) :
    ∃ fuel conn', echoLoop order recvs.outcome sends.outcome fuel conn = some (.closed, conn') ∧
      conn'.incoming = [] ∧ conn'.outgoing = conn.outgoing ++ echoed order conn.incoming := by
  induction size : conn.incoming.length using Nat.strong_induction_on generalizing conn with
  | _ size' ih =>
      obtain ⟨readFuel, read, reads, taken, kept⟩ := readAll_returns recvs conn [] pktSize
      have reads' := readAll_more reads
      by_cases full : pktSize ≤ conn.incoming.length
      · rw [readOutcome, if_pos full, List.nil_append] at reads'
        have shorter : read.incoming.length < size' := by
          rw [taken, List.length_drop, ← size]
          exact Nat.sub_lt (Nat.lt_of_lt_of_le (by decide) full) (by decide)
        rw [echoed_of_full order full]
        by_cases magic : pktMagic order (conn.incoming.take pktSize) = pingMagic
        · obtain ⟨writeFuel, sent, writes, added, still⟩ := writeAll_returns sends read (conn.incoming.take pktSize)
          have writes' := writeAll_more writes
          obtain ⟨fuel, conn', done, ended, echoes⟩ := ih sent.incoming.length (by rwa [still]) sent rfl
          have done' := echoLoop_more done
          refine ⟨max readFuel (max writeFuel fuel) + 1, conn', ?_, ended, ?_⟩
          · rw [echoLoop, reads' _ (by omega)]
            simp only [Option.bind_eq_bind, Option.bind_some]
            rw [if_neg (not_not.mpr magic), writes' _ (by omega)]
            simp only [Option.bind_some, if_true]
            exact done' _ (by omega)
          · rw [echoes, added, kept, still, taken, if_pos magic, List.append_assoc]
        · obtain ⟨fuel, conn', done, ended, echoes⟩ := ih read.incoming.length shorter read rfl
          have done' := echoLoop_more done
          refine ⟨max readFuel fuel + 1, conn', ?_, ended, ?_⟩
          · rw [echoLoop, reads' _ (by omega)]
            simp only [Option.bind_eq_bind, Option.bind_some]
            rw [if_pos magic]
            exact done' _ (by omega)
          · rw [echoes, kept, taken, if_neg magic, List.nil_append]
      · -- the stream ends inside a frame
        rw [readOutcome, if_neg full] at reads
        refine ⟨readFuel + 1, read, ?_, ?_, ?_⟩
        · rw [echoLoop, reads]
          rfl
        · rw [taken]
          exact List.drop_of_length_le (Nat.le_of_not_le full)
        · rw [kept, echoed, alignedFrames_of_short (Nat.lt_of_not_le full)]
          simp

theorem echo_framing (order : ByteOrder) (recvs sends : FairSchedule) (stream : List UInt8) :
    (∃ fuel conn, (∀ more ≥ fuel,
        echoLoop order recvs.outcome sends.outcome more (.connected stream) = some (.closed, conn)) ∧
      conn.incoming = [] ∧ conn.outgoing = echoed order stream) ∧
    (∀ conn : Conn, ∃ fuel conn', (∀ more ≥ fuel,
        readAll recvs.outcome more conn [] pktSize = some (readOutcome conn [] pktSize, conn')) ∧
      conn'.incoming = conn.incoming.drop pktSize ∧ conn'.outgoing = conn.outgoing) ∧
    (∀ (conn : Conn) (pkt : List UInt8), ∃ fuel conn', (∀ more ≥ fuel,
        writeAll sends.outcome more conn pkt = some (true, conn')) ∧
      conn'.outgoing = conn.outgoing ++ pkt ∧ conn'.incoming = conn.incoming) := by
  refine ⟨?_, fun conn => ?_, fun conn pkt => ?_⟩
  · obtain ⟨fuel, conn, done, ended, echoes⟩ := echoLoop_returns order recvs sends (.connected stream)
    exact ⟨fuel, conn, echoLoop_more done, ended, echoes⟩
  · obtain ⟨fuel, conn', done, frame⟩ := readAll_returns recvs conn [] pktSize
    exact ⟨fuel, conn', readAll_more done, frame⟩
  · obtain ⟨fuel, conn', done, frame⟩ := writeAll_returns sends conn pkt
    exact ⟨fuel, conn', writeAll_more done, frame⟩

end StarlinkTcp.Proof
