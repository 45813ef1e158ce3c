import StarlinkTcp.Proof.EchoFraming
import StarlinkTcp.Tools.PingReceiverPop

/-!
# What the POP receiver has echoed when it ends

Calls may fail and signals may come at any point. The receiver has then read some bytes of the stream and
sent what the frames among them call for, except that a failing transfer may have cut the last frame. As
long as no signal is noticed it does what `tcp_ping_receiver.c` does.
-/

namespace StarlinkTcp.Tools.Pop
open Machine

/-- The bytes `sent` in answer to the bytes `read`. -/
structure Answers (order : ByteOrder) (ended : EchoEnd) (read sent : List UInt8) : Prop where
  prefixed : sent.IsPrefix (echoed order read)
  lastFrame : (echoed order read).length ≤ sent.length + pktSize
  whole : ended ≠ .broken .sendFailed → sent = echoed order read

end StarlinkTcp.Tools.Pop

namespace StarlinkTcp.Proof
open Machine Tools

/-! ## Transfers -/

section Transfers

variable {recvs sends : Nat → CallOutcome} {stops : Nat → Bool} {conn conn' : Pop.Watched} {fuel : Nat}

/-- What a read of `left` bytes takes off the stream. -/
structure Takes (conn conn' : Pop.Watched) (buf : List UInt8) (left : Nat) (result : ReadResult)
    (moved : List UInt8) : Prop where
  incoming : conn.incoming = moved ++ conn'.incoming
  outgoing : conn'.outgoing = conn.outgoing
  full : ∀ read, result = .full read → moved.length = left ∧ read = buf ++ moved
  short : (∀ read, result ≠ .full read) → moved.length < left

theorem pop_readAll_takes {buf : List UInt8} {left : Nat} {result : ReadResult}
    (done : Pop.readAll recvs stops fuel conn buf left = some (result, conn')) :
    ∃ moved, Takes conn conn' buf left result moved := by
  induction fuel generalizing conn buf left with
  | zero => cases done
  | succ fuel ih =>
      rw [Pop.readAll] at done
      by_cases ready : left = 0
      · rw [if_pos ready] at done
        cases done
        refine ⟨[], rfl, rfl, ?_, fun short => absurd rfl (short buf)⟩
        rintro read ⟨⟩
        exact ⟨ready.symm, (List.append_nil _).symm⟩
      · rw [if_neg ready] at done
        have failing {result : ReadResult} {conn' : Pop.Watched} (same : conn'.incoming = conn.incoming)
            (kept : conn'.outgoing = conn.outgoing) (short : ∀ read, result ≠ .full read) :
            ∃ moved, Takes conn conn' buf left result moved :=
          ⟨[], same.symm, kept, fun read full => absurd full (short read), fun _ => Nat.pos_of_ne_zero ready⟩
        cases outcome : recvs conn.recvCalls with
        | interrupted =>
            simp only [outcome] at done
            split at done
            · cases done
              exact failing rfl rfl (by simp)
            · obtain ⟨moved, takes⟩ := ih done
              exact ⟨moved, takes.incoming, takes.outgoing, takes.full, takes.short⟩
        | failed =>
            simp only [outcome] at done
            cases done
            exact failing rfl rfl (by simp)
        | transfers limit =>
            simp only [outcome] at done
            split at done
            · cases done
              exact failing rfl rfl (by simp)
            · obtain ⟨moved, takes⟩ := ih done
              have size : (conn.incoming.take (min (min limit left) conn.incoming.length)).length =
                  min (min limit left) conn.incoming.length := by
                rw [List.length_take]
                omega
              refine ⟨conn.incoming.take (min (min limit left) conn.incoming.length) ++ moved, ?_, takes.outgoing,
                ?_, ?_⟩
              · rw [List.append_assoc, ← takes.incoming]
                exact (List.take_append_drop _ _).symm
              · intro read full
                obtain ⟨rest, same⟩ := takes.full read full
                rw [List.length_append, size, rest, same, List.append_assoc]
                exact ⟨by omega, rfl⟩
              · intro short
                have rest := takes.short short
                rw [List.length_append, size]
                omega

/-- What a write of `rest` puts behind the outgoing bytes. -/
structure Puts (conn conn' : Pop.Watched) (rest : List UInt8) (written : Bool) (sent : List UInt8) : Prop where
  incoming : conn'.incoming = conn.incoming
  outgoing : conn'.outgoing = conn.outgoing ++ sent
  prefixed : sent.IsPrefix rest
  whole : written = true → sent = rest

theorem pop_writeAll_puts {rest : List UInt8} {written : Bool}
    (done : Pop.writeAll sends stops fuel conn rest = some (written, conn')) :
    ∃ sent, Puts conn conn' rest written sent := by
  induction fuel generalizing conn rest with
  | zero => cases done
  | succ fuel ih =>
      rw [Pop.writeAll] at done
      by_cases ready : rest.length = 0
      · rw [if_pos ready] at done
        cases done
        exact ⟨[], rfl, (List.append_nil _).symm, List.nil_prefix, fun _ => (List.length_eq_zero_iff.mp ready).symm⟩
      · rw [if_neg ready] at done
        have failing {conn' : Pop.Watched} (same : conn'.incoming = conn.incoming)
            (kept : conn'.outgoing = conn.outgoing) : ∃ sent, Puts conn conn' rest false sent :=
          ⟨[], same, by rw [kept, List.append_nil], List.nil_prefix, fun written => by cases written⟩
        cases outcome : sends conn.sendCalls with
        | interrupted =>
            simp only [outcome] at done
            split at done
            · cases done
              exact failing rfl rfl
            · obtain ⟨sent, puts⟩ := ih done
              exact ⟨sent, puts.incoming, puts.outgoing, puts.prefixed, puts.whole⟩
        | failed =>
            simp only [outcome] at done
            cases done
            exact failing rfl rfl
        | transfers limit =>
            simp only [outcome] at done
            split at done
            · cases done
              exact failing rfl rfl
            · obtain ⟨sent, puts⟩ := ih done
              have split : rest.take (min limit rest.length) ++ rest.drop (min limit rest.length) = rest :=
                List.take_append_drop _ _
              refine ⟨rest.take (min limit rest.length) ++ sent, puts.incoming, ?_, ?_, fun written => ?_⟩
              · rw [puts.outgoing, List.append_assoc]
              · have longer := (List.prefix_append_right_inj (rest.take (min limit rest.length))).mpr puts.prefixed
                rwa [split] at longer
              · rw [puts.whole written, split]

end Transfers

/-! ## The loop -/

section Loop

variable {order : ByteOrder} {recvs sends : Nat → CallOutcome} {stops : Nat → Bool} {conn conn' : Pop.Watched}
  {ended : Pop.EchoEnd}

theorem echoed_append {pkt rest : List UInt8} (full : pkt.length = pktSize) : echoed order (pkt ++ rest) =
    (if pktMagic order pkt = pingMagic then pkt else []) ++ echoed order rest := by
  rw [echoed_of_full order (by rw [List.length_append]; omega), List.take_left' full, List.drop_left' full]

theorem echoed_short {stream : List UInt8} (short : stream.length < pktSize) : echoed order stream = [] := by
  rw [echoed, alignedFrames_of_short short]
  rfl

theorem answers_nothing {read : List UInt8} (short : read.length < pktSize) : Pop.Answers order ended read [] := by
  have none := @echoed_short order read short
  exact ⟨List.nil_prefix, by rw [none]; decide, fun _ => none.symm⟩

/-- A frame that is not echoed, or echoed in full, before the rest of the run. -/
theorem answers_append {pkt read sent : List UInt8} (full : pkt.length = pktSize)
    (rest : Pop.Answers order ended read sent) :
    Pop.Answers order ended (pkt ++ read) ((if pktMagic order pkt = pingMagic then pkt else []) ++ sent) := by
  constructor
  · rw [echoed_append full]
    exact (List.prefix_append_right_inj _).mpr rest.prefixed
  · have last := rest.lastFrame
    rw [echoed_append full, List.length_append, List.length_append]
    omega
  · intro finished
    rw [echoed_append full, rest.whole finished]

/-- A frame that was cut off by a failing transfer. -/
theorem answers_cut {pkt sent : List UInt8} (full : pkt.length = pktSize) (magic : pktMagic order pkt = pingMagic)
    (prefixed : sent.IsPrefix pkt) : Pop.Answers order (.broken .sendFailed) pkt sent := by
  have frame : echoed order pkt = pkt := by
    have alone := @echoed_append order pkt [] full
    rw [List.append_nil, if_pos magic, @echoed_short order [] (by decide), List.append_nil] at alone
    exact alone
  refine ⟨by rwa [frame], ?_, fun finished => absurd rfl finished⟩
  rw [frame, full]
  exact Nat.le_add_left _ _

theorem pop_echoLoop_answers {fuel : Nat}
    (done : Pop.echoLoop order recvs sends stops fuel conn = some (ended, conn')) :
    ∃ read sent, conn.incoming = read ++ conn'.incoming ∧ conn'.outgoing = conn.outgoing ++ sent ∧
      Pop.Answers order ended read sent := by
  induction fuel generalizing conn with
  | zero => cases done
  | succ fuel ih =>
      rw [Pop.echoLoop] at done
      split at done
      · cases done
        exact ⟨[], [], rfl, (List.append_nil _).symm, answers_nothing (by decide)⟩
      · obtain ⟨⟨got, readConn⟩, reads, done⟩ := Option.bind_eq_some_iff.mp done
        obtain ⟨moved, takes⟩ := pop_readAll_takes reads
        cases got with
        | failed | closed =>
            cases done
            have short := takes.short (by simp)
            exact ⟨moved, [], takes.incoming, by rw [takes.outgoing, List.append_nil], answers_nothing short⟩
        | full pkt =>
            obtain ⟨size, same⟩ := takes.full pkt rfl
            rw [List.nil_append] at same
            subst same
            dsimp only at done
            split at done
            · rename_i other
              obtain ⟨read, sent, rest, added, answers⟩ := ih done
              refine ⟨pkt ++ read, sent, ?_, ?_, ?_⟩
              · rw [List.append_assoc, ← rest]
                exact takes.incoming
              · rw [added, takes.outgoing]
              · have whole := answers_append size answers
                rwa [if_neg other, List.nil_append] at whole
            · rename_i magic
              rw [not_not] at magic
              obtain ⟨⟨written, writeConn⟩, writes, done⟩ := Option.bind_eq_some_iff.mp done
              obtain ⟨put, puts⟩ := pop_writeAll_puts writes
              cases written with
              | false =>
                  cases done
                  refine ⟨pkt, put, ?_, ?_, answers_cut size magic puts.prefixed⟩
                  · rw [puts.incoming]
                    exact takes.incoming
                  · rw [puts.outgoing, takes.outgoing]
              | true =>
                  obtain ⟨read, sent, rest, added, answers⟩ := ih done
                  refine ⟨pkt ++ read, pkt ++ sent, ?_, ?_, ?_⟩
                  · rw [List.append_assoc, ← rest, puts.incoming]
                    exact takes.incoming
                  · rw [added, puts.outgoing, puts.whole rfl, takes.outgoing, List.append_assoc]
                  · have whole := answers_append size answers
                    rwa [if_pos magic] at whole

end Loop

/-! ## The other receiver -/

section Simulation

variable {order : ByteOrder} {recvs sends : Nat → CallOutcome} (stops : Nat → Bool) {conn : Pop.Watched}
  {plain : Conn} {fuel : Nat}

theorem pop_readAll_simulates {buf : List UInt8} {left : Nat} {result : ReadResult}
    (done : readAll recvs fuel conn.toConn buf left = some (result, plain)) :
    ∃ got conn', Pop.readAll recvs stops fuel conn buf left = some (got, conn') ∧
      (got = result ∧ conn'.toConn = plain ∨ got = .failed ∧ ∃ i, stops i = true) := by
  induction fuel generalizing conn buf left with
  | zero => cases done
  | succ fuel ih =>
      rw [readAll] at done
      rw [Pop.readAll]
      by_cases ready : left = 0
      · rw [if_pos ready] at done ⊢
        cases done
        exact ⟨_, _, rfl, .inl ⟨rfl, rfl⟩⟩
      · rw [if_neg ready] at done ⊢
        cases outcome : recvs conn.recvCalls with
        | interrupted =>
            simp only [outcome] at done ⊢
            by_cases stop : stops conn.checks = true
            · rw [if_pos stop]
              exact ⟨_, _, rfl, .inr ⟨rfl, _, stop⟩⟩
            · rw [if_neg stop]
              exact ih done
        | failed =>
            simp only [outcome] at done ⊢
            cases done
            exact ⟨_, _, rfl, .inl ⟨rfl, rfl⟩⟩
        | transfers limit =>
            simp only [outcome] at done ⊢
            by_cases ended : min (min limit left) conn.incoming.length = 0
            · rw [if_pos ended] at done ⊢
              cases done
              exact ⟨_, _, rfl, .inl ⟨rfl, rfl⟩⟩
            · rw [if_neg ended] at done ⊢
              exact ih done

theorem pop_writeAll_simulates {rest : List UInt8} {result : Bool}
    (done : writeAll sends fuel conn.toConn rest = some (result, plain)) :
    ∃ written conn', Pop.writeAll sends stops fuel conn rest = some (written, conn') ∧
      (written = result ∧ conn'.toConn = plain ∨ written = false ∧ ∃ i, stops i = true) := by
  induction fuel generalizing conn rest with
  | zero => cases done
  | succ fuel ih =>
      rw [writeAll] at done
      rw [Pop.writeAll]
      by_cases ready : rest.length = 0
      · rw [if_pos ready] at done ⊢
        cases done
        exact ⟨_, _, rfl, .inl ⟨rfl, rfl⟩⟩
      · rw [if_neg ready] at done ⊢
        cases outcome : sends conn.sendCalls with
        | interrupted =>
            simp only [outcome] at done ⊢
            by_cases stop : stops conn.checks = true
            · rw [if_pos stop]
              exact ⟨_, _, rfl, .inr ⟨rfl, _, stop⟩⟩
            · rw [if_neg stop]
              exact ih done
        | failed =>
            simp only [outcome] at done ⊢
            cases done
            exact ⟨_, _, rfl, .inl ⟨rfl, rfl⟩⟩
        | transfers limit =>
            simp only [outcome] at done ⊢
            by_cases ended : min limit rest.length = 0
            · rw [if_pos ended] at done ⊢
              cases done
              exact ⟨_, _, rfl, .inl ⟨rfl, rfl⟩⟩
            · rw [if_neg ended] at done ⊢
              exact ih done

/-- Unless it notices a signal, the receiver does what the other one does. -/
theorem pop_echoLoop_simulates {result : EchoEnd}
    (done : echoLoop order recvs sends fuel conn.toConn = some (result, plain)) :
    ∃ ended conn', Pop.echoLoop order recvs sends stops fuel conn = some (ended, conn') ∧
      (ended = .broken result ∧ conn'.toConn = plain ∨ ∃ i, stops i = true) := by
  induction fuel generalizing conn with
  | zero => cases done
  | succ fuel ih =>
      rw [echoLoop] at done
      obtain ⟨⟨got, readConn⟩, reads, done⟩ := Option.bind_eq_some_iff.mp done
      rw [Pop.echoLoop]
      by_cases stop : stops conn.checks = true
      · rw [if_pos stop]
        exact ⟨_, _, rfl, .inr ⟨_, stop⟩⟩
      · rw [if_neg stop]
        obtain ⟨got', conn', reads', outcome⟩ := @pop_readAll_simulates _ stops
          { conn with checks := conn.checks + 1 } _ _ _ _ _ reads
        rw [reads', Option.bind_eq_bind, Option.bind_some]
        rcases outcome with ⟨rfl, rfl⟩ | ⟨rfl, noticed⟩
        · cases got' with
          | failed | closed =>
              cases done
              exact ⟨_, _, rfl, .inl ⟨rfl, rfl⟩⟩
          | full pkt =>
              dsimp only at done ⊢
              by_cases other : pktMagic order pkt ≠ pingMagic
              · rw [if_pos other] at done ⊢
                exact ih done
              · rw [if_neg other] at done ⊢
                obtain ⟨⟨written, writeConn⟩, writes, done⟩ := Option.bind_eq_some_iff.mp done
                obtain ⟨written', conn'', writes', outcome⟩ := pop_writeAll_simulates stops writes
                rw [writes', Option.bind_eq_bind, Option.bind_some]
                rcases outcome with ⟨rfl, rfl⟩ | ⟨rfl, noticed⟩
                · cases written' with
                  | false =>
                      cases done
                      exact ⟨_, _, rfl, .inl ⟨rfl, rfl⟩⟩
                  | true => exact ih done
                · exact ⟨_, _, rfl, .inr noticed⟩
        · exact ⟨_, _, rfl, .inr noticed⟩

end Simulation

/-- Whatever the calls and the signals do, the bytes sent answer the bytes read. If the calls work, the
receiver ends, and without a signal it echoes the whole stream. -/
theorem stopped_echo_answers (order : ByteOrder) (stops : Nat → Bool) (stream : List UInt8) :
    (∀ recvs sends fuel ended conn,
      Pop.echoLoop order recvs sends stops fuel (.connected stream) = some (ended, conn) →
      ∃ read, stream = read ++ conn.incoming ∧ Pop.Answers order ended read conn.outgoing) ∧
    ∀ recvs sends : FairSchedule, ∃ fuel, ∀ more ≥ fuel, ∃ ended conn,
      Pop.echoLoop order recvs.outcome sends.outcome stops more (.connected stream) = some (ended, conn) ∧
      ((∀ i, stops i = false) →
        ended = .broken .closed ∧ conn.incoming = [] ∧ conn.outgoing = echoed order stream) := by
  constructor
  · intro recvs sends fuel ended conn done
    obtain ⟨read, sent, rest, added, answers⟩ := pop_echoLoop_answers done
    have same : conn.outgoing = sent := by rw [added]; rfl
    rw [same]
    exact ⟨read, rest, answers⟩
  · intro recvs sends
    obtain ⟨fuel, plain, done, empty, echoes⟩ := echoLoop_returns order recvs sends (.connected stream)
    refine ⟨fuel, fun more enough => ?_⟩
    obtain ⟨ended, conn, simulated, outcome⟩ := @pop_echoLoop_simulates _ _ _ stops (.connected stream) _ _ _
      (echoLoop_more done more enough)
    refine ⟨ended, conn, simulated, fun quiet => ?_⟩
    rcases outcome with ⟨finished, rfl⟩ | ⟨i, noticed⟩
    · exact ⟨finished, empty, echoes⟩
    · rw [quiet i] at noticed
      cases noticed

end StarlinkTcp.Proof
