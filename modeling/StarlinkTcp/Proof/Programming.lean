import StarlinkTcp.Machine.Fallible
import StarlinkTcp.Monitor.Program
import StarlinkTcp.Proof.Transparency

/-!
# Programming the kernel one sysctl at a time

The monitor switches the kernel by sequences of single writes, window selection on any socket may run
between two of them, and a sequence whose write fails is given up. Timing is written before the
switches, so no parameters are mixed; but the two switches are written one after the other, and
between them the kernel runs its static controller.
-/

namespace StarlinkTcp.Proof
open Kernel Machine Monitor

inductive Operation where
  | program (periodS anchorS : ℚ)
  | phaseOnly (lockedPeriodS anchorS : ℚ)
  | disable
deriving DecidableEq

namespace Operation

def writes : Operation → List SysctlWrite
  | .program periodS anchorS => (programRedhat periodS anchorS).1
  | .phaseOnly lockedPeriodS anchorS => (programRedhatPhaseOnly lockedPeriodS anchorS).1
  | .disable => disableRedhat

def programming : Operation → Option (ℚ × ℚ)
  | .program periodS anchorS => some (periodS, anchorS)
  | .phaseOnly lockedPeriodS anchorS => some (lockedPeriodS, anchorS)
  | .disable => none

end Operation

inductive Activity where
  | idle
  | writing (operation : Operation) (made : Nat)
  | abandoned (operation : Operation) (made : Nat)
deriving DecidableEq

structure Managed where
  net : Net
  inForce : Option (ℚ × ℚ)
  activity : Activity
deriving DecidableEq

inductive Action where
  | begin (operation : Operation)
  | write
  | fail

namespace Managed

/-- `program_redhat` is called with both switches off, `program_redhat_phase_only` with the locked
period. -/
def Allows (m : Managed) : Operation → Prop
  | .program _ _ => m.net.tcpLeoRwndEnable = 0 ∧ m.net.tcpLeoDynamicEnable = 0
  | .phaseOnly lockedPeriodS _ => m.inForce.map Prod.fst = some lockedPeriodS
  | .disable => True

instance (m : Managed) : (operation : Operation) → Decidable (m.Allows operation)
  | .program _ _ => inferInstanceAs (Decidable (_ ∧ _))
  | .phaseOnly _ _ => inferInstanceAs (Decidable (_ = _))
  | .disable => inferInstanceAs (Decidable True)

/-- A refused write raises, and nothing after it is written. -/
def write (m : Managed) (operation : Operation) (made : Nat) (write : SysctlWrite) : Managed :=
  match m.net.write write with
  | none => { m with activity := .abandoned operation made }
  | some net =>
      if made + 1 = operation.writes.length then ⟨net, operation.programming, .idle⟩
      else { m with net, activity := .writing operation (made + 1) }

def step : Action → Managed → Except Unit Managed
  | .begin operation, m =>
      match m.activity with
      | .idle =>
          if m.Allows operation then .ok { m with activity := .writing operation 0 } else .error ()
      | _ => .error ()
  | .write, m =>
      match m.activity with
      | .writing operation made =>
          match operation.writes[made]? with
          | some write => .ok (m.write operation made write)
          | none => .error ()
      | _ => .error ()
  | .fail, m =>
      match m.activity with
      | .writing operation made => .ok { m with activity := .abandoned operation made }
      | _ => .error ()

def start (net : Net) : Managed := ⟨net, none, .idle⟩

/-- The first switch of a `program_redhat` is on and the second is still to be written, or failed. -/
def halfEnabled (m : Managed) : Bool :=
  match m.activity with
  | .writing (.program _ _) made => made = 3
  | .abandoned (.program _ _) made => made = 3
  | _ => false

end Managed

/-! ## What holds between any two writes -/

def Carries (net : Net) (periodS anchorS : ℚ) : Prop :=
  (net.tcpLeoRwndPeriodMs.toNat : ℤ) = periodMs periodS ∧
  (net.tcpLeoRwndOffsetMs.toNat : ℤ) = offsetMs periodS anchorS

/-- Off with nothing in force, or on under the programming in force. -/
inductive Settled (net : Net) : Option (ℚ × ℚ) → Prop
  | off (enable : net.tcpLeoRwndEnable = 0) (dynamic : net.tcpLeoDynamicEnable = 0) : Settled net none
  | on {periodS anchorS : ℚ} (enable : net.tcpLeoRwndEnable = 1) (dynamic : net.tcpLeoDynamicEnable = 1)
      (carries : Carries net periodS anchorS) : Settled net (some (periodS, anchorS))

inductive Underway (net : Net) (inForce : Option (ℚ × ℚ)) : Operation → Nat → Prop
  | programTiming {periodS anchorS : ℚ} {made : Nat} (early : made < 3) (enable : net.tcpLeoRwndEnable = 0)
      (dynamic : net.tcpLeoDynamicEnable = 0)
      (period : 1 ≤ made → (net.tcpLeoRwndPeriodMs.toNat : ℤ) = periodMs periodS)
      (offset : 2 ≤ made → (net.tcpLeoRwndOffsetMs.toNat : ℤ) = offsetMs periodS anchorS) :
      Underway net inForce (.program periodS anchorS) made
  | programHalf {periodS anchorS : ℚ} (enable : net.tcpLeoRwndEnable = 1)
      (dynamic : net.tcpLeoDynamicEnable = 0) (carries : Carries net periodS anchorS) :
      Underway net inForce (.program periodS anchorS) 3
  | phaseOnly {periodS anchorS : ℚ} (settled : Settled net inForce)
      (locked : inForce.map Prod.fst = some periodS) : Underway net inForce (.phaseOnly periodS anchorS) 0
  | disable (settled : Settled net inForce) : Underway net inForce .disable 0
  | disableHalf (enable : net.tcpLeoRwndEnable = 0) : Underway net inForce .disable 1

def Consistent (m : Managed) : Prop :=
  match m.activity with
  | .idle => Settled m.net m.inForce
  | .writing operation made => Underway m.net m.inForce operation made
  | .abandoned operation made => Underway m.net m.inForce operation made

theorem Managed.begin_consistent {m : Managed} {operation : Operation} (idle : Settled m.net m.inForce)
    (allowed : m.Allows operation) : Underway m.net m.inForce operation 0 := by
  cases operation with
  | program periodS anchorS =>
      exact .programTiming (by decide) allowed.1 allowed.2 (fun none => by omega) (fun none => by omega)
  | phaseOnly lockedPeriodS anchorS => exact .phaseOnly idle allowed
  | disable => exact .disable idle

theorem Net.write_eq_some {net after : Net} {write : SysctlWrite} :
    net.write write = some after ↔ write.Accepted ∧ after = net.store write := by
  unfold Net.write
  split
  · rename_i accepted
    simp [accepted, eq_comm]
  · rename_i refused
    simp [refused]

theorem Settled.carries {net : Net} {periodS anchorS : ℚ} (settled : Settled net (some (periodS, anchorS))) :
    net.tcpLeoRwndEnable = 1 ∧ net.tcpLeoDynamicEnable = 1 ∧ Carries net periodS anchorS := by
  cases settled with
  | on enable dynamic carries => exact ⟨enable, dynamic, carries⟩

theorem Managed.write_consistent {m : Managed} {operation : Operation} {made : Nat} {write : SysctlWrite}
    (underway : Underway m.net m.inForce operation made) (next : operation.writes[made]? = some write) :
    Consistent (m.write operation made write) := by
  cases stored : m.net.write write with
  | none =>
      simp only [Managed.write, stored]
      exact underway
  | some net =>
      obtain ⟨accepted, rfl⟩ := Net.write_eq_some.mp stored
      simp only [Managed.write, stored]
      cases underway with
      | @programTiming periodS anchorS made early enable dynamic period offset =>
          obtain rfl | rfl | rfl : made = 0 ∨ made = 1 ∨ made = 2 := by omega
          · obtain rfl := Option.some.inj next
            exact .programTiming (by decide) enable dynamic
              (fun _ => word_toNat (periodMs_pos periodS).le accepted.2) (fun two => by omega)
          · obtain rfl := Option.some.inj next
            exact .programTiming (by decide) enable dynamic (fun _ => period le_rfl)
              (fun _ => word_toNat accepted.1 accepted.2)
          · obtain rfl := Option.some.inj next
            exact .programHalf rfl dynamic ⟨period (by decide), offset (by decide)⟩
      | programHalf enable dynamic carries =>
          obtain rfl := Option.some.inj next
          exact .on enable rfl carries
      | @phaseOnly periodS anchorS settled locked =>
          obtain rfl := Option.some.inj next
          obtain ⟨⟨period, oldAnchor⟩, inForce, rfl⟩ := Option.map_eq_some_iff.mp locked
          rw [inForce] at settled
          obtain ⟨enable, dynamic, carried, -⟩ := settled.carries
          exact .on enable dynamic ⟨carried, word_toNat accepted.1 accepted.2⟩
      | disable settled =>
          obtain rfl := Option.some.inj next
          exact .disableHalf rfl
      | disableHalf enable =>
          obtain rfl := Option.some.inj next
          exact .off enable rfl

theorem Managed.step_consistent {action : Action} {m m' : Managed} (consistent : Consistent m)
    (ok : Managed.step action m = .ok m') : Consistent m' := by
  cases activity : m.activity with
  | idle =>
      cases action with
      | begin operation =>
          simp only [Managed.step, activity] at ok
          split at ok
          · rename_i allowed
            cases ok
            simp only [Consistent, activity] at consistent
            exact Managed.begin_consistent consistent allowed
          · cases ok
      | write => simp [Managed.step, activity] at ok
      | fail => simp [Managed.step, activity] at ok
  | writing operation made =>
      simp only [Consistent, activity] at consistent
      cases action with
      | begin next => simp [Managed.step, activity] at ok
      | write =>
          simp only [Managed.step, activity] at ok
          split at ok
          · rename_i write next
            cases ok
            exact Managed.write_consistent consistent next
          · cases ok
      | fail =>
          simp only [Managed.step, activity, Except.ok.injEq] at ok
          rw [← ok]
          exact consistent
  | abandoned operation made => cases action <;> simp [Managed.step, activity] at ok

theorem Managed.reaches_consistent {net : Net} (enable : net.tcpLeoRwndEnable = 0)
    (dynamic : net.tcpLeoDynamicEnable = 0) {m : Managed} (reached : Reaches Managed.step (.start net) m) :
    Consistent m := by
  induction reached with
  | refl => exact Settled.off enable dynamic
  | tail _ ok ih => exact Managed.step_consistent ih ok

/-! ## Window selection between the writes -/

/-- What a call of `tcp_select_window` runs: nothing at all for a socket out of memory, ordinary TCP, or
the dynamic controller under the programming in force. -/
inductive Unmixed (m : Managed) (clk : Clock) (normalWin : UInt32) (sk : TcpSock) : Prop
  | outOfMemory (nomem : sk.ackNomem = true)
  | off (enable : m.net.tcpLeoRwndEnable = 0)
      (window : leoAdjustWindow m.net clk normalWin sk = (normalWin, sk.leoState))
  | dynamic {periodS anchorS : ℚ} (inForce : m.inForce = some (periodS, anchorS))
      (carries : Carries m.net periodS anchorS) (on : leoDynamic m.net = true)
      (window : leoAdjustWindow m.net clk normalWin sk =
        tcpLeoDynamicTarget m.net clk sk.toSockView normalWin sk.leoState)

theorem unmixed_of_off {m : Managed} {clk : Clock} {normalWin : UInt32} {sk : TcpSock}
    (enable : m.net.tcpLeoRwndEnable = 0) : Unmixed m clk normalWin sk :=
  .off enable (by simp [leoAdjustWindow, leoDynamic, enable])

theorem Settled.unmixed {m : Managed} {clk : Clock} {normalWin : UInt32} {sk : TcpSock}
    (settled : Settled m.net m.inForce) : Unmixed m clk normalWin sk := by
  generalize shown : m.inForce = inForce at settled
  cases settled with
  | off enable dynamic => exact unmixed_of_off enable
  | on enable dynamic carries =>
      have on : leoDynamic m.net = true := by simp [leoDynamic, enable, dynamic]
      exact .dynamic shown carries on (by simp [leoAdjustWindow, on])

theorem Underway.unmixed_iff {m : Managed} {operation : Operation} {made : Nat} {clk : Clock}
    {normalWin : UInt32} {sk : TcpSock} (underway : Underway m.net m.inForce operation made) :
    Unmixed m clk normalWin sk ↔
      (∀ periodS anchorS, operation = .program periodS anchorS → made ≠ 3) ∨ sk.ackNomem = true := by
  generalize shown : m.inForce = inForce at underway
  cases underway with
  | programTiming early enable dynamic period offset =>
      exact ⟨fun _ => .inl fun _ _ _ => by omega, fun _ => unmixed_of_off enable⟩
  | programHalf enable dynamic carries =>
      constructor
      · rintro (nomem | ⟨off, -⟩ | ⟨-, -, on, -⟩)
        · exact .inr nomem
        · exact absurd (enable.symm.trans off) (by decide)
        · simp [leoDynamic, dynamic] at on
      · rintro (excluded | nomem)
        · exact absurd rfl (excluded _ _ rfl)
        · exact .outOfMemory nomem
  | phaseOnly settled locked =>
      rw [← shown] at settled
      exact ⟨fun _ => .inl fun _ _ same => (by cases same), fun _ => settled.unmixed⟩
  | disable settled =>
      rw [← shown] at settled
      exact ⟨fun _ => .inl fun _ _ same => (by cases same), fun _ => settled.unmixed⟩
  | disableHalf enable =>
      exact ⟨fun _ => .inl fun _ _ same => (by cases same), fun _ => unmixed_of_off enable⟩

theorem Managed.halfEnabled_eq_false_iff {m : Managed} {operation : Operation} {made : Nat}
    (activity : m.activity = .writing operation made ∨ m.activity = .abandoned operation made) :
    m.halfEnabled = false ↔ ∀ periodS anchorS, operation = .program periodS anchorS → made ≠ 3 := by
  rcases activity with activity | activity <;> cases operation <;> simp [Managed.halfEnabled, activity]

/-- A call runs ordinary TCP or the dynamic controller under one programming, unless it comes between
the last two writes of a `program_redhat`, or after the last of them failed. A call is one step and finds
each sysctl at one value: the source reads some of them several times in a call, and writes that come in
between are not considered. -/
theorem select_unmixed_iff (net : Net) (enable : net.tcpLeoRwndEnable = 0) (dynamic : net.tcpLeoDynamicEnable = 0)
    (m : Managed) (reached : Reaches Managed.step (.start net) m) (clk : Clock) (normalWin : UInt32)
    (sk : TcpSock) : Unmixed m clk normalWin sk ↔ m.halfEnabled = false ∨ sk.ackNomem = true := by
  have consistent := Managed.reaches_consistent enable dynamic reached
  cases activity : m.activity with
  | idle =>
      simp only [Consistent, activity] at consistent
      exact ⟨fun _ => .inl (by simp [Managed.halfEnabled, activity]), fun _ => consistent.unmixed⟩
  | writing operation made =>
      simp only [Consistent, activity] at consistent
      rw [Managed.halfEnabled_eq_false_iff (.inl activity)]
      exact consistent.unmixed_iff
  | abandoned operation made =>
      simp only [Consistent, activity] at consistent
      rw [Managed.halfEnabled_eq_false_iff (.inr activity)]
      exact consistent.unmixed_iff

def stoppedNet : Net := { tcpSkInit with tcpLeoRwndEnable := 0, tcpLeoDynamicEnable := 0 }

theorem select_unmixed_once_programmed :
    Reaches Managed.step (.start stoppedNet) ⟨tcpSkInit, some (15, 12), .idle⟩ ∧
    Unmixed ⟨tcpSkInit, some (15, 12), .idle⟩ ⟨27010000000, 0⟩ 65000 webSocket := by
  have reached : Reaches Managed.step (.start stoppedNet) ⟨tcpSkInit, some (15, 12), .idle⟩ :=
    reaches_of_foldlM [.begin (.program 15 12), .write, .write, .write, .write] (by decide +kernel)
  exact ⟨reached, (select_unmixed_iff stoppedNet rfl rfl _ reached _ _ _).mpr (.inl rfl)⟩

def halfProgrammed : Managed :=
  ⟨{ tcpSkInit with tcpLeoDynamicEnable := 0 }, none, .writing (.program 15 12) 3⟩

/-- Ten milliseconds into the outage, on a port the dynamic controller leaves alone: ordinary TCP asks
for 65000 bytes, and the static controller lets no more than the old 60000 through. -/
theorem static_controller_runs_while_enabling :
    Reaches Managed.step (.start stoppedNet) halfProgrammed ∧
    leoAdjustWindow halfProgrammed.net ⟨27010000000, 0⟩ 65000 webSocket =
      (tcpLeoRwndClamp halfProgrammed.net ⟨27010000000, 0⟩ webSocket (tcpReceiveWindow webSocket) 65000,
        webSocket.leoState) ∧
    (leoAdjustWindow halfProgrammed.net ⟨27010000000, 0⟩ 65000 webSocket).1 = 60000 ∧
    ¬ Unmixed halfProgrammed ⟨27010000000, 0⟩ 65000 webSocket := by
  refine ⟨?_, by decide, by decide, ?_⟩
  · exact reaches_of_foldlM [.begin (.program 15 12), .write, .write, .write] (by decide +kernel)
  · rintro (nomem | ⟨off, -⟩ | ⟨inForce, -, -, -⟩)
    · cases nomem
    · exact absurd off (by decide)
    · cases inForce

end StarlinkTcp.Proof
