import StarlinkTcp.Kernel.Select
import StarlinkTcp.Proof.Advertised

/-!
# Runs of ordinary TCP

`__tcp_select_window` answers with a window on the grid of the scale factor that neither the buffer nor
`rcv_ssthresh` exceeds. With both controllers off, `tcp_select_window` around it records what the peer
reads, and unless the administrator allows shrinking it never takes a byte back: the two things the
controllers give up.
-/

namespace StarlinkTcp.Proof
open Kernel Machine

section Words

theorem toInt32_toInt_of_lt {x : UInt32} (lt : x.toNat < 2 ^ 31) : x.toInt32.toInt = x.toNat := by
  have signed : x.toInt32.toInt = if 2 * x.toNat < 2 ^ 32 then (x.toNat : Int) else x.toNat - 2 ^ 32 :=
    BitVec.toInt_eq_toNat_cond x.toBitVec
  rw [signed, if_pos (by omega)]

theorem ofInt_toNat {i : Int} (nonneg : 0 ≤ i) (lt : i < 2 ^ 32) : ((UInt32.ofInt i).toNat : Int) = i := by
  rw [UInt32.ofInt, Int.emod_eq_of_lt nonneg lt, UInt32.toNat_ofNat_of_lt' (by rw [UInt32.size]; omega)]
  omega

end Words

/-! ## One answer -/

/-- What every answer of `__tcp_select_window` satisfies, before it is stored into a word. -/
structure Selected (unit : Int) (view : SpaceView) (window : Int) : Prop where
  nonneg : 0 ≤ window
  onUnit : unit ∣ window
  memory : window ≤ roundUp (max 0 view.space.toInt) unit
  threshold : ∀ bound : Int, unit ∣ bound → (view.rcvSsthresh.toNat : Int) ≤ bound →
    (view.adjustedSsthresh.toNat : Int) ≤ bound → window ≤ bound

section Select

variable {view : SpaceView} {unit mss : Int} (positive : 0 < unit)

include positive in
theorem selected_zero : Selected unit view 0 where
  nonneg := le_rfl
  onUnit := Int.dvd_zero _
  memory := roundUp_nonneg positive (le_max_left _ _)
  threshold _ _ low _ := (Int.natCast_nonneg _).trans low

theorem ssthresh_le {scarce : Bool} {bound : Int} (first : (view.rcvSsthresh.toNat : Int) ≤ bound)
    (second : (view.adjustedSsthresh.toNat : Int) ≤ bound) : ((view.ssthresh scarce).toNat : Int) ≤ bound := by
  unfold SpaceView.ssthresh
  split
  · exact second
  · exact first

theorem space_lt (view : SpaceView) : view.space.toInt < 2 ^ 31 := view.space.toInt_lt

theorem full_le (view : SpaceView) : view.full ≤ view.fullSpace.toInt := min_le_right _ _

/-- The threshold test reads a nonnegative space as the number it is. -/
theorem above_ssthresh {freeSpace : Int} (nonneg : 0 ≤ freeSpace) (lt : freeSpace < 2 ^ 31) (ssthresh : UInt32) :
    UInt32.ofInt freeSpace > ssthresh ↔ (ssthresh.toNat : Int) < freeSpace := by
  have word := ofInt_toNat nonneg (by omega)
  rw [gt_iff_lt, UInt32.lt_iff_toNat_lt]
  omega

/-- The smaller of the free space and the threshold, as both branches compute it. -/
theorem capped_eq {freeSpace : Int} (nonneg : 0 ≤ freeSpace) (lt : freeSpace < 2 ^ 31) (ssthresh : UInt32) :
    (if UInt32.ofInt freeSpace > ssthresh then ssthresh.toInt32.toInt else freeSpace) =
      min freeSpace ssthresh.toNat := by
  split
  · rename_i above
    rw [above_ssthresh nonneg lt] at above
    rw [toInt32_toInt_of_lt (by omega), min_eq_right above.le]
  · rename_i below
    rw [above_ssthresh nonneg lt, not_lt] at below
    rw [min_eq_left below]

include positive in
theorem selectShrinking_selected (room : 0 ≤ view.full) : Selected unit view (selectShrinking view unit mss) := by
  have allowed := room.trans (full_le view)
  have below := roundDown_le positive view.space.toInt
  have aligned := dvd_roundDown view.space.toInt unit
  have narrow := space_lt view
  unfold selectShrinking
  dsimp only
  generalize roundDown view.space.toInt unit = freeSpace at below aligned ⊢
  generalize tight : decide (freeSpace < view.full / 2) = scarce
  split
  · exact selected_zero positive
  · rename_i enough
    have nonneg : 0 ≤ freeSpace := by
      by_contra negative
      rw [decide_eq_true (by omega)] at tight
      exact enough ⟨tight.symm, .inl (by omega)⟩
    have memory : freeSpace ≤ roundUp (max 0 view.space.toInt) unit :=
      (below.trans (le_max_right _ _)).trans (le_roundUp positive _)
    split
    · rename_i above
      rw [above_ssthresh nonneg (by omega)] at above
      rw [toInt32_toInt_of_lt (by omega)]
      have capped := roundUp_le positive aligned above.le
      exact ⟨roundUp_nonneg positive (Int.natCast_nonneg _), dvd_roundUp _ _, capped.trans memory,
        fun bound grid first second => roundUp_le positive grid (ssthresh_le first second)⟩
    · rename_i within
      rw [above_ssthresh nonneg (by omega), not_lt] at within
      exact ⟨nonneg, aligned, memory, fun bound _ first second => within.trans (ssthresh_le first second)⟩

theorem rounddown_between {freeSpace : Int} (nonneg : 0 ≤ freeSpace) :
    0 ≤ freeSpace - freeSpace.tmod mss ∧ freeSpace - freeSpace.tmod mss ≤ freeSpace := by
  have rest := Int.tmod_nonneg mss nonneg
  have part : freeSpace.tmod mss ≤ freeSpace := by
    have product := Int.mul_tdiv_add_tmod freeSpace mss
    have quotient : 0 ≤ mss * freeSpace.tdiv mss := by
      rcases lt_trichotomy mss 0 with negative | rfl | positive
      · exact Int.mul_nonneg_of_nonpos_of_nonpos negative.le (Int.tdiv_nonpos_of_nonneg_of_nonpos nonneg negative.le)
      · simp
      · exact Int.mul_nonneg positive.le (Int.tdiv_nonneg nonneg positive.le)
    omega
  omega

include positive in
theorem selectSteady_selected {rcvWnd : UInt32} {wscale : Fin 16} (room : 0 ≤ view.full)
    (narrow : rcvWnd.toNat < 2 ^ 31) (unscaled : wscale.val = 0 → unit = 1) :
    Selected unit view (selectSteady view rcvWnd wscale unit mss) := by
  have allowed := room.trans (full_le view)
  have below := roundDown_le positive view.space.toInt
  have small := space_lt view
  unfold selectSteady
  dsimp only
  generalize tight : decide (view.space.toInt < view.full / 2) = scarce
  generalize cut : (if scarce = true then roundDown view.space.toInt unit else view.space.toInt) = freeSpace
  have within : freeSpace ≤ view.space.toInt := by
    rw [← cut]
    split
    · exact below
    · exact le_rfl
  split
  · exact selected_zero positive
  · rename_i enough
    have nonneg : 0 ≤ freeSpace := by
      by_contra negative
      cases scarce with
      | true => exact enough ⟨rfl, .inl (by omega)⟩
      | false =>
          rw [decide_eq_false_iff_not, not_lt] at tight
          simp only [Bool.false_eq_true, if_false] at cut
          omega
    rw [capped_eq nonneg (by omega)]
    have capNonneg : 0 ≤ min freeSpace ((view.ssthresh scarce).toNat : Int) := le_min nonneg (Int.natCast_nonneg _)
    have capMemory : min freeSpace ((view.ssthresh scarce).toNat : Int) ≤ max 0 view.space.toInt :=
      (min_le_left _ _).trans (within.trans (le_max_right _ _))
    have capThreshold (bound : Int) (first : (view.rcvSsthresh.toNat : Int) ≤ bound)
        (second : (view.adjustedSsthresh.toNat : Int) ≤ bound) :
        min freeSpace ((view.ssthresh scarce).toNat : Int) ≤ bound :=
      (min_le_right _ _).trans (ssthresh_le first second)
    generalize min freeSpace ((view.ssthresh scarce).toNat : Int) = capped at capNonneg capMemory capThreshold ⊢
    split
    · exact ⟨roundUp_nonneg positive capNonneg, dvd_roundUp _ _, roundUp_mono positive capMemory,
        fun bound grid first second => roundUp_le positive grid (capThreshold bound first second)⟩
    · rename_i flat
      rw [not_not] at flat
      rw [toInt32_toInt_of_lt narrow]
      -- without scaling every window is on the grid, and none of the three choices exceeds the space
      have chosen {window : Int} (low : 0 ≤ window) (high : window ≤ capped) : Selected unit view window :=
        ⟨low, by rw [unscaled flat]; exact one_dvd _,
          (high.trans capMemory).trans (le_roundUp positive _),
          fun bound _ first second => high.trans (capThreshold bound first second)⟩
      obtain ⟨low, high⟩ := @rounddown_between mss capped capNonneg
      split
      · exact chosen low high
      · split
        · exact chosen capNonneg le_rfl
        · rename_i kept _
          exact chosen (Int.natCast_nonneg _) (by omega)

end Select

/-- The largest window that the field can carry at a scale factor. -/
def fieldLimit (wscale : Fin 16) : Nat := 65535 * 2 ^ wscale.val

theorem fieldLimit_lt (wscale : Fin 16) : fieldLimit wscale < 2 ^ 31 := by
  have unit : 2 ^ wscale.val ≤ 2 ^ 15 := Nat.pow_le_pow_right (by decide) (by omega)
  unfold fieldLimit
  omega

/-- The thresholds that `rcv_ssthresh` can have stay within what the field can carry. -/
def SpaceView.fits (view : SpaceView) (wscale : Fin 16) : Prop :=
  view.rcvSsthresh.toNat ≤ fieldLimit wscale ∧ view.adjustedSsthresh.toNat ≤ fieldLimit wscale

theorem selectWindow_spec {net : Net} {view : SpaceView} {sk : TcpSock} (fits : SpaceView.fits view sk.rcvWscale)
    (narrow : sk.rcvWnd.toNat < 2 ^ 31) :
    OnGrid sk.rcvWscale (selectWindow net view sk) ∧
    (selectWindow net view sk).toNat ≤ fieldLimit sk.rcvWscale ∧
    ((selectWindow net view sk).toNat : Int) ≤ roundUp (max 0 view.space.toInt) (2 ^ sk.rcvWscale.val) := by
  have positive : (0 : Int) < 2 ^ sk.rcvWscale.val := by positivity
  have limit := fieldLimit_lt sk.rcvWscale
  -- an answer between zero and the limit survives being stored
  have stored {window : Int} (selected : Selected (2 ^ sk.rcvWscale.val) view window) :
      OnGrid sk.rcvWscale (UInt32.ofInt window) ∧ (UInt32.ofInt window).toNat ≤ fieldLimit sk.rcvWscale ∧
      ((UInt32.ofInt window).toNat : Int) ≤ roundUp (max 0 view.space.toInt) (2 ^ sk.rcvWscale.val) := by
    have bounded : window ≤ fieldLimit sk.rcvWscale := by
      apply selected.threshold _ _ (Int.ofNat_le.mpr fits.1) (Int.ofNat_le.mpr fits.2)
      rw [fieldLimit, Nat.cast_mul, Nat.cast_pow]
      exact Int.dvd_mul_left _ _
    have word := ofInt_toNat selected.nonneg (by omega)
    refine ⟨?_, by omega, by rw [word]; exact selected.memory⟩
    rw [OnGrid, ← Int.natCast_dvd_natCast, word, Nat.cast_pow]
    exact selected.onUnit
  unfold selectWindow
  dsimp only
  generalize smaller : (if (sk.rcvMss.toNat : Int) > view.full then view.full else sk.rcvMss.toNat) = mss
  split
  · exact stored (selected_zero positive)
  · rename_i opened
    have room : 0 ≤ view.full := by
      by_contra negative
      have large : (sk.rcvMss.toNat : Int) > view.full := by omega
      rw [if_pos large] at smaller
      exact opened ⟨large, by omega⟩
    split
    · exact stored (selectShrinking_selected positive room)
    · refine stored (selectSteady_selected positive room narrow fun flat => ?_)
      rw [flat]
      rfl

/-! ## Runs -/

/-- A call with what it finds: the namespace, the clock, the arrivals and the memory accounting. -/
structure SpaceCall where
  net : Net
  clk : Clock
  sk : SockView
  view : SpaceView

namespace SpaceCall

/-- The same call as one that `socketRun` makes, with the ordinary window filled in. -/
def windowCall (call : SpaceCall) (sk : TcpSock) : WindowCall where
  net := call.net
  clk := call.clk
  sk := call.sk
  normalWin := selectWindow call.net call.view { sk with toSockView := call.sk, ackNomem := false }
  ackNomem := false

def select (call : SpaceCall) (sk : TcpSock) : UInt16 × TcpSock :=
  tcpSelectWindow call.net call.clk (call.windowCall sk).normalWin ((call.windowCall sk).found sk)

def step (sk : TcpSock) (call : SpaceCall) : TcpSock := (call.select sk).2

end SpaceCall

def spaceRun (start : TcpSock) (calls : Nat → SpaceCall) (n : Nat) : TcpSock :=
  runState SpaceCall.step start calls n

/-- Both controllers are off, the connection keeps its scale factor, and fewer bytes than half the
sequence space arrive before each call. `position` is the unbounded stream position: at `start`, then at
each call. -/
structure OrdinaryCalls (wscale : Fin 16) (position : Nat → Nat) (start : TcpSock) (calls : Nat → SpaceCall) :
    Prop where
  disabled : ∀ n, (calls n).net.tcpLeoRwndEnable = 0
  scale : ∀ n, (calls n).sk.rcvWscale = wscale
  opened : start.rcvWup.toNat = position 0 % 2 ^ 32
  stream : ∀ n, (calls n).sk.rcvNxt.toNat = position (n + 1) % 2 ^ 32
  arrives : ∀ n, position n ≤ position (n + 1) ∧ position (n + 1) < position n + 2 ^ 31

/-- The first window and the thresholds of every call are what the field can carry. -/
structure OrdinaryRun (wscale : Fin 16) (position : Nat → Nat) (start : TcpSock) (calls : Nat → SpaceCall) :
    Prop extends OrdinaryCalls wscale position start calls where
  fits : ∀ n, SpaceView.fits (calls n).view wscale
  offered : start.rcvWnd.toNat ≤ fieldLimit wscale

/-- The two promises of ordinary TCP in the call `n` of a run, and what makes the peer read the window that
the receiver holds itself to. -/
structure SoundCall (wscale : Fin 16) (position : Nat → Nat) (start : TcpSock) (calls : Nat → SpaceCall)
    (n : Nat) : Prop where
  onGrid : OnGrid wscale (spaceRun start calls (n + 1)).rcvWnd
  field : wscale ≠ 0 ∨ (calls n).net.tcpWorkaroundSignedWindows = 0 →
    ((calls n).select (spaceRun start calls n)).1.toNat * 2 ^ wscale.val =
      (spaceRun start calls (n + 1)).rcvWnd.toNat
  edge : (calls n).net.tcpShrinkWindow = 0 ∨ wscale = 0 →
    position n + (spaceRun start calls n).rcvWnd.toNat ≤
      position (n + 1) + (spaceRun start calls (n + 1)).rcvWnd.toNat
  memory : (calls n).net.tcpShrinkWindow ≠ 0 → wscale ≠ 0 →
    ((spaceRun start calls (n + 1)).rcvWnd.toNat : Int) ≤
      roundUp (max 0 (calls n).view.space.toInt) (2 ^ wscale.val)

section Ordinary

variable {wscale : Fin 16} {net : Net} {sk : TcpSock} {position : Nat → Nat} {calls : Nat → SpaceCall}

theorem tcpReceiveWindow_of_arrived {arrived : Nat} (distance : (sk.rcvNxt - sk.rcvWup).toNat = arrived)
    (few : arrived < 2 ^ 31) (narrow : sk.rcvWnd.toNat < 2 ^ 31) :
    (tcpReceiveWindow sk).toNat = sk.rcvWnd.toNat - arrived := by
  have difference : sk.rcvWup + sk.rcvWnd - sk.rcvNxt = sk.rcvWnd - (sk.rcvNxt - sk.rcvWup) := by grind
  have signed (x : UInt32) : x.toInt32.toInt = if 2 * x.toNat < 2 ^ 32 then (x.toNat : Int) else x.toNat - 2 ^ 32 :=
    BitVec.toInt_eq_toNat_cond x.toBitVec
  have word : (sk.rcvWnd - (sk.rcvNxt - sk.rcvWup)).toNat =
      (2 ^ 32 - arrived + sk.rcvWnd.toNat) % 2 ^ 32 := by
    rw [UInt32.toNat_sub, distance]
  unfold tcpReceiveWindow
  dsimp only
  rw [difference]
  generalize sk.rcvWnd - (sk.rcvNxt - sk.rcvWup) = win at word ⊢
  have range := signed win
  split
  · rename_i negative
    rw [Int32.lt_iff_toInt_lt, range, Int32.toInt_zero] at negative
    rw [UInt32.toNat_zero]
    split at negative <;> omega
  · rename_i nonneg
    rw [Int32.not_lt, Int32.le_iff_toInt_le, range, Int32.toInt_zero] at nonneg
    split at nonneg <;> omega

theorem keepOfferedWindow_spec {normalWin : UInt32} (static : leoDynamic net = false)
    (onGrid : OnGrid sk.rcvWscale normalWin) (bounded : normalWin.toNat ≤ fieldLimit sk.rcvWscale)
    (offered : (tcpReceiveWindow sk).toNat ≤ fieldLimit sk.rcvWscale) :
    let kept := keepOfferedWindow net sk (tcpReceiveWindow sk) normalWin
    OnGrid sk.rcvWscale kept ∧ kept.toNat ≤ fieldLimit sk.rcvWscale ∧
    (net.tcpShrinkWindow = 0 ∨ sk.rcvWscale = 0 → tcpReceiveWindow sk ≤ kept) := by
  intro kept
  have lt : sk.rcvWscale.val < 32 := lt_trans sk.rcvWscale.isLt (by decide)
  by_cases guarded : normalWin < tcpReceiveWindow sk ∧ (net.tcpShrinkWindow = 0 ∨ sk.rcvWscale = 0)
  · have aligned : kept = align (tcpReceiveWindow sk) (1 <<< UInt32.ofNat sk.rcvWscale) := by
      simp [kept, keepOfferedWindow, static, guarded]
    have unit := windowUnit_toNat_lt sk.rcvWscale
    have room := tcpReceiveWindow_toNat_lt sk
    refine ⟨?_, ?_, fun _ => ?_⟩
    · rw [aligned]
      exact dvd_align _ lt
    · have power : 2 ^ sk.rcvWscale.val ≤ 2 ^ 15 := Nat.pow_le_pow_right (by decide) (by omega)
      rw [aligned, align_toNat _ lt, Nat.mod_eq_of_lt (by omega)]
      have positive := Nat.two_pow_pos sk.rcvWscale.val
      unfold fieldLimit at offered ⊢
      generalize 2 ^ sk.rcvWscale.val = unit at offered positive ⊢
      apply Nat.mul_le_mul_right
      have below : (tcpReceiveWindow sk).toNat + (unit - 1) < 65536 * unit := by omega
      exact Nat.le_of_lt_succ ((Nat.div_lt_iff_lt_mul positive).mpr below)
    · rw [aligned]
      exact le_align (by omega)
  · have passed : kept = normalWin := by
      simp only [kept, keepOfferedWindow, static, true_and, if_neg guarded]
    rw [passed]
    refine ⟨onGrid, bounded, fun forbidden => ?_⟩
    rw [not_and_or, UInt32.not_lt] at guarded
    exact guarded.resolve_right fun free => free forbidden

/-- The field carries a window on the grid in full. -/
theorem scaledWindow_exact {newWin : UInt32} (onGrid : OnGrid sk.rcvWscale newWin)
    (bounded : newWin.toNat ≤ fieldLimit sk.rcvWscale)
    (unsigned : sk.rcvWscale ≠ 0 ∨ net.tcpWorkaroundSignedWindows = 0) :
    (scaledWindow net sk newWin).toUInt16.toNat * 2 ^ sk.rcvWscale.val = newWin.toNat := by
  have lt : sk.rcvWscale.val < 32 := lt_trans sk.rcvWscale.isLt (by decide)
  have limit := fieldLimit_lt sk.rcvWscale
  have top : ((65535 : UInt32) <<< UInt32.ofNat sk.rcvWscale).toNat = fieldLimit sk.rcvWscale := by
    rw [shiftLeft_toNat _ lt]
    exact Nat.mod_eq_of_lt (lt_trans limit (by decide))
  have open_ : ¬ (sk.rcvWscale = 0 ∧ net.tcpWorkaroundSignedWindows ≠ 0) := by
    rintro ⟨flat, guarded⟩
    rcases unsigned with scaled | off
    · exact scaled flat
    · exact guarded off
  have whole : min newWin (65535 <<< UInt32.ofNat sk.rcvWscale) = newWin := by
    rw [← UInt32.toNat_inj, UInt32.toNat_min, top]
    exact min_eq_left bounded
  have field : newWin.toNat / 2 ^ sk.rcvWscale.val ≤ 65535 := by
    apply Nat.div_le_of_le_mul
    rw [Nat.mul_comm]
    exact bounded
  unfold scaledWindow
  dsimp only
  rw [if_neg open_, whole, UInt32.toNat_toUInt16, shiftRight_toNat _ lt, Nat.mod_eq_of_lt (by omega)]
  exact Nat.div_mul_cancel onGrid

/-- What one call of ordinary TCP does to a socket that `arrived` bytes have come in on. -/
structure OrdinaryStep (call : SpaceCall) (arrived : Nat) (sk : TcpSock) : Prop where
  cursor : (SpaceCall.step sk call).rcvWup = call.sk.rcvNxt
  onGrid : OnGrid call.sk.rcvWscale (SpaceCall.step sk call).rcvWnd
  bounded : (SpaceCall.step sk call).rcvWnd.toNat ≤ fieldLimit call.sk.rcvWscale
  field : call.sk.rcvWscale ≠ 0 ∨ call.net.tcpWorkaroundSignedWindows = 0 →
    (call.select sk).1.toNat * 2 ^ call.sk.rcvWscale.val = (SpaceCall.step sk call).rcvWnd.toNat
  edge : call.net.tcpShrinkWindow = 0 ∨ call.sk.rcvWscale = 0 →
    sk.rcvWnd.toNat ≤ (SpaceCall.step sk call).rcvWnd.toNat + arrived
  memory : call.net.tcpShrinkWindow ≠ 0 → call.sk.rcvWscale ≠ 0 →
    ((SpaceCall.step sk call).rcvWnd.toNat : Int) ≤
      roundUp (max 0 call.view.space.toInt) (2 ^ call.sk.rcvWscale.val)

theorem ordinaryStep (call : SpaceCall) {arrived : Nat} (disabled : call.net.tcpLeoRwndEnable = 0)
    (fits : SpaceView.fits call.view call.sk.rcvWscale)
    (offered : sk.rcvWnd.toNat ≤ fieldLimit call.sk.rcvWscale)
    (distance : (call.sk.rcvNxt - sk.rcvWup).toNat = arrived) (few : arrived < 2 ^ 31) :
    OrdinaryStep call arrived sk := by
  have limit := fieldLimit_lt call.sk.rcvWscale
  have static : leoDynamic call.net = false := by simp [leoDynamic, disabled]
  let found := (call.windowCall sk).found sk
  let normalWin := (call.windowCall sk).normalWin
  have memory : found.ackNomem = false := rfl
  have narrow : found.rcvWnd.toNat < 2 ^ 31 := lt_of_le_of_lt offered limit
  have answer : OnGrid found.rcvWscale normalWin ∧ normalWin.toNat ≤ fieldLimit found.rcvWscale ∧
      (normalWin.toNat : Int) ≤ roundUp (max 0 call.view.space.toInt) (2 ^ found.rcvWscale.val) :=
    selectWindow_spec fits narrow
  obtain ⟨onGrid, bounded, within⟩ := answer
  have remaining : (tcpReceiveWindow found).toNat = sk.rcvWnd.toNat - arrived :=
    tcpReceiveWindow_of_arrived distance few (lt_of_le_of_lt offered limit)
  have remainingFits : (tcpReceiveWindow found).toNat ≤ fieldLimit found.rcvWscale := by
    rw [remaining]
    exact (Nat.sub_le _ _).trans offered
  obtain ⟨keptGrid, keptBound, keptEdge⟩ := keepOfferedWindow_spec static onGrid bounded remainingFits
  have ordinary : (leoAdjustWindow call.net call.clk normalWin found).1 = normalWin := by
    simp [leoAdjustWindow, static, disabled]
  have selected := @tcpSelectWindow_of_memory call.net call.clk normalWin found memory
  dsimp only at selected
  rw [ordinary] at selected
  have stored : (SpaceCall.step sk call).rcvWnd =
      keepOfferedWindow call.net found (tcpReceiveWindow found) normalWin :=
    congrArg (fun result => result.2.rcvWnd) selected
  have sent : (call.select sk).1 =
      (scaledWindow call.net found (keepOfferedWindow call.net found (tcpReceiveWindow found) normalWin)).toUInt16 :=
    congrArg Prod.fst selected
  refine ⟨congrArg (fun result => result.2.rcvWup) selected, ?_, ?_, ?_, ?_, ?_⟩
  · rw [stored]
    exact keptGrid
  · rw [stored]
    exact keptBound
  · intro unsigned
    rw [stored, sent]
    exact scaledWindow_exact keptGrid keptBound unsigned
  · intro forbidden
    have kept := keptEdge forbidden
    rw [UInt32.le_iff_toNat_le, remaining] at kept
    rw [stored]
    exact Nat.sub_le_iff_le_add.mp kept
  · intro allowed scaled
    have passed : keepOfferedWindow call.net found (tcpReceiveWindow found) normalWin = normalWin :=
      (keepOfferedWindow_eq_iff static).mpr (.inr ⟨allowed, scaled⟩)
    rw [stored, passed]
    exact within

end Ordinary

section Run

variable {wscale : Fin 16} {position : Nat → Nat} {start : TcpSock} {calls : Nat → SpaceCall}
  (run : OrdinaryRun wscale position start calls)

include run

theorem ordinaryStep_of_run {n : Nat} {sk : TcpSock} (cursor : sk.rcvWup.toNat = position n % 2 ^ 32)
    (offered : sk.rcvWnd.toNat ≤ fieldLimit wscale) :
    OrdinaryStep (calls n) (position (n + 1) - position n) sk := by
  obtain ⟨order, few⟩ := run.arrives n
  apply ordinaryStep (calls n) (run.disabled n)
  · rw [run.scale n]
    exact run.fits n
  · rw [run.scale n]
    exact offered
  · exact cursor_sub_toNat (run.stream n) cursor order (by omega)
  · omega

theorem ordinaryRun_sound (n : Nat) : (spaceRun start calls n).rcvWup.toNat = position n % 2 ^ 32 ∧
    (spaceRun start calls n).rcvWnd.toNat ≤ fieldLimit wscale := by
  apply runState_invariant fun n (sk : TcpSock) =>
    sk.rcvWup.toNat = position n % 2 ^ 32 ∧ sk.rcvWnd.toNat ≤ fieldLimit wscale
  · exact ⟨run.opened, run.offered⟩
  · intro n sk sound
    have stepped := ordinaryStep_of_run run sound.1 sound.2
    rw [stepped.cursor]
    refine ⟨run.stream n, ?_⟩
    rw [← run.scale n]
    exact stepped.bounded

theorem soundCall_of_run (n : Nat) : SoundCall wscale position start calls n := by
  obtain ⟨cursor, offered⟩ := ordinaryRun_sound run n
  have stepped := ordinaryStep_of_run run cursor offered
  have order := (run.arrives n).1
  obtain ⟨-, onGrid, -, field, edge, memory⟩ := stepped
  rw [run.scale n] at onGrid field edge memory
  refine ⟨onGrid, field, fun forbidden => ?_, memory⟩
  have kept : (spaceRun start calls n).rcvWnd.toNat ≤
      (spaceRun start calls (n + 1)).rcvWnd.toNat + (position (n + 1) - position n) := edge forbidden
  omega

end Run

/-- The scale factor of a handshake carries both its first window and its clamp. -/
theorem tcpSelectInitialWindow_fits (net : Net) (space : Int32) (mss windowClamp : UInt32) (wscaleOk : Bool)
    (rmemMax initRcvWnd : UInt32) :
    let initial := tcpSelectInitialWindow net space mss windowClamp wscaleOk rmemMax initRcvWnd
    initial.rcvWscale.val ≤ 14 ∧ initial.rcvWnd.toNat ≤ fieldLimit initial.rcvWscale ∧
      initial.windowClamp.toNat ≤ fieldLimit initial.rcvWscale := by
  intro initial
  have first : initial.rcvWnd.toNat ≤ 65535 := by
    have word : (65535 : UInt32).toNat = 65535 := rfl
    have signed : (32767 : UInt32).toNat = 32767 := rfl
    simp only [initial, tcpSelectInitialWindow]
    split <;> split <;> simp only [UInt32.toNat_min, word, signed] <;> omega
  have scale : initial.rcvWscale.val ≤ 14 := by
    simp only [initial, tcpSelectInitialWindow, windowScale]
    split
    · exact Nat.min_le_right _ _
    · exact Nat.zero_le _
  refine ⟨scale, first.trans ?_, ?_⟩
  · exact Nat.le_mul_of_pos_right _ (Nat.two_pow_pos _)
  · have clamped : initial.windowClamp = min ((65535 : UInt32) <<< UInt32.ofNat initial.rcvWscale)
        (if windowClamp = 0 then (65535 : UInt32) <<< 14 else windowClamp) := rfl
    rw [clamped, UInt32.toNat_min, shiftLeft_toNat _ (by omega : initial.rcvWscale.val < 32)]
    exact (Nat.min_le_left _ _).trans (Nat.mod_le _ _)

theorem ordinaryRun_of_handshake {position : Nat → Nat} {start : TcpSock} {calls : Nat → SpaceCall} (net : Net)
    (space : Int32) (mss windowClamp : UInt32) (wscaleOk : Bool) (rmemMax initRcvWnd : UInt32) :
    let initial := tcpSelectInitialWindow net space mss windowClamp wscaleOk rmemMax initRcvWnd
    OrdinaryCalls initial.rcvWscale position start calls → start.rcvWnd = initial.rcvWnd →
    (∀ n, (calls n).view.rcvSsthresh ≤ initial.windowClamp ∧
      (calls n).view.adjustedSsthresh ≤ initial.windowClamp) →
    OrdinaryRun initial.rcvWscale position start calls := by
  intro initial ordinary first clamped
  obtain ⟨-, window, clamp⟩ :=
    tcpSelectInitialWindow_fits net space mss windowClamp wscaleOk rmemMax initRcvWnd
  refine ⟨ordinary, fun n => ?_, ?_⟩
  · exact ⟨(UInt32.le_iff_toNat_le.mp (clamped n).1).trans clamp,
      (UInt32.le_iff_toNat_le.mp (clamped n).2).trans clamp⟩
  · rw [first]
    exact window

/-- With both controllers off every call records a window on the grid, which the field carries in full.
Where shrinking is forbidden the right edge never moves left; where it is allowed the window never
exceeds what the buffer can hold. The thresholds have to be ones the field can carry; after a handshake they
are, as long as they stay below its clamp. -/
theorem ordinary_windows_sound (position : Nat → Nat) (start : TcpSock) (calls : Nat → SpaceCall) :
    (∀ wscale, OrdinaryRun wscale position start calls → ∀ n, SoundCall wscale position start calls n) ∧
    (∀ (net : Net) (space : Int32) (mss windowClamp : UInt32) (wscaleOk : Bool) (rmemMax initRcvWnd : UInt32),
      let initial := tcpSelectInitialWindow net space mss windowClamp wscaleOk rmemMax initRcvWnd
      OrdinaryCalls initial.rcvWscale position start calls → start.rcvWnd = initial.rcvWnd →
      (∀ n, (calls n).view.rcvSsthresh ≤ initial.windowClamp ∧
        (calls n).view.adjustedSsthresh ≤ initial.windowClamp) →
      ∀ n, SoundCall initial.rcvWscale position start calls n) := by
  refine ⟨fun wscale run => soundCall_of_run run, ?_⟩
  intro net space mss windowClamp wscaleOk rmemMax initRcvWnd initial ordinary first clamped
  exact soundCall_of_run
    (ordinaryRun_of_handshake net space mss windowClamp wscaleOk rmemMax initRcvWnd ordinary first clamped)

def plainNet : Net := { tcpSkInit with tcpLeoRwndEnable := 0, tcpShrinkWindow := 0 }

/-- A reader that has stopped: the space falls by what arrives. -/
def plainCall (n : Nat) : SpaceCall where
  net := plainNet
  clk := ⟨0, 0⟩
  sk := downloadView 0 (if n = 0 then 7 else 50007)
  view :=
    { windowClamp := 8388480
      rcvSsthresh := 1000000
      space := if n = 0 then 900000 else 100000
      fullSpace := 1000000
      underMemoryPressure := false
      adjustedSsthresh := 5792 }

theorem plainCall_calls : OrdinaryCalls 7 (fun n => if n ≤ 1 then 7 else 50007) openedSocket plainCall where
  disabled _ := rfl
  scale _ := rfl
  opened := rfl
  stream n := by cases n <;> rfl
  arrives n := by
    split <;> split <;> omega

theorem plainCall_run : OrdinaryRun 7 (fun n => if n ≤ 1 then 7 else 50007) openedSocket plainCall where
  toOrdinaryCalls := plainCall_calls
  fits _ := ⟨(by decide : (1000000 : UInt32).toNat ≤ fieldLimit 7),
    (by decide : (5792 : UInt32).toNat ≤ fieldLimit 7)⟩
  offered := by decide

/-- The socket with the window of a handshake that offers 65160 bytes, a scale factor of 7 and a clamp of
8388480. -/
def handshakeSocket : TcpSock := { openedSocket with rcvWnd := 65160 }

theorem plainCall_calls_of_handshake :
    OrdinaryCalls 7 (fun n => if n ≤ 1 then 7 else 50007) handshakeSocket plainCall :=
  { plainCall_calls with opened := rfl }

theorem ordinary_windows_sound_stalled :
    OnGrid 7 (spaceRun openedSocket plainCall 2).rcvWnd ∧
    (spaceRun openedSocket plainCall 1).rcvWnd.toNat ≤ 50000 + (spaceRun openedSocket plainCall 2).rcvWnd.toNat ∧
    OnGrid 7 (spaceRun handshakeSocket plainCall 2).rcvWnd := by
  obtain ⟨onGrid, -, edge, -⟩ := (ordinary_windows_sound (fun n => if n ≤ 1 then 7 else 50007) openedSocket
    plainCall).1 7 plainCall_run 1
  have kept := edge (.inl rfl)
  simp only [le_refl, if_true, Nat.reduceAdd, Nat.reduceLeDiff, if_false] at kept
  have clamped (n : Nat) : (plainCall n).view.rcvSsthresh ≤ (8388480 : UInt32) ∧
      (plainCall n).view.adjustedSsthresh ≤ (8388480 : UInt32) :=
    ⟨(by decide : (1000000 : UInt32) ≤ 8388480), (by decide : (5792 : UInt32) ≤ 8388480)⟩
  have shaken := (ordinary_windows_sound (fun n => if n ≤ 1 then 7 else 50007) handshakeSocket plainCall).2
    plainNet 65536 1448 0 true 6291456 0 plainCall_calls_of_handshake rfl clamped 1
  exact ⟨onGrid, by omega, shaken.onGrid⟩

end StarlinkTcp.Proof
