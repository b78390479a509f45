import Greybus.Basic
import Greybus.Reasoning.Mailbox
import Greybus.Reasoning.Simulation

/-!
# Modem status of the UART protocol

The callbacks of the UART driver store the status and post `status_sem`; `uart_status_thread` sends
a `SERIAL_STATE` request when the bits that the protocol knows have changed.  It records what it
sends before it sends it, and does not try again when that fails.  Every action below is one access
to what the callbacks and the thread share.
-/

namespace Greybus.UartStatus

open Reasoning Reasoning.Transition Reasoning.Simulation

/-- `MSR_DCD`, `MSR_DSR` and `MSR_RI`, which come with the UART driver. -/
structure ModemBits where
  dcd : UInt8
  dsr : UInt8
  ri : UInt8
  deriving DecidableEq, Repr

/-- `GB_UART_CTRL_DCD`. -/
def ctrlDcd : UInt8 := 0x01
/-- `GB_UART_CTRL_DSR`. -/
def ctrlDsr : UInt8 := 0x02
/-- `GB_UART_CTRL_RI`. -/
def ctrlRi : UInt8 := 0x04

def parseMsLsRegisters (msr : ModemBits) (modemStatus _lineStatus : UInt8) : UInt8 :=
  (if modemStatus &&& msr.dcd ≠ 0 then ctrlDcd else 0)
    ||| (if modemStatus &&& msr.dsr ≠ 0 then ctrlDsr else 0)
    ||| (if modemStatus &&& msr.ri ≠ 0 then ctrlRi else 0)

/-- The steps of `uart_status_thread`. -/
inductive ThreadPc where
  | semWait
  | testStop
  | readMs
  | readLs (ms : UInt8)
  | compare (ms ls : UInt8)
  | exited
  deriving DecidableEq, Repr

/-- The part of `struct gb_uart_info` for the status. -/
structure Info where
  updatedMs : UInt8
  updatedLs : UInt8
  lastSerialState : UInt8
  statusSem : Nat
  threadStop : Bool
  thread : ThreadPc
  -- Callbacks that have stored their value and not posted yet.
  callbacks : Nat
  -- What `updated_ms` has been when a callback stored its value, the latest first.
  stored : List UInt8
  -- The `control` of the requests that have been handed to `gb_operation_send_request`, whatever
  -- that has returned, the latest first.
  sent : List UInt8
  -- The errors that have been reported.
  errors : Nat
  deriving DecidableEq, Repr

/-- After `gb_uart_init`, where the device has told `ms` and `ls`. -/
def gbUartInit (msr : ModemBits) (ms ls : UInt8) : Info where
  updatedMs := 0
  updatedLs := 0
  lastSerialState := parseMsLsRegisters msr ms ls
  statusSem := 0
  threadStop := false
  thread := .semWait
  callbacks := 0
  stored := []
  sent := []
  errors := 0

inductive Action where
  -- `uart_ms_callback` up to its `sem_post`.
  | msCallback (ms : UInt8)
  -- `uart_ls_callback` up to its `sem_post`.
  | lsCallback (ls : UInt8)
  | callbackPost
  -- `uart_status_cb_deinit` sets `thread_stop`.
  | stop
  | stopPost
  | semWait
  | testStop
  | readMs
  | readLs
  -- The comparison, and the request with what `gb_operation_send_request` returns.
  | compare (sendRet : Int)
  deriving DecidableEq, Repr

/-- The end of a round of `uart_status_thread`. -/
def Info.compare (msr : ModemBits) (info : Info) (ms ls : UInt8) (sendRet : Int) : Info :=
  let updatedStatus := parseMsLsRegisters msr ms ls
  if info.lastSerialState ^^^ updatedStatus ≠ 0 then
    { info with
      thread := .semWait
      lastSerialState := updatedStatus
      sent := updatedStatus :: info.sent
      errors := if sendRet ≠ 0 then info.errors + 1 else info.errors }
  else { info with thread := .semWait }

def step (msr : ModemBits) (info : Info) : Action → Option Info
  | .msCallback ms => some { info with
      updatedMs := ms, callbacks := info.callbacks + 1, stored := ms :: info.stored }
  | .lsCallback ls => some { info with
      updatedLs := ls, callbacks := info.callbacks + 1, stored := info.updatedMs :: info.stored }
  | .callbackPost =>
    if 0 < info.callbacks then
      some { info with callbacks := info.callbacks - 1, statusSem := info.statusSem + 1 }
    else none
  | .stop => some { info with threadStop := true }
  | .stopPost =>
    if info.threadStop then some { info with statusSem := info.statusSem + 1 } else none
  | .semWait =>
    match info.thread with
    | .semWait =>
      if 0 < info.statusSem then
        some { info with statusSem := info.statusSem - 1, thread := .testStop }
      else none
    | _ => none
  | .testStop =>
    match info.thread with
    | .testStop => some { info with thread := if info.threadStop then .exited else .readMs }
    | _ => none
  | .readMs =>
    match info.thread with
    | .readMs => some { info with thread := .readLs info.updatedMs }
    | _ => none
  | .readLs =>
    match info.thread with
    | .readLs ms => some { info with thread := .compare ms info.updatedLs }
    | _ => none
  | .compare sendRet =>
    match info.thread with
    | .compare ms ls => some (info.compare msr ms ls sendRet)
    | _ => none

/-! ## The thread as a reader -/

def ThreadPc.reader : ThreadPc → Mailbox.Reader UInt8
  | .semWait => .waiting
  | .testStop | .readMs => .woken
  | .readLs ms | .compare ms _ => .holding ms
  | .exited => .stopped

/-- The line status is no part of what is reported. -/
def Info.mailbox (info : Info) : Mailbox.State UInt8 UInt8 where
  value := info.updatedMs
  sem := info.statusSem
  owed := info.callbacks
  reader := info.thread.reader
  published := info.lastSerialState
  reports := info.sent
  stored := info.stored

def Info.mailboxActions (info : Info) : Action → List (Mailbox.Action UInt8)
  | .msCallback ms => [.store ms]
  | .lsCallback _ => [.store info.updatedMs]
  | .callbackPost => [.post]
  | .stop => []
  | .stopPost => [.wake]
  | .semWait => [.wait]
  | .testStop => if info.threadStop then [.stop] else []
  | .readMs => [.read]
  | .readLs => []
  | .compare _ => [.publish]

/-- Whether an action is a `sem_post`. -/
def Action.posts : Action → Nat
  | .callbackPost | .stopPost => 1
  | _ => 0

def report (msr : ModemBits) (ms : UInt8) : UInt8 := parseMsLsRegisters msr ms 0

-- The end of a round reports what differs.
theorem Info.compare_mailbox (msr : ModemBits) (info : Info) (ms ls : UInt8) (sendRet : Int) :
    (info.compare msr ms ls sendRet).mailbox = info.mailbox.report (report msr) ms := by
  have hsame : info.lastSerialState ^^^ parseMsLsRegisters msr ms ls = 0 ↔
      report msr ms = info.mailbox.published := by
    rw [UInt8.xor_eq_zero_iff, eq_comm]
    rfl
  by_cases hequal : report msr ms = info.mailbox.published
  · rw [Info.compare, if_neg (not_not.mpr (hsame.mpr hequal)), Mailbox.State.report, if_pos hequal]
    rfl
  · rw [Info.compare, if_pos (fun hzero => hequal (hsame.mp hzero)), Mailbox.State.report,
      if_neg hequal]
    rfl

theorem simulates (msr : ModemBits) :
    Simulates (step msr) (Mailbox.step (report msr)) Info.mailbox Info.mailboxActions Action.posts
      Mailbox.Action.units where
  step_run info a info' h := by
    cases a with
    | msCallback | lsCallback =>
      obtain rfl := Option.some.inj h
      rfl
    | stop =>
      obtain rfl := Option.some.inj h
      rfl
    | callbackPost =>
      simp only [step, Option.ite_none_right_eq_some, Option.some.injEq] at h
      obtain ⟨hpos, rfl⟩ := h
      simp [Info.mailboxActions, Info.mailbox, run, Mailbox.step, hpos]
    | stopPost =>
      simp only [step, Option.ite_none_right_eq_some, Option.some.injEq] at h
      obtain ⟨-, rfl⟩ := h
      rfl
    | semWait =>
      simp only [step] at h
      split at h
      next hthread =>
        simp only [Option.ite_none_right_eq_some, Option.some.injEq] at h
        obtain ⟨hpos, rfl⟩ := h
        simp [Info.mailboxActions, Info.mailbox, run, Mailbox.step, ThreadPc.reader, hthread, hpos]
      next => cases h
    | testStop =>
      simp only [step] at h
      split at h
      next hthread =>
        obtain rfl := Option.some.inj h
        cases hstop : info.threadStop <;>
          simp [Info.mailboxActions, Info.mailbox, run, Mailbox.step, ThreadPc.reader, hthread,
            hstop]
      next => cases h
    | readMs | readLs =>
      simp only [step] at h
      split at h
      next hthread =>
        obtain rfl := Option.some.inj h
        simp [Info.mailboxActions, Info.mailbox, run, Mailbox.step, ThreadPc.reader, hthread]
      next => cases h
    | compare sendRet =>
      simp only [step] at h
      split at h
      next ms ls hthread =>
        obtain rfl := Option.some.inj h
        simp only [Info.mailboxActions, run, Mailbox.step]
        rw [show info.mailbox.reader = .holding ms by rw [Info.mailbox, hthread]; rfl,
          Option.bind_some, info.compare_mailbox]
      next => cases h
  weight_le info a := by
    cases a with
    | testStop => cases hstop : info.threadStop <;> simp [Info.mailboxActions, hstop]; rfl
    | _ => exact Nat.le_refl _

/-! ## What is reported -/

/-- How the thread records the modem status and tries to send it, from `first` on, which
`gb_uart_init` records and does not send. -/
structure Reports (msr : ModemBits) (first : UInt8) (info : Info) : Prop where
  -- When all is quiet, what has been recorded last is the current status.
  settled : info.thread = .semWait → info.statusSem = 0 → info.callbacks = 0 → info.stored ≠ [] →
    info.lastSerialState = parseMsLsRegisters msr info.updatedMs info.updatedLs
  -- It is not tried to send a status twice in a row, nor `first` first.
  changes : (info.sent ++ [first]).IsChain (· ≠ ·)
  -- What has been recorded is what the last attempt was made with.
  last : (info.sent ++ [first]).head? = some info.lastSerialState
  -- Nothing is made up: 0 is what `updated_ms` starts with.
  source : ∀ control ∈ info.sent, ∃ ms ∈ info.stored ++ [0], ∀ ls,
    control = parseMsLsRegisters msr ms ls

/-- In every interleaving of the callbacks, the thread and `uart_status_cb_deinit`, and however the
requests fare, the status that the thread has recorded is the current one whenever all is quiet, and
it is the one that it has tried to send last.  It tries nothing twice in a row and nothing that no
callback has brought, and no more often than `status_sem` has been posted. -/
theorem run_reports {msr : ModemBits} {ms ls : UInt8} {as : List Action} {info : Info}
    (hrun : run (step msr) (gbUartInit msr ms ls) as = some info) :
    Reports msr (parseMsLsRegisters msr ms ls) info ∧
      info.sent.length ≤ (as.map Action.posts).sum := by
  obtain ⟨bs, hbs, hposts⟩ := (simulates msr).run_run hrun
  have hinv := Mailbox.run_inv hbs
  refine ⟨⟨fun hthread hsem hcallbacks hstored => ?_, hinv.chain, hinv.last,
    fun control hcontrol => ?_⟩, (Mailbox.run_reports_le hbs).trans hposts⟩
  · have hreader : info.mailbox.reader = .waiting := by
      rw [Info.mailbox, hthread]
      rfl
    exact hinv.published_eq hreader hsem hcallbacks hstored
  · obtain ⟨ms', hms, rfl⟩ := hinv.source control hcontrol
    exact ⟨ms', hms, fun _ => rfl⟩

/-- The bits as a 16550 has them. -/
def modemBits16550 : ModemBits := ⟨0x80, 0x20, 0x40⟩

/-- Carrier and ring come, and ring goes before the thread has looked. -/
def ringing : List Action :=
  [.msCallback 0xC0, .callbackPost, .msCallback 0x80, .semWait, .callbackPost, .testStop, .readMs,
    .readLs, .compare 0, .semWait, .testStop, .readMs, .readLs, .compare 0]

theorem run_reports_ringing :
    ∃ info, run (step modemBits16550) (gbUartInit modemBits16550 0 0) ringing = some info ∧
      info.sent = [ctrlDcd] ∧ Reports modemBits16550 0 info := by
  have hsome : (run (step modemBits16550) (gbUartInit modemBits16550 0 0) ringing).map Info.sent
      = some [ctrlDcd] := by decide
  obtain ⟨info, hrun, hsent⟩ := Option.map_eq_some_iff.mp hsome
  exact ⟨info, hrun, hsent, (run_reports hrun).1⟩

end Greybus.UartStatus
