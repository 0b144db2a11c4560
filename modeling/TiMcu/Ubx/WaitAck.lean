import TiMcu.Ubx.Loaded

/-!
# Messages that wait for their acknowledgement

`ubx_send_message_ack` clears the flag, sends the message and runs the super-loop until the flag is set or the time is up,
and tries again when the time is up.  The flag is set by every ACK-ACK packet, whatever its payload names, and cleared by
every other message that is sent; and a pass of the super-loop that ends too late makes the wait fail although the flag
was seen.

The passes of the super-loop are the input of a run: the bytes it takes from the UART, the messages it sends and the
time when it returns.  What else happens between two steps of the call is part of the run as well.
-/

namespace TiMcu.Ubx

open Runs

variable {W : Type} {env : UbxEnv W} {d d' : UbxDriver W} {m p : UbxPacket}

/-! ### Constants -/

def ubxSendTry : Nat := 15
def ubxSendTimeOutMs : UInt32 := 2000

/-! ### The functions -/

/-- A byte is received, or another part of the firmware sends a message. -/
inductive LoopEvent
  | rx (rxByte : UInt8)
  | send (m : UbxPacket) (uartSend : Bool)

def UbxDriver.loopStep (env : UbxEnv W) (d : UbxDriver W) : LoopEvent → UbxDriver W
  | .rx rxByte => { d with receiver := ubxStep env d.receiver rxByte }
  | .send m uartSend => (ubxSendMessage uartSend d m).2

/-- A pass of the super-loop, and the time in milliseconds at its end. -/
structure Pass where
  events : List LoopEvent
  currMs : UInt32

/-- The passes of one wait.  There is no result while they do not end it. -/
def ubxWaitAck (env : UbxEnv W) (waitPauseMs startMs : UInt32) :
    UbxDriver W → List Pass → Option (Bool × UbxDriver W)
  | _, [] => none
  | d, pass :: passes =>
    let seen := d.receiver.proto.ack
    let d := run (UbxDriver.loopStep env) d pass.events
    if waitPauseMs < pass.currMs - startMs then some (false, d)
    else if seen then some (true, d)
    else ubxWaitAck env waitPauseMs startMs d passes

/-- What happens around one attempt: before the flag is cleared, before the message is sent and before the flag is first
looked at, and the passes of the wait. -/
structure Attempt where
  before : List LoopEvent
  early : List LoopEvent
  uartSend : Bool
  first : List LoopEvent
  startMs : UInt32
  passes : List Pass

/-- The flag is cleared. -/
def UbxDriver.clear (env : UbxEnv W) (d : UbxDriver W) (m : UbxPacket) (a : Attempt) : UbxDriver W :=
  (run (UbxDriver.loopStep env) d a.before).compose m

/-- The message is sent. -/
def UbxDriver.sent (env : UbxEnv W) (d : UbxDriver W) (m : UbxPacket) (a : Attempt) : UbxDriver W :=
  ((run (UbxDriver.loopStep env) (d.clear env m a) a.early).transmit a.uartSend m.len).2

/-- One attempt, to the end of its wait. -/
def UbxDriver.attempt (env : UbxEnv W) (d : UbxDriver W) (m : UbxPacket) (a : Attempt) :
    Option (Bool × UbxDriver W) :=
  ubxWaitAck env ubxSendTimeOutMs a.startMs (run (UbxDriver.loopStep env) (d.sent env m a) a.first) a.passes

/-- The attempts that are left. -/
def ubxTryAck (env : UbxEnv W) (m : UbxPacket) : Nat → UbxDriver W → List Attempt → Option (Bool × UbxDriver W)
  | 0, d, _ => some (false, d)
  | _ + 1, _, [] => none
  | n + 1, d, a :: as =>
    match d.attempt env m a with
    | none => none
    | some (true, d) => some (true, d)
    | some (false, d) => ubxTryAck env m n d as

def ubxSendMessageAck (env : UbxEnv W) (d : UbxDriver W) (m : UbxPacket) (as : List Attempt) :
    Option (Bool × UbxDriver W) := ubxTryAck env m ubxSendTry d as

/-! ### What the receive path and the send path do to the flag -/

/-- The packet is an ACK-ACK. -/
def UbxPacket.IsAck (p : UbxPacket) : Prop := p.cls = ubxClaAck ∧ p.id = ubxAckAck

/-- The payload names the class and the id of the message. -/
def UbxPacket.Names (p m : UbxPacket) : Prop := p.payload.take 2 = [m.cls, m.id]

instance (p : UbxPacket) : Decidable p.IsAck := by
  unfold UbxPacket.IsAck
  infer_instance

instance (p m : UbxPacket) : Decidable (p.Names m) := by
  unfold UbxPacket.Names
  infer_instance

/-- A packet was received, or the flag was cleared. -/
inductive Mark
  | got (p : UbxPacket)
  | cleared
  deriving DecidableEq, Repr

/-- What an event shows of the flag. -/
def UbxDriver.marks (d : UbxDriver W) : LoopEvent → List Mark
  | .rx rxByte => (ubxAccepts d.receiver rxByte).toList.map .got
  | .send _ _ => [.cleared]

def runMarks (env : UbxEnv W) : UbxDriver W → List LoopEvent → List Mark
  | _, [] => []
  | d, e :: es => d.marks e ++ runMarks env (d.loopStep env e) es

/-- The flag after these marks. -/
def flagAfter (flag : Bool) (ms : List Mark) : Bool :=
  ms.foldl (fun flag mark =>
    match mark with
    | .got p => if p.IsAck then true else flag
    | .cleared => false) flag

/-- An ACK-ACK was received, and the flag was not cleared since. -/
def Standing (ms : List Mark) : Prop := ∃ newer p older, ms = older ++ .got p :: newer ∧ p.IsAck ∧ .cleared ∉ newer

private theorem flagAfter_append (flag : Bool) (ms ms' : List Mark) :
    flagAfter flag (ms ++ ms') = flagAfter (flagAfter flag ms) ms' := List.foldl_append

private theorem standing_concat_cleared (ms : List Mark) : ¬Standing (ms ++ [.cleared]) := by
  rintro ⟨newer, p, older, heq, -, hnew⟩
  cases newer using List.reverseRecOn with
  | nil =>
    obtain ⟨-, hmark⟩ := List.append_inj' heq rfl
    simp at hmark
  | append_singleton newer mark =>
    rw [← List.cons_append, ← List.append_assoc] at heq
    obtain ⟨-, hmark⟩ := List.append_inj' heq rfl
    exact hnew (List.mem_append_right newer (hmark ▸ List.mem_singleton_self _))

private theorem standing_concat_got (ms : List Mark) (p : UbxPacket) :
    Standing (ms ++ [.got p]) ↔ p.IsAck ∨ Standing ms := by
  constructor
  · rintro ⟨newer, q, older, heq, hack, hnew⟩
    cases newer using List.reverseRecOn with
    | nil =>
      obtain ⟨-, hmark⟩ := List.append_inj' heq rfl
      obtain rfl : p = q := by simpa using hmark
      exact .inl hack
    | append_singleton newer mark =>
      rw [← List.cons_append, ← List.append_assoc] at heq
      obtain ⟨rfl, -⟩ := List.append_inj' heq rfl
      exact .inr ⟨newer, q, older, rfl, hack, fun hmem => hnew (List.mem_append_left _ hmem)⟩
  · rintro (hack | ⟨newer, q, older, rfl, hack, hnew⟩)
    · exact ⟨[], p, ms, rfl, hack, by simp⟩
    · exact ⟨newer ++ [.got p], q, older, by simp, hack, by simpa using hnew⟩

/-- A flag that was clear is set if and only if an ACK-ACK stands. -/
private theorem flagAfter_iff (ms : List Mark) : flagAfter false ms = true ↔ Standing ms := by
  induction ms using List.reverseRecOn with
  | nil => simp [flagAfter, Standing]
  | append_singleton ms mark ih =>
    rw [flagAfter_append]
    cases mark with
    | got p =>
      rw [standing_concat_got, ← ih]
      by_cases hack : p.IsAck
      · simp [flagAfter, hack]
      · simp [flagAfter, hack]
    | cleared => simp [flagAfter, standing_concat_cleared]

/-- A byte sets the flag if it completes an ACK-ACK. -/
private theorem ubxStep_ack (env : UbxEnv W) (u : Receiver W) (b : UInt8) :
    (ubxStep env u b).proto.ack = flagAfter u.proto.ack ((ubxAccepts u b).toList.map .got) := by
  cases haccepts : ubxAccepts u b with
  | none => exact (ubxAccepts_none haccepts).2.1
  | some p =>
    obtain ⟨v, rfl, -, hflag, -, -, hstep⟩ : ∃ v : Receiver W, v.proto.packet = p ∧ v.world = u.world ∧
        v.proto.ack = u.proto.ack ∧ v.proto.ackCnt = u.proto.ackCnt ∧ v.proto.rxPktCnt = u.proto.rxPktCnt + 1 ∧
        ubxStep env u b = ubxResetRx (ubxProcFrame env v).2 := ubxAccepts_some haccepts
    rw [hstep, ← hflag]
    simp only [ubxProcFrame, ubxProcClass, ubxProcAckFrame, ubxResetRx, flagAfter, Option.toList, List.map_cons,
      List.map_nil, List.foldl_cons, List.foldl_nil, UbxPacket.IsAck, UbloxProtocol.packet]
    by_cases hcls : v.proto.fixFrame ubxIndexCls = ubxClaAck
    · by_cases hid : v.proto.fixFrame ubxIndexId = ubxAckAck
      · simp [hcls, hid]
      · simp [hcls, hid]
    · simp [hcls]

private theorem transmit_ack (d : UbxDriver W) (uartSend : Bool) (len : UInt16) :
    (d.transmit uartSend len).2.receiver.proto.ack = d.receiver.proto.ack := by
  unfold UbxDriver.transmit
  cases uartSend <;> rfl

/-- The flag after a stretch of the super-loop. -/
private theorem run_ack (env : UbxEnv W) (d : UbxDriver W) (es : List LoopEvent) :
    (run (UbxDriver.loopStep env) d es).receiver.proto.ack = flagAfter d.receiver.proto.ack (runMarks env d es) := by
  induction es generalizing d with
  | nil => rfl
  | cons e es ih =>
    rw [run_cons, ih, runMarks, flagAfter_append]
    congr 1
    cases e with
    | rx rxByte => exact ubxStep_ack env d.receiver rxByte
    | send m uartSend => exact transmit_ack (d.compose m) uartSend m.len

/-! ### What is heard and what is named -/

/-- The marks of a pass, and the time at its end. -/
def passMarks (env : UbxEnv W) : UbxDriver W → List Pass → List (List Mark × UInt32)
  | _, [] => []
  | d, pass :: passes =>
    (runMarks env d pass.events, pass.currMs) ::
      passMarks env (run (UbxDriver.loopStep env) d pass.events) passes

/-- A pass that begins with a standing ACK-ACK ends in time, as all passes before it do. -/
def HeardIn (waitPauseMs startMs : UInt32) : List Mark → List (List Mark × UInt32) → Prop
  | _, [] => False
  | pending, (ms, currMs) :: passes =>
    ¬waitPauseMs < currMs - startMs ∧ (Standing pending ∨ HeardIn waitPauseMs startMs ms passes)

/-- The marks of the passes up to the end of the wait: the first pass that ends too late or begins with a standing
ACK-ACK. -/
def waited (waitPauseMs startMs : UInt32) : List Mark → List (List Mark × UInt32) → List Mark
  | _, [] => []
  | pending, (ms, currMs) :: passes =>
    ms ++ (if waitPauseMs < currMs - startMs ∨ flagAfter false pending = true then []
      else waited waitPauseMs startMs ms passes)

/-- The marks of an attempt. -/
structure AttemptMarks where
  early : List Mark
  first : List Mark
  startMs : UInt32
  passes : List (List Mark × UInt32)
  deriving DecidableEq

/-- An ACK-ACK is heard: received after the flag was cleared and standing when a pass begins that ends in time. -/
def AttemptMarks.Heard (a : AttemptMarks) : Prop := HeardIn ubxSendTimeOutMs a.startMs (a.early ++ a.first) a.passes

/-- An ACK-ACK that names the message is received between the send and the end of the wait. -/
def AttemptMarks.Named (a : AttemptMarks) (m : UbxPacket) : Prop :=
  ∃ p, .got p ∈ a.first ++ waited ubxSendTimeOutMs a.startMs (a.early ++ a.first) a.passes ∧ p.IsAck ∧ p.Names m

def UbxDriver.attemptMarks (env : UbxEnv W) (d : UbxDriver W) (m : UbxPacket) (a : Attempt) : AttemptMarks where
  early := runMarks env (d.clear env m a) a.early
  first := runMarks env (d.sent env m a) a.first
  startMs := a.startMs
  passes := passMarks env (run (UbxDriver.loopStep env) (d.sent env m a) a.first) a.passes

/-- The attempts of a call, up to the one whose wait succeeds. -/
def ackMarks (env : UbxEnv W) (m : UbxPacket) : Nat → UbxDriver W → List Attempt → List AttemptMarks
  | 0, _, _ => []
  | _ + 1, _, [] => []
  | n + 1, d, a :: as =>
    d.attemptMarks env m a ::
      match d.attempt env m a with
      | some (false, d) => ackMarks env m n d as
      | _ => []

/-- A wait ends at the latest with the first pass that ends too late. -/
theorem ubxWaitAck_ends {waitPauseMs startMs : UInt32} {passes : List Pass}
    (h : ∃ pass ∈ passes, waitPauseMs < pass.currMs - startMs) :
    ∃ res d', ubxWaitAck env waitPauseMs startMs d passes = some (res, d') := by
  induction passes generalizing d with
  | nil => simp at h
  | cons pass passes ih =>
    simp only [ubxWaitAck]
    by_cases htime : waitPauseMs < pass.currMs - startMs
    · rw [if_pos htime]
      exact ⟨_, _, rfl⟩
    · rw [if_neg htime]
      split
      · exact ⟨_, _, rfl⟩
      · obtain ⟨late, hlate, hms⟩ := h
        rcases List.mem_cons.1 hlate with rfl | hlate
        · exact absurd hms htime
        · exact ih ⟨late, hlate, hms⟩

/-- A wait that ends returns true if and only if an ACK-ACK is heard. -/
private theorem ubxWaitAck_iff {waitPauseMs startMs : UInt32} {pending : List Mark} {passes : List Pass} {res : Bool}
    (hflag : d.receiver.proto.ack = flagAfter false pending)
    (h : ubxWaitAck env waitPauseMs startMs d passes = some (res, d')) :
    res = true ↔ HeardIn waitPauseMs startMs pending (passMarks env d passes) := by
  induction passes generalizing d pending with
  | nil => simp [ubxWaitAck] at h
  | cons pass passes ih =>
    simp only [ubxWaitAck] at h
    rw [passMarks, HeardIn]
    -- the time is looked at before the flag
    by_cases htime : waitPauseMs < pass.currMs - startMs
    · rw [if_pos htime] at h
      obtain ⟨rfl, -⟩ := Prod.mk.inj (Option.some.inj h)
      simp [htime]
    · rw [if_neg htime] at h
      cases hseen : d.receiver.proto.ack with
      | true =>
        rw [hseen, if_pos rfl] at h
        obtain ⟨rfl, -⟩ := Prod.mk.inj (Option.some.inj h)
        have hstanding : Standing pending := (flagAfter_iff pending).1 (hflag.symm.trans hseen)
        simp [htime, hstanding]
      | false =>
        rw [hseen, if_neg (by simp)] at h
        -- the flag is still down, so the pass that follows decides what it is next
        have hnot : ¬Standing pending := by
          rw [← flagAfter_iff, ← hflag, hseen]
          simp
        have hnext := run_ack env d pass.events
        rw [hseen] at hnext
        rw [ih hnext h]
        simp [htime, hnot]

private theorem attempt_iff {a : Attempt} {res : Bool} (h : d.attempt env m a = some (res, d')) :
    res = true ↔ (d.attemptMarks env m a).Heard := by
  refine ubxWaitAck_iff ?_ h
  -- the flag is down at the start of each attempt
  have hclear : (d.clear env m a).receiver.proto.ack = false := rfl
  rw [run_ack, UbxDriver.sent, transmit_ack, run_ack, hclear, flagAfter_append]
  rfl

/-- A call that ends returns true if and only if an ACK-ACK is heard in one of its attempts. -/
private theorem ubxTryAck_iff {n : Nat} {as : List Attempt} {res : Bool} (h : ubxTryAck env m n d as = some (res, d')) :
    res = true ↔ ∃ a ∈ ackMarks env m n d as, a.Heard := by
  induction n generalizing d as with
  | zero =>
    obtain ⟨rfl, -⟩ := Prod.mk.inj (Option.some.inj h)
    simp [ackMarks]
  | succ n ih =>
    cases as with
    | nil => simp [ubxTryAck] at h
    | cons a as =>
      rw [ackMarks]
      rw [ubxTryAck] at h
      cases hattempt : d.attempt env m a with
      | none => simp [hattempt] at h
      | some r =>
        obtain ⟨res', d₁⟩ := r
        have hheard := attempt_iff hattempt
        rw [hattempt] at h
        cases res' with
        | true =>
          obtain ⟨rfl, -⟩ := Prod.mk.inj (Option.some.inj h)
          simp [hheard.1 rfl]
        | false =>
          have hnot : ¬(d.attemptMarks env m a).Heard := fun hc => by simpa using hheard.2 hc
          rw [ih h]
          simp [hnot]

/-! ### The law and its condition -/

/-- An attempt in which an ACK-ACK is heard has one that names the message, or an attempt before it has; and where one
that names the message is received, one is heard in that attempt or a later one. -/
structure AckOk (m : UbxPacket) (marks : List AttemptMarks) : Prop where
  named_of_heard : ∀ a ∈ marks, a.Heard → ∃ a' ∈ marks, a'.Named m
  heard_of_named : ∀ a ∈ marks, a.Named m → ∃ a' ∈ marks, a'.Heard

/-- A call returns true exactly for the acknowledgement of its message if and only if what it hears is named, and what is
named is heard. -/
theorem returns_for_ack_iff (d : UbxDriver W) (as : List Attempt) {res : Bool}
    (h : ubxSendMessageAck env d m as = some (res, d')) :
    (res = true ↔ ∃ a ∈ ackMarks env m ubxSendTry d as, a.Named m) ↔ AckOk m (ackMarks env m ubxSendTry d as) := by
  rw [ubxTryAck_iff h]
  constructor
  · intro hiff
    exact ⟨fun a ha hheard => hiff.1 ⟨a, ha, hheard⟩, fun a ha hnamed => hiff.2 ⟨a, ha, hnamed⟩⟩
  · rintro ⟨hheard, hnamed⟩
    exact ⟨fun ⟨a, ha, h⟩ => hheard a ha h, fun ⟨a, ha, h⟩ => hnamed a ha h⟩

/-- The receiver acknowledges a message of class 6 with id 1 after ten milliseconds. -/
def ackAttempt : Attempt where
  before := []
  early := []
  uartSend := true
  first := []
  startMs := 0
  passes := [⟨ackStream.map .rx, 10⟩, ⟨[], 20⟩]

private theorem ackAttempt_returns (m : UbxPacket)
    (hm : (ubxSendMessageAck idleEnv (.init 0 ()) m [ackAttempt]).map Prod.fst =
    some true) : ∃ d', ubxSendMessageAck idleEnv (.init 0 ()) m [ackAttempt] = some (true, d') := by
  obtain ⟨⟨res, d'⟩, hcall, hres⟩ := Option.map_eq_some_iff.1 hm
  obtain rfl : res = true := hres
  exact ⟨d', hcall⟩

theorem ackAttempt_ackOk :
    AckOk ⟨0x06, 0x01, [0xFF]⟩ (ackMarks idleEnv ⟨0x06, 0x01, [0xFF]⟩ ubxSendTry (.init 0 ()) [ackAttempt]) := by
  obtain ⟨d', hcall⟩ := ackAttempt_returns ⟨0x06, 0x01, [0xFF]⟩ (by decide +kernel)
  have hmarks : ackMarks idleEnv ⟨0x06, 0x01, [0xFF]⟩ ubxSendTry (.init 0 ()) [ackAttempt] =
      [⟨[], [], 0, [([.got ⟨0x05, 0x01, [0x06, 0x01]⟩], 10), ([], 20)]⟩] := by decide +kernel
  refine (returns_for_ack_iff (.init 0 ()) [ackAttempt] hcall).1 (iff_of_true rfl ?_)
  rw [hmarks]
  exact ⟨_, List.mem_singleton_self _, ⟨0x05, 0x01, [0x06, 0x01]⟩, by decide, by decide, by decide⟩

/-- A message of class 6 with id 8 takes the acknowledgement of another one for its own. -/
theorem not_returns_for_ack : ¬∀ (as : List Attempt) (res : Bool) (d' : UbxDriver Unit),
    ubxSendMessageAck idleEnv (.init 0 ()) ⟨0x06, 0x08, []⟩ as = some (res, d') →
    (res = true ↔ ∃ a ∈ ackMarks idleEnv ⟨0x06, 0x08, []⟩ ubxSendTry (.init 0 ()) as, a.Named ⟨0x06, 0x08, []⟩) := by
  intro h
  obtain ⟨d', hcall⟩ := ackAttempt_returns ⟨0x06, 0x08, []⟩ (by decide +kernel)
  have hmarks : ackMarks idleEnv ⟨0x06, 0x08, []⟩ ubxSendTry (.init 0 ()) [ackAttempt] =
      [⟨[], [], 0, [([.got ⟨0x05, 0x01, [0x06, 0x01]⟩], 10), ([], 20)]⟩] := by decide +kernel
  obtain ⟨a, ha, p, hp, -, hnames⟩ := (h [ackAttempt] true d' hcall).1 rfl
  rw [hmarks, List.mem_singleton] at ha
  subst ha
  have hgot : p = ⟨0x05, 0x01, [0x06, 0x01]⟩ := by simpa [waited, flagAfter] using hp
  subst hgot
  exact absurd hnames (by decide)

end TiMcu.Ubx
