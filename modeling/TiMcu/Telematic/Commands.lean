import TiMcu.Cli.Args
import TiMcu.Tbfp.System

/-!
# Commands for a remote device

`telematic_sent_command` joins its arguments to a text and sends it as a frame of type CMD.  On the other side
`tbfp_proc_cmd` ends the text with a NUL and passes it to `process_shell_cmd`, which splits it with `cli_parse_args`.

`try_str2uint8` is not part of the repository and is a parameter.  An argument is the string without its NUL.
-/

namespace TiMcu.Tbfp

open Checked Cli CString NorFlash Words

/-! ### Data -/

/-- The value of the enumerator. -/
def Interfaces.number : Interfaces → UInt8
  | .lora => 0
  | .sx1262 => 1
  | .uart1 => 2
  | .loopback => 3
  | .cnt => 4
  | .can => 5
  | .rs232 => 6
  | .uart0 => 7
  | .ble => 8
  | .spi0 => 9
  | .none => 11

def Interfaces.ofNumber (n : UInt8) : Option Interfaces :=
  [.lora, .sx1262, .uart1, .loopback, .cnt, .can, .rs232, .uart0, .ble, .spi0, .none].find? (·.number == n)

private theorem Interfaces.ofNumber_number (interface : Interfaces) : ofNumber interface.number = some interface := by
  cases interface <;> rfl

/-! ### Sending -/

variable {W : Type} (env : Env W) (proc : Proc W)

theorem TextFits.length_lt {txArray : List UInt8} (h : TextFits txArray.length) : txArray.length < 65536 := h.lt

def Device.tbfpSendText (d : Device W) (payloadId : UInt8) (txArray : List UInt8) (interface : Interfaces)
    (lifetime : UInt8) (ack : TbfpAck) : Bool × Device W :=
  if h : TextFits txArray.length then
    d.tbfpSend env proc (textPayload payloadId txArray h.length_lt) interface lifetime ack
  else (false, d)

def Device.tbfpSendCmd (d : Device W) (txArray : List UInt8) (interface : Interfaces) : Bool × Device W :=
  d.tbfpSendText env proc frameIdCmd txArray interface 0 .need

/-- The size of `tx_array` and of `suffix`. -/
def sizeofTxArray : Nat := 256

/-- The loop over the arguments. -/
structure JoinLoop where
  txArray : List UInt8
  suffix : List UInt8
  a : UInt8

/-- The condition of the loop. -/
def JoinLoop.more (argv : List (List UInt8)) (s : JoinLoop) : Option Bool := some (decide (s.a.toNat < argv.length))

/-- One argument is printed to `suffix`, behind a space, and this is appended to `tx_array`. -/
def JoinLoop.append (argv : List (List UInt8)) (s : JoinLoop) : Option JoinLoop :=
  argv[s.a.toNat]?.bind fun arg =>
    (snprintf s.suffix sizeofTxArray (0x20 :: arg)).bind fun suffix =>
      (strncat s.txArray suffix sizeofTxArray).map fun txArray => ⟨txArray, suffix, s.a + 1⟩

/-- `tx_array` with the arguments behind the number of the interface. -/
def joinArgs (fuel : Nat) (argv : List (List UInt8)) : Option (List UInt8) :=
  argv[1]?.bind fun arg =>
    (snprintf (List.replicate sizeofTxArray 0) sizeofTxArray arg).bind fun suffix =>
      (strncat (List.replicate sizeofTxArray 0) suffix sizeofTxArray).bind fun txArray =>
        (loop (JoinLoop.more argv) (JoinLoop.append argv) fuel ⟨txArray, suffix, 2⟩).map JoinLoop.txArray

variable (tryStr2uint8 : List UInt8 → Bool × UInt8)

/-- `telematic_sent_command`; a store outside of the two arrays is `none`, and so is a number that no interface has. -/
def Device.telematicSentCommand (d : Device W) (fuel : Nat) (argv : List (List UInt8)) : Option (Bool × Device W) :=
  match argv with
  | [] => some (false, d)
  | [arg] =>
    let r := tryStr2uint8 arg
    if r.1 then (Interfaces.ofNumber r.2).map fun interface => d.tbfpSendCmd env proc [] interface else some (false, d)
  | arg :: _ =>
    (joinArgs fuel argv).bind fun txArray =>
      (strlen txArray).bind fun len =>
        let txArrayLen := UInt16.ofNat (len + 1)
        (Interfaces.ofNumber (tryStr2uint8 arg).2).map fun interface =>
          d.tbfpSendCmd env proc (txArray.take txArrayLen.toNat) interface

/-! ### Receiving -/

/-- The line that `tbfp_proc_cmd` passes to `process_shell_cmd`, without its NUL. -/
def Device.shellLine (d : Device W) (slot : Interfaces) (len : UInt16) : Option (List UInt8) :=
  if 0 < len.toNat ∧ d.payload slot 0 = frameIdCmd then
    some (((d.note (.read len.toNat len.toNat)).endString slot len).commandString slot len)
  else none

theorem Device.tbfpProcCmd_eq (d : Device W) (slot : Interfaces) (len : UInt16) : d.tbfpProcCmd env proc slot len =
    match d.shellLine slot len with
    | some line =>
      let d := (d.note (.read len.toNat len.toNat)).endString slot len
      let r := env.processShellCmd line d.tx.world
      (r.1, d.setTx { d.tx with world := r.2 })
    | none => (false, d) := by
  rw [Device.tbfpProcCmd_env]
  unfold Device.shellLine
  split <;> rfl

/-! ### The specification -/

/-- What `cli_parse_args` delivers as an argument. -/
def IsToken (t : List UInt8) : Prop := t ≠ [] ∧ ∀ c ∈ t, isSpace c = false ∧ c ≠ 0

/-- The tokens with single spaces between them. -/
def joined (tokens : List (List UInt8)) : List UInt8 := [0x20].intercalate tokens

/-- On every device that has received the payload, `cli_parse_args` returns the tokens. -/
def Arrives (payload : Payload) (tokens : List (List UInt8)) : Prop :=
  ∀ (V : Type) (peer : Device V) (slot : Interfaces) (fuel : Nat),
    bytesAt (peer.payload slot) 0 payload.bytes.length = payload.bytes → payload.bytes.length < fuel →
    ∃ line r, peer.shellLine slot (UInt16.ofNat payload.bytes.length) = some line ∧
      cliParseArgs fuel (line ++ [0]) (List.replicate shellMaxArgCount 0) = some r ∧ r.res = true ∧
      r.argc = tokens.length ∧ (r.argv.take r.argc).map (stringAt r.cmdLine) = tokens

/-- What is wanted of `telematic_sent_command` for an interface and tokens. -/
structure SentWell (d : Device W) (interface : Interfaces) (tokens : List (List UInt8))
    (out : Option (Bool × Device W)) : Prop where
  /-- nothing is stored outside of the arrays -/
  inside : out.isSome = true
  fits : TextFits ((joined tokens).length + 1) → ∃ payload : Payload, payload.bytes[0]? = some frameIdCmd ∧
    Arrives payload tokens ∧ out = some (d.tbfpSend env proc payload interface 0 .need)
  refused : ¬TextFits ((joined tokens).length + 1) → out = some (false, d)

/-! ### The text that is built -/

/-- An argument behind a space, cut to the size of `suffix`. -/
def piece (t : List UInt8) : List UInt8 := (0x20 :: t).take 255

/-- The text in `tx_array`, as far as it has room for it. -/
def sentText (t : List UInt8) (ts : List (List UInt8)) : List UInt8 := t.take 255 ++ ts.flatMap piece

private theorem joined_cons (t : List UInt8) (ts : List (List UInt8)) :
    joined (t :: ts) = t ++ ts.flatMap fun u => 0x20 :: u := by
  induction ts generalizing t with
  | nil => simp [joined]
  | cons u ts ih =>
    have hu := ih u
    rw [joined] at hu ⊢
    rw [List.intercalate_cons_cons, hu, List.flatMap_cons]
    simp

private theorem length_le_flatMap (f : List UInt8 → List UInt8) {t : List UInt8} {ts : List (List UInt8)}
    (ht : t ∈ ts) :
    (f t).length ≤ (ts.flatMap f).length := by
  obtain ⟨front, back, rfl⟩ := List.append_of_mem ht
  rw [List.flatMap_append, List.flatMap_cons]
  simp only [List.length_append]
  omega

private theorem flatMap_piece {ts : List (List UInt8)} (h : ∀ t ∈ ts, t.length ≤ 254) :
    ts.flatMap piece = ts.flatMap fun u => 0x20 :: u := by
  rw [List.flatMap_def, List.flatMap_def]
  congr 1
  apply List.map_congr_left
  intro t ht
  have hle := h t ht
  exact List.take_of_length_le (by rw [List.length_cons]; omega)

private theorem length_piece (t : List UInt8) : (piece t).length = min 255 (t.length + 1) := by
  rw [piece, List.length_take, List.length_cons]

/-- A text that has room is the joined tokens, or one token that was cut. -/
private theorem sentText_eq {t : List UInt8} {ts : List (List UInt8)} (ht : t ≠ []) (h : (sentText t ts).length ≤ 255) :
    ts = [] ∨ sentText t ts = joined (t :: ts) := by
  rcases ts with _ | ⟨u, ts⟩
  · exact .inl rfl
  · right
    have hpos := List.length_pos_iff.2 ht
    have hlen : min 255 t.length + ((u :: ts).flatMap piece).length ≤ 255 := by
      rw [sentText, List.length_append, List.length_take] at h
      exact h
    have hpiece : ∀ v ∈ u :: ts, min 255 (v.length + 1) ≤ ((u :: ts).flatMap piece).length := by
      intro v hv
      rw [← length_piece]
      exact length_le_flatMap piece hv
    have hu := hpiece u (List.mem_cons_self ..)
    have hts : ∀ v ∈ u :: ts, v.length ≤ 254 := by
      intro v hv
      have := hpiece v hv
      omega
    rw [joined_cons, sentText, List.take_of_length_le (by omega), flatMap_piece hts]

private theorem sentText_of_le {t : List UInt8} {ts : List (List UInt8)} (h : (joined (t :: ts)).length ≤ 255) :
    sentText t ts = joined (t :: ts) := by
  rw [joined_cons, List.length_append] at h
  have hts : ∀ v ∈ ts, v.length ≤ 254 := by
    intro v hv
    have hle := length_le_flatMap (fun u => 0x20 :: u) hv
    rw [List.length_cons] at hle
    omega
  rw [joined_cons, sentText, List.take_of_length_le (by omega), flatMap_piece hts]

/-! ### The loop -/

/-- The state of the loop when the text so far is `cs` and the arguments `ts` are to come. -/
structure JoinLoop.Holding (argv : List (List UInt8)) (s : JoinLoop) (cs : List UInt8) (ts : List (List UInt8)) :
    Prop where
  txArray : Holds s.txArray cs
  txLen : s.txArray.length = sizeofTxArray
  suffixLen : s.suffix.length = sizeofTxArray
  rest : argv.drop s.a.toNat = ts

theorem JoinLoop.Holding.lt {argv : List (List UInt8)} {s : JoinLoop} {cs t : List UInt8} {ts : List (List UInt8)}
    (h : s.Holding argv cs (t :: ts)) : s.a.toNat < argv.length := by
  by_contra hge
  have hrest := h.rest
  rw [List.drop_eq_nil_of_le (by omega)] at hrest
  exact absurd hrest (by simp)

/-- One argument more, where there is room for it; otherwise bytes are stored outside of `tx_array`. -/
theorem JoinLoop.Holding.append {argv : List (List UInt8)} {s : JoinLoop} {cs t : List UInt8}
    {ts : List (List UInt8)} (h : s.Holding argv cs (t :: ts)) (ht : 0 ∉ t) (hargv : argv.length < 256) :
    if cs.length + (piece t).length < sizeofTxArray then
      ∃ s', s.append argv = some s' ∧ s'.Holding argv (cs ++ piece t) ts
    else s.append argv = none := by
  have hlt := h.lt
  have hdrop := h.rest
  rw [List.drop_eq_getElem_cons hlt] at hdrop
  obtain ⟨harg, hts⟩ := List.cons.inj hdrop
  have htext : (0 : UInt8) ∉ 0x20 :: t := by
    rw [List.mem_cons]
    rintro (h0 | h0)
    · exact absurd h0 (by decide)
    · exact ht h0
  obtain ⟨suffix, hsuffix, hholds, hslen⟩ :=
    snprintf_spec htext (by decide : 0 < sizeofTxArray) (le_of_eq h.suffixLen.symm)
  have hpiece : (piece t).length ≤ sizeofTxArray := by
    rw [length_piece, sizeofTxArray]
    omega
  have hholds' : Holds suffix (piece t) := hholds
  have happend : s.append argv =
      (strncat s.txArray suffix sizeofTxArray).map fun txArray => ⟨txArray, suffix, s.a + 1⟩ := by
    rw [JoinLoop.append, List.getElem?_eq_getElem hlt, harg, Option.bind_some, hsuffix, Option.bind_some]
  rw [happend]
  have hnext : (s.a + 1).toNat = s.a.toNat + 1 := by
    rw [UInt8.toNat_add]
    have : (1 : UInt8).toNat = 1 := rfl
    omega
  by_cases hroom : cs.length + (piece t).length < sizeofTxArray
  · rw [if_pos hroom]
    obtain ⟨txArray, htx, hcat, hlen⟩ := strncat_of_lt h.txArray hholds' hpiece (by rw [h.txLen]; exact hroom)
    refine ⟨⟨txArray, suffix, s.a + 1⟩, by rw [htx]; rfl, ?_⟩
    exact
      { txArray := hcat
        txLen := hlen.trans h.txLen
        suffixLen := hslen.trans h.suffixLen
        rest := by rw [hnext]; exact hts }
  · rw [if_neg hroom, strncat_of_ge h.txArray hholds' hpiece (by rw [h.txLen]; omega)]
    rfl

/-- The loop appends all arguments that are to come, where there is room for them. -/
theorem JoinLoop.Holding.loop {argv : List (List UInt8)} {s : JoinLoop} {cs : List UInt8} {ts : List (List UInt8)}
    {n : Nat} (h : s.Holding argv cs ts) (hcs : cs.length < sizeofTxArray) (hts : ∀ t ∈ ts, 0 ∉ t)
    (hargv : argv.length < 256) (hn : ts.length < n) :
    if cs.length + (ts.flatMap piece).length < sizeofTxArray then
      ∃ s', Checked.loop (JoinLoop.more argv) (JoinLoop.append argv) n s = some s' ∧
        s'.Holding argv (cs ++ ts.flatMap piece) []
    else Checked.loop (JoinLoop.more argv) (JoinLoop.append argv) n s = none := by
  induction ts generalizing s cs n with
  | nil =>
    obtain ⟨n, rfl⟩ := Nat.exists_eq_add_of_lt hn
    have hend : JoinLoop.more argv s = some false := by
      have hle := List.drop_eq_nil_iff.1 h.rest
      simp [JoinLoop.more, hle]
    rw [if_pos (by simpa using hcs), loop_stop hend]
    exact ⟨s, rfl, by simpa using h⟩
  | cons t ts ih =>
    obtain ⟨n, rfl⟩ : ∃ m, n = m + 1 := ⟨n - 1, by omega⟩
    rw [List.length_cons] at hn
    have hmore : JoinLoop.more argv s = some true := by
      simp [JoinLoop.more, h.lt]
    have hlen : ((t :: ts).flatMap piece).length = (piece t).length + (ts.flatMap piece).length := by
      rw [List.flatMap_cons, List.length_append]
    have hstep := h.append (hts t (List.mem_cons_self ..)) hargv
    by_cases hroom : cs.length + (piece t).length < sizeofTxArray
    · rw [if_pos hroom] at hstep
      obtain ⟨s', happend, hs'⟩ := hstep
      rw [loop_next hmore happend]
      have hrest := ih hs' (by rw [List.length_append]; exact hroom) (fun u hu => hts u (List.mem_cons_of_mem t hu))
        (by omega : ts.length < n)
      rw [List.flatMap_cons, ← List.append_assoc]
      rwa [List.length_append, Nat.add_assoc, ← List.length_append] at hrest
    · rw [if_neg hroom] at hstep
      rw [if_neg (by omega)]
      simp [Checked.loop, hmore, hstep]

/-! ### The whole command -/

section

variable {env proc} {tryStr2uint8} {d : Device W} {arg t : List UInt8} {ts : List (List UInt8)} {fuel : Nat}

private theorem joinArgs_spec (arg : List UInt8) (ht : 0 ∉ t) (hts : ∀ u ∈ ts, 0 ∉ u) (hlen : ts.length < 254)
    (hfuel : ts.length < fuel) :
    if (sentText t ts).length < sizeofTxArray then
      ∃ txArray, joinArgs fuel (arg :: t :: ts) = some txArray ∧ Holds txArray (sentText t ts)
    else joinArgs fuel (arg :: t :: ts) = none := by
  have hzero : Holds (List.replicate sizeofTxArray 0) [] := holds_nil (by decide)
  have hzlen : (List.replicate sizeofTxArray (0 : UInt8)).length = sizeofTxArray := List.length_replicate
  obtain ⟨suffix, hsuffix, hholds, hslen⟩ := snprintf_spec ht (by decide : 0 < sizeofTxArray) (le_of_eq hzlen.symm)
  have hcut : (t.take 255).length < sizeofTxArray := by
    rw [List.length_take, sizeofTxArray]
    omega
  have hholds' : Holds suffix (t.take 255) := hholds
  have hroom : ([] : List UInt8).length + (t.take 255).length < (List.replicate sizeofTxArray (0 : UInt8)).length := by
    rw [hzlen, List.length_nil, Nat.zero_add]
    exact hcut
  obtain ⟨txArray, htx, htext, htlen⟩ := strncat_of_lt hzero hholds' (le_of_lt hcut) hroom
  have hstart : JoinLoop.Holding (arg :: t :: ts) ⟨txArray, suffix, 2⟩ (t.take 255) ts :=
    ⟨htext, htlen.trans hzlen, hslen.trans hzlen, rfl⟩
  have hloop := hstart.loop hcut hts (by simp only [List.length_cons]; omega) hfuel
  have hjoin : joinArgs fuel (arg :: t :: ts) =
      (Checked.loop (JoinLoop.more (arg :: t :: ts)) (JoinLoop.append (arg :: t :: ts)) fuel
        ⟨txArray, suffix, 2⟩).map JoinLoop.txArray := by
    rw [joinArgs, List.getElem?_cons_succ, List.getElem?_cons_zero, Option.bind_some, hsuffix, Option.bind_some, htx,
      Option.bind_some]
  rw [hjoin, sentText, List.length_append]
  split
  · next hroom =>
    rw [if_pos hroom] at hloop
    obtain ⟨s, hrun, hs⟩ := hloop
    exact ⟨s.txArray, by rw [hrun]; rfl, hs.txArray⟩
  · next hroom =>
    rw [if_neg hroom] at hloop
    rw [hloop]
    rfl

/-- The text goes to `tbfp_send_cmd` with its NUL, where `tx_array` has room for it. -/
private theorem telematicSentCommand_spec {interface : Interfaces} (hnum : tryStr2uint8 arg = (true, interface.number))
    (ht : 0 ∉ t) (hts : ∀ u ∈ ts, 0 ∉ u) (hlen : ts.length < 254) (hfuel : ts.length < fuel) :
    d.telematicSentCommand env proc tryStr2uint8 fuel (arg :: t :: ts) =
      if (sentText t ts).length < sizeofTxArray then some (d.tbfpSendCmd env proc (sentText t ts ++ [0]) interface)
      else none := by
  have hjoin := joinArgs_spec arg ht hts hlen hfuel
  have hdef : d.telematicSentCommand env proc tryStr2uint8 fuel (arg :: t :: ts) =
      (joinArgs fuel (arg :: t :: ts)).bind fun txArray => (strlen txArray).bind fun len =>
        (Interfaces.ofNumber (tryStr2uint8 arg).2).map fun interface =>
          d.tbfpSendCmd env proc (txArray.take (UInt16.ofNat (len + 1)).toNat) interface := rfl
  rw [hdef]
  split at hjoin
  · next hroom =>
    obtain ⟨txArray, hrun, hholds⟩ := hjoin
    have hlen16 : (UInt16.ofNat ((sentText t ts).length + 1)).toNat = (sentText t ts).length + 1 := by
      rw [sizeofTxArray] at hroom
      rw [UInt16.toNat_ofNat', Nat.mod_eq_of_lt (by omega)]
    rw [if_pos hroom, hrun, Option.bind_some, hholds.strlen, Option.bind_some, hnum, Interfaces.ofNumber_number,
      hlen16, hholds.take]
    rfl
  · next hroom =>
    rw [if_neg hroom, hjoin]
    rfl

end

/-! ### The other side -/

private theorem IsToken.zero_notMem {t : List UInt8} (h : IsToken t) : 0 ∉ t := fun h0 => (h.2 0 h0).2 rfl

private theorem zero_notMem_joined {tokens : List (List UInt8)} (h : ∀ t ∈ tokens, IsToken t) : 0 ∉ joined tokens := by
  rcases tokens with _ | ⟨t, ts⟩
  · simp [joined]
  · rw [joined_cons, List.mem_append, List.mem_flatMap]
    rintro (h0 | ⟨u, hu, h0⟩)
    · exact (h t (List.mem_cons_self ..)).zero_notMem h0
    · rcases List.mem_cons.1 h0 with h0 | h0
      · exact absurd h0 (by decide)
      · exact (h u (List.mem_cons_of_mem t hu)).zero_notMem h0

private theorem takeWhile_string {cs : List UInt8} (hcs : 0 ∉ cs) (rest : List UInt8) :
    (cs ++ 0 :: rest).takeWhile (· ≠ 0) = cs := by
  have hne : ∀ c ∈ cs, decide (c ≠ 0) = true := by
    intro c hc
    have : c ≠ 0 := fun h0 => hcs (h0 ▸ hc)
    simpa using this
  rw [List.takeWhile_append_of_pos hne]
  simp

/-- The line that the other side gets. -/
private theorem shellLine_of_payload {V : Type} (peer : Device V) (slot : Interfaces) {cs : List UInt8} (hcs : 0 ∉ cs)
    {len : UInt16} (hlen : len.toNat = cs.length + 2)
    (hpayload : bytesAt (peer.payload slot) 0 (cs.length + 2) = frameIdCmd :: (cs ++ [0])) :
    peer.shellLine slot len = some cs := by
  have hid : peer.payload slot 0 = frameIdCmd := by
    have h0 := Buffer.getD_of_bytesAt hpayload (Nat.succ_pos _ : 0 < cs.length + 2)
    rw [← h0]
    rfl
  have hended : ((peer.note (.read len.toNat len.toNat)).endString slot len).payload slot =
      Buffer.store (peer.payload slot) len.toNat 0 := by
    funext k
    simp [Device.payload, Device.endString, Device.setTbfp, Device.note, Buffer.store]
  have hline : bytesAt (Buffer.store (peer.payload slot) len.toNat 0) 1 (cs.length + 1) = cs ++ [0] := by
    rw [Buffer.bytesAt_store_of_le _ (.inr (by omega)), ← Buffer.drop_bytesAt, Nat.add_comm 1, hpayload]
    rfl
  have hbytes := (congrArg (bytesAt (Buffer.store (peer.payload slot) len.toNat 0) 1) hlen).trans
    (bytesAt_add _ 1 (cs.length + 1) 1)
  have hcommand : ((peer.note (.read len.toNat len.toNat)).endString slot len).commandString slot len = cs := by
    rw [Device.commandString, hended, hbytes, hline, List.append_assoc]
    exact takeWhile_string hcs _
  rw [Device.shellLine, if_pos ⟨by omega, hid⟩, hcommand]

/-- The joined tokens arrive where the text passes the test of `tbfp_send_text`. -/
private theorem arrives_joined {tokens : List (List UInt8)} (hpos : 1 ≤ tokens.length)
    (hle : tokens.length ≤ shellMaxArgCount)
    (htokens : ∀ t ∈ tokens, IsToken t) (hfits : TextFits ((joined tokens).length + 1)) {payload : Payload}
    (hbytes : payload.bytes = frameIdCmd :: (joined tokens ++ [0])) : Arrives payload tokens := by
  intro V peer slot fuel hpayload hfuel
  have hcs := zero_notMem_joined htokens
  have hlen : payload.bytes.length = (joined tokens).length + 2 := by
    rw [hbytes]
    simp
  rw [hlen, hbytes] at hpayload
  rw [hlen] at hfuel ⊢
  have hlen16 : (UInt16.ofNat ((joined tokens).length + 2)).toNat = (joined tokens).length + 2 := by
    have := hfits.2
    rw [UInt16.toNat_ofNat', Nat.mod_eq_of_lt (by omega)]
  have hline := shellLine_of_payload peer slot hcs hlen16 hpayload
  have hargv : shellMaxArgCount ≤ (List.replicate shellMaxArgCount 0).length := le_of_eq List.length_replicate.symm
  obtain ⟨s, hsplit, hmore, hrun⟩ := cliParseArgs_run hcs hargv (by omega : (joined tokens).length < fuel)
  have hexact := hsplit.splitExactly hcs hmore
  have hwords : words isSpace (joined tokens) = tokens :=
    words_intercalate rfl (fun t ht => (htokens t ht).1) fun t ht c hc => ((htokens t ht).2 c hc).1
  have hcount : (starts isSpace (joined tokens)).length = tokens.length := by
    have hlength := congrArg List.length hwords
    rwa [words, List.length_map] at hlength
  have hargc : s.argcLoc = tokens.length := by
    have hmin := hexact.argc
    rwa [hcount, Nat.min_eq_right hle] at hmin
  refine ⟨joined tokens, _, hline, hrun, ?_, hargc, ?_⟩
  · exact hexact.res.2 (by dsimp only; omega)
  · rw [hexact.strings, hwords, List.take_of_length_le hle]

/-! ### When a command is sent well -/

section

variable {env proc} {tryStr2uint8} {d : Device W} {interface : Interfaces} {t : List UInt8} {ts : List (List UInt8)}

/-- A text that does not pass the test is not sent. -/
private theorem tbfpSendCmd_of_not {txArray : List UInt8} (h : ¬TextFits txArray.length) :
    d.tbfpSendCmd env proc txArray interface = (false, d) := dif_neg h

private theorem sentText_not_fits {t : List UInt8} {ts : List (List UInt8)} (ht : t ≠ [])
    (hroom : (sentText t ts).length ≤ 255)
    (h : ¬TextFits ((joined (t :: ts)).length + 1)) : ¬TextFits (sentText t ts ++ [0]).length := by
  have hlen : (sentText t ts ++ [0]).length = (sentText t ts).length + 1 := List.length_append
  rw [hlen]
  rcases sentText_eq ht hroom with rfl | heq
  · have hsent : (sentText t []).length = min 255 t.length := by
      simp [sentText]
    have hjoined : (joined [t]).length = t.length := by
      simp [joined]
    rw [hjoined] at h
    rw [hsent]
    unfold TextFits at h ⊢
    have hover : tbfpSizeOverhead = 7 := rfl
    have hid : tbfpSizeId = 1 := rfl
    omega
  · rwa [heq]

/-- With room in `tx_array` the command is sent well. -/
private theorem sentWell_of_room (htokens : ∀ u ∈ t :: ts, IsToken u) (hle : (t :: ts).length ≤ shellMaxArgCount)
    (hroom : (sentText t ts).length < sizeofTxArray) :
    SentWell env proc d interface (t :: ts) (some (d.tbfpSendCmd env proc (sentText t ts ++ [0]) interface)) where
  inside := rfl
  fits := by
    intro hfits
    have hjoined : (joined (t :: ts)).length ≤ 255 := by
      have := hfits.2
      omega
    have heq := sentText_of_le hjoined
    have hlen : (joined (t :: ts) ++ [0]).length = (joined (t :: ts)).length + 1 := List.length_append
    have hfits' : TextFits (joined (t :: ts) ++ [0]).length := by rwa [hlen]
    refine ⟨textPayload frameIdCmd (joined (t :: ts) ++ [0]) hfits'.lt, rfl,
      arrives_joined (by simp) hle htokens hfits rfl, ?_⟩
    rw [heq, Device.tbfpSendCmd, Device.tbfpSendText, dif_pos hfits']
  refused := by
    intro hfits
    have ht := (htokens t (List.mem_cons_self ..)).1
    rw [tbfpSendCmd_of_not (sentText_not_fits ht (Nat.le_of_lt_succ hroom) hfits)]

/-- `tx_array` has room for the tokens with single spaces and a NUL, and for one token, which is cut. -/
private theorem sentText_room_iff (ht : t ≠ []) : (sentText t ts).length < sizeofTxArray ↔
    (joined (t :: ts)).length ≤ 255 ∨ (t :: ts).length = 1 := by
  rw [sizeofTxArray]
  constructor
  · intro h
    rcases sentText_eq ht (Nat.le_of_lt_succ h) with rfl | heq
    · exact .inr rfl
    · rw [heq] at h
      exact .inl (Nat.le_of_lt_succ h)
  · rintro (h | h)
    · rw [sentText_of_le h]
      omega
    · have hnil : ts = [] := by simpa using h
      rw [hnil, sentText, List.flatMap_nil, List.append_nil, List.length_take]
      omega

end

/-- A command for a remote device is sent well when the tokens with single spaces are at most 255 bytes, or there is one
token; otherwise bytes are stored behind `tx_array`. -/
theorem telematicSentCommand_sentWell_iff (d : Device W) (arg : List UInt8) (interface : Interfaces)
    (tokens : List (List UInt8)) (fuel : Nat) (hnum : tryStr2uint8 arg = (true, interface.number))
    (hpos : 1 ≤ tokens.length) (hle : tokens.length ≤ shellMaxArgCount - 2) (htokens : ∀ t ∈ tokens, IsToken t)
    (hfuel : tokens.length ≤ fuel) :
    SentWell env proc d interface tokens (d.telematicSentCommand env proc tryStr2uint8 fuel (arg :: tokens)) ↔
      (joined tokens).length ≤ 255 ∨ tokens.length = 1 := by
  obtain ⟨t, ts, rfl⟩ := List.exists_cons_of_length_pos hpos
  have hmax : shellMaxArgCount = 12 := rfl
  have hlen : (t :: ts).length = ts.length + 1 := rfl
  have ht := htokens t (List.mem_cons_self ..)
  rw [telematicSentCommand_spec hnum ht.zero_notMem (fun u hu => (htokens u (List.mem_cons_of_mem t hu)).zero_notMem)
    (by omega) (by omega : ts.length < fuel), ← sentText_room_iff ht.1]
  constructor
  · intro h
    by_contra hroom
    have hinside := h.inside
    rw [if_neg hroom] at hinside
    exact absurd hinside (by simp)
  · intro hroom
    rw [if_pos hroom]
    exact sentWell_of_room htokens (by omega) hroom

theorem telematicSentCommand_sentWell_iff_help :
    SentWell Env.bench (tbfpProc Env.bench 0) (swInit restingRadio 0 ()) .sx1262 [[0x6C, 0x73], [0x61]]
        ((swInit restingRadio 0 ()).telematicSentCommand Env.bench (tbfpProc Env.bench 0) (fun s => (s == [0x31], 1)) 12
          [[0x31], [0x6C, 0x73], [0x61]]) ↔
      (joined [[0x6C, 0x73], [0x61]]).length ≤ 255 ∨ [[0x6C, 0x73], [(0x61 : UInt8)]].length = 1 :=
  telematicSentCommand_sentWell_iff Env.bench (tbfpProc Env.bench 0) (fun s => (s == [0x31], 1))
    (swInit restingRadio 0 ()) [0x31] .sx1262 [[0x6C, 0x73], [0x61]] 12 rfl (by decide) (by decide)
    (by simp [IsToken, isSpace]) (by decide)

/-- Two tokens of 200 bytes each. -/
theorem telematicSentCommand_overflow :
    ¬SentWell Env.bench (tbfpProc Env.bench 0) (swInit restingRadio 0 ()) .sx1262
      [List.replicate 200 0x61, List.replicate 200 0x61]
      ((swInit restingRadio 0 ()).telematicSentCommand Env.bench (tbfpProc Env.bench 0) (fun s => (s == [0x31], 1)) 12
        [[0x31], List.replicate 200 0x61, List.replicate 200 0x61]) := by
  intro h
  have hinside := h.inside
  have hno : (0 : UInt8) ∉ List.replicate 200 0x61 := by decide +kernel
  have hnum : (fun s : List UInt8 => (s == [0x31], (1 : UInt8))) [0x31] = (true, Interfaces.sx1262.number) := rfl
  have hlong : ¬(sentText (List.replicate 200 0x61) [List.replicate 200 0x61]).length < sizeofTxArray := by
    decide +kernel
  have hnos : ∀ u ∈ [List.replicate 200 (0x61 : UInt8)], 0 ∉ u := by
    intro u hu
    rwa [List.mem_singleton.1 hu]
  rw [telematicSentCommand_spec hnum hno hnos (by decide) (by decide), if_neg hlong] at hinside
  exact absurd hinside (by decide)

end TiMcu.Tbfp
