/-
What the controller gets to see, and in which order.

`sentWatch` reads the commands off the buffers that were handed to `write(2)`, as the
controller decodes them: an entry of its log says that a buffer was passed to the call, and
not that the call took it.  `Always` says of a command, and of a flow of commands, what
these entries are, whatever comes back and whenever it does.

It is what `Request` says of a command with the answers left out.
-/
import Gxfp.Cmd.Exchange

namespace Gxfp

open Bytes Trace

/-! ### What is sent -/

/-- The buffers that were handed to `write(2)`. -/
def buffers : List Wire → List (List UInt8) :=
  List.filterMap fun
    | .wrote tx => some tx
    | .polled _ | .got _ => none

/-- The commands in them. -/
def sends (w : List Wire) : List (Option SentMsg) := (buffers w).map readMsg

@[simp] theorem sends_append (u v : List Wire) : sends (u ++ v) = sends u ++ sends v := by
  rw [sends, buffers, List.filterMap_append, List.map_append]
  rfl

theorem Listens.sends_eq {w : List Wire} (h : Listens w) : sends w = [] := by
  have hnone : buffers w = [] := by
    refine List.filterMap_eq_nil_iff.mpr fun e he => ?_
    cases e with
    | wrote tx => exact absurd rfl (h.reads _ he tx)
    | polled out => rfl
    | got out => rfl
  rw [sends, hnone]
  rfl

theorem Writes.sends_eq {msg : Option SentMsg} {w : List Wire} (h : Writes msg w) :
    sends w = [msg] := by
  obtain ⟨tx, rfl, rfl⟩ := h
  rfl

/-- Answered or not, an attempt sends its message. -/
theorem sends_attempt {msg : Option SentMsg} {w : List Wire} (h : Then (Writes msg) Listens w) :
    sends w = [msg] := by
  obtain ⟨u, v, rfl, hu, hv⟩ := h
  rw [sends_append, hu.sends_eq, hv.sends_eq]
  rfl

/-- Attempts that are not answered send the message each time. -/
theorem sends_unheard {msg : Option SentMsg} {A : List UInt8 → Prop} {k : Nat} {w : List Wire}
    (h : Times (Unheard msg A) k w) : sends w = List.replicate k msg := by
  induction k generalizing w with
  | zero =>
      cases h
      rfl
  | succ k ih =>
      obtain ⟨u, v, rfl, hu, hv⟩ := h
      rw [sends_append, sends_attempt hu.listens, ih hv, List.replicate_succ]
      rfl

/-- The one that is answered sends it once more. -/
theorem sends_heard {msg : Option SentMsg} {A : List UInt8 → Prop} {rx : List UInt8} {k : Nat}
    {w : List Wire} (h : Then (Times (Unheard msg A) k) (Heard msg A rx) w) :
    sends w = List.replicate (k + 1) msg := by
  obtain ⟨u, v, rfl, hu, hv⟩ := h
  rw [sends_append, sends_unheard hu, sends_attempt hv.listens, List.replicate_succ']

/-- **A request sends its message at least once, and at most as often as it may.** -/
theorem Request.runs {α : Type} {msg : Option SentMsg} {expectCmd : UInt8} {tries : Nat}
    {g : List UInt8 → Except Errno α} {r : Except Errno α} {w : List Wire}
    (h : Request msg expectCmd tries g r w) : Runs [(msg, tries)] (sends w) := by
  rcases h with ⟨e, k, -, hone, hle, htimes⟩ | ⟨rx, k, -, hlt, hthen⟩
  · rw [sends_unheard htimes]
    exact Runs.single hone hle
  · rw [sends_heard hthen]
    exact Runs.single (Nat.succ_le_succ (Nat.zero_le k)) hlt

/-! ### The log of what is sent -/

/-- The ledger that keeps the buffers alone. -/
def bufferLedger (σ : Type) : Ledger (σ × List (List UInt8)) Wire where
  adds s w s' := s'.2 = s.2 ++ buffers w
  adds_nil _ := (List.append_nil _).symm
  adds_append {_ _ _ u v} h h' := by
    rw [h', h, List.append_assoc, buffers, ← List.filterMap_append]

/-- An open device, and the commands that have been handed to `write(2)`. -/
def sentWatch (σ : Type) : Watch (Dev × (σ × List (List UInt8))) (Option SentMsg) where
  adds st w st' := st'.2.2.map readMsg = st.2.2.map readMsg ++ w
  adds_nil _ := (List.append_nil _).symm
  adds_append h h' := by rw [h', h, List.append_assoc]
  inv st := st.1.Opened

section Sent

variable {σ : Type} {sys : Sys σ} {fuel : Nat}

theorem Sys.logged_kept (sys : Sys σ) : sys.logged.Kept (bufferLedger σ) where
  poll _ _ := (List.append_nil _).symm
  read _ := (List.append_nil _).symm
  write _ _ := rfl
  flushRx _ := (List.append_nil _).symm
  clock _ := (List.append_nil _).symm

/-- **What passes is sent as it is decoded.** -/
theorem always_of_emits {α : Type} {p : CmdProg (σ × List (List UInt8)) α}
    {P : Except Errno α → List Wire → Prop} {stages : List (Option SentMsg × Nat)}
    (hp : Emits (devWatch (bufferLedger σ)) p P) (hruns : ∀ r w, P r w → Runs stages (sends w)) :
    Always (sentWatch σ) p stages := by
  refine (hp.coarsen (V := sentWatch σ) sends (fun _ => Iff.rfl) ?_).mono ?_
  · intro st w st' hadds
    show List.map readMsg st'.2.2 = _
    rw [show st'.2.2 = st.2.2 ++ buffers w from hadds, List.map_append]
    rfl
  · rintro r _ ⟨w, rfl, hw⟩
    exact hruns r w hw

theorem always_flushRxq : Always (sentWatch σ) (flushRxq sys.logged) [] :=
  always_of_emits (emits_flushRxq sys.logged_kept) fun _ _ hw => congrArg sends hw

/-- A frame that is sent as it is: it goes out once. -/
theorem always_sendPacket (frame : GoodixFrame) (h : frame.payload.length ≤ cmdPayloadMax) :
    Always (sentWatch σ) (sendPacket sys.logged frame.bytes)
      [(some ⟨mpTypeCmd, frame.cmd, frame.payload, frame.parsed.protoChecksumOk⟩, 1)] :=
  always_of_emits (emits_sendPacket sys.logged_kept frame h) fun _ _ hw => by
    rw [hw.sends_eq]
    exact Runs.single (Nat.le_refl 1) (Nat.le_refl 1)

/-- The attempts of a request, with at least one of them made. -/
theorem logged_requestAttempts {reqCmd expectCmd : UInt8} {payload : List UInt8} {timeoutMs : Int}
    {fn : FrameSelector} (h : payload.length ≤ cmdPayloadMax) {n : Nat}
    {dev dev' : Dev} (hd : dev.Opened) {s s' : σ × List (List UInt8)}
    {r : Except Errno (List UInt8)}
    (hrun : requestAttempts sys.logged fuel reqCmd expectCmd payload mpFrameMax timeoutMs fn n dev
      s = some (r, dev', s')) :
    dev'.Opened ∧ ∃ k, k ≤ n ∧ (0 < n → 1 ≤ k) ∧
      s'.2.map readMsg = s.2.map readMsg ++ List.replicate k (command reqCmd payload) := by
  obtain ⟨hopened, w, hw, hattempts⟩ := requestAttempts_passes sys.logged_kept h hd hrun
  have hsent : s'.2.map readMsg = s.2.map readMsg ++ sends w := by
    rw [show s'.2 = s.2 ++ buffers w from hw, List.map_append]
    rfl
  rcases hattempts with ⟨e, k, -, hone, hle, htimes⟩ | ⟨rx, k, -, hlt, hthen⟩
  · exact ⟨hopened, k, hle, hone, by rw [hsent, sends_unheard htimes]⟩
  · exact ⟨hopened, k + 1, hlt, fun _ => Nat.succ_le_succ (Nat.zero_le k), by
      rw [hsent, sends_heard hthen]⟩

end Sent

end Gxfp
