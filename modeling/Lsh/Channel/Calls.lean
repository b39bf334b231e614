
import Lsh.Channel.EndpointSteps

/-!
# Calls for one channel

Most of what a program does in a callback concerns one channel. `SshChannel.after` says what a call
does to the object of its channel, as far as the object stays in the table; the objects of other
channels are left alone. A program can then be written as a function of its channel object: `Turn x`
has the calls that have been made from the object `x`, and so the object after them.

## Main results

* `run_perform_owns` — the calls of a program change its own channel only
-/

namespace Lsh.Channel

open Machine Table List

variable {κ : Type} {c d e : SshConnection κ} {x y z : SshChannel κ} {i : ℕ}

/-- Nothing becomes of a channel that is not there. -/
theorem perform_of_none (h : TableInv c) (hx : channelAt c i = none) (call : Call κ) :
    Ensures ChannelError.Misuse (fun d => d = c) (perform c (call.op i)) := by
  by_cases hal : c.alive
  · exact (perform_performs h hal i call).mono fun d hd => hd.gone hx
  · rw [perform, if_neg hal]
    rfl

theorem run_perform_of_none (h : TableInv c) (hx : channelAt c i = none) (calls : List (Call κ)) :
    Ensures ChannelError.Misuse (fun d => d = c) (run perform c (calls.map (Call.op i))) := by
  induction calls with
  | nil => rfl
  | cons call calls ih =>
    rw [map_cons]
    have hfst := perform_of_none h hx call
    cases hrun : perform c (call.op i) with
    | error e =>
      rw [hrun] at hfst
      rw [run_cons_error hrun]
      exact hfst
    | ok d =>
      rw [hrun] at hfst
      obtain rfl : d = c := hfst
      rw [run_cons_ok hrun]
      exact ih

/-- **Calls for one channel** one after the other. -/
theorem run_perform_owns (h : TableInv c) (hal : c.alive) (hx : channelAt c i = some x)
    (calls : List (Call κ)) :
    Ensures ChannelError.Misuse (fun d => Owns c d i (calls.foldl SshChannel.after x))
      (run perform c (calls.map (Call.op i))) := by
  induction calls generalizing c x with
  | nil => exact Owns.refl hx
  | cons call calls ih =>
    rw [map_cons]
    have hfst := (perform_performs h hal i call).mono fun d hd =>
      And.intro (hd.owns x hx) (h.steps hd.steps)
    cases hrun : perform c (call.op i) with
    | error e =>
      rw [hrun] at hfst
      rw [run_cons_error hrun]
      exact hfst
    | ok d =>
      rw [hrun] at hfst
      obtain ⟨how, htab⟩ : Owns c d i (x.after call) ∧ TableInv d := hfst
      rw [run_cons_ok hrun]
      rcases how.own with hno | ⟨hy, hal'⟩
      · refine (run_perform_of_none htab hno calls).mono fun e he => ?_
        rw [he]
        exact ⟨how.others, .inl hno⟩
      · refine (ih htab (hal'.trans hal) hy).mono fun e he => ?_
        exact how.trans (fun _ _ => he) fun hno => by rw [hy] at hno; cases hno

/-- Each call is allowed for the object as it is then. -/
def Obeys (T : SshChannel κ → Call κ → Prop) : SshChannel κ → List (Call κ) → Prop
  | _, [] => True
  | x, call :: calls => T x call ∧ Obeys T (x.after call) calls

variable {T : SshChannel κ → Call κ → Prop}

theorem obeys_append_singleton {calls : List (Call κ)} {call : Call κ} :
    Obeys T x (calls ++ [call]) ↔ Obeys T x calls ∧ T (calls.foldl SshChannel.after x) call := by
  induction calls generalizing x with
  | nil => simp [Obeys]
  | cons first calls ih => simp [Obeys, ih, and_assoc]

/-! ### Programs for one channel -/

/-- The fields of the program in an object. -/
def SshChannel.fields (x : SshChannel κ) : Update κ where
  requestTypes := x.requestTypes
  requestFallback := x.requestFallback
  noWaitForEof := x.flags.noWaitForEof
  sources := x.sources
  sinks := x.sinks
  receive := x.receive
  sendAdjust := x.sendAdjust
  app := x.app

/-- A program in a callback for the channel with the object `x`: the calls that it has made. -/
structure Turn (x : SshChannel κ) where
  calls : List (Call κ)

namespace Turn

/-- The object after the calls. -/
def channel (t : Turn x) : SshChannel κ := t.calls.foldl SshChannel.after x

/-- A call. -/
def call (t : Turn x) (call : Call κ) : Turn x := ⟨t.calls ++ [call]⟩

/-- The program sets its fields. -/
def set (t : Turn x) (f : Update κ → Update κ) : Turn x := t.call (.update (f t.channel.fields))

@[simp] theorem channel_call (t : Turn x) (call) :
    (t.call call).channel = t.channel.after call := by
  rw [channel, Turn.call, foldl_append]
  rfl

@[simp] theorem channel_set (t : Turn x) (f) :
    (t.set f).channel = (f t.channel.fields).apply t.channel := t.channel_call _

/-- Each call has been allowed. -/
structure Obeys (T : SshChannel κ → Call κ → Prop) (t : Turn x) : Prop where
  calls : Channel.Obeys T x t.calls

theorem obeys_nil (T) : (⟨[]⟩ : Turn x).Obeys T := ⟨trivial⟩

@[simp] theorem obeys_call (t : Turn x) (call) :
    (t.call call).Obeys T ↔ t.Obeys T ∧ T t.channel call := by
  constructor
  · intro h
    obtain ⟨hcas, hcall⟩ := obeys_append_singleton.mp h.calls
    exact ⟨⟨hcas⟩, hcall⟩
  · rintro ⟨h, hcall⟩
    exact ⟨obeys_append_singleton.mpr ⟨h.calls, hcall⟩⟩

end Turn

/-- The property holds of the object when the callback returns. -/
abbrev Leaves {ε : Type} (I : SshChannel κ → Prop) (f : Except ε (Turn x)) : Prop :=
  Returns (fun u : Turn x => I u.channel) f

/-- Each call has been allowed when the callback returns. -/
abbrev CallsOnly {ε : Type} (T : SshChannel κ → Call κ → Prop) (f : Except ε (Turn x)) : Prop :=
  Returns (fun u : Turn x => u.Obeys T) f

/-! ### The data of the program

A program is written for the data of its own kind of channel. A connection has channels of several
kinds, and its data is a sum of theirs. -/

variable {κ' : Type}

/-- The object with the data mapped. -/
def SshChannel.map (g : κ → κ') (x : SshChannel κ) : SshChannel κ' where
  serial := x.serial
  alive := x.alive
  localChannelNumber := x.localChannelNumber
  remoteChannelNumber := x.remoteChannelNumber
  recWindowSize := x.recWindowSize
  recMaxPacket := x.recMaxPacket
  sendWindowSize := x.sendWindowSize
  sendMaxPacket := x.sendMaxPacket
  requestTypes := x.requestTypes
  requestFallback := x.requestFallback
  flags := x.flags
  sources := x.sources
  sinks := x.sinks
  receive := x.receive
  sendAdjust := x.sendAdjust
  pendingRequests := x.pendingRequests
  closesConnection := x.closesConnection
  app := g x.app

/-- The call with the data mapped. -/
def Call.map (g : κ → κ') : Call κ → Call κ'
  | adjustRecWindow written => .adjustRecWindow written
  | startReceive initialWindowSize => .startReceive initialWindowSize
  | transmitData data => .transmitData data
  | transmitExtended type data => .transmitExtended type data
  | eof => .eof
  | close => .close
  | maybeClose => .maybeClose
  | sendRequest type wantReply args => .sendRequest type wantReply args
  | requestReply wantReply result => .requestReply wantReply result
  | update u => .update { u with app := g u.app }
  | kill => .kill

namespace SshChannel

@[simp] theorem map_afterClose (g : κ → κ') (x : SshChannel κ) :
    (x.map g).afterClose = x.afterClose.map g := by
  show (if x.flags.sentClose = true then _ else _) = _
  rw [afterClose]
  split_ifs <;> rfl

@[simp] theorem map_afterMaybeClose (g : κ → κ') (x : SshChannel κ) :
    (x.map g).afterMaybeClose = x.afterMaybeClose.map g := by
  show (if ¬x.flags.sentClose ∧ x.flags.sentEof ∧ (x.flags.noWaitForEof ∨
    (x.flags.receivedEof ∧ x.sinks = 0)) then (x.map g).afterClose else x.map g) = _
  rw [afterMaybeClose]
  split_ifs
  · exact map_afterClose g x
  · rfl

@[simp] theorem map_afterEof (g : κ → κ') (x : SshChannel κ) :
    (x.map g).afterEof = x.afterEof.map g := by
  show (if x.flags.sentEof ∨ x.flags.sentClose ∨ x.flags.receivedClose = true then
    x.map g else ((ChannelAction.effect .sendEof x).map g).afterMaybeClose) = _
  rw [afterEof]
  split_ifs
  · rfl
  · exact map_afterMaybeClose g _

/-- Calls do not look at the data. -/
theorem map_after (g : κ → κ') (x : SshChannel κ) (call : Call κ) :
    (x.map g).after (call.map g) = (x.after call).map g := by
  cases call with
  | adjustRecWindow written =>
    show (if written ≠ 0 ∧ ¬(x.flags.receivedEof ∨ x.flags.receivedClose ∨
      x.flags.sentClose) then _ else _) = _
    rw [after]
    split_ifs <;> rfl
  | startReceive w =>
    show (if x.recWindowSize < w then _ else _) = _
    rw [after]
    split_ifs <;> rfl
  | eof => exact map_afterEof g x
  | close => exact map_afterClose g x
  | maybeClose => exact map_afterMaybeClose g x
  | sendRequest type want args =>
    show (if x.flags.sentClose = true then _ else _) = _
    rw [after]
    cases want <;> split_ifs <;> rfl
  | _ => rfl

theorem map_foldl_after (g : κ → κ') (x : SshChannel κ) (calls : List (Call κ)) :
    (calls.map (Call.map g)).foldl after (x.map g) = (calls.foldl after x).map g := by
  induction calls generalizing x with
  | nil => rfl
  | cons call calls ih =>
    rw [map_cons, foldl_cons, map_after]
    exact ih _

end SshChannel

/-! ### After the call -/

/-- From `c` to `d`, channels may have been closed, and nothing else has happened to them. -/
def ClosesOnly (c d : SshConnection κ) : Prop :=
  ∀ j y, channelAt d j = some y → ∃ x, channelAt c j = some x ∧ Closes x y

theorem ClosesOnly.refl (c : SshConnection κ) : ClosesOnly c c :=
  fun _ y hy => ⟨y, hy, Closes.refl y⟩

theorem Owns.closesOnly (h : Owns c d i y) (hx : channelAt c i = some x) (hcls : Closes x y) :
    ClosesOnly c d := by
  intro j z hz
  by_cases hj : j = i
  · subst hj
    rcases h.own with hno | ⟨hsome, _⟩
    · rw [hno] at hz
      cases hz
    · rw [hsome] at hz
      cases hz
      exact ⟨x, hx, hcls⟩
  · rw [h.others j hj] at hz
    exact ⟨z, hz, Closes.refl z⟩

/-- **The rest of a handler** only closes channels. -/
theorem finishPacket_closes (h : TableInv c) (after : After) :
    Returns (ClosesOnly c) (finishPacket c after) := by
  rw [finishPacket]
  split_ifs
  · cases after with
    | done => exact ClosesOnly.refl c
    | maybeClose i ser =>
      rw [finishAfter]
      split_ifs with hcur
      · rw [isCurrent, Option.any_eq_true] at hcur
        obtain ⟨x, hx, _⟩ := hcur
        exact (channelMaybeClose_performs h i).imp (fun _ _ => trivial) fun d hd =>
          (hd.owns x hx).closesOnly hx x.closes_afterMaybeClose
      · exact ClosesOnly.refl c
    | close i ser =>
      rw [finishAfter]
      split_ifs with hcur
      · rw [isCurrent, Option.any_eq_true] at hcur
        obtain ⟨x, hx, _⟩ := hcur
        rw [finishClose, hx]
        dsimp only
        split_ifs
        · exact (channelFinished_owns h hx).of_total.mono fun d hd =>
            hd.closesOnly hx (Closes.refl x)
        · exact (channelClose_performs h i).imp (fun _ _ => trivial) fun d hd =>
            (hd.owns x hx).closesOnly hx x.closes_afterClose
      · exact ClosesOnly.refl c
    | finish i ser =>
      rw [finishAfter]
      split_ifs with hcur
      · rw [isCurrent, Option.any_eq_true] at hcur
        obtain ⟨x, hx, _⟩ := hcur
        exact (channelFinished_owns h hx).of_total.mono fun d hd =>
          hd.closesOnly hx (Closes.refl x)
      · exact ClosesOnly.refl c
  · exact ClosesOnly.refl c

end Lsh.Channel
