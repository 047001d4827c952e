import BusMaster.Proofs.Address.Bytes
import BusMaster.Proofs.Wire.Effect
import BusMaster.Proofs.Wire.Population
import BusMaster.Proofs.Wire.Queue

/-!
# Selecting a device and talking to it

A device that was selected answers with the bytes queued for it, one in each slot
where all ones are sent. Nothing else on the wire answers, so all other bytes come
back as they were sent.

* `Driver.answers`: what is read back while a device answers;
* `Driver.Hearing`: what the driver will hear, kept by each byte and each call;
* `Driver.select_eq`: what selecting a device does;
* `Driver.Conversation`: calls of the driver, with answers queued in between, and
  all else that may happen on the wire;
* `Driver.select_then_talk`: what each call of a conversation is answered.
-/

namespace BusMaster

namespace Driver

variable {net : Network} {drv : Driver} {s s' : Network × Driver} {a b : Address}

/-! ## What is heard -/

/-- What is read back for the bytes sent while a device answers with `waiting`:
where all ones are sent for the `k`-th time the `k`-th of them, and all ones once
they are used up; elsewhere the byte sent. -/
def answers (waiting sent : List UInt8) : List UInt8 :=
  sent.mapIdx fun i byte =>
    if byte = 0xFF then waiting.getD ((sent.take i).count 0xFF) 0xFF else byte

/-- Where nothing answers all bytes come back. -/
theorem answers_nil (sent : List UInt8) : answers [] sent = sent := by
  refine List.mapIdx_eq_iff.mpr fun i => ?_
  cases hi : sent[i]? with
  | none => rfl
  | some byte =>
    by_cases hb : byte = 0xFF
    · simp [hb]
    · simp [hb]

theorem answers_cons (waiting : List UInt8) (byte : UInt8) (sent : List UInt8) :
    answers waiting (byte :: sent) =
      if byte = 0xFF then waiting.headD 0xFF :: answers waiting.tail sent
      else byte :: answers waiting sent := by
  rw [answers, List.mapIdx_cons]
  by_cases hb : byte = 0xFF
  · subst hb
    have hhead : waiting.getD 0 0xFF = waiting.headD 0xFF := by cases waiting <;> rfl
    have htail : ∀ k, waiting.getD (k + 1) 0xFF = waiting.tail.getD k 0xFF := by
      intro k
      cases waiting <;> rfl
    simp only [List.take_zero, List.count_nil, hhead, List.take_succ_cons, List.count_cons_self,
      htail, if_true]
    rfl
  · simp only [hb, if_false, List.take_succ_cons, List.count_cons_of_ne hb]
    rfl

/-- The device that the driver has selected, with the bytes it will answer with;
or no device, and then nothing answers. -/
inductive Hearing : Option Address → List UInt8 → Network × Driver → Prop where
  | device {a : Address} {waiting : List UInt8} {s : Network × Driver}
      (phase : s.2.phase = .selected a) (queued : s.1.queued a = some waiting) :
      Hearing (some a) waiting s
  | nobody {s : Network × Driver} (phase : s.2.phase = .idle) : Hearing none [] s

variable {device : Option Address} {waiting : List UInt8}

theorem Hearing.exchange (byte : UInt8) (h : Hearing device waiting s) :
    (exchange byte s).1 = (if byte = 0xFF then waiting.headD 0xFF else byte) ∧
      Hearing device (if byte = 0xFF then waiting.tail else waiting) (exchange byte s).2 := by
  obtain ⟨net, drv⟩ := s
  cases h with
  | @device a _ _ phase queued =>
    dsimp only at phase queued
    simp only [Driver.exchange, phase]
    split
    · rename_i hb
      obtain ⟨hreply, hrest⟩ := Network.takeResponse_of_queued queued
      refine ⟨?_, .device phase hrest⟩
      simp only [hreply, hb]
      cases waiting <;> rfl
    · exact ⟨rfl, .device phase queued⟩
  | nobody phase =>
    dsimp only at phase
    simp only [Driver.exchange, phase]
    split
    · rename_i hb
      exact ⟨hb, .nobody phase⟩
    · exact ⟨rfl, .nobody phase⟩

/-- The bytes of a block, by induction on them. -/
theorem Hearing.exchangeAll (sent : List UInt8) (h : Hearing device waiting s) :
    (exchangeAll sent s).1 = answers waiting sent ∧
      Hearing device (waiting.drop (sent.count 0xFF)) (exchangeAll sent s).2 := by
  induction sent generalizing s waiting with
  | nil => exact ⟨rfl, h⟩
  | cons byte sent ih =>
    obtain ⟨hreply, hnext⟩ := h.exchange byte
    obtain ⟨hreplies, hrest⟩ := ih hnext
    rw [answers_cons]
    by_cases hb : byte = 0xFF
    · simp only [hb, if_true] at hreply hreplies hrest ⊢
      refine ⟨congrArg₂ List.cons hreply hreplies, ?_⟩
      rw [List.count_cons_self, ← List.drop_tail]
      exact hrest
    · simp only [hb, if_false] at hreply hreplies hrest ⊢
      refine ⟨congrArg₂ List.cons hreply hreplies, ?_⟩
      rw [List.count_cons_of_ne hb]
      exact hrest

/-! ## Calls -/

/-- The calls that send bytes and read back as many. -/
inductive Talk where
  | read
  | write (byte : UInt8)
  | transfer (block : List UInt8)
deriving DecidableEq, Repr

/-- The bytes that go over the wire. -/
def Talk.sent : Talk → List UInt8
  | read => [0xFF]
  | write byte => [byte]
  | transfer block => block

/-- What the caller is told of the bytes read back: nothing of a byte written. -/
def Talk.told (replies : List UInt8) : Talk → List UInt8
  | write _ => []
  | read | transfer _ => replies

/-- The call of a driver, and what it is answered as a list of bytes. -/
def Talk.perform (s : Network × Driver) : Talk → Except BusError (List UInt8) × Network × Driver
  | read => ((Driver.perform .readByte s).1.map ([·]), (Driver.perform .readByte s).2)
  | write byte =>
    ((Driver.perform (.writeByte byte) s).1.map fun _ => [], (Driver.perform (.writeByte byte) s).2)
  | transfer block => Driver.perform (.transfer block) s

theorem Hearing.fire (unit : PowerCondition) (h : Hearing device waiting s) :
    Hearing device waiting (fire unit s) := by
  cases h with
  | device phase queued => exact .device (by simp [phase]) (by simp [queued])
  | nobody phase => exact .nobody (by simp [phase])

/-- Traffic makes no difference. -/
theorem Hearing.log (event : BusEvent) (h : Hearing device waiting (net, drv)) :
    Hearing device waiting (net.log event, drv) := by
  cases h with
  | device phase queued => exact .device phase queued
  | nobody phase => exact .nobody phase

/-- A call hears what waits, and the rest goes on waiting. -/
theorem Hearing.call (talk : Talk) (attached : s.2.selected.isSome = true)
    (h : Hearing device waiting s) :
    (talk.perform s).1 = .ok (talk.told (answers waiting talk.sent)) ∧
      Hearing device (waiting.drop (talk.sent.count 0xFF)) (talk.perform s).2 := by
  obtain ⟨net, drv⟩ := s
  cases talk with
  | read =>
    obtain ⟨hreplies, hrest⟩ := h.exchangeAll [0xFF]
    simp only [Talk.perform, perform_attached attached, performAttached, Talk.told, Talk.sent]
    rw [← hreplies]
    exact ⟨rfl, (hrest.log _).fire _⟩
  | write byte =>
    obtain ⟨-, hrest⟩ := (h.log (.writeByte byte)).exchangeAll [byte]
    simp only [Talk.perform, perform_attached attached, performAttached, Talk.told, Talk.sent]
    exact ⟨rfl, hrest.fire _⟩
  | transfer block =>
    obtain ⟨hreplies, hrest⟩ := (h.log (.block block)).exchangeAll block
    simp only [Talk.perform, perform_attached attached, performAttached_transfer attached, Talk.told,
      Talk.sent]
    rw [← hreplies]
    exact ⟨rfl, hrest⟩

theorem Talk.frame (talk : Talk) (s : Network × Driver) : Frame false s (talk.perform s).2 := by
  cases talk with
  | read => exact perform_frame .readByte s
  | write byte => exact perform_frame (.writeByte byte) s
  | transfer block => exact perform_frame (.transfer block) s

/-! ## Selecting -/

/-- The address bytes that are still to come, after a select command. -/
theorem exchangeAll_address (net : Network) (drv : Driver) :
    ∀ rest received : List UInt8, rest ≠ [] → received.length + rest.length = 8 →
      exchangeAll rest (net, { drv with phase := .matchRom received }) =
        (rest, net, { drv with
          phase := if net.isAttached (.ofBytes (received ++ rest)) then
            .selected (.ofBytes (received ++ rest)) else .idle })
  | [], _, hne, _ => absurd rfl hne
  | [byte], received, _, hl => by
    have h8 : ¬ (received ++ [byte]).length < 8 := by simp at hl ⊢; omega
    simp only [exchangeAll, exchange, if_neg h8]
  | byte :: next :: rest, received, _, hl => by
    have h8 : (received ++ [byte]).length < 8 := by simp at hl ⊢; omega
    have ih := exchangeAll_address net drv (next :: rest) (received ++ [byte]) (by simp)
      (by simp at hl ⊢; omega)
    rw [List.append_assoc, List.singleton_append] at ih
    rw [exchangeAll, exchange]
    simp only [if_pos h8, ih]

/-- The command and the address select the device with that address if it is on
the wire. -/
theorem transfer_select (a : Address) (attached : drv.selected.isSome = true)
    (h : drv.phase = .awaitCommand) :
    transport.perform (.transfer (matchRom :: a.bytes)) (net, drv) =
      (.ok (matchRom :: a.bytes), net.log (.block (matchRom :: a.bytes)),
        { drv with phase := if net.isAttached a then .selected a else .idle }) := by
  have haddress := exchangeAll_address (net.log (.block (matchRom :: a.bytes))) drv a.bytes []
    (by simp [Address.bytes]) a.length_bytes
  rw [List.nil_append, Address.ofBytes_bytes] at haddress
  show perform (.transfer (matchRom :: a.bytes)) (net, drv) = _
  rw [perform_attached attached, performAttached_transfer attached, exchangeAll, exchange]
  simp only [h, if_true, haddress]
  rfl

/-- A select is a reset, and if that shows presence the command with the
address. -/
theorem select_eq (a : Address) (attached : s.2.selected.isSome = true) :
    Search.select transport a s =
      if s.1.resetResult.isPresent then
        (.ok true, (s.1.log (.reset s.1.resetResult)).log (.block (matchRom :: a.bytes)),
          { s.2 with phase := if s.1.isAttached a then .selected a else .idle })
      else (.ok false, s.1.log (.reset s.1.resetResult), { s.2 with phase := .idle }) := by
  obtain ⟨net, drv⟩ := s
  have hreset : transport.perform .reset (net, drv) = (.ok net.resetResult,
      net.log (.reset net.resetResult),
      { drv with phase := if net.resetResult.isPresent then .awaitCommand else .idle }) :=
    perform_attached attached .reset
  have hsend : transport.perform (.transfer (matchRom :: a.bytes))
      (net.log (.reset net.resetResult), { drv with phase := .awaitCommand }) = _ :=
    transfer_select a attached rfl
  rw [Search.select, hreset]
  cases hp : net.resetResult.isPresent with
  | false => simp [hp]
  | true =>
    simp only [hp, if_true, hsend]
    rfl

/-! ## Conversations -/

theorem Hearing.phase_ne (h : Hearing device waiting s) (hb : device ≠ some b) :
    s.2.phase ≠ .selected b := by
  cases h with
  | device phase queued =>
    rw [phase]
    rintro ⟨⟩
    exact hb rfl
  | nobody phase =>
    rw [phase]
    exact nofun

/-- A call takes nothing from the devices that are not selected. -/
theorem Hearing.call_queued (talk : Talk) (attached : s.2.selected.isSome = true)
    (h : Hearing device waiting s) (hb : device ≠ some b) :
    (talk.perform s).2.1.queued b = s.1.queued b := by
  have before := h.phase_ne hb
  have after := (h.call talk attached).2.phase_ne hb
  cases talk with
  | read => exact perform_queued .readByte before after
  | write byte => exact perform_queued (.writeByte byte) before after
  | transfer block => exact perform_queued (.transfer block) before after

/-- A call of the driver, or bytes queued for a device. -/
inductive Turn where
  | call (talk : Talk)
  | queue (b : Address) (bytes : List UInt8)
deriving DecidableEq, Repr

/-- What a driver and its wire come to by some turns, the latest one last. At any
time anything else may happen on the wire, as long as the device `a` is not taken
off and nobody else takes what is queued for it. A driver that addresses another
device takes nothing of that (`perform_queued`). -/
inductive Conversation (a : Address) (s₀ : Network × Driver) :
    List Turn → Network × Driver → Prop where
  | start : Conversation a s₀ [] s₀
  | call {turns : List Turn} {s : Network × Driver} (talk : Talk)
      (before : Conversation a s₀ turns s) :
      Conversation a s₀ (turns ++ [.call talk]) (talk.perform s).2
  | queue {turns : List Turn} {s : Network × Driver} (b : Address) (bytes : List UInt8)
      (before : Conversation a s₀ turns s) :
      Conversation a s₀ (turns ++ [.queue b bytes]) ((s.1.queueResponse b bytes).2, s.2)
  | elsewhere {turns : List Turn} {s : Network × Driver} (net : Network)
      (kept : ∀ waiting, s.1.queued a = some waiting → net.queued a = some waiting)
      (before : Conversation a s₀ turns s) : Conversation a s₀ turns (net, s.2)

/-- What a device answered with, in order, and what it has still to answer
with. -/
structure Ledger where
  handed : List UInt8 := []
  waiting : List UInt8
deriving DecidableEq, Repr

/-- Each slot where all ones are sent moves one byte from those that wait to those
handed over, as long as there are any; what is queued goes behind them. -/
def Ledger.turn (a : Address) (l : Ledger) : Turn → Ledger
  | .call talk =>
    let slots := talk.sent.count 0xFF
    ⟨l.handed ++ l.waiting.take slots, l.waiting.drop slots⟩
  | .queue b bytes => if b = a then { l with waiting := l.waiting ++ bytes } else l

/-- What was queued for the device, in order. -/
def queuedFor (a : Address) (turns : List Turn) : List UInt8 :=
  turns.flatMap fun
    | .call _ => []
    | .queue b bytes => if b = a then bytes else []

/-- Nothing is lost or repeated, and the order stays. -/
theorem Ledger.balance (a : Address) (turns : List Turn) (l : Ledger) :
    (turns.foldl (turn a) l).handed ++ (turns.foldl (turn a) l).waiting =
      l.handed ++ l.waiting ++ queuedFor a turns := by
  induction turns generalizing l with
  | nil => simp [queuedFor]
  | cons first turns ih =>
    rw [List.foldl_cons, ih, queuedFor, queuedFor, List.flatMap_cons]
    cases first with
    | call talk => simp [turn]
    | queue b bytes =>
      by_cases hb : b = a
      · simp [turn, hb]
      · simp [turn, hb]

namespace Conversation

variable {s₀ : Network × Driver} {turns : List Turn}

theorem attached (h : Conversation a s₀ turns s) (h₀ : s₀.2.selected.isSome = true) :
    s.2.selected.isSome = true := by
  induction h with
  | start => exact h₀
  | call talk before ih => exact ((talk.frame _).selected rfl).symm ▸ ih
  | queue b bytes before ih => exact ih
  | elsewhere net kept before ih => exact ih

/-- What the device has still to answer with, from what it had at the start. By
induction on the conversation. -/
theorem listens (h : Conversation a s₀ turns s) (h₀ : s₀.2.selected.isSome = true)
    (start : Hearing (some a) waiting s₀) :
    Hearing (some a) (turns.foldl (Ledger.turn a) { waiting }).waiting s := by
  induction h with
  | start => exact start
  | call talk before ih =>
    rw [List.foldl_append]
    exact (ih.call talk (before.attached h₀)).2
  | queue b bytes before ih =>
    rw [List.foldl_append]
    cases ih with
    | device phase queued =>
      refine .device phase ?_
      rw [Network.queued_queueResponse, queued]
      by_cases hb : b = a
      · simp [Ledger.turn, hb]
      · simp [Ledger.turn, hb, Ne.symm hb]
  | elsewhere net kept before ih =>
    cases ih with
    | device phase queued => exact .device phase (kept _ queued)

/-- A driver with nothing selected stays like that. -/
theorem silent (h : Conversation a s₀ turns s) (h₀ : s₀.2.selected.isSome = true)
    (start : Hearing none [] s₀) : Hearing none [] s := by
  induction h with
  | start => exact start
  | call talk before ih =>
    have hnext := (ih.call talk (before.attached h₀)).2
    rwa [List.drop_nil] at hnext
  | queue b bytes before ih =>
    cases ih with
    | nobody phase => exact .nobody phase
  | elsewhere net kept before ih =>
    cases ih with
    | nobody phase => exact .nobody phase

/-- Then every byte of a call comes back, and no device loses anything. -/
theorem unanswered (h : Conversation a s₀ turns s) (h₀ : s₀.2.selected.isSome = true)
    (start : Hearing none [] s₀) (talk : Talk) :
    (talk.perform s).1 = .ok (talk.told talk.sent) ∧
      ∀ b, (talk.perform s).2.1.queued b = s.1.queued b := by
  have hears := h.silent h₀ start
  have hcall := (hears.call talk (h.attached h₀)).1
  rw [answers_nil] at hcall
  exact ⟨hcall, fun b => hears.call_queued talk (h.attached h₀) nofun⟩

end Conversation

/-- Selecting a device shows whether any is there and logs no more than it sends.
If a device was there and the one selected is on the wire, each call after it is
answered with what was queued for that device by then and not handed over before,
in order, and with all ones once that is used up. Otherwise all bytes come back.
No call takes anything from the other devices. -/
theorem select_then_talk (s : Network × Driver) (a : Address)
    (attached : s.2.selected.isSome = true) :
    ∃ shown s', Search.select transport a s = (.ok shown, s') ∧
      (s.1.short = true ∨ s.1.devices = [] →
        shown = false ∧ s'.1.traffic = s.1.traffic ++ [.reset s.1.resetResult]) ∧
      (¬ (s.1.short = true ∨ s.1.devices = []) →
        shown = true ∧ s'.1.traffic = s.1.traffic ++
          [.reset s.1.resetResult, .block (matchRom :: a.bytes)]) ∧
      (∀ b, s'.1.queued b = s.1.queued b) ∧
      (shown = true ∧ s.1.isAttached a = true →
        ∃ queued, s.1.queued a = some queued ∧
          ∀ turns later, Conversation a s' turns later →
            let ledger := turns.foldl (Ledger.turn a) { waiting := queued }
            ledger.handed ++ ledger.waiting = queued ++ queuedFor a turns ∧
              later.1.queued a = some ledger.waiting ∧
              ∀ talk : Talk,
                (talk.perform later).1 = .ok (talk.told (answers ledger.waiting talk.sent)) ∧
                ∀ b, b ≠ a → (talk.perform later).2.1.queued b = later.1.queued b) ∧
      (¬ (shown = true ∧ s.1.isAttached a = true) →
        ∀ turns later, Conversation a s' turns later → ∀ talk : Talk,
          (talk.perform later).1 = .ok (talk.told talk.sent) ∧
          ∀ b, (talk.perform later).2.1.queued b = later.1.queued b) := by
  have hpresent : s.1.resetResult.isPresent = true ↔
      ¬ (s.1.short = true ∨ s.1.devices = []) := by
    rw [s.1.isPresent_resetResult]
    simp
  rw [select_eq a attached]
  split
  · rename_i present
    have hsilent := hpresent.mp present
    refine ⟨true, _, rfl, fun h => absurd h hsilent, fun _ => ⟨rfl, ?_⟩, fun _ => rfl, ?_, ?_⟩
    · exact List.append_assoc ..
    · rintro ⟨-, ha⟩
      obtain ⟨queued, hq⟩ := Option.isSome_iff_exists.mp ((s.1.isSome_queued a).trans ha)
      refine ⟨queued, hq, fun turns later hc => ⟨Ledger.balance a turns _, ?_⟩⟩
      have hears := hc.listens attached (.device (by simp [ha]) hq)
      refine ⟨?_, fun talk => ⟨(hears.call talk (hc.attached attached)).1, fun b hb => ?_⟩⟩
      · cases hears with
        | device phase queued => exact queued
      · exact hears.call_queued talk (hc.attached attached) (by simpa using Ne.symm hb)
    · intro ha turns later hc
      exact hc.unanswered attached (.nobody (by simpa using ha))
  · rename_i absent
    have hsilent : s.1.short = true ∨ s.1.devices = [] := not_not.mp (mt hpresent.mpr absent)
    refine ⟨false, _, rfl, fun _ => ⟨rfl, rfl⟩, fun h => absurd hsilent h, fun _ => rfl, nofun, ?_⟩
    intro _ turns later hc
    exact hc.unanswered attached (.nobody rfl)

/-- Three answers for one device, the last one queued after the first was read and
while another driver reads from another device: the block then sent has a slot
more than there are answers left. -/
theorem select_then_talk_of_pair :
    let a := Address.ofBytes [0x28, 1, 0, 0, 0, 0, 0, 0]
    let b := Address.ofBytes [0x28, 2, 0, 0, 0, 0, 0, 0]
    let wire := (((Network.populated [a, b] []).queueResponse a [1, 2]).2.queueResponse b [9]).2
    let s := (Search.select transport a (wire, { selected := some "sim0" })).2
    ∃ later, Conversation a s [.call .read, .queue a [3]] later ∧
      later.1.queued a = some [2, 3] ∧ later.1.queued b = some [] ∧
      (Talk.perform later (.transfer [0xFF, 0x10, 0xFF, 0xFF])).1 = .ok [2, 0x10, 3, 0xFF] := by
  intro a b wire s
  obtain ⟨shown, s', he, -, hlogged, -, htalk, -⟩ :=
    select_then_talk (wire, { selected := some "sim0" }) a rfl
  obtain rfl : s = s' := congrArg (·.2) he
  have hshown : shown = true := (hlogged (by decide +kernel)).1
  obtain ⟨queued, hq, hturns⟩ := htalk ⟨hshown, by decide +kernel⟩
  have hwire : wire.queued a = some [1, 2] := by decide +kernel
  obtain rfl : queued = [1, 2] := Option.some.inj (hq.symm.trans hwire)
  have hstart : Conversation a s [] s := .start
  have hread := hstart.call .read
  let other : Driver := { selected := some "sim1", phase := .selected b }
  have helse : (perform .readByte ((Talk.read.perform s).2.1, other)).2.1.queued a =
      (Talk.read.perform s).2.1.queued a :=
    perform_queued _ (by decide +kernel) (by decide +kernel)
  have hqueue := (hread.elsewhere _ fun _ h => helse.trans h).queue a [3]
  obtain ⟨-, hleft, hcalls⟩ := hturns _ _ hqueue
  have hanswer := (hcalls (.transfer [0xFF, 0x10, 0xFF, 0xFF])).1
  exact ⟨_, hqueue, hleft.trans (by decide +kernel), by decide +kernel,
    hanswer.trans (by decide +kernel)⟩

end Driver

end BusMaster
