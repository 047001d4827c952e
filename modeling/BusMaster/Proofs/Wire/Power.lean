import BusMaster.Proofs.Wire.Conversation

/-!
# Strong power that waits

A driver can arm strong power for after the next bit or the next byte. It comes on
right after the first bit, or byte, that is written or read by itself, and once. The
bytes of a block do not bring it on.

* `Primitive.unit?`, `Primitive.carries`: what a call transfers by itself, and what it
  carries, in a block or not;
* `Driver.Idle`: work that does nothing to strong power;
* `Driver.perform_idle`, `Driver.perform_unit`: what each call does to it;
* `Driver.ComesOn`: power comes on once, with the first of certain calls;
* `Driver.comes_on_with_unit`: it does with the first unit transferred by itself;
* `Driver.comes_on_as_asked_iff`: and so with the first that is carried, unless that
  one is in a block.
-/

namespace BusMaster

namespace Primitive

/-- The one bit or byte that the call transfers by itself. -/
def unit? : Primitive → Option PowerCondition
  | writeBit _ | readBit => some .afterNextBit
  | writeByte _ | readByte => some .afterNextByte
  | _ => none

/-- The call carries what power armed for `unit` waits for: a bit, or at least one
byte. -/
def carries (unit : PowerCondition) : Primitive → Bool
  | transfer block => unit = .afterNextByte && !block.isEmpty
  | call => call.unit? = some unit

/-- Neither the port nor the power is switched by the call, power that waits apart. -/
def leavesPower : Primitive → Bool
  | selectPort _ | freePort | startPower _ | setPowerNormal => false
  | _ => true

theorem carries_of_unit {unit : PowerCondition} {call : Primitive} (h : call.unit? = some unit) :
    call.carries unit = true := by
  cases call with
  | transfer => cases h
  | _ => exact decide_eq_true h

/-- Only a block carries what it does not transfer by itself. -/
theorem unit?_of_carries {unit : PowerCondition} {call : Primitive}
    (h : call.carries unit = true) (alone : ∀ block, call ≠ .transfer block) :
    call.unit? = some unit := by
  cases call with
  | transfer block => exact absurd rfl (alone block)
  | _ => exact of_decide_eq_true h

end Primitive

namespace Driver

variable {net : Network} {drv : Driver} {s s' s'' : Network × Driver} {unit : PowerCondition}
  {call : Primitive} {before calls : List Primitive} {p q : Primitive → Bool}

/-! ## One call -/

/-- Work that logs no switch to strong power, and leaves alone what is on and what
waits. -/
structure Idle (s s' : Network × Driver) : Prop where
  traffic : ∃ own, .strongPullup ∉ own ∧ s'.1.traffic = s.1.traffic ++ own
  strongPullup : s'.1.strongPullup = s.1.strongPullup
  armed : s'.2.armed = s.2.armed
  selected : s'.2.selected = s.2.selected

namespace Idle

/-- Work that logs nothing. -/
theorem silent (traffic : s'.1.traffic = s.1.traffic)
    (strongPullup : s'.1.strongPullup = s.1.strongPullup) (armed : s'.2.armed = s.2.armed)
    (selected : s'.2.selected = s.2.selected) : Idle s s' :=
  ⟨⟨[], List.not_mem_nil, by rw [traffic, List.append_nil]⟩, strongPullup, armed, selected⟩

theorem refl (s : Network × Driver) : Idle s s :=
  .silent rfl rfl rfl rfl

theorem trans (h : Idle s s') (h' : Idle s' s'') : Idle s s'' where
  traffic := by
    obtain ⟨own, hown, htraffic⟩ := h.traffic
    obtain ⟨more, hmore, htraffic'⟩ := h'.traffic
    refine ⟨own ++ more, ?_, by rw [htraffic', htraffic, List.append_assoc]⟩
    simp only [List.mem_append, not_or]
    exact ⟨hown, hmore⟩
  strongPullup := h'.strongPullup.trans h.strongPullup
  armed := h'.armed.trans h.armed
  selected := h'.selected.trans h.selected

theorem log (event : BusEvent) (h : event ≠ .strongPullup) :
    Idle (net, drv) (net.log event, drv) :=
  ⟨⟨[event], by simpa using h.symm, rfl⟩, rfl, rfl, rfl⟩

end Idle

theorem exchange_idle (byte : UInt8) (s : Network × Driver) : Idle s (exchange byte s).2 := by
  obtain ⟨net, drv⟩ := s
  rw [exchange]
  split
  · exact .refl _
  · exact .silent rfl rfl rfl rfl
  · exact .silent rfl rfl rfl rfl
  · rename_i device _
    split
    · show Idle (net, drv) ((net.takeResponse device).2, drv)
      rw [Network.takeResponse]
      split <;> exact .silent rfl rfl rfl rfl
    · exact .refl _

theorem exchangeAll_idle : ∀ (block : List UInt8) (s : Network × Driver),
    Idle s (exchangeAll block s).2
  | [], s => .refl s
  | byte :: block, s => (exchange_idle byte s).trans (exchangeAll_idle block _)

/-- A call that transfers no bit or byte by itself does nothing to strong power. -/
theorem perform_idle (attached : s.2.selected.isSome = true) (leaves : call.leavesPower = true)
    (other : call.unit? = none) : Idle s (perform call s).2 := by
  obtain ⟨net, drv⟩ := s
  rw [perform_attached attached]
  cases call with
  | selectPort | freePort | startPower | setPowerNormal => cases leaves
  | writeBit | readBit | writeByte | readByte => cases other
  | detect =>
    rw [performAttached]
    split
    · exact .refl _
    · split <;> exact .refl _
  | reset => exact (Idle.log (.reset net.resetResult) (by simp)).trans (.silent rfl rfl rfl rfl)
  | search pass =>
    rw [performAttached_search attached]
    exact (Idle.log (.search pass.command.opcode pass.lastDiscrepancy pass.skipReset)
      (by simp)).trans (.silent rfl rfl rfl rfl)
  | transfer block =>
    rw [performAttached_transfer attached]
    exact (Idle.log (.block block) (by simp)).trans (exchangeAll_idle block _)
  | setSpeed speed =>
    rw [performAttached]
    split
    · exact .refl _
    · exact (Idle.log (.speed speed) (by simp)).trans (.silent rfl rfl rfl rfl)
  | setPowerDuration | setPulseDuration =>
    rw [performAttached]
    split <;> exact .refl _
  | startPulse condition =>
    rw [performAttached]
    split
    · exact ⟨⟨[.programPulse], by simp, rfl⟩, rfl, rfl, rfl⟩
    · exact .refl _

/-- One that does transfers it, and then turns on power that waits for it. -/
theorem perform_unit (attached : s.2.selected.isSome = true) (h : call.unit? = some unit) :
    ∃ s', Idle s s' ∧ (perform call s).2 = fire unit s' := by
  obtain ⟨net, drv⟩ := s
  rw [perform_attached attached]
  cases call with
  | writeBit bit =>
    obtain rfl := Option.some.inj h
    exact ⟨_, .log (.writeBit bit) (by simp), rfl⟩
  | readBit =>
    obtain rfl := Option.some.inj h
    exact ⟨_, .log (.readBit true) (by simp), rfl⟩
  | writeByte byte =>
    obtain rfl := Option.some.inj h
    exact ⟨_, (Idle.log (.writeByte byte) (by simp)).trans (exchange_idle byte _), rfl⟩
  | readByte =>
    obtain rfl := Option.some.inj h
    have hread : Idle (net, drv) ((exchange 0xFF (net, drv)).2.1, (exchange 0xFF (net, drv)).2.2) :=
      exchange_idle 0xFF (net, drv)
    exact ⟨_, hread.trans (.log (.readByte (exchange 0xFF (net, drv)).1) (by simp)), rfl⟩
  | _ => cases h

/-! ## Runs -/

/-- The wire and the driver after calls, one after the other. -/
def afterCalls (s : Network × Driver) (calls : List Primitive) : Network × Driver :=
  calls.foldl (fun s call => (perform call s).2) s

theorem afterCalls_snoc (s : Network × Driver) (before : List Primitive) (call : Primitive) :
    afterCalls s (before ++ [call]) = (perform call (afterCalls s before)).2 := by
  simp [afterCalls]

/-- Work that turns strong power on at its very end, or not at all: what it logs is of
other kinds, but for the last event if power comes on. -/
structure TurnsOn (now : Bool) (s s' : Network × Driver) : Prop where
  traffic : ∃ own, .strongPullup ∉ own ∧
    s'.1.traffic = s.1.traffic ++ own ++ if now then [.strongPullup] else []
  strongPullup : s'.1.strongPullup = (s.1.strongPullup || now)

/-- Strong power comes on with the first of the calls that `p` holds of, right after
it, and with no other. -/
def ComesOn (p : Primitive → Bool) (s : Network × Driver) (calls : List Primitive) : Prop :=
  ∀ before call since, calls = before ++ call :: since →
    TurnsOn (p call && !before.any p) (afterCalls s before) (afterCalls s (before ++ [call]))

theorem Idle.turnsOn (h : Idle s s') : TurnsOn false s s' where
  traffic := by simpa using h.traffic
  strongPullup := by simpa using h.strongPullup

/-- Work turns power on or does not. -/
theorem TurnsOn.unique {now now' : Bool} (h : TurnsOn now s s') (h' : TurnsOn now' s s') :
    now = now' := by
  obtain ⟨own, hown, htraffic⟩ := h.traffic
  obtain ⟨own', hown', htraffic'⟩ := h'.traffic
  have heq := htraffic.symm.trans htraffic'
  rw [List.append_assoc, List.append_assoc, List.append_cancel_left_eq] at heq
  have hmem : .strongPullup ∈ own ++ _ ↔ .strongPullup ∈ own' ++ _ := Eq.to_iff (congrArg _ heq)
  cases now <;> cases now' <;> simp [hown, hown'] at hmem ⊢

/-- Firing turns on the power that waits for the unit, which then waits no longer. -/
theorem fire_turnsOn (h : Idle s s') :
    TurnsOn (s.2.armed = some unit) s (fire unit s') ∧
      (fire unit s').2.armed = (if s.2.armed = some unit then none else s.2.armed) ∧
      (fire unit s').2.selected = s.2.selected := by
  obtain ⟨net, drv⟩ := s'
  have harmed : drv.armed = s.2.armed := h.armed
  rw [fire, harmed]
  by_cases hfire : s.2.armed = some unit
  · obtain ⟨own, hown, htraffic⟩ := h.traffic
    rw [if_pos hfire, if_pos hfire]
    refine ⟨⟨⟨own, hown, ?_⟩, by simp [hfire, Network.log]⟩, rfl, h.selected⟩
    rw [← htraffic]
    simp [hfire, Network.log]
  · rw [if_neg hfire, if_neg hfire]
    exact ⟨by simpa [hfire] using h.turnsOn, harmed, h.selected⟩

/-- The call transfers by itself what the power waits for. -/
def awaited (drv : Driver) (call : Primitive) : Bool :=
  drv.armed.any (call.unit? = some ·)

/-- A call turns power on exactly if the power waits for it. -/
theorem perform_turnsOn (attached : s.2.selected.isSome = true)
    (leaves : call.leavesPower = true) :
    TurnsOn (s.2.awaited call) s (perform call s).2 ∧
      (perform call s).2.2.armed = (if s.2.awaited call then none else s.2.armed) ∧
      (perform call s).2.2.selected = s.2.selected := by
  cases hunit : call.unit? with
  | none =>
    have h := perform_idle attached leaves hunit
    have hawaited : s.2.awaited call = false := by simp [awaited, hunit]
    rw [hawaited]
    exact ⟨h.turnsOn, h.armed, h.selected⟩
  | some unit =>
    obtain ⟨s', h, he⟩ := perform_unit attached hunit
    have hawaited : s.2.awaited call = decide (s.2.armed = some unit) := by
      rw [awaited, hunit]
      cases s.2.armed <;> simp [eq_comm]
    rw [he, hawaited]
    simpa using fire_turnsOn h

/-- While calls leave the power alone, what was armed waits for the first that
transfers it by itself. By induction on the calls made. -/
theorem armed_afterCalls (attached : s.2.selected.isSome = true) (armed : s.2.armed = some unit)
    (leaves : ∀ call ∈ before, call.leavesPower = true) :
    (afterCalls s before).2.armed =
        (if before.any (·.unit? = some unit) then none else some unit) ∧
      (afterCalls s before).2.selected = s.2.selected := by
  induction before using List.reverseRecOn with
  | nil => exact ⟨armed, rfl⟩
  | append_singleton before call ih =>
    obtain ⟨harmed, hselected⟩ := ih fun c hc => leaves c (List.mem_append_left _ hc)
    obtain ⟨-, harmed', hselected'⟩ := perform_turnsOn (by rw [hselected]; exact attached)
      (leaves call (List.mem_append_right _ List.mem_cons_self))
    rw [afterCalls_snoc]
    refine ⟨?_, hselected'.trans hselected⟩
    rw [harmed', awaited, harmed]
    by_cases hany : before.any (·.unit? = some unit) = true
    · rw [if_pos hany, List.any_append, hany, Bool.true_or]
      rfl
    · rw [if_neg hany, List.any_append, Bool.eq_false_of_not_eq_true hany, Bool.false_or]
      simp

/-- Armed power comes on with the first unit that is transferred by itself. -/
theorem comes_on_with_unit (attached : s.2.selected.isSome = true)
    (armed : s.2.armed = some unit) (leaves : ∀ call ∈ calls, call.leavesPower = true) :
    ComesOn (·.unit? = some unit) s calls := by
  rintro before call since rfl
  obtain ⟨harmed, hselected⟩ := armed_afterCalls attached armed
    fun c hc => leaves c (List.mem_append_left _ hc)
  obtain ⟨hon, -, -⟩ := perform_turnsOn (by rw [hselected]; exact attached)
    (leaves call (List.mem_append_right _ List.mem_cons_self))
  rw [awaited, harmed] at hon
  rw [afterCalls_snoc]
  by_cases hany : before.any (·.unit? = some unit) = true
  · simpa [hany] using hon
  · simpa [hany] using hon

/-! ## As asked -/

/-- Over all calls power comes on once if `p` holds of any, and then stays on. By
induction on the calls. -/
theorem ComesOn.once (h : ComesOn p s calls) :
    (afterCalls s calls).1.traffic.count .strongPullup =
        s.1.traffic.count .strongPullup + (calls.any p).toNat ∧
      (afterCalls s calls).1.strongPullup = (s.1.strongPullup || calls.any p) := by
  induction calls using List.reverseRecOn with
  | nil => simp [afterCalls]
  | append_singleton before call ih =>
    obtain ⟨hcount, hpower⟩ := ih fun earlier c since he =>
      h earlier c (since ++ [call]) (by rw [he, List.append_assoc]; rfl)
    obtain ⟨⟨own, hown, htraffic⟩, hpower'⟩ := h before call [] rfl
    refine ⟨?_, ?_⟩
    · rw [htraffic, List.count_append, List.count_append, hcount, List.count_eq_zero.mpr hown]
      cases hany : before.any p <;> cases hp : p call <;> simp [hany, hp]
    · rw [hpower', hpower]
      cases hany : before.any p <;> cases hp : p call <;> simp [hany, hp]

/-- If the first call that carries the unit is no block, it is the first one too that
transfers the unit by itself. -/
theorem any_carries_eq (h : ∀ block, calls.find? (·.carries unit) ≠ some (.transfer block)) :
    calls.any (·.carries unit) = calls.any (·.unit? = some unit) := by
  cases hfind : calls.find? (·.carries unit) with
  | none =>
    have hnone := List.find?_eq_none.mp hfind
    rw [List.any_eq_false.mpr hnone, Eq.comm, List.any_eq_false]
    exact fun call hc hunit => hnone call hc (Primitive.carries_of_unit (of_decide_eq_true hunit))
  | some first =>
    have hfirst : first.unit? = some unit :=
      Primitive.unit?_of_carries (List.find?_some hfind) fun block hb => h block (hb ▸ hfind)
    have hmem := List.mem_of_find?_eq_some hfind
    rw [List.any_eq_true.mpr ⟨first, hmem, List.find?_some hfind⟩,
      List.any_eq_true.mpr ⟨first, hmem, decide_eq_true hfirst⟩]

/-- Power armed for the next bit or byte, while the calls of the driver leave the power
alone. Arming it makes no traffic. It comes on once, right after the first call that
transfers that unit by itself, and then stays on; without such a call it does not come
on. That is the first call to carry the unit at all, as it should be, exactly if the
first to carry it is not the transfer of a block. -/
theorem comes_on_as_asked_iff (s : Network × Driver) (attached : s.2.selected.isSome = true)
    (unit : PowerCondition) (waits : unit ≠ .now) (calls : List Primitive)
    (leaves : ∀ call ∈ calls, call.leavesPower = true) :
    let armed := (perform (.startPower unit) s).2
    ((perform (.startPower unit) s).1 = .ok true ∧ armed.1 = s.1) ∧
    ComesOn (·.unit? = some unit) armed calls ∧
    (∀ p, ComesOn p armed calls →
      (afterCalls armed calls).1.traffic.count .strongPullup =
          s.1.traffic.count .strongPullup + (calls.any p).toNat ∧
        (afterCalls armed calls).1.strongPullup = (s.1.strongPullup || calls.any p)) ∧
    (ComesOn (·.carries unit) armed calls ↔
      ∀ block, calls.find? (·.carries unit) ≠ some (.transfer block)) := by
  intro armed
  have harm : perform (.startPower unit) s = (.ok true, s.1, { s.2 with armed := some unit }) := by
    rw [perform_attached attached]
    simp [performAttached, waits]
  have hwire : armed.1 = s.1 := by rw [show armed = _ from congrArg Prod.snd harm]
  have halone : ComesOn (·.unit? = some unit) armed calls := by
    rw [show armed = _ from congrArg Prod.snd harm]
    exact comes_on_with_unit attached rfl leaves
  refine ⟨⟨by rw [harm], hwire⟩, halone, fun p hp => ?_, fun hasked block hblock => ?_,
    fun hfirst => ?_⟩
  · rw [← hwire]
    exact hp.once
  · -- At a block that comes first the two ways to count would have to agree.
    obtain ⟨hcarries, before, since, rfl, hbefore⟩ := List.find?_eq_some_iff_append.mp hblock
    have hany : before.any (·.carries unit) = false := by simpa using hbefore
    have hsame :
        (Primitive.carries unit (.transfer block) && !before.any (·.carries unit)) = false :=
      (hasked before _ since rfl).unique (halone before _ since rfl)
    rw [hcarries, hany] at hsame
    cases hsame
  · rintro before call since rfl
    have hbefore : before.any (·.carries unit) = before.any (·.unit? = some unit) := by
      refine any_carries_eq fun block hb => hfirst block ?_
      rw [List.find?_append, hb, Option.some_or]
    have hcall : (before ++ [call]).any (·.carries unit) =
        (before ++ [call]).any (·.unit? = some unit) := by
      refine any_carries_eq fun block hb => hfirst block ?_
      rw [List.append_cons, List.find?_append, hb, Option.some_or]
    rw [List.any_append, List.any_append, hbefore] at hcall
    have hsame : (call.carries unit && !before.any (·.carries unit)) =
        (decide (call.unit? = some unit) && !before.any (·.unit? = some unit)) := by
      rw [hbefore]
      cases hany : before.any (·.unit? = some unit)
      · simpa [hany] using hcall
      · simp
    rw [hsame]
    exact halone before call since rfl

/-- A bit and an empty block carry no byte, so the byte that is written turns the power
on, and the block after it does nothing more. -/
theorem comes_on_as_asked_of_byte :
    let s : Network × Driver := ({}, { selected := some "sim0" })
    let calls : List Primitive :=
      [.readBit, .transfer [], .reset, .writeByte 7, .transfer [1, 2], .readByte]
    let armed := (perform (.startPower .afterNextByte) s).2
    (s.2.selected.isSome = true ∧ PowerCondition.afterNextByte ≠ .now ∧
      ∀ call ∈ calls, call.leavesPower = true) ∧
      ComesOn (·.carries .afterNextByte) armed calls ∧
      (afterCalls armed calls).1.traffic = [.readBit true, .block [], .reset .noPresence,
        .writeByte 7, .strongPullup, .block [1, 2], .readByte 0xFF] := by
  intro s calls armed
  have hleaves : ∀ call ∈ calls, call.leavesPower = true := by decide
  obtain ⟨-, -, -, hiff⟩ :=
    comes_on_as_asked_iff s rfl .afterNextByte (by decide) calls hleaves
  have hfirst : calls.find? (·.carries .afterNextByte) = some (.writeByte 7) := by decide
  refine ⟨⟨rfl, by decide, hleaves⟩, hiff.mpr fun block hblock => ?_, by decide +kernel⟩
  rw [hfirst] at hblock
  cases hblock

/-- A block of one byte, sent while power waits for the next byte, does not turn it
on. -/
theorem not_comes_on_of_block :
    let s : Network × Driver := ({}, { selected := some "sim0" })
    let armed := (perform (.startPower .afterNextByte) s).2
    let calls : List Primitive := [.transfer [1]]
    (perform (.startPower .afterNextByte) s).1 = .ok true ∧
      (afterCalls armed calls).1.traffic = [.block [1]] ∧
      (afterCalls armed calls).1.strongPullup = false ∧
      ¬ ComesOn (·.carries .afterNextByte) armed calls := by
  intro s armed calls
  have hoff : (afterCalls armed calls).1.strongPullup = false := by decide +kernel
  refine ⟨rfl, by decide +kernel, hoff, fun hasked => ?_⟩
  have hon : (afterCalls armed calls).1.strongPullup = (armed.1.strongPullup || true) :=
    (hasked [] (.transfer [1]) [] rfl).strongPullup
  rw [hoff, Bool.or_true] at hon
  cases hon

end Driver

end BusMaster
