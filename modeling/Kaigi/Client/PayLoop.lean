import Kaigi.Metering.Account
import Kaigi.Metering.Samples
import Kaigi.Wire.Frame
import Mathlib.Algebra.Ring.Nat

/-!
# The pay loop

While a room charges, the client pays what it owes at every tick: it meters the rate it
last heard of, carries the remainder of the division, and transfers what is not paid yet.
-/

set_option autoImplicit false

namespace Kaigi.Client

open Wire Metering

def u64Max : Nat := 2 ^ 64 - 1

def u128Max : Nat := 2 ^ 128 - 1

/-- What one turn of the loop reads: the clock, the rate, the result of the transfer if one
is tried, and whether the channel takes the frame if one is sent. -/
structure PayTick where
  now : UInt64
  ratePerMinuteNano : UInt64
  transfer : Except String String
  taken : Bool

structure PayLoop where
  lastMs : UInt64
  remainder : Nat
  totalBilledNano : Nat
  totalPaidNano : Nat

/-- What one turn or several leave: the loop, the frames that were sent, and whether the
loop goes on. -/
structure PayTurn where
  loop : PayLoop
  frames : List PaymentFrame
  goesOn : Bool

namespace PayLoop

def start (now : UInt64) : PayLoop where
  lastMs := now
  remainder := 0
  totalBilledNano := 0
  totalPaidNano := 0

/-- The first half of a turn, with the saturating arithmetic of `u128`. -/
def bill (loop : PayLoop) (now ratePerMinuteNano : UInt64) : PayLoop :=
  let elapsedMs := now.toNat - loop.lastMs.toNat
  let numerator := min (min (ratePerMinuteNano.toNat * elapsedMs) u128Max + loop.remainder) u128Max
  { loop with
    lastMs := now
    remainder := numerator % 60000
    totalBilledNano := min (loop.totalBilledNano + numerator / 60000) u128Max }

/-- The hash of the transfer, if payments go through the ledger; `none` if it failed. -/
def settle (payLedger : Bool) (transfer : Except String String) : Option (Option String) :=
  if payLedger then
    match transfer with
    | .ok hash => some (some hash)
    | .error _ => none
  else some none

/-- One turn of the loop. -/
def tick (payLedger : Bool) (loop : PayLoop) (tick : PayTick) : PayTurn :=
  let loop := loop.bill tick.now tick.ratePerMinuteNano
  if loop.totalBilledNano > loop.totalPaidNano then
    let delta := min (loop.totalBilledNano - loop.totalPaidNano) u64Max
    match settle payLedger tick.transfer with
    -- The turn is over before anything is counted as paid.
    | none => ⟨loop, [], true⟩
    | some txHashHex =>
      -- The channel is closed, and the loop ends, though the transfer is made.
      if !tick.taken then ⟨loop, [], false⟩
      else
        ⟨{ loop with totalPaidNano := min (loop.totalPaidNano + delta) u128Max },
          [{ sentAtMs := tick.now.toNat, amountNanoXor := delta, txHashHex }], true⟩
  else ⟨loop, [], true⟩

/-- The loop after some turns; `none` if it has ended before the last of them. -/
def ticks (payLedger : Bool) : PayLoop → List PayTick → Option PayTurn
  | loop, [] => some ⟨loop, [], true⟩
  | loop, tick :: rest =>
      let turn := loop.tick payLedger tick
      if turn.goesOn then
        (ticks payLedger turn.loop rest).map fun last =>
          { last with frames := turn.frames ++ last.frames }
      else if rest.isEmpty then some turn
      else none

end PayLoop

/-- The clock does not go back. -/
def Forward (start : UInt64) (ticks : List PayTick) : Prop :=
  (start.toNat :: ticks.map fun tick => tick.now.toNat).IsChain (· ≤ ·)

/-- What the room charges over the turns, for each minute. -/
def owed (start : UInt64) (ticks : List PayTick) : Nat :=
  accrued start.toNat (ticks.map fun tick => (tick.ratePerMinuteNano.toNat, tick.now.toNat))

/-! ### Metering -/

/-- What the loop has billed, in the unit of the carried remainder. -/
def payAccount (loop : PayLoop) : Account where
  charged := 60000 * loop.totalBilledNano + loop.remainder
  cursor := loop.lastMs.toNat

/-- What holds between the turns. -/
structure PayLoop.Sound (loop : PayLoop) : Prop where
  carried : loop.remainder < 60000
  covered : loop.totalPaidNano ≤ loop.totalBilledNano
  bounded : loop.totalBilledNano ≤ u128Max

theorem PayLoop.Sound.billed {loop : PayLoop} (sound : loop.Sound) :
    loop.totalBilledNano = (payAccount loop).charged / 60000 := by
  have carried := sound.carried
  unfold payAccount
  dsimp only
  omega

/-- As long as nothing overflows, a turn bills exactly what accrued. -/
theorem PayLoop.bill_exact {loop : PayLoop} {now rate : UInt64}
    (fits : (payAccount loop).due rate.toNat now.toNat ≤ u128Max) :
    Exact rate.toNat rate.toNat now.toNat (payAccount loop) (payAccount (loop.bill now rate)) := by
  refine .settled rfl ?_
  unfold Account.due payAccount at fits
  unfold Account.due payAccount PayLoop.bill
  dsimp only at fits ⊢
  generalize rate.toNat * (now.toNat - loop.lastMs.toNat) = accrual at fits ⊢
  have whole : min (min accrual u128Max + loop.remainder) u128Max = accrual + loop.remainder := by
    omega
  rw [whole]
  omega

theorem PayLoop.bill_bounded (loop : PayLoop) (now rate : UInt64) :
    (loop.bill now rate).totalBilledNano ≤ u128Max :=
  Nat.min_le_right _ _

theorem PayLoop.Sound.bill {loop : PayLoop} (sound : loop.Sound) (now rate : UInt64) :
    (loop.bill now rate).Sound := by
  refine ⟨Nat.mod_lt _ (by decide), ?_, loop.bill_bounded now rate⟩
  exact le_min (sound.covered.trans (Nat.le_add_right _ _)) (sound.covered.trans sound.bounded)

/-! ### Turns -/

/-- What a turn makes of what it has billed. -/
inductive Turn (payLedger : Bool) (tick : PayTick) (billed : PayLoop) : PayTurn → Prop where
  | paidUp : billed.totalBilledNano ≤ billed.totalPaidNano →
      Turn payLedger tick billed ⟨billed, [], true⟩
  | failed : PayLoop.settle payLedger tick.transfer = none →
      Turn payLedger tick billed ⟨billed, [], true⟩
  | closed {txHashHex : Option String} :
      PayLoop.settle payLedger tick.transfer = some txHashHex → tick.taken = false →
      billed.totalPaidNano < billed.totalBilledNano → Turn payLedger tick billed ⟨billed, [], false⟩
  | paid {txHashHex : Option String} {amount : Nat} :
      PayLoop.settle payLedger tick.transfer = some txHashHex → tick.taken = true →
      billed.totalPaidNano < billed.totalBilledNano →
      amount = min (billed.totalBilledNano - billed.totalPaidNano) u64Max →
      Turn payLedger tick billed
        ⟨{ billed with totalPaidNano := billed.totalPaidNano + amount },
          [⟨tick.now.toNat, amount, txHashHex⟩], true⟩

theorem PayLoop.tick_turn (payLedger : Bool) (loop : PayLoop) (tick : PayTick) :
    Turn payLedger tick (loop.bill tick.now tick.ratePerMinuteNano) (loop.tick payLedger tick) := by
  have bounded := loop.bill_bounded tick.now tick.ratePerMinuteNano
  unfold PayLoop.tick
  dsimp only
  split
  · next owes =>
      split
      · next failed => exact .failed failed
      · next txHashHex settled =>
          split
          · next closed => exact .closed settled (by simpa using closed) owes
          · next taken =>
              rw [Nat.min_eq_left (by omega)]
              exact .paid settled (by simpa using taken) owes rfl
  · next paidUp => exact .paidUp (Nat.le_of_not_lt paidUp)

/-- What a turn says and does, by the transfer and the channel. -/
structure Turned (payLedger : Bool) (before : PayLoop) (tick : PayTick) (turn : PayTurn) :
    Prop where
  /-- A failed transfer sends no frame and is not counted. -/
  failed : PayLoop.settle payLedger tick.transfer = none →
    turn.goesOn = true ∧ turn.frames = [] ∧ turn.loop.totalPaidNano = before.totalPaidNano
  /-- With the transfer made and an open channel, what is owed is sent and counted. -/
  settled : ∀ txHashHex, PayLoop.settle payLedger tick.transfer = some txHashHex →
    tick.taken = true → before.totalPaidNano < turn.loop.totalBilledNano →
    turn.goesOn = true ∧ ∃ amount,
      amount = min (turn.loop.totalBilledNano - before.totalPaidNano) u64Max ∧
      turn.frames = [⟨tick.now.toNat, amount, txHashHex⟩] ∧
      turn.loop.totalPaidNano = before.totalPaidNano + amount ∧
      (amount < u64Max → turn.loop.totalPaidNano = turn.loop.totalBilledNano)
  /-- With a closed channel the loop ends; the transfer is made, but not counted. -/
  closed : PayLoop.settle payLedger tick.transfer ≠ none → tick.taken = false →
    before.totalPaidNano < turn.loop.totalBilledNano →
    turn.goesOn = false ∧ turn.frames = [] ∧ turn.loop.totalPaidNano = before.totalPaidNano
  /-- Where nothing is owed, nothing happens. -/
  paidUp : turn.loop.totalBilledNano ≤ before.totalPaidNano →
    turn.goesOn = true ∧ turn.frames = [] ∧ turn.loop.totalPaidNano = before.totalPaidNano

namespace Turn

variable {payLedger : Bool} {tick : PayTick} {billed : PayLoop} {turn : PayTurn}

theorem account (turned : Turn payLedger tick billed turn) :
    payAccount turn.loop = payAccount billed := by
  cases turned <;> rfl

theorem lastMs (turned : Turn payLedger tick billed turn) : turn.loop.lastMs = billed.lastMs := by
  cases turned <;> rfl

theorem sound (turned : Turn payLedger tick billed turn) (sound : billed.Sound) :
    turn.loop.Sound := by
  cases turned with
  | paidUp | failed | closed => exact sound
  | paid _ _ owes same =>
      refine ⟨sound.carried, ?_, sound.bounded⟩
      dsimp only
      omega

theorem totalPaid (turned : Turn payLedger tick billed turn) :
    turn.loop.totalPaidNano =
      billed.totalPaidNano + (turn.frames.map (·.amountNanoXor)).sum := by
  cases turned <;> simp

theorem accounts {before : PayLoop} (turned : Turn payLedger tick billed turn)
    (paid : billed.totalPaidNano = before.totalPaidNano) :
    Turned payLedger before tick turn := by
  cases turned with
  | paidUp paidUp =>
      constructor
      · intro _
        exact ⟨rfl, rfl, paid⟩
      · intro _ _ _ owes
        dsimp only at owes
        omega
      · intro _ _ owes
        dsimp only at owes
        omega
      · intro _
        exact ⟨rfl, rfl, paid⟩
  | failed failed =>
      constructor
      · intro _
        exact ⟨rfl, rfl, paid⟩
      · intro _ settled
        rw [failed] at settled
        cases settled
      · intro settled
        exact absurd failed settled
      · intro _
        exact ⟨rfl, rfl, paid⟩
  | closed settled closed owes =>
      constructor
      · intro failed
        rw [failed] at settled
        cases settled
      · intro _ _ taken
        rw [closed] at taken
        cases taken
      · intro _ _ _
        exact ⟨rfl, rfl, paid⟩
      · intro paidUp
        dsimp only at paidUp
        omega
  | @paid _ amount settled taken owes same =>
      constructor
      · intro failed
        rw [failed] at settled
        cases settled
      · intro _ settled' _ _
        rw [settled] at settled'
        cases settled'
        rw [paid] at same
        refine ⟨rfl, amount, same, rfl, by rw [← paid], ?_⟩
        intro whole
        dsimp only
        omega
      · intro _ closed
        rw [taken] at closed
        cases closed
      · intro paidUp
        dsimp only at paidUp
        omega

end Turn

theorem PayLoop.tick_turned (payLedger : Bool) (loop : PayLoop) (tick : PayTick) :
    Turned payLedger loop tick (loop.tick payLedger tick) :=
  (loop.tick_turn payLedger tick).accounts rfl

/-- The loop ends in a turn just where the channel does not take what is to be paid. -/
theorem PayLoop.goesOn_iff {payLedger : Bool} {loop : PayLoop} {tick : PayTick} :
    (loop.tick payLedger tick).goesOn = true ↔
      (loop.bill tick.now tick.ratePerMinuteNano).totalBilledNano ≤ loop.totalPaidNano ∨
        settle payLedger tick.transfer = none ∨ tick.taken = true := by
  have turned := loop.tick_turn payLedger tick
  have paid : (loop.bill tick.now tick.ratePerMinuteNano).totalPaidNano = loop.totalPaidNano := rfl
  generalize loop.tick payLedger tick = turn at turned
  cases turned with
  | paidUp paidUp => exact iff_of_true rfl (.inl paidUp)
  | failed failed => exact iff_of_true rfl (.inr (.inl failed))
  | closed settled closed owes =>
      rw [settled, closed]
      rw [paid] at owes
      simp [Nat.not_le.mpr owes]
  | paid _ taken => exact iff_of_true rfl (.inr (.inr taken))

/-! ### Runs -/

theorem PayLoop.ticks_account {payLedger : Bool} {ticks : List PayTick} {loop : PayLoop}
    {last : PayTurn} (sound : loop.Sound)
    (fits : (payAccount loop).charged + owed loop.lastMs ticks ≤ u128Max)
    (runs : loop.ticks payLedger ticks = some last) :
    last.loop.Sound ∧
      (payAccount last.loop).charged = (payAccount loop).charged + owed loop.lastMs ticks ∧
      last.loop.totalPaidNano =
        loop.totalPaidNano + (last.frames.map (·.amountNanoXor)).sum := by
  induction ticks generalizing loop last with
  | nil =>
      cases runs
      exact ⟨sound, rfl, rfl⟩
  | cons tick rest ih =>
      have turned := loop.tick_turn payLedger tick
      generalize same : loop.tick payLedger tick = turn at turned
      have first : owed loop.lastMs (tick :: rest) =
          tick.ratePerMinuteNano.toNat * (tick.now.toNat - loop.lastMs.toNat) +
            owed tick.now rest := rfl
      have due : (payAccount loop).due tick.ratePerMinuteNano.toNat tick.now.toNat ≤
          u128Max := by
        unfold Account.due
        change (payAccount loop).charged + tick.ratePerMinuteNano.toNat *
          (tick.now.toNat - loop.lastMs.toNat) ≤ u128Max
        omega
      have metered : (payAccount turn.loop).charged = (payAccount loop).charged +
          tick.ratePerMinuteNano.toNat * (tick.now.toNat - loop.lastMs.toNat) := by
        rw [turned.account]
        exact (PayLoop.bill_exact due).charged
      have current : turn.loop.lastMs = tick.now := turned.lastMs
      have turnSound : turn.loop.Sound := turned.sound (sound.bill _ _)
      simp only [PayLoop.ticks, same] at runs
      cases goes : turn.goesOn with
      | true =>
          rw [goes] at runs
          obtain ⟨later, goesOn, whole⟩ := Option.map_eq_some_iff.mp runs
          subst whole
          obtain ⟨lastSound, charged, paid⟩ :=
            ih turnSound (by rw [metered, current]; omega) goesOn
          refine ⟨lastSound, by rw [charged, metered, current]; omega, ?_⟩
          rw [List.map_append, List.sum_append, ← Nat.add_assoc]
          rw [paid, turned.totalPaid]
          rfl
      | false =>
          rw [goes] at runs
          cases rest with
          | cons next rest => cases runs
          | nil =>
              cases runs
              exact ⟨turnSound, metered, turned.totalPaid⟩

/-- As long as the channel takes the frames, the loop goes on. -/
theorem PayLoop.ticks_open {payLedger : Bool} {ticks : List PayTick} (loop : PayLoop)
    (taken : ∀ tick ∈ ticks, tick.taken = true) :
    ∃ run, loop.ticks payLedger ticks = some run ∧ run.goesOn = true := by
  induction ticks generalizing loop with
  | nil => exact ⟨_, rfl, rfl⟩
  | cons tick rest ih =>
      obtain ⟨now, later⟩ := List.forall_mem_cons.mp taken
      obtain ⟨run, runs, goes⟩ := ih (loop.tick payLedger tick).loop later
      have goesOn : (loop.tick payLedger tick).goesOn = true :=
        goesOn_iff.mpr (.inr (.inr now))
      refine ⟨{ run with frames := (loop.tick payLedger tick).frames ++ run.frames }, ?_, goes⟩
      simp only [PayLoop.ticks, goesOn, ↓reduceIte, runs, Option.map_some]

theorem owed_le {start : UInt64} {ticks : List PayTick} (forward : Forward start ticks) :
    owed start ticks ≤ u128Max := by
  have rising : (start.toNat :: (ticks.map fun tick =>
      (tick.ratePerMinuteNano.toNat, tick.now.toNat)).map Prod.snd).IsChain (· ≤ ·) := by
    rw [List.map_map]
    exact forward
  have below : ∀ word : UInt64, word.toNat ≤ u64Max :=
    fun word => Nat.le_sub_one_of_lt word.toNat_lt
  refine (@accrued_le _ u64Max u64Max _ rising (below start) ?_ ?_).trans (by decide)
  · intro sample member
    obtain ⟨tick, _, rfl⟩ := List.mem_map.mp member
    exact below _
  · intro sample member
    obtain ⟨tick, _, rfl⟩ := List.mem_map.mp member
    exact below _

/-- What the client has billed and paid after any number of turns, and what the next turn
does. -/
structure Accounted (payLedger : Bool) (start : UInt64) (ticks : List PayTick) (run : PayTurn) :
    Prop where
  billed : run.loop.totalBilledNano = owed start ticks / 60000
  paid : run.loop.totalPaidNano = (run.frames.map (·.amountNanoXor)).sum
  covered : run.loop.totalPaidNano ≤ run.loop.totalBilledNano
  next : ∀ tick, Turned payLedger run.loop tick (run.loop.tick payLedger tick)

/-- The loop runs for as long as the channel takes its frames, and its accounts are right
after every turn. -/
theorem payLoop_accounted {start : UInt64} {ticks : List PayTick} (payLedger : Bool)
    (forward : Forward start ticks) :
    ((∀ tick ∈ ticks, tick.taken = true) →
      ∃ run, (PayLoop.start start).ticks payLedger ticks = some run ∧ run.goesOn = true) ∧
    ∀ run, (PayLoop.start start).ticks payLedger ticks = some run →
      Accounted payLedger start ticks run := by
  refine ⟨PayLoop.ticks_open _, ?_⟩
  intro run runs
  have fresh : (PayLoop.start start).Sound :=
    ⟨Nat.zero_lt_succ _, Nat.le_refl 0, Nat.zero_le u128Max⟩
  have fits : (payAccount (PayLoop.start start)).charged + owed start ticks ≤ u128Max := by
    have bounded := owed_le forward
    change 0 + owed start ticks ≤ u128Max
    omega
  obtain ⟨sound, charged, paid⟩ := PayLoop.ticks_account fresh fits runs
  refine ⟨?_, ?_, sound.covered, run.loop.tick_turned payLedger⟩
  · rw [sound.billed, charged]
    change (0 + owed start ticks) / 60000 = _
    rw [Nat.zero_add]
  · rw [paid]
    exact Nat.zero_add _

/-- A turn that is paid, one whose transfer fails, and one that makes up for it. -/
def threeTurns : List PayTick :=
  [⟨61000, 7, .ok "aa", true⟩, ⟨91000, 9, .error "down", true⟩, ⟨92000, 30001, .ok "bb", true⟩]

theorem payLoop_accounted_threeTurns :
    ∃ run, (PayLoop.start 1000).ticks true threeTurns = some run ∧
      run.frames.map (·.amountNanoXor) = [7, 504] ∧ run.goesOn = true ∧
      Accounted true 1000 threeTurns run :=
  ⟨_, rfl, by decide, rfl, (payLoop_accounted true (by unfold Forward; decide)).2 _ rfl⟩

/-- A turn whose transfer works brings the payments up to the bill. -/
def PaysUp (payLedger : Bool) (before : PayLoop) (tick : PayTick) : Prop :=
  ∀ txHashHex, tick.transfer = .ok txHashHex →
    (before.tick payLedger tick).loop.totalBilledNano - before.totalPaidNano < u64Max →
    (before.tick payLedger tick).loop.totalPaidNano =
      (before.tick payLedger tick).loop.totalBilledNano

/-- The conference is left while the transfer is made: it is not counted. -/
theorem payLoop_unpaid : ¬PaysUp true (PayLoop.start 1000) ⟨61000, 7, .ok "aa", false⟩ := by
  intro paysUp
  exact absurd (paysUp "aa" rfl (by decide)) (by decide)

end Kaigi.Client
