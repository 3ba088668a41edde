import Kaigi.Session.FallbackPhase
import Mathlib.Data.List.Induction

/-!
# The time to recover

A recovery reports the time since the fallback was activated. The mark it counts from is
set by every activation, also while the fallback is active, and a rejection keeps the mark
of an earlier activation, which no recovery takes away.
-/

set_option autoImplicit false

namespace Kaigi.Session

/-- The event sets the mark, whatever it was. -/
def ProtocolEvent.activates : ProtocolEvent → Bool
  | .fallbackActivated _ => true
  | _ => false

/-- The clock does not go back. -/
def Ordered (calls : List Call) : Prop :=
  calls.Pairwise fun earlier later => earlier.nowMs ≤ later.nowMs

/-- The fallback becomes active by the call `start` and stays active until now. -/
structure Episode (config : MeetingConfig) (before : List Call) (start : Call)
    (during : List Call) : Prop where
  opens : (Linux.run config before).fallback.active = false
  lasts : ∀ part, part <+: during →
    (Linux.run config (before ++ start :: part)).fallback.active = true

/-- The mark is the time of the start: no activation has moved it later, and either an
activation has set it or there was no older one. -/
structure Timed (earlier : Option Int) (start : Call) (during : List Call) : Prop where
  unmoved : ∀ call ∈ during, call.event.activates = true → call.nowMs = start.nowMs
  marked : start.event.activates = true ∨ (∃ call ∈ during, call.event.activates = true) ∨
    ∀ mark ∈ earlier, mark = start.nowMs

/-! ## The mark -/

/-- What an event does to the mark. -/
inductive MarkStep (event : ProtocolEvent) (nowMs : Int) (before after : FallbackState) : Prop where
  | activated : event.activates = true → after.active = true → after.activatedAtMs = some nowMs →
      MarkStep event nowMs before after
  | recovered : event.activates = false → after.active = false →
      after.activatedAtMs = before.activatedAtMs → MarkStep event nowMs before after
  | rejected : event.activates = false → after.active = true →
      after.activatedAtMs = some (before.activatedAtMs.getD nowMs) →
      MarkStep event nowMs before after
  | kept : event.activates = false → after = before → MarkStep event nowMs before after

theorem step_mark (state : SessionView) (event : ProtocolEvent) (nowMs : Int) :
    MarkStep event nowMs state.fallback (step Linux.rules state event nowMs).fallback := by
  by_cases activated : ∃ reason, event = .fallbackActivated reason
  · obtain ⟨reason, rfl⟩ := activated
    exact .activated rfl rfl rfl
  · have quiet : event.activates = false := by
      cases event with
      | fallbackActivated reason => exact absurd ⟨reason, rfl⟩ activated
      | _ => rfl
    by_cases recovered : event = .fallbackRecovered
    · subst recovered
      exact .recovered rfl rfl rfl
    · have falls : FallsBack Linux.rules nowMs state.fallback
          (step Linux.rules state event nowMs).fallback :=
        step_fallback (fun reason same => activated ⟨reason, same⟩) recovered
      obtain same | ⟨config, code, same⟩ := falls
      · exact .kept quiet same
      · rw [show Linux.rules.fallback config state.fallback code nowMs =
          if config.preferWebFallbackOnPolicyFailure || state.fallback.active then _ else _
            from rfl] at same
        by_cases falls : (config.preferWebFallbackOnPolicyFailure || state.fallback.active) = true
        · rw [if_pos falls] at same
          exact .rejected quiet (by rw [same]) (by rw [same])
        · rw [if_neg falls] at same
          exact .kept quiet same

section

variable {event : ProtocolEvent} {nowMs : Int} {before after : FallbackState}

/-- An active fallback has a mark. -/
theorem MarkStep.marked (marks : MarkStep event nowMs before after)
    (known : before.active = true → before.activatedAtMs ≠ none) (active : after.active = true) :
    after.activatedAtMs =
      some (if event.activates then nowMs else before.activatedAtMs.getD nowMs) := by
  cases marks with
  | activated activates _ mark => rw [mark, if_pos activates]
  | recovered _ inactive _ =>
      rw [active] at inactive
      cases inactive
  | rejected quiet _ mark => rw [mark, if_neg (by simp [quiet])]
  | kept quiet same =>
      subst same
      obtain ⟨mark, found⟩ := Option.ne_none_iff_exists'.mp (known active)
      rw [found, if_neg (by simp [quiet])]
      rfl

/-- A mark is the old one or the time of the event. -/
theorem MarkStep.origin (marks : MarkStep event nowMs before after) {mark : Int}
    (found : after.activatedAtMs = some mark) :
    before.activatedAtMs = some mark ∨ mark = nowMs := by
  cases marks with
  | activated _ _ now => exact .inr (Option.some.inj (found.symm.trans now))
  | recovered _ _ same => exact .inl (same ▸ found)
  | rejected _ _ now =>
      have same := Option.some.inj (found.symm.trans now)
      cases older : before.activatedAtMs with
      | none =>
          rw [older] at same
          exact .inr same
      | some earlier =>
          rw [older] at same
          exact .inl (congrArg some same.symm)
  | kept _ same => exact .inl (same ▸ found)

end

/-! ## Runs -/

theorem Linux.run_append (config : MeetingConfig) (calls : List Call) (call : Call) :
    MarkStep call.event call.nowMs (Linux.run config calls).fallback
      (Linux.run config (calls ++ [call])).fallback := by
  have before := congrArg ProtocolSessionState.fallback (Linux.run_view config calls)
  have after := congrArg ProtocolSessionState.fallback (Linux.run_view config (calls ++ [call]))
  rw [ProtocolSessionState.view_fallback] at before after
  rw [before, after, follow_append]
  exact step_mark _ call.event call.nowMs

theorem Linux.run_marked (config : MeetingConfig) (calls : List Call)
    (active : (Linux.run config calls).fallback.active = true) :
    (Linux.run config calls).fallback.activatedAtMs ≠ none := by
  induction calls using List.reverseRecOn with
  | nil => cases active
  | append_singleton calls call ih =>
      rw [(Linux.run_append config calls call).marked ih active]
      exact Option.some_ne_none _

/-- The mark is the time of a call. -/
theorem Linux.run_mark (config : MeetingConfig) (calls : List Call) {mark : Int}
    (found : (Linux.run config calls).fallback.activatedAtMs = some mark) :
    ∃ call ∈ calls, call.nowMs = mark := by
  induction calls using List.reverseRecOn with
  | nil => cases found
  | append_singleton calls call ih =>
      rcases (Linux.run_append config calls call).origin found with earlier | now
      · obtain ⟨past, member, same⟩ := ih earlier
        exact ⟨past, List.mem_append_left _ member, same⟩
      · exact ⟨call, List.mem_append_right _ List.mem_cons_self, now.symm⟩

/-- Every activation moves the mark. -/
def remark (mark : Int) (call : Call) : Int :=
  if call.event.activates then call.nowMs else mark

/-- The mark stays at the start unless an activation moves it. -/
theorem foldl_remark_iff {start : Int} (mark : Int) {during : List Call} (ordered : Ordered during)
    (later : ∀ call ∈ during, start ≤ call.nowMs) :
    during.foldl remark mark = start ↔
      (∀ call ∈ during, call.event.activates = true → call.nowMs = start) ∧
        ((∃ call ∈ during, call.event.activates = true) ∨ mark = start) := by
  induction during using List.reverseRecOn with
  | nil => simp
  | append_singleton during call ih =>
      obtain ⟨earlier, _, between⟩ := List.pairwise_append.mp ordered
      have last : start ≤ call.nowMs := later call (by simp)
      have bounded : ∀ past ∈ during, start ≤ past.nowMs ∧ past.nowMs ≤ call.nowMs :=
        fun past member => ⟨later past (List.mem_append_left _ member),
          between past member call List.mem_cons_self⟩
      rw [List.foldl_append, List.foldl_cons, List.foldl_nil, remark]
      by_cases activates : call.event.activates = true
      · rw [if_pos activates]
        constructor
        · rintro same
          refine ⟨fun past member _ => ?_, .inl ⟨call, by simp, activates⟩⟩
          rcases List.mem_append.mp member with past_member | now
          · have around := bounded past past_member
            omega
          · rw [List.mem_singleton.mp now]
            exact same
        · rintro ⟨unmoved, _⟩
          exact unmoved call (by simp) activates
      · rw [if_neg activates, ih earlier fun past member => (bounded past member).1]
        simp [or_imp, forall_and, activates]

section

variable {config : MeetingConfig} {before during : List Call} {start call : Call}

theorem Episode.of_append (episode : Episode config before start (during ++ [call])) :
    Episode config before start during where
  opens := episode.opens
  lasts part front := episode.lasts part (front.trans (List.prefix_append during [call]))

/-- While the fallback is active, every active state belongs to an episode. -/
theorem exists_episode {calls : List Call}
    (active : (Linux.run config calls).fallback.active = true) :
    ∃ before start during, calls = before ++ start :: during ∧
      Episode config before start during := by
  induction calls using List.reverseRecOn with
  | nil => cases active
  | append_singleton calls call ih =>
      cases was : (Linux.run config calls).fallback.active with
      | false =>
          refine ⟨calls, call, [], rfl, was, fun part front => ?_⟩
          rw [List.prefix_nil.mp front]
          exact active
      | true =>
          obtain ⟨before, start, during, rfl, opens, lasts⟩ := ih was
          refine ⟨before, start, during ++ [call], by simp, opens, fun part front => ?_⟩
          rcases List.prefix_concat_iff.mp front with whole | front
          · rw [whole]
            simpa using active
          · exact lasts part front

/-- The mark at the end of an episode. -/
theorem Episode.mark (episode : Episode config before start during) :
    (Linux.run config (before ++ start :: during)).fallback.activatedAtMs =
      some (during.foldl remark
        (if start.event.activates then start.nowMs
          else (Linux.run config before).fallback.activatedAtMs.getD start.nowMs)) := by
  induction during using List.reverseRecOn with
  | nil =>
      refine (Linux.run_append config before start).marked (fun active => ?_)
        (episode.lasts [] (List.nil_prefix))
      rw [episode.opens] at active
      cases active
  | append_singleton during call ih =>
      have split :
          before ++ start :: (during ++ [call]) = (before ++ start :: during) ++ [call] := by
        simp
      have active := episode.lasts (during ++ [call]) (List.prefix_refl _)
      rw [split] at active ⊢
      rw [(Linux.run_append config _ call).marked (Linux.run_marked config _) active,
        ih episode.of_append, List.foldl_append]
      rfl

end

/-- A recovery reports the time since the fallback became active exactly where the mark
was left at that time. -/
theorem recoveryTime_iff (config : MeetingConfig) {calls : List Call} {nowMs : Int}
    (active : (Linux.run config calls).fallback.active = true)
    (ordered : Ordered (calls ++ [⟨.fallbackRecovered, nowMs⟩])) :
    (∃ before start during, calls = before ++ start :: during ∧
      Episode config before start during) ∧
    ∀ before start during, calls = before ++ start :: during →
      Episode config before start during →
      ((Linux.run config (calls ++ [⟨.fallbackRecovered, nowMs⟩])).fallback.lastRtoMs =
          some (nowMs - start.nowMs) ↔
        Timed (Linux.run config before).fallback.activatedAtMs start during) := by
  refine ⟨exists_episode active, ?_⟩
  rintro before start during rfl episode
  obtain ⟨past, _, present⟩ := List.pairwise_append.mp ordered
  obtain ⟨_, episodeOrdered, _⟩ := List.pairwise_append.mp past
  obtain ⟨later, during_ordered⟩ := List.pairwise_cons.mp episodeOrdered
  have reported : (Linux.run config (before ++ start :: during ++
      [⟨.fallbackRecovered, nowMs⟩])).fallback.lastRtoMs =
        (Linux.run config (before ++ start :: during)).fallback.activatedAtMs.map
          fun activated => max (nowMs - activated) 0 := by
    unfold Linux.run
    rw [List.foldl_append]
    rfl
  have started : start.nowMs ≤ nowMs := present start (by simp) _ List.mem_cons_self
  obtain ⟨call, member, same⟩ := Linux.run_mark config _ episode.mark
  have marked := present call member _ List.mem_cons_self
  rw [same] at marked
  have first : (if start.event.activates then start.nowMs
      else (Linux.run config before).fallback.activatedAtMs.getD start.nowMs) = start.nowMs ↔
        start.event.activates = true ∨
          ∀ mark ∈ (Linux.run config before).fallback.activatedAtMs, mark = start.nowMs := by
    cases (Linux.run config before).fallback.activatedAtMs <;>
      cases start.event.activates <;> simp
  have stays := foldl_remark_iff (if start.event.activates then start.nowMs
    else (Linux.run config before).fallback.activatedAtMs.getD start.nowMs) during_ordered later
  rw [reported, episode.mark, Option.map_some, Option.some.injEq]
  generalize during.foldl remark _ = mark at marked stays ⊢
  have counts : max (nowMs - mark) 0 = nowMs - start.nowMs ↔ mark = start.nowMs := by
    dsimp only at marked
    omega
  rw [counts, stays, first]
  constructor
  · rintro ⟨unmoved, moved | starts | older⟩
    · exact ⟨unmoved, .inr (.inl moved)⟩
    · exact ⟨unmoved, .inl starts⟩
    · exact ⟨unmoved, .inr (.inr older)⟩
  · rintro ⟨unmoved, starts | moved | older⟩
    · exact ⟨unmoved, .inr (.inl starts)⟩
    · exact ⟨unmoved, .inl moved⟩
    · exact ⟨unmoved, .inr (.inr older)⟩

/-- The fallback is activated and recovered once. -/
def exampleOutage : List Call :=
  [⟨.fallbackActivated "no transport", 100⟩, ⟨.frameSendFailed "closed", 150⟩]

theorem recoveryTime_example :
    (Linux.run exampleConfig (exampleOutage ++ [⟨.fallbackRecovered, 400⟩])).fallback.lastRtoMs =
        some 300 ∧
      ∀ before start during, exampleOutage = before ++ start :: during →
        Episode exampleConfig before start during →
        ((Linux.run exampleConfig
            (exampleOutage ++ [⟨.fallbackRecovered, 400⟩])).fallback.lastRtoMs =
            some (400 - start.nowMs) ↔
          Timed (Linux.run exampleConfig before).fallback.activatedAtMs start during) :=
  ⟨rfl, (recoveryTime_iff exampleConfig rfl (by unfold Ordered exampleOutage; decide)).2⟩

/-- After a recovery an unsigned key epoch activates the fallback once more. -/
def exampleRelapse : List Call :=
  [⟨.fallbackActivated "no transport", 100⟩, ⟨.fallbackRecovered, 200⟩]

def exampleRejection : Call :=
  ⟨.frameReceived (.e2eeKeyEpoch
    { epoch := 1, issuedBy := "bob", signature := none, sentAtMs := 5000 }),
    5000⟩

/-- The second recovery counts from the first activation. -/
theorem recoveryTime_stale :
    ¬ ∀ (config : MeetingConfig) (calls : List Call) (nowMs : Int) (before during : List Call)
      (start : Call), (Linux.run config calls).fallback.active = true →
        Ordered (calls ++ [⟨.fallbackRecovered, nowMs⟩]) → calls = before ++ start :: during →
          Episode config before start during →
            (Linux.run config (calls ++ [⟨.fallbackRecovered, nowMs⟩])).fallback.lastRtoMs =
              some (nowMs - start.nowMs) := by
  intro claimed
  have episode : Episode exampleConfig exampleRelapse exampleRejection [] := by
    refine ⟨rfl, fun part front => ?_⟩
    rw [List.prefix_nil.mp front]
    rfl
  have wrong := claimed exampleConfig (exampleRelapse ++ [exampleRejection]) 5300 exampleRelapse []
    exampleRejection rfl (by unfold Ordered; decide) rfl episode
  have reported : (Linux.run exampleConfig (exampleRelapse ++ [exampleRejection] ++
      [⟨.fallbackRecovered, 5300⟩])).fallback.lastRtoMs = some 5200 := rfl
  rw [reported] at wrong
  exact absurd wrong (by decide)

end Kaigi.Session
