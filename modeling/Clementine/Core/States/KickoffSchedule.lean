import Clementine.Core.States.KickoffOnce

/-!
# Matchers of a kickoff machine do not shadow each other

The matchers of a machine are keyed by their condition, so an insertion replaces a matcher that
waits for the same condition.  The heights at which a watchtower challenge and the latest block
hash are sent come from different bases, and they can be the same: then the later insertion
replaces the earlier event, which is never delivered.
-/

namespace Clementine

open List

namespace KickoffEntry

variable (entry : KickoffEntry)

/-- An insertion of the step replaces a pending matcher with a different event: one from before
the step other than those of the handled event, or one that the step inserted before. -/
def Shadows : Prop :=
  ∃ earlier insertion later, entry.insertions = earlier ++ insertion :: later ∧
    ∃ found, found ≠ insertion.2 ∧
      ((entry.before.matchers.lookup insertion.1 = some found ∧ entry.cause ≠ .handled found) ∨
        (insertion.1, found) ∈ earlier)

/-- The events that the step schedules for a height. -/
def Scheduled (height : UInt32) (event : KickoffEvent) : Prop :=
  (.blockHeight height, event) ∈ entry.insertions

/-- The ids of the transactions that the step starts to wait for. -/
def timeoutTxids : List Txid :=
  entry.insertions.filterMap fun insertion =>
    match insertion.1 with
    | .sentTx txid => some txid
    | _ => none

/-- The height of the watchtower challenge. -/
def watchtowerChallengeHeight (config : StateConfig) : UInt32 :=
  entry.before.kickoffHeight + config.timeToSendWatchtowerChallenge.toUInt32

/-- The step schedules the latest block hash for the height of a watchtower challenge that it
schedules too or that was not sent yet. -/
def Collides (config : StateConfig) : Prop :=
  entry.Scheduled (KickoffStateMachine.scheduledHeight config entry.height)
      .timeToSendLatestBlockhash ∧
    entry.watchtowerChallengeHeight config =
      KickoffStateMachine.scheduledHeight config entry.height ∧
    (entry.cause = .handled .challenged ∨
      entry.before.matchers.lookup (.blockHeight (entry.watchtowerChallengeHeight config)) =
        some .timeToSendWatchtowerChallenge)

instance (height : UInt32) (event : KickoffEvent) : Decidable (entry.Scheduled height event) :=
  inferInstanceAs (Decidable (_ ∈ entry.insertions))

instance (config : StateConfig) : Decidable (entry.Collides config) :=
  inferInstanceAs (Decidable (_ ∧ _ ∧ _))

end KickoffEntry

namespace KickoffStateMachine

open StateManager

variable {library : BuilderLibrary} {config : StateConfig} {chain : UInt32 → Block}
  {trace : List KickoffEntry} {machine : KickoffStateMachine} {position : BlockPosition}

/-- What is scheduled for a height before the position was delivered later, unless the machine is
closed. -/
def DeliversScheduled (trace : List KickoffEntry) (machine : KickoffStateMachine)
    (position : BlockPosition) : Prop :=
  ∀ next, position = .before next → machine.state ≠ .closed →
    ∀ earlier entry later, trace = earlier ++ entry :: later →
      ∀ height event, entry.Scheduled height event → height < next →
        ∃ delivery ∈ later, delivery.cause = .handled event

/-- The deposit of a new machine: the outputs of its kickoff are numbered in 32 bits, and the
timeouts of different watchtowers have different ids. -/
def SoundDeposit (trace : List KickoffEntry) : Prop :=
  ∀ entry ∈ trace, entry.cause = .created →
    2 * entry.before.depositData.getNumWatchtowers + 41 ≤ 2 ^ 32 ∧ entry.timeoutTxids.Nodup

instance (trace : List KickoffEntry) : Decidable (SoundDeposit trace) :=
  inferInstanceAs (Decidable (∀ entry ∈ trace, _))

/-! ## Matchers for heights -/

/-- Heights are waited for by a challenged machine, for one of the two events. -/
structure Timed (config : StateConfig) (machine : KickoffStateMachine) : Prop where
  challenged : ∀ height event, machine.matchers.lookup (.blockHeight height) = some event →
    machine.challenged = true
  event : ∀ height event, machine.matchers.lookup (.blockHeight height) = some event →
    event = .timeToSendLatestBlockhash ∨ (event = .timeToSendWatchtowerChallenge ∧
      height = machine.kickoffHeight + config.timeToSendWatchtowerChallenge.toUInt32)

variable {result : KickoffStateMachine × StateContext} {matchers : Matchers KickoffEvent}
variable {context : StateContext}

theorem Outcome.kickoffHeight {self : KickoffStateMachine} {event : KickoffEvent}
    (outcome : self.Outcome library context matchers event result) :
    result.1.kickoffHeight = self.kickoffHeight := by
  cases outcome with
  | challenged => rw [onChallengedEntry_fst]; rfl
  | watchtower => rw [advance_fst]; rfl
  | _ => rfl

variable {env : StateEnvironment} {height : UInt32}

theorem watchtowerChallengeHeight_blockContext (same : env.config = config) :
    machine.watchtowerChallengeHeight (blockContext library env chain height) =
      machine.kickoffHeight + config.timeToSendWatchtowerChallenge.toUInt32 := by
  unfold watchtowerChallengeHeight blockContext StateEnvironment.newContext
  rw [same]

theorem Timed.handled {event : KickoffEvent} (timed : Timed config machine)
    (same : env.config = config) (removed : Matchers.Removed event machine.matchers matchers)
    (outcome : machine.Outcome library (blockContext library env chain height) matchers event
      result) : Timed config result.1 := by
  refine ⟨?_, ?_⟩
  · intro due found present
    rcases outcome.lookup present with old | ⟨rfl, -, -⟩ | ⟨-, done, -, -⟩
    · rw [outcome.challenges, timed.challenged due found (removed.old old)]
      rfl
    · rw [outcome.challenges]
      simp
    · exact done.1
  · intro due found present
    rw [outcome.kickoffHeight]
    rcases outcome.lookup present with old | ⟨-, key, value⟩ | ⟨-, -, -, value⟩
    · exact timed.event due found (removed.old old)
    · rw [watchtowerChallengeHeight_blockContext same] at key
      exact .inr ⟨value, Matcher.blockHeight.inj key⟩
    · exact .inl value

/-- A new machine waits for no height. -/
theorem lookup_height_created {identity : Identity} {height due : UInt32} {event : KickoffEvent} :
    (entered library chain .created env height identity.machine).after.matchers.lookup
      (.blockHeight due) ≠ some event := by
  intro present
  rcases lookup_onEntry present with old | default | ⟨wrong, -⟩ | ⟨wrong, -⟩
  · simp [new] at old
  · exact default.noHeight due rfl
  · cases wrong
  · cases wrong

/-- A run without restarts waits for heights only when it is challenged. -/
theorem Run.timed (run : Run library config chain trace machine position)
    (uninterrupted : Uninterrupted trace) : Timed config machine := by
  induction run with
  | created =>
    exact ⟨fun _ _ present => absurd present lookup_height_created,
      fun _ _ present => absurd present lookup_height_created⟩
  | started _ ih => exact ih uninterrupted
  | @handled trace machine height env event run same matched clean ih =>
    have tracked := run.tracked
    have before := ih fun entry member => uninterrupted entry (mem_append_left _ member)
    obtain ⟨matchers, removed, outcome⟩ := tracked.outcome matched clean
    exact before.handled same removed outcome
  | finished _ _ _ ih => exact ih uninterrupted
  | saved _ ih => exact ⟨(ih uninterrupted).challenged, (ih uninterrupted).event⟩
  | reloaded =>
    exact absurd rfl (uninterrupted _ (mem_append_right _ (mem_singleton_self _)))

/-! ## Insertions that replace an event -/

theorem mem_untilError {α β : Type} {entries : List (Except α β)} {value : β}
    (member : value ∈ untilError entries) : .ok value ∈ entries := by
  induction entries with
  | nil => cases member
  | cons entry rest ih =>
    cases entry with
    | error failure => cases member
    | ok first =>
      rcases mem_cons.mp member with rfl | later
      · exact mem_cons_self
      · exact mem_cons_of_mem _ (ih later)

/-- The insertions of a new machine are default matchers. -/
theorem isDefault_of_defaultEntries {insertion : Matcher × KickoffEvent}
    (member : insertion ∈ untilError (machine.defaultEntries library context)) :
    IsDefault machine.depositData.getNumWatchtowers insertion.1 insertion.2 := by
  have inEntries := mem_untilError member
  unfold defaultEntries at inEntries
  split at inEntries
  · simp at inEntries
  · split at inEntries
    · simp at inEntries
    · exact isDefault_of_mem inEntries

/-- The insertions of a new machine replace no event: outputs have different numbers, and timeouts
different ids. -/
theorem shadows_created_iff {entry : KickoffEntry} {identity : Identity}
    (isCreated : entry = entered library chain .created env height identity.machine)
    (deposit : 2 * entry.before.depositData.getNumWatchtowers + 41 ≤ 2 ^ 32 ∧
      entry.timeoutTxids.Nodup) : entry.Shadows ↔ entry.Collides config := by
  have isDefault : ∀ insertion ∈ entry.insertions,
      IsDefault entry.before.depositData.getNumWatchtowers insertion.1 insertion.2 := by
    rw [isCreated]
    exact fun insertion member => isDefault_of_defaultEntries member
  refine iff_of_false ?_ ?_
  · rintro ⟨earlier, ⟨matcher, event⟩, later, split, found, differs, ⟨present, -⟩ | inEarlier⟩
    · rw [isCreated] at present
      simp [entered, new] at present
    · have first := isDefault _ (split ▸ mem_append_left _ inEarlier)
      have second := isDefault _ (split ▸ mem_append_right _ mem_cons_self)
      by_cases waits : ∃ txid, matcher = .sentTx txid
      · obtain ⟨txid, rfl⟩ := waits
        have distinct := deposit.2
        rw [KickoffEntry.timeoutTxids, split, filterMap_append] at distinct
        exact disjoint_of_nodup_append distinct (mem_filterMap.mpr ⟨_, inEarlier, rfl⟩)
          (mem_filterMap.mpr ⟨_, mem_cons_self, rfl⟩)
      · exact differs (first.event_eq deposit.1 (fun txid same => waits ⟨txid, same⟩) second)
  · rintro ⟨scheduled, -, -⟩
    exact (isDefault _ scheduled).noHeight _ rfl

/-- What a machine inserts when it handles an event. -/
theorem handledInsertions_cases {event : KickoffEvent} (same : env.config = config) :
    machine.handledInsertions (blockContext library env chain height) event = [] ∨
      machine.handledInsertions (blockContext library env chain height) event =
        [(.blockHeight (scheduledHeight config height), .timeToSendLatestBlockhash)] ∧
          event ≠ .challenged ∧ event.watchtower.isSome ∨
      event = .challenged ∧
        (machine.handledInsertions (blockContext library env chain height) event =
          [(.blockHeight (machine.kickoffHeight +
              config.timeToSendWatchtowerChallenge.toUInt32), .timeToSendWatchtowerChallenge)] ∨
        machine.handledInsertions (blockContext library env chain height) event =
          [(.blockHeight (machine.kickoffHeight +
              config.timeToSendWatchtowerChallenge.toUInt32), .timeToSendWatchtowerChallenge),
            (.blockHeight (scheduledHeight config height), .timeToSendLatestBlockhash)]) := by
  unfold handledInsertions challengedInsertions
  rw [latestBlockhashHeight_blockContext same, watchtowerChallengeHeight_blockContext same]
  by_cases challenged : event = .challenged
  · rw [if_pos challenged]
    refine .inr (.inr ⟨challenged, ?_⟩)
    split_ifs
    · exact .inr rfl
    · exact .inl rfl
  · rw [if_neg challenged]
    cases ofWatchtower : event.watchtower with
    | none => exact .inl rfl
    | some watchtowerIdx =>
      dsimp only
      split_ifs
      · exact .inr (.inl ⟨rfl, challenged, rfl⟩)
      · exact .inl rfl

theorem eq_of_singleton {α : Type} {value found : α} {earlier later : List α}
    (split : [value] = earlier ++ found :: later) : earlier = [] ∧ found = value := by
  cases earlier with
  | nil => exact ⟨rfl, (cons.inj split).1.symm⟩
  | cons first rest => simp at split

theorem eq_of_pair {α : Type} {first second found : α} {earlier later : List α}
    (split : [first, second] = earlier ++ found :: later) :
    (earlier = [] ∧ found = first) ∨ (earlier = [first] ∧ found = second) := by
  cases earlier with
  | nil => exact .inl ⟨rfl, (cons.inj split).1.symm⟩
  | cons head rest =>
    obtain ⟨rfl, tail⟩ := cons.inj split
    obtain ⟨rfl, rfl⟩ := eq_of_singleton tail
    exact .inr ⟨rfl, rfl⟩

/-- An event makes a machine replace another event exactly when the two heights collide. -/
theorem shadows_handled_iff {event : KickoffEvent} (timed : Timed config machine)
    (same : env.config = config) (unchallenged : event = .challenged → machine.challenged = false) :
    (handledEntry library chain env height machine event).Shadows ↔
      (handledEntry library chain env height machine event).Collides config := by
  have insertions : (handledEntry library chain env height machine event).insertions =
    machine.handledInsertions (blockContext library env chain height) event := rfl
  have standing : (handledEntry library chain env height machine event).height = height := rfl
  have before : (handledEntry library chain env height machine event).before = machine := rfl
  have cause : (handledEntry library chain env height machine event).cause = .handled event := rfl
  unfold KickoffEntry.Shadows KickoffEntry.Collides KickoffEntry.Scheduled
    KickoffEntry.watchtowerChallengeHeight
  rw [insertions, standing, before, cause]
  have noHeight : event = .challenged → ∀ due found,
      machine.matchers.lookup (.blockHeight due) ≠ some found := by
    intro challenged due found present
    have flagged := timed.challenged due found present
    rw [unchallenged challenged] at flagged
    cases flagged
  rcases @handledInsertions_cases library config chain machine env height event same with
    nothing | ⟨latest, other, ofWatchtower⟩ | ⟨challenged, one | both⟩
  · rw [nothing]
    refine iff_of_false ?_ (fun collides => not_mem_nil collides.1)
    rintro ⟨earlier, insertion, later, split, -⟩
    simp at split
  · rw [latest]
    refine ⟨?_, ?_⟩
    · rintro ⟨earlier, insertion, later, split, found, differs, pending⟩
      obtain ⟨rfl, rfl⟩ := eq_of_singleton split
      rcases pending with ⟨present, -⟩ | inEarlier
      · rcases timed.event _ _ present with value | ⟨rfl, equal⟩
        · exact absurd value differs
        · exact ⟨mem_singleton_self _, equal.symm, .inr (equal ▸ present)⟩
      · cases inEarlier
    · rintro ⟨-, equal, challenged | present⟩
      · exact absurd (KickoffCause.handled.inj challenged) other
      · refine ⟨[], _, [], rfl, .timeToSendWatchtowerChallenge, by simp, .inl ⟨equal ▸ present, ?_⟩⟩
        rintro ⟨⟩
        cases ofWatchtower
  · rw [one]
    refine iff_of_false ?_ ?_
    · rintro ⟨earlier, insertion, later, split, found, -, pending⟩
      obtain ⟨rfl, rfl⟩ := eq_of_singleton split
      rcases pending with ⟨present, -⟩ | inEarlier
      · exact noHeight challenged _ _ present
      · cases inEarlier
    · rintro ⟨scheduled, -⟩
      simp at scheduled
  · rw [both]
    refine ⟨?_, ?_⟩
    · rintro ⟨earlier, insertion, later, split, found, -, pending⟩
      rcases eq_of_pair split with ⟨rfl, rfl⟩ | ⟨rfl, rfl⟩
      · rcases pending with ⟨present, -⟩ | inEarlier
        · exact absurd present (noHeight challenged _ _)
        · cases inEarlier
      · rcases pending with ⟨present, -⟩ | inEarlier
        · exact absurd present (noHeight challenged _ _)
        · have key := congrArg Prod.fst (mem_singleton.mp inEarlier)
          exact ⟨mem_cons_of_mem _ (mem_singleton_self _),
            (Matcher.blockHeight.inj key).symm, .inl (congrArg _ challenged)⟩
    · rintro ⟨-, equal, -⟩
      refine ⟨[_], _, [], rfl, .timeToSendWatchtowerChallenge, by simp, .inr ?_⟩
      rw [equal]
      exact mem_singleton_self _

/-- In a run without restarts the insertions that replace an event are the collisions. -/
theorem Run.shadows_iff (run : Run library config chain trace machine position)
    (uninterrupted : Uninterrupted trace) (deposit : SoundDeposit trace) :
    ∀ entry ∈ trace, (entry.Shadows ↔ entry.Collides config) := by
  induction run with
  | created =>
    intro entry member
    have created := mem_singleton.mp member
    have cause : entry.cause = .created := by rw [created]; rfl
    exact shadows_created_iff created (deposit entry member cause)
  | started _ ih => exact ih uninterrupted deposit
  | @handled trace machine height env event run same matched clean ih =>
    have earlier : Uninterrupted trace := fun entry member =>
      uninterrupted entry (mem_append_left _ member)
    intro entry member
    rcases mem_append.mp member with old | new
    · exact ih earlier (fun entry member => deposit entry (mem_append_left _ member)) entry old
    · have tracked := run.tracked
      obtain ⟨matchers, removed, outcome⟩ := tracked.outcome matched clean
      rw [mem_singleton.mp new]
      refine shadows_handled_iff (run.timed earlier) same fun challenged => ?_
      by_contra flagged
      exact tracked.ne_challenged outcome (Bool.not_eq_false _ ▸ flagged) challenged
  | finished _ _ _ ih => exact ih uninterrupted deposit
  | saved _ ih => exact ih uninterrupted deposit
  | reloaded =>
    exact absurd rfl (uninterrupted _ (mem_append_right _ (mem_singleton_self _)))

/-! ## Delivery -/

section Delivery

variable {event : KickoffEvent}

/-- A pending matcher of another event is kept. -/
theorem lookup_kept {matcher : Matcher} {found : KickoffEvent}
    (outcome : BlockOutcome library chain env height machine matchers event)
    (removed : Matchers.Removed event machine.matchers matchers)
    (clean : ¬ (handledEntry library chain env height machine event).Shadows)
    (isOpen : (handledEntry library chain env height machine event).after.state ≠ .closed)
    (present : machine.matchers.lookup matcher = some found) (other : found ≠ event) :
    (handledEntry library chain env height machine event).after.matchers.lookup matcher =
      some found := by
  rw [handledEntry, outcome.matchers_eq isOpen]
  refine Matchers.lookup_insertAll (removed.kept present other) fun insertion member same => ?_
  by_contra differs
  obtain ⟨earlier, later, split⟩ := append_of_mem member
  exact clean ⟨earlier, insertion, later, split, found, Ne.symm differs,
    .inl ⟨same ▸ present, fun cause => other (KickoffCause.handled.inj cause).symm⟩⟩

/-- An inserted matcher is kept. -/
theorem lookup_inserted {matcher : Matcher} {found : KickoffEvent}
    (outcome : BlockOutcome library chain env height machine matchers event)
    (clean : ¬ (handledEntry library chain env height machine event).Shadows)
    (isOpen : (handledEntry library chain env height machine event).after.state ≠ .closed)
    (inserted : (matcher, found) ∈
      (handledEntry library chain env height machine event).insertions) :
    (handledEntry library chain env height machine event).after.matchers.lookup matcher =
      some found := by
  obtain ⟨earlier, later, split⟩ := append_of_mem inserted
  have insertions : machine.handledInsertions (blockContext library env chain height) event =
    earlier ++ (matcher, found) :: later := split
  rw [handledEntry, outcome.matchers_eq isOpen, insertions]
  refine Matchers.lookup_insertAll_append fun insertion member same => ?_
  by_contra differs
  obtain ⟨between, rest, splitLater⟩ := append_of_mem member
  refine clean ⟨earlier ++ (matcher, found) :: between, insertion, rest, ?_, found,
    Ne.symm differs, .inr ?_⟩
  · rw [split, splitLater, append_assoc, cons_append]
  · rw [same]
    exact mem_append_right _ mem_cons_self

/-- What was scheduled is delivered or pending, or the machine is closed. -/
theorem Run.awaited (run : Run library config chain trace machine position)
    (uninterrupted : Uninterrupted trace) (clean : ∀ entry ∈ trace, ¬ entry.Shadows) :
    ∀ earlier entry later, trace = earlier ++ entry :: later → ∀ due found,
      entry.Scheduled due found → (∃ delivery ∈ later, delivery.cause = .handled found) ∨
          machine.matchers.lookup (.blockHeight due) = some found ∨ machine.state = .closed := by
  induction run with
  | created =>
    intro earlier entry later split due found scheduled
    obtain ⟨-, rfl⟩ := eq_of_singleton split
    exact absurd rfl ((isDefault_of_defaultEntries scheduled).noHeight due)
  | started _ ih => exact ih uninterrupted clean
  | @handled trace machine height env event run same matched errorFree ih =>
    have tracked := run.tracked
    obtain ⟨matchers, removed, outcome⟩ := tracked.outcome matched errorFree
    have step := clean _ (mem_append_right _ (mem_singleton_self _))
    intro earlier entry later split due found scheduled
    by_cases closed : (handledEntry library chain env height machine event).after.state = .closed
    · exact .inr (.inr closed)
    rcases eq_nil_or_concat later with rfl | ⟨between, last, rfl⟩
    · obtain ⟨-, same⟩ := append_inj' split rfl
      rw [← (cons.inj same).1] at scheduled
      exact .inr (.inl (lookup_inserted outcome step closed scheduled))
    · rw [concat_eq_append, ← cons_append, ← append_assoc] at split
      obtain ⟨before, same⟩ := append_inj' split rfl
      have isLast := (cons.inj same).1
      rw [concat_eq_append]
      have old := ih (fun entry member => uninterrupted entry (mem_append_left _ member))
        (fun entry member => clean entry (mem_append_left _ member))
        earlier entry between before due found scheduled
      rcases old with ⟨delivery, member, cause⟩ | pending | wasClosed
      · exact .inl ⟨delivery, mem_append_left _ member, cause⟩
      · by_cases delivered : found = event
        · refine .inl ⟨last, mem_append_right _ (mem_singleton_self _), ?_⟩
          rw [← isLast, delivered]
          rfl
        · exact .inr (.inl (lookup_kept outcome removed step closed pending delivered))
      · exact absurd wasClosed (tracked.isOpen matched)
  | finished _ _ _ ih => exact ih uninterrupted clean
  | saved _ ih => exact ih uninterrupted clean
  | reloaded =>
    exact absurd rfl (uninterrupted _ (mem_append_right _ (mem_singleton_self _)))

/-- Before a block no matcher waits for an earlier height. -/
theorem Run.due (run : Run library config chain trace machine position)
    (uninterrupted : Uninterrupted trace) :
    ∀ next, position = .before next → ∀ due found,
      machine.matchers.lookup (.blockHeight due) = some found → next ≤ due := by
  induction run with
  | created => exact fun _ _ _ _ present => absurd present lookup_height_created
  | started => exact fun _ standing => by cases standing
  | handled => exact fun _ standing => by cases standing
  | @finished trace machine height _ quiet bound _ =>
    rintro next ⟨⟩ due found present
    rw [UInt32.le_iff_toNat_le, toNat_next bound]
    exact UInt32.lt_iff_toNat_lt.mp (lt_of_matchBlock_eq_none quiet present)
  | saved _ ih =>
    rintro next ⟨⟩
    exact ih uninterrupted _ rfl
  | reloaded =>
    exact absurd rfl (uninterrupted _ (mem_append_right _ (mem_singleton_self _)))

/-- In a run without restarts no insertion replaces a pending matcher of a different event, and
every event that is scheduled for a height is delivered, exactly when the heights of the
watchtower challenge and of the latest block hash do not collide. -/
theorem scheduled_events_kept_iff (run : Run library config chain trace machine position)
    (uninterrupted : Uninterrupted trace) (deposit : SoundDeposit trace) :
    ((∀ entry ∈ trace, ¬ entry.Shadows) ∧ DeliversScheduled trace machine position) ↔
      ∀ entry ∈ trace, ¬ entry.Collides config := by
  have same := run.shadows_iff uninterrupted deposit
  refine ⟨fun kept entry member collides => kept.1 entry member ((same entry member).mpr collides),
    fun separate => ?_⟩
  have clean : ∀ entry ∈ trace, ¬ entry.Shadows := fun entry member shadows =>
    separate entry member ((same entry member).mp shadows)
  refine ⟨clean, ?_⟩
  intro next standing isOpen earlier entry later split height event scheduled processed
  rcases run.awaited uninterrupted clean earlier entry later split height event scheduled with
    delivered | pending | closed
  · exact delivered
  · have waits := run.due uninterrupted next standing height event pending
    exact absurd processed (UInt32.not_lt.mpr waits)
  · exact absurd closed isOpen

/-- A challenged kickoff of the deployment. -/
theorem scheduled_events_kept_challenged :
    ∃ trace machine position, Run Regtest.library Regtest.config Regtest.challengedChain trace
      machine position ∧
      (∃ entry ∈ trace, entry.Scheduled 193 .timeToSendLatestBlockhash) ∧
      (∀ entry ∈ trace, ¬ entry.Shadows) ∧ DeliversScheduled trace machine position := by
  have executed : (Regtest.kickoffTrace (Regtest.environmentOf Regtest.challengedChain)
      Regtest.challengedChain [false, false, false]).map (fun result =>
        (result.1.map KickoffEntry.cause, decide (SoundDeposit result.1),
          decide (∃ entry ∈ result.1, entry.Scheduled 193 .timeToSendLatestBlockhash),
          decide (∀ entry ∈ result.1, ¬ entry.Collides Regtest.config))) =
      some ([.created, .handled .challenged, .handled (.watchtowerChallengeSent 0
        (Regtest.kickoffOutput (.watchtowerChallenge 0))), .handled .timeToSendLatestBlockhash],
        true, true, true) := by
    decide +kernel
  obtain ⟨⟨trace, machine⟩, found, values⟩ := Option.map_eq_some_iff.mp executed
  have run := Regtest.run_of_kickoffTrace (by decide +kernel) (by decide) found
  simp only [Prod.mk.injEq, decide_eq_true_eq] at values
  obtain ⟨causes, deposit, scheduled, separate⟩ := values
  have uninterrupted : Uninterrupted trace := by
    intro entry member same
    have listed := mem_map_of_mem member (f := KickoffEntry.cause)
    rw [causes, same] at listed
    simp at listed
  exact ⟨trace, machine, _, run, scheduled,
    (scheduled_events_kept_iff run uninterrupted deposit).mpr separate⟩

end Delivery

end KickoffStateMachine

namespace Regtest

/-- The parameters, with a watchtower challenge one block after the kickoff. -/
def eagerConfig : StateConfig := { config with timeToSendWatchtowerChallenge := 1 }

/-- The kickoff, and then a watchtower challenge and a challenge in one block. -/
def collidingChain (height : UInt32) : Block :=
  blockWith height
    (match height with
    | 191 => [spendingTx (spendsOf .kickoff)]
    | 192 => [spendingTx [kickoffOutput (.watchtowerChallenge 0)],
        spendingTx [kickoffOutput .challenge]]
    | _ => [])

/-- The environment of these blocks. -/
def eagerEnvironment : StateEnvironment :=
  { environmentOf collidingChain with config := eagerConfig }

end Regtest

namespace KickoffStateMachine

/-- The watchtower challenge is scheduled for the block in which the latest block hash is sent,
and it is never delivered. -/
theorem watchtower_challenge_lost :
    ∃ trace machine position, Run Regtest.library Regtest.eagerConfig Regtest.collidingChain trace
      machine position ∧ Uninterrupted trace ∧ SoundDeposit trace ∧
      ¬ DeliversScheduled trace machine position := by
  have executed : (Regtest.kickoffTrace Regtest.eagerEnvironment Regtest.collidingChain
      [false, false]).map (fun result => (result.1.map KickoffEntry.cause,
        decide (SoundDeposit result.1), result.2.state, decide (∃ entry ∈ result.1,
          entry.Scheduled 192 .timeToSendWatchtowerChallenge))) =
      some ([.created, .handled (.watchtowerChallengeSent 0
        (Regtest.kickoffOutput (.watchtowerChallenge 0))), .handled .challenged,
        .handled .timeToSendLatestBlockhash], true, .challenged, true) := by
    decide +kernel
  obtain ⟨⟨trace, machine⟩, found, values⟩ := Option.map_eq_some_iff.mp executed
  have run := Regtest.run_of_kickoffTrace (by decide +kernel) (by decide) found
  simp only [Prod.mk.injEq, decide_eq_true_eq] at values
  obtain ⟨causes, deposit, standing, entry, member, scheduled⟩ := values
  have listed : ∀ other ∈ trace, other.cause ∈ [KickoffCause.created,
      .handled (.watchtowerChallengeSent 0 (Regtest.kickoffOutput (.watchtowerChallenge 0))),
      .handled .challenged, .handled .timeToSendLatestBlockhash] := by
    intro other inTrace
    rw [← causes]
    exact mem_map_of_mem inTrace
  refine ⟨trace, machine, _, run, ?_, deposit, fun delivers => ?_⟩
  · intro other inTrace same
    have cause := listed other inTrace
    simp [same] at cause
  · obtain ⟨earlier, later, split⟩ := append_of_mem member
    obtain ⟨delivery, inLater, same⟩ := delivers _ rfl (by simp [standing]) earlier entry later
      split 192 .timeToSendWatchtowerChallenge scheduled (by decide)
    have cause := listed delivery (split ▸ mem_append_right _ (mem_cons_of_mem _ inLater))
    simp [same] at cause

end KickoffStateMachine

end Clementine
