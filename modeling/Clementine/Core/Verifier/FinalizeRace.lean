import Clementine.Core.Verifier.Sessions

/-!
# Signing and finalizing one deposit

The aggregator opens `deposit_sign` and `deposit_finalize` of a verifier for the same session.
The task of `deposit_sign` takes the session out of the store, sends a partial signature for
every aggregated nonce and puts the session back with the two nonces that are left.  The
aggregator forwards a final signature when it has the partial signatures of all verifiers for
it.  `deposit_finalize` verifies the final signatures and then pops the two nonces.

All tasks take turns in any order.  An honest aggregator sends exactly the aggregated nonces
that are needed.
-/

namespace Clementine

open AllSessions

/-- The task spawned by `deposit_sign`. -/
inductive SignTask (SecretNonce : Type) where
  | starting
  | signing (session : NonceSession SecretNonce) (nonceIdx : Nat)
  | puttingBack (session : NonceSession SecretNonce)
  | finished
  | failed (cause : Failure Report)
  deriving DecidableEq

/-- `deposit_finalize`. -/
inductive FinalizeTask (SecretNonce : Type) where
  | verifying
  | poppedMoveTx (movetxSecnonce : SecretNonce)
  | popped (movetxSecnonce emergencyStopSecnonce : SecretNonce)
  | failed (cause : Failure Report)
  deriving DecidableEq

/-- The two tasks, the store between them and the signatures on their way. -/
structure DepositRun (SecretNonce : Type) where
  nonces : AllSessions SecretNonce
  signTask : SignTask SecretNonce
  /-- Partial signatures of this verifier. -/
  partialSigs : Nat
  /-- Partial signatures of each other verifier. -/
  otherPartialSigs : List Nat
  /-- Final signatures forwarded by the aggregator. -/
  finalSigs : Nat
  verifiedSigs : Nat
  finalizeTask : FinalizeTask SecretNonce

/-- What can happen next. -/
inductive DepositEvent where
  | takeSession
  | sign
  | channelClosed
  | putBack
  | otherPartialSig (verifier : Nat)
  | forwardFinalSig
  | verifyFinalSig
  | popMoveTx
  | popEmergencyStop

namespace DepositRun

variable {SecretNonce : Type}

/-- Both tasks before they use the store. -/
def start (nonces : AllSessions SecretNonce) (otherVerifiers : Nat) : DepositRun SecretNonce where
  nonces := nonces
  signTask := .starting
  partialSigs := 0
  otherPartialSigs := List.replicate otherVerifiers 0
  finalSigs := 0
  verifiedSigs := 0
  finalizeTask := .verifying

section Steps

variable (sessionId : SessionId) (numRequiredSigs : Nat) (self : DepositRun SecretNonce)

/-- `deposit_sign` takes the session and checks its size. -/
def takeSession : DepositRun SecretNonce :=
  match self.signTask with
  | .starting =>
    match self.nonces.removeSessionWithId sessionId with
    | (.error cause, nonces) => { self with nonces, signTask := .failed cause }
    | (.ok session, nonces) =>
      { self with
        nonces
        signTask :=
          if numRequiredSigs + 2 ≠ session.nonces.length then
            .failed (.error (.text
              (s!"Expected nonce count to be {numRequiredSigs + 2} (num_required_sigs + 2, " ++
                s!"for movetx & emergency stop), got {session.nonces.length}")))
          else
            .signing ⟨session.nonces.reverse⟩ 0 }
  | _ => self

/-- One turn of the loop of `deposit_sign`, for one of the aggregated nonces. -/
def sign : DepositRun SecretNonce :=
  match self.signTask with
  | .signing session nonceIdx =>
    if nonceIdx = numRequiredSigs then self
    else
      match session.nonces.getLast? with
      | none => { self with signTask := .failed (.error (.text "No nonce available")) }
      | some _ =>
        { self with
          partialSigs := self.partialSigs + 1
          signTask :=
            if nonceIdx + 1 = numRequiredSigs then .puttingBack ⟨session.nonces.dropLast⟩
            else .signing ⟨session.nonces.dropLast⟩ (nonceIdx + 1) }
  | _ => self

/-- The channel of aggregated nonces ends after the last one. -/
def channelClosed : DepositRun SecretNonce :=
  match self.signTask with
  | .signing session nonceIdx =>
    if nonceIdx = numRequiredSigs then { self with signTask := .puttingBack session } else self
  | _ => self

/-- `deposit_sign` after its loop. -/
def putBack : DepositRun SecretNonce :=
  match self.signTask with
  | .puttingBack session =>
    if session.nonces.length ≠ 2 then
      { self with
        signTask := .failed (.error (.text
          ("Expected 2 nonces remaining in session, one for move tx and one for emergency " ++
            s!"stop, got {session.nonces.length}, indicating aggregated nonce stream ended " ++
            "prematurely"))) }
    else
      match self.nonces.addNewSessionWithId session sessionId with
      | (.error cause, nonces) => { self with nonces, signTask := .failed cause }
      | (.ok (), nonces) => { self with nonces, signTask := .finished }
  | _ => self

/-- The aggregator forwards a final signature that all verifiers have signed. -/
def forwardFinalSig : DepositRun SecretNonce :=
  if self.finalSigs < self.partialSigs ∧
      ∀ received ∈ self.otherPartialSigs, self.finalSigs < received then
    { self with finalSigs := self.finalSigs + 1 }
  else
    self

def verifyFinalSig : DepositRun SecretNonce :=
  if self.verifiedSigs < self.finalSigs then { self with verifiedSigs := self.verifiedSigs + 1 }
  else self

/-- `deposit_finalize` pops the nonce of the move transaction. -/
def popMoveTx : DepositRun SecretNonce :=
  match self.finalizeTask with
  | .verifying =>
    if self.verifiedSigs ≠ numRequiredSigs then self
    else
      match self.nonces.popNonce sessionId "No move tx secnonce in session" with
      | (.error cause, nonces) => { self with nonces, finalizeTask := .failed cause }
      | (.ok nonce, nonces) => { self with nonces, finalizeTask := .poppedMoveTx nonce }
  | _ => self

/-- `deposit_finalize` pops the nonce of the emergency stop transaction. -/
def popEmergencyStop : DepositRun SecretNonce :=
  match self.finalizeTask with
  | .poppedMoveTx movetxSecnonce =>
    match self.nonces.popNonce sessionId "No emergency stop secnonce in session" with
    | (.error cause, nonces) => { self with nonces, finalizeTask := .failed cause }
    | (.ok nonce, nonces) => { self with nonces, finalizeTask := .popped movetxSecnonce nonce }
  | _ => self

/-- What an event does. -/
def step : DepositEvent → DepositRun SecretNonce
  | .takeSession => self.takeSession sessionId numRequiredSigs
  | .sign => self.sign numRequiredSigs
  | .channelClosed => self.channelClosed numRequiredSigs
  | .putBack => self.putBack sessionId
  | .otherPartialSig verifier =>
    { self with otherPartialSigs := self.otherPartialSigs.modify verifier (· + 1) }
  | .forwardFinalSig => self.forwardFinalSig
  | .verifyFinalSig => self.verifyFinalSig
  | .popMoveTx => self.popMoveTx sessionId numRequiredSigs
  | .popEmergencyStop => self.popEmergencyStop sessionId

/-- A sequence of events. -/
def run (events : List DepositEvent) : DepositRun SecretNonce :=
  events.foldl (fun state event => state.step sessionId numRequiredSigs event) self

/-- The session is there with two nonces, and whatever happens next `deposit_finalize` does not
fail to get them. -/
def FindsNonces : Prop :=
  (∃ session, self.nonces.sessions.lookup sessionId = some session ∧ session.nonces.length = 2) ∧
    ∀ events cause, (self.run sessionId numRequiredSigs events).finalizeTask ≠ .failed cause

end Steps

/-! ## Where the nonces are -/

section Places

variable {sessionId : SessionId} {numRequiredSigs : Nat} {self : DepositRun SecretNonce}

/-- Where the session is while `deposit_finalize` verifies signatures. -/
def Place (sessionId : SessionId) (numRequiredSigs : Nat) (self : DepositRun SecretNonce) : Prop :=
  match self.signTask with
  | .starting => self.partialSigs = 0 ∧
      ∃ session, self.nonces.sessions.lookup sessionId = some session ∧
        session.nonces.length = numRequiredSigs + 2
  | .signing session nonceIdx => self.partialSigs = nonceIdx ∧ nonceIdx ≤ numRequiredSigs ∧
      sessionId ∉ self.nonces.sessions ∧ session.nonces.length + nonceIdx = numRequiredSigs + 2
  | .puttingBack session => sessionId ∉ self.nonces.sessions ∧ session.nonces.length = 2
  | .finished => ∃ session, self.nonces.sessions.lookup sessionId = some session ∧
      session.nonces.length = 2
  | .failed _ => False

/-- What holds until `deposit_finalize` looks for the session. -/
structure Verifying (sessionId : SessionId) (numRequiredSigs : Nat)
    (state : DepositRun SecretNonce) : Prop where
  store : state.nonces.Consistent
  verified_le : state.verifiedSigs ≤ state.finalSigs
  final_le : state.finalSigs ≤ state.partialSigs
  place : state.Place sessionId numRequiredSigs

variable {session : NonceSession SecretNonce}

theorem verifying_start {nonces : AllSessions SecretNonce} {otherVerifiers : Nat}
    (store : nonces.Consistent) (found : nonces.sessions.lookup sessionId = some session)
    (length : session.nonces.length = numRequiredSigs + 2) :
    Verifying sessionId numRequiredSigs (start nonces otherVerifiers) :=
  ⟨store, Nat.le_refl _, Nat.le_refl _, rfl, session, found, length⟩

section

variable (before : Verifying sessionId numRequiredSigs self)

include before

theorem Verifying.takeSession :
    Verifying sessionId numRequiredSigs (self.takeSession sessionId numRequiredSigs) := by
  unfold DepositRun.takeSession
  split
  next starting =>
      have place := before.place
      simp only [Place, starting] at place
      obtain ⟨unsigned, session, found, length⟩ := place
      simp only [removeSessionWithId, found, length, ne_eq, not_true_eq_false, if_false]
      refine ⟨before.store.erase found, before.verified_le, before.final_le, unsigned,
        Nat.zero_le _, ?_, ?_⟩
      · simp
      · simp [length]
  next => exact before

theorem Verifying.sign : Verifying sessionId numRequiredSigs (self.sign numRequiredSigs) := by
  unfold DepositRun.sign
  split
  next session nonceIdx signing =>
      have place := before.place
      simp only [Place, signing] at place
      obtain ⟨sent, notMore, absent, length⟩ := place
      have shorter : session.nonces.dropLast.length = session.nonces.length - 1 :=
        List.length_dropLast
      by_cases all : nonceIdx = numRequiredSigs
      · rwa [if_pos all]
      · rw [if_neg all]
        split
        next none =>
            rw [List.getLast?_eq_none_iff] at none
            simp only [none, List.length_nil] at length
            omega
        next =>
            refine ⟨before.store, before.verified_le, Nat.le_succ_of_le before.final_le, ?_⟩
            by_cases last : nonceIdx + 1 = numRequiredSigs
            · simp only [Place, if_pos last]
              exact ⟨absent, by omega⟩
            · simp only [Place, if_neg last]
              exact ⟨by omega, by omega, absent, by omega⟩
  next => exact before

theorem Verifying.channelClosed :
    Verifying sessionId numRequiredSigs (self.channelClosed numRequiredSigs) := by
  unfold DepositRun.channelClosed
  split
  next session nonceIdx signing =>
      have place := before.place
      simp only [Place, signing] at place
      obtain ⟨sent, notMore, absent, length⟩ := place
      split_ifs with all
      · exact ⟨before.store, before.verified_le, before.final_le, absent, by omega⟩
      · exact before
  next => exact before

theorem Verifying.putBack : Verifying sessionId numRequiredSigs (self.putBack sessionId) := by
  unfold DepositRun.putBack
  split
  next session puttingBack =>
      have place := before.place
      simp only [Place, puttingBack] at place
      obtain ⟨absent, length⟩ := place
      have small : bytes session ≤ maxAllSessionsBytes := by
        rw [bytes, length]
        decide
      have nonempty := List.ne_nil_of_length_eq_add_one length
      have kept := (before.store.addNewSessionWithId small sessionId).1
      obtain ⟨count, added, -⟩ :=
        exists_addNewSessionWithId before.store small nonempty absent
      rw [added] at kept
      rw [if_neg (not_not.mpr length), added]
      exact ⟨kept, before.verified_le, before.final_le, session, AList.lookup_insert _, length⟩
  next => exact before

theorem Verifying.forwardFinalSig : Verifying sessionId numRequiredSigs self.forwardFinalSig := by
  unfold DepositRun.forwardFinalSig
  split_ifs with complete
  · exact ⟨before.store, Nat.le_succ_of_le before.verified_le, complete.1, before.place⟩
  · exact before

theorem Verifying.verifyFinalSig : Verifying sessionId numRequiredSigs self.verifyFinalSig := by
  unfold DepositRun.verifyFinalSig
  split_ifs with more
  · exact ⟨before.store, more, before.final_le, before.place⟩
  · exact before

end

theorem verifying_of_popMoveTx
    (after : (self.popMoveTx sessionId numRequiredSigs).finalizeTask = .verifying) :
    self.popMoveTx sessionId numRequiredSigs = self ∧ self.finalizeTask = .verifying := by
  unfold popMoveTx at after ⊢
  split at after
  next verifying =>
      split_ifs at after with unfinished
      · rw [if_pos unfinished]
        exact ⟨rfl, verifying⟩
      · split at after <;> cases after
  next => exact ⟨rfl, after⟩

theorem verifying_of_popEmergencyStop
    (after : (self.popEmergencyStop sessionId).finalizeTask = .verifying) :
    self.popEmergencyStop sessionId = self ∧ self.finalizeTask = .verifying := by
  unfold popEmergencyStop at after ⊢
  split at after
  next => split at after <;> cases after
  next => exact ⟨rfl, after⟩

variable {event : DepositEvent}

/-- Only the pops change the state of `deposit_finalize`. -/
theorem finalizeTask_step (noPop : event ≠ .popMoveTx) (noSecondPop : event ≠ .popEmergencyStop) :
    (self.step sessionId numRequiredSigs event).finalizeTask = self.finalizeTask := by
  cases event with
  | takeSession =>
    rw [step, takeSession]
    (repeat' split) <;> rfl
  | sign =>
    rw [step, sign]
    (repeat' split) <;> rfl
  | channelClosed =>
    rw [step, channelClosed]
    (repeat' split) <;> rfl
  | putBack =>
    rw [step, putBack]
    (repeat' split) <;> rfl
  | otherPartialSig verifier => rfl
  | forwardFinalSig =>
    rw [step, forwardFinalSig]
    split_ifs <;> rfl
  | verifyFinalSig =>
    rw [step, verifyFinalSig]
    split_ifs <;> rfl
  | popMoveTx => exact absurd rfl noPop
  | popEmergencyStop => exact absurd rfl noSecondPop

/-- What every event keeps until `deposit_finalize` looks for the session. -/
theorem verifying_step
    (before : self.finalizeTask = .verifying → Verifying sessionId numRequiredSigs self)
    (after : (self.step sessionId numRequiredSigs event).finalizeTask = .verifying) :
    Verifying sessionId numRequiredSigs (self.step sessionId numRequiredSigs event) := by
  have kept (noPop : event ≠ .popMoveTx) (noSecondPop : event ≠ .popEmergencyStop) :=
    before ((finalizeTask_step noPop noSecondPop).symm.trans after)
  cases event with
  | takeSession => exact (kept nofun nofun).takeSession
  | sign => exact (kept nofun nofun).sign
  | channelClosed => exact (kept nofun nofun).channelClosed
  | putBack => exact (kept nofun nofun).putBack
  | otherPartialSig verifier =>
    have kept := before after
    exact ⟨kept.store, kept.verified_le, kept.final_le, kept.place⟩
  | forwardFinalSig => exact (kept nofun nofun).forwardFinalSig
  | verifyFinalSig => exact (kept nofun nofun).verifyFinalSig
  | popMoveTx =>
    obtain ⟨unchanged, verifying⟩ := verifying_of_popMoveTx after
    rw [step, unchanged]
    exact before verifying
  | popEmergencyStop =>
    obtain ⟨unchanged, verifying⟩ := verifying_of_popEmergencyStop after
    rw [step, unchanged]
    exact before verifying

variable {events : List DepositEvent}

theorem verifying_run
    (before : self.finalizeTask = .verifying → Verifying sessionId numRequiredSigs self)
    (after : (self.run sessionId numRequiredSigs events).finalizeTask = .verifying) :
    Verifying sessionId numRequiredSigs (self.run sessionId numRequiredSigs events) := by
  induction events generalizing self with
  | nil => exact before after
  | cons event events ih => exact ih (fun verifying => verifying_step before verifying) after

/-! ## After the session was put back -/

/-- The session was put back, and `deposit_finalize` has popped none, one or both nonces. -/
def PutBack (sessionId : SessionId) (self : DepositRun SecretNonce) : Prop :=
  self.signTask = .finished ∧
    match self.finalizeTask with
    | .verifying => ∃ session, self.nonces.sessions.lookup sessionId = some session ∧
        session.nonces.length = 2
    | .poppedMoveTx _ => ∃ session, self.nonces.sessions.lookup sessionId = some session ∧
        session.nonces.length = 1
    | .popped _ _ => True
    | .failed _ => False

theorem putBack_step (before : self.PutBack sessionId) :
    (self.step sessionId numRequiredSigs event).PutBack sessionId := by
  obtain ⟨finished, nonces⟩ := before
  cases event with
  | takeSession => simpa [step, takeSession, finished] using ⟨finished, nonces⟩
  | sign => simpa [step, sign, finished] using ⟨finished, nonces⟩
  | channelClosed => simpa [step, channelClosed, finished] using ⟨finished, nonces⟩
  | putBack => simpa [step, putBack, finished] using ⟨finished, nonces⟩
  | otherPartialSig verifier => exact ⟨finished, nonces⟩
  | forwardFinalSig =>
    rw [step, forwardFinalSig]
    split_ifs <;> exact ⟨finished, nonces⟩
  | verifyFinalSig =>
    rw [step, verifyFinalSig]
    split_ifs <;> exact ⟨finished, nonces⟩
  | popMoveTx =>
    rw [step, popMoveTx]
    split
    next verifying =>
        split_ifs with unfinished
        · exact ⟨finished, nonces⟩
        · simp only [verifying] at nonces
          obtain ⟨session, found, length⟩ := nonces
          obtain ⟨nonce, next, popped, left⟩ :=
            exists_popNonce "No move tx secnonce in session" found length
          rw [popped]
          exact ⟨finished, left⟩
    next => exact ⟨finished, nonces⟩
  | popEmergencyStop =>
    rw [step, popEmergencyStop]
    split
    next movetxSecnonce poppedFirst =>
        simp only [poppedFirst] at nonces
        obtain ⟨session, found, length⟩ := nonces
        obtain ⟨nonce, next, popped, -⟩ :=
          exists_popNonce "No emergency stop secnonce in session" found length
        rw [popped]
        exact ⟨finished, trivial⟩
    next => exact ⟨finished, nonces⟩

theorem putBack_run (before : self.PutBack sessionId) :
    (self.run sessionId numRequiredSigs events).PutBack sessionId := by
  induction events generalizing self with
  | nil => exact before
  | cons event events ih => exact ih (putBack_step before)

theorem PutBack.not_failed (putBack : self.PutBack sessionId) (cause : Failure Report) :
    self.finalizeTask ≠ .failed cause := by
  intro failed
  have nonces := putBack.2
  simp only [failed] at nonces

/-- Without signatures to wait for, `deposit_finalize` may pop a nonce before `deposit_sign`
takes the session, which then refuses it and drops the other nonce. -/
theorem fails_before_takeSession (starting : self.signTask = .starting)
    (verifying : self.finalizeTask = .verifying) (verified : self.verifiedSigs = numRequiredSigs)
    (found : self.nonces.sessions.lookup sessionId = some session)
    (length : session.nonces.length = 2) :
    ∃ events cause, (self.run sessionId numRequiredSigs events).finalizeTask = .failed cause := by
  obtain ⟨nonce, next, popped, rest, left, -⟩ :=
    exists_popNonce "No move tx secnonce in session" found length
  refine ⟨[.popMoveTx, .takeSession, .popEmergencyStop], .error (.session sessionId.toNat), ?_⟩
  have first : self.popMoveTx sessionId numRequiredSigs =
      { self with nonces := next, finalizeTask := .poppedMoveTx nonce } := by
    simp only [popMoveTx, verifying, verified, popped, ne_eq, not_true_eq_false, if_false]
  have gone : AList.lookup sessionId (next.sessions.erase sessionId) = none :=
    AList.lookup_erase sessionId next.sessions
  simp only [run, List.foldl_cons, List.foldl_nil, step, first, takeSession, starting,
    removeSessionWithId, left, popEmergencyStop, popNonce, gone]

end Places

/-- When `deposit_finalize` has verified all signatures it finds the two nonces if and only if
`deposit_sign` has put the session back. -/
theorem findsNonces_iff {sessionId : SessionId} {numRequiredSigs otherVerifiers : Nat}
    {nonces : AllSessions SecretNonce} {session : NonceSession SecretNonce}
    (store : nonces.Consistent) (found : nonces.sessions.lookup sessionId = some session)
    (length : session.nonces.length = numRequiredSigs + 2) (events : List DepositEvent)
    (verifying : ((start nonces otherVerifiers).run sessionId numRequiredSigs events).finalizeTask =
        .verifying)
    (verified : ((start nonces otherVerifiers).run sessionId numRequiredSigs events).verifiedSigs =
        numRequiredSigs) :
    ((start nonces otherVerifiers).run sessionId numRequiredSigs events).FindsNonces sessionId
        numRequiredSigs ↔
      ((start nonces otherVerifiers).run sessionId numRequiredSigs events).signTask =
        .finished := by
  have reached := verifying_run (fun _ => verifying_start store found length) verifying
  generalize (start nonces otherVerifiers).run sessionId numRequiredSigs events = state at *
  obtain ⟨-, verifiedLe, finalLe, place⟩ := reached
  constructor
  · rintro ⟨⟨stored, foundNow, lengthNow⟩, safe⟩
    cases task : state.signTask with
    | starting =>
      obtain ⟨later, cause, failed⟩ :=
        fails_before_takeSession task verifying verified foundNow lengthNow
      exact absurd failed (safe later cause)
    | signing session nonceIdx =>
      simp only [Place, task] at place
      exact absurd (AList.lookup_isSome.mp (by simp [foundNow])) place.2.2.1
    | puttingBack session =>
      simp only [Place, task] at place
      exact absurd (AList.lookup_isSome.mp (by simp [foundNow])) place.1
    | finished => rfl
    | failed cause => simp only [Place, task] at place
  · intro finished
    simp only [Place, finished] at place
    refine ⟨place, fun later cause => ?_⟩
    have ready : state.PutBack sessionId := by
      refine ⟨finished, ?_⟩
      simpa only [verifying] using place
    exact (putBack_run ready).not_failed cause

/-- A store with one session of three nonces. -/
def oneSession : AllSessions Nat := new.push ⟨[10, 11, 12]⟩ 7

theorem consistent_oneSession : oneSession.Consistent :=
  consistent_new.push ⟨by decide, by decide⟩ (AList.notMem_empty 7)

/-- The only signature is made, forwarded and verified, and the session was put back. -/
theorem findsNonces_after_putBack :
    ((start oneSession 1).run 7 1 [.takeSession, .sign, .otherPartialSig 0, .forwardFinalSig,
      .putBack, .verifyFinalSig]).FindsNonces 7 1 := by
  have found : oneSession.sessions.lookup 7 = some ⟨[10, 11, 12]⟩ := rfl
  refine (findsNonces_iff consistent_oneSession found rfl _ ?_ ?_).mpr ?_ <;> decide +kernel

/-- Two verifiers and one signature: the partial signatures are sent, the final signature is
forwarded and verified before `deposit_sign` puts its session back, and `deposit_finalize`
fails. -/
theorem session_missing_before_putBack :
    let state := (start oneSession 1).run 7 1 [.takeSession, .sign, .otherPartialSig 0,
      .forwardFinalSig, .verifyFinalSig]
    state.verifiedSigs = 1 ∧ state.finalizeTask = .verifying ∧ ¬state.FindsNonces 7 1 ∧
      (state.popMoveTx 7 1).finalizeTask = .failed (.error (.session 7)) := by
  refine ⟨rfl, rfl, ?_, rfl⟩
  rintro ⟨⟨session, found, -⟩, -⟩
  cases found

end DepositRun

end Clementine
