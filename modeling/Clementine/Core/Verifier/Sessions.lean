import Clementine.Core.Builder.Transactions
import Mathlib.Data.List.AList
import Mathlib.Tactic.Abel

/-!
# Nonce sessions of a verifier

A verifier keeps the secret nonces of its signing sessions in `AllSessions`, behind a lock.
`nonce_gen` adds a session under a random id, `deposit_sign` takes one out, uses its nonces
and puts the two left over back, `deposit_finalize` and `sign_optimistic_payout` pop single
nonces.  When the store is full its oldest sessions make room for a new one.

Functions that change the store before they return an error are modelled with the store next
to the result.
-/

namespace Clementine

open List Option

/-- Ids of nonce sessions, `u128` values. -/
abbrev SessionId := BitVec 128

/-- `MUSIG_SECNONCE_LEN`. -/
def musigSecnonceLen : Nat := 132

/-- `NUM_NONCES_LIMIT`. -/
def numNoncesLimit : Nat := 150 * 1000000 / musigSecnonceLen

/-- `MAX_ALL_SESSIONS_BYTES`. -/
def maxAllSessionsBytes : Nat := 2000000000

/-- `MAX_NUM_SESSIONS`. -/
def maxNumSessions : Nat := 2000

/-- `NonceSession`. -/
structure NonceSession (SecretNonce : Type) where
  nonces : List SecretNonce
  deriving DecidableEq

/-- A session and its id. -/
abbrev SessionEntry (SecretNonce : Type) := Sigma fun _ : SessionId => NonceSession SecretNonce

/-- `AllSessions`.  The order of the map's entries has no meaning. -/
structure AllSessions (SecretNonce : Type) where
  sessions : AList fun _ : SessionId => NonceSession SecretNonce
  sessionQueue : List SessionId
  usedIds : Finset SessionId

variable {id : SessionId} {SecretNonce : Type}

namespace AllSessions

/-- `AllSessions::new`. -/
def new : AllSessions SecretNonce := ⟨∅, [], ∅⟩

/-- `AllSessions::session_bytes`. -/
def sessionBytes (session : NonceSession SecretNonce) : Except (Failure Report) Nat :=
  okOr (.text "Calculation overflow in session_bytes")
    (checkedUsize (session.nonces.length * musigSecnonceLen))

/-- One turn of the loop of `AllSessions::total_sessions_byte_size`. -/
def addSessionBytes (totalBytes : Nat) (entry : SessionEntry SecretNonce) :
    Except (Failure Report) Nat := do
  let bytes ← sessionBytes entry.2
  okOr (.text "Calculation overflow in total_byte_size") (checkedUsize (totalBytes + bytes))

/-- `AllSessions::total_sessions_byte_size`. -/
def totalSessionsByteSize (self : AllSessions SecretNonce) : Except (Failure Report) Nat :=
  self.sessions.entries.foldlM addSessionBytes 0

/-- `AllSessions::remove_oldest_session`. -/
def removeOldestSession (self : AllSessions SecretNonce) :
    Except (Failure Report) Nat × AllSessions SecretNonce :=
  match self.sessionQueue with
  | [] => (.error (.error (.text "No session to remove")), self)
  | oldestId :: queue =>
    let rest := { self with sessions := self.sessions.erase oldestId, sessionQueue := queue }
    match self.sessions.lookup oldestId with
    | some session => (sessionBytes session, rest)
    | none => (.ok 0, rest)

theorem removeOldestSession_shorter {self rest : AllSessions SecretNonce} {bytes : Nat}
    (removed : self.removeOldestSession = (.ok bytes, rest)) :
    rest.sessionQueue.length < self.sessionQueue.length := by
  unfold removeOldestSession at removed
  split at removed
  next => simp at removed
  next oldestId queue queueEq =>
      have restEq : rest.sessionQueue = queue := by
        split at removed <;> simp only [Prod.mk.injEq] at removed <;> rw [← removed.2]
      rw [restEq, queueEq]
      exact Nat.lt_succ_self _

/-- The loop of `AllSessions::add_new_session_with_id`. -/
def makeRoom (self : AllSessions SecretNonce) (totalNeeded : Nat) :
    Except (Failure Report) Unit × AllSessions SecretNonce :=
  if totalNeeded ≤ maxAllSessionsBytes ∧ self.sessions.entries.length < maxNumSessions then
    (.ok (), self)
  else
    match _removed : self.removeOldestSession with
    | (.error cause, rest) => (.error cause, rest)
    | (.ok bytes, rest) =>
      match checkedSub totalNeeded bytes with
      | some totalNeeded => rest.makeRoom totalNeeded
      | none => (.error (.error (.text "Session size calculation overflow")), rest)
termination_by self.sessionQueue.length
decreasing_by exact removeOldestSession_shorter _removed

/-- The bytes that all sessions and the new one take. -/
def totalNeeded (self : AllSessions SecretNonce) (newNonceSession : NonceSession SecretNonce) :
    Except (Failure Report) Nat := do
  let bytes ← sessionBytes newNonceSession
  let totalBytes ← self.totalSessionsByteSize
  okOr (.text "Session size calculation overflow in add_new_session")
    (checkedUsize (bytes + totalBytes))

/-- `AllSessions::add_new_session_with_id`. -/
def addNewSessionWithId (self : AllSessions SecretNonce)
    (newNonceSession : NonceSession SecretNonce) (id : SessionId) :
    Except (Failure Report) Unit × AllSessions SecretNonce :=
  if newNonceSession.nonces = [] then
    (.error (.error (.text "Empty session attempted to be added")), self)
  else if id ∈ self.sessions then
    (.error (.error (.text s!"Nonce session with id {id.toNat} already exists")), self)
  else
    match self.totalNeeded newNonceSession with
    | .error cause => (.error cause, self)
    | .ok totalNeeded =>
      match self.makeRoom totalNeeded with
      | (.error cause, rest) => (.error cause, rest)
      | (.ok (), rest) =>
        (.ok (), {
            sessions := rest.sessions.insert id newNonceSession
            sessionQueue := rest.sessionQueue ++ [id]
            usedIds := insert id rest.usedIds })

/-- `AllSessions::get_new_unused_id` on the ids that the random generator draws; none while
only used ids were drawn. -/
def getNewUnusedId (self : AllSessions SecretNonce) (draws : List SessionId) :
    Option SessionId :=
  draws.find? fun id => id ∉ self.usedIds

/-- `AllSessions::remove_session_with_id`. -/
def removeSessionWithId (self : AllSessions SecretNonce) (id : SessionId) :
    Except (Failure Report) (NonceSession SecretNonce) × AllSessions SecretNonce :=
  match self.sessions.lookup id with
  | none => (.error (.error (.text "Session not found")), self)
  | some session =>
    (.ok session,
      { self with
        sessions := self.sessions.erase id
        sessionQueue := self.sessionQueue.filter (· ≠ id) })

/-- How `deposit_finalize` and `sign_optimistic_payout` take a nonce out of a session. -/
def popNonce (self : AllSessions SecretNonce) (sessionId : SessionId) (missing : String) :
    Except (Failure Report) SecretNonce × AllSessions SecretNonce :=
  match self.sessions.lookup sessionId with
  | none => (.error (.error (.session sessionId.toNat)), self)
  | some session =>
    match session.nonces.getLast? with
    | none => (.error (.error (.text missing)), self)
    | some nonce =>
      (.ok nonce,
        { self with sessions := self.sessions.insert sessionId ⟨session.nonces.dropLast⟩ })

/-! ## The stored sessions as a whole -/

/-- The bytes of a session. -/
def bytes (session : NonceSession SecretNonce) : Nat :=
  session.nonces.length * musigSecnonceLen

/-- The bytes of all sessions. -/
def totalBytes (self : AllSessions SecretNonce) : Nat :=
  (self.sessions.entries.map fun entry => bytes entry.2).sum

/-- All stored nonces. -/
def storedNonces (self : AllSessions SecretNonce) : Multiset SecretNonce :=
  (self.sessions.entries.map fun entry => (entry.2.nonces : Multiset SecretNonce)).sum

/-- The store without its `count` oldest sessions. -/
def dropOldest (self : AllSessions SecretNonce) (count : Nat) : AllSessions SecretNonce :=
  { self with
    sessions := (self.sessionQueue.take count).foldl (fun sessions id => sessions.erase id)
      self.sessions
    sessionQueue := self.sessionQueue.drop count }

/-- The store with a session added at the end of the queue. -/
def push (self : AllSessions SecretNonce) (session : NonceSession SecretNonce)
    (id : SessionId) : AllSessions SecretNonce :=
  { sessions := self.sessions.insert id session
    sessionQueue := self.sessionQueue ++ [id]
    usedIds := insert id self.usedIds }

/-- There is room for one more session. -/
def Fits (self : AllSessions SecretNonce) (session : NonceSession SecretNonce) : Prop :=
  bytes session + self.totalBytes ≤ maxAllSessionsBytes ∧
    self.sessions.entries.length < maxNumSessions

/-- The queue and the map agree and the limits are kept. -/
structure Consistent (store : AllSessions SecretNonce) : Prop where
  queue_nodup : store.sessionQueue.Nodup
  mem_queue : ∀ id, id ∈ store.sessionQueue ↔ id ∈ store.sessions
  count_le : store.sessions.entries.length ≤ maxNumSessions
  bytes_le : store.totalBytes ≤ maxAllSessionsBytes
  used : ∀ id ∈ store.sessions, id ∈ store.usedIds

/-- What adding a session may do: fail and change nothing, or remove the shortest part of the
queue that makes it fit. -/
def Adds (self : AllSessions SecretNonce) (session : NonceSession SecretNonce) (id : SessionId)
    (outcome : Except (Failure Report) Unit × AllSessions SecretNonce) : Prop :=
  (∃ cause, outcome = (.error cause, self)) ∨
    ∃ count, outcome = (.ok (), (self.dropOldest count).push session id) ∧
      (self.dropOldest count).Fits session ∧ ∀ fewer < count, ¬(self.dropOldest fewer).Fits session

theorem checkedUsize_eq_some {value : Nat} (small : value < 2 ^ 64) :
    checkedUsize value = some value := if_pos small

theorem consistent_new : (new : AllSessions SecretNonce).Consistent where
  queue_nodup := nodup_nil
  mem_queue := by simp [new]
  count_le := Nat.zero_le _
  bytes_le := Nat.zero_le _
  used := by simp [new]

variable {session : NonceSession SecretNonce} {self : AllSessions SecretNonce}

theorem sessionBytes_eq_ok (small : bytes session < 2 ^ 64) :
    sessionBytes session = .ok (bytes session) :=
  okOr_eq_ok.mpr (checkedUsize_eq_some small)

theorem foldlM_addSessionBytes {entries : List (SessionEntry SecretNonce)}
    {before : Nat} (small : before + (entries.map fun entry => bytes entry.2).sum < 2 ^ 64) :
    entries.foldlM addSessionBytes before =
      .ok (before + (entries.map fun entry => bytes entry.2).sum) := by
  induction entries generalizing before with
  | nil => rfl
  | cons entry entries ih =>
    rw [map_cons, sum_cons] at small ⊢
    refine ExceptRun.run_cons_iff.mpr ⟨before + bytes entry.2, ?_, ?_⟩
    · exact ExceptRun.bind_ok_iff.mpr ⟨_, sessionBytes_eq_ok (by omega),
        okOr_eq_ok.mpr (checkedUsize_eq_some (by omega))⟩
    · rw [ih (by omega), Nat.add_assoc]

theorem totalSessionsByteSize_eq_ok (small : self.totalBytes < 2 ^ 64) :
    self.totalSessionsByteSize = .ok self.totalBytes := by
  have total : self.sessions.entries.foldlM addSessionBytes 0 = .ok (0 + self.totalBytes) :=
    foldlM_addSessionBytes (by simpa [totalBytes] using small)
  rwa [Nat.zero_add] at total

/-- A stored session is one of the entries, the others are those left when it is erased. -/
theorem entries_perm_erase {sessions : AList fun _ : SessionId => NonceSession SecretNonce}
    (found : sessions.lookup id = some session) :
    sessions.entries.Perm (⟨id, session⟩ :: (sessions.erase id).entries) := by
  have entry : (⟨id, session⟩ : SessionEntry SecretNonce) ∈ sessions.entries :=
    AList.mem_lookup_iff.mp found
  obtain ⟨other, left, right, notLeft, split, erased⟩ :=
    exists_of_kerase (mem_keys_of_mem entry)
  have same : other = session := by
    have otherEntry : (⟨id, other⟩ : SessionEntry SecretNonce) ∈ sessions.entries := by
      rw [split]
      simp
    exact sessions.nodupKeys.eq_of_mk_mem otherEntry entry
  change sessions.entries.Perm (_ :: sessions.entries.kerase id)
  rw [erased, ← same]
  nth_rewrite 1 [split]
  exact perm_middle

section Entries

/-- The store without one session. -/
def erase (self : AllSessions SecretNonce) (id : SessionId) : AllSessions SecretNonce :=
  { self with
    sessions := self.sessions.erase id
    sessionQueue := self.sessionQueue.filter (· ≠ id) }

theorem totalBytes_erase (found : self.sessions.lookup id = some session) :
    self.totalBytes = bytes session + (self.erase id).totalBytes := by
  rw [totalBytes, ((entries_perm_erase found).map _).sum_eq, map_cons, sum_cons]
  rfl

theorem storedNonces_erase (found : self.sessions.lookup id = some session) :
    self.storedNonces = session.nonces + (self.erase id).storedNonces := by
  rw [storedNonces, ((entries_perm_erase found).map _).sum_eq, map_cons, sum_cons]
  rfl

theorem length_erase (found : self.sessions.lookup id = some session) :
    self.sessions.entries.length = (self.erase id).sessions.entries.length + 1 :=
  (entries_perm_erase found).length_eq

theorem storedNonces_push (absent : id ∉ self.sessions) :
    (self.push session id).storedNonces = session.nonces + self.storedNonces := by
  rw [storedNonces, push, AList.entries_insert_of_notMem absent, map_cons, sum_cons]
  rfl

theorem totalBytes_push (absent : id ∉ self.sessions) :
    (self.push session id).totalBytes = bytes session + self.totalBytes := by
  rw [totalBytes, push, AList.entries_insert_of_notMem absent, map_cons, sum_cons]
  rfl

theorem Consistent.erase (consistent : self.Consistent)
    (found : self.sessions.lookup id = some session) : (self.erase id).Consistent where
  queue_nodup := consistent.queue_nodup.filter _
  mem_queue other := by
    simp [AllSessions.erase, consistent.mem_queue, and_comm]
  count_le := by
    have before := consistent.count_le
    rw [length_erase found] at before
    omega
  bytes_le := by
    have before := consistent.bytes_le
    rw [totalBytes_erase found] at before
    omega
  used other member := consistent.used other (AList.mem_erase.mp member).2

theorem Consistent.push (consistent : self.Consistent) (fits : self.Fits session)
    (absent : id ∉ self.sessions) : (self.push session id).Consistent where
  queue_nodup := by
    rw [AllSessions.push, nodup_append]
    refine ⟨consistent.queue_nodup, nodup_singleton id, ?_⟩
    intro other queued last added
    rw [mem_singleton] at added
    rintro rfl
    exact absent (added ▸ (consistent.mem_queue _).mp queued)
  mem_queue other := by
    simp [AllSessions.push, consistent.mem_queue, or_comm]
  count_le := by
    have room := fits.2
    rw [AllSessions.push, AList.entries_insert_of_notMem absent, length_cons]
    omega
  bytes_le := by
    rw [totalBytes_push absent]
    exact fits.1
  used other member := by
    rw [AllSessions.push, Finset.mem_insert]
    exact ((AList.mem_insert _).mp member).imp_right (consistent.used other)

end Entries

/-! ## Making room -/

section MakeRoom

variable {oldestId : SessionId} {queue : List SessionId}

@[simp] theorem dropOldest_zero : self.dropOldest 0 = self := rfl

theorem Consistent.queue_erase (consistent : self.Consistent)
    (front : self.sessionQueue = oldestId :: queue) :
    (self.erase oldestId).sessionQueue = queue := by
  have unique := consistent.queue_nodup
  rw [front, nodup_cons] at unique
  rw [AllSessions.erase, front, filter_cons_of_neg (by simp), filter_eq_self]
  intro id member
  have different : id ≠ oldestId := by
    rintro rfl
    exact unique.1 member
  simpa using different

theorem Consistent.dropOldest_succ (consistent : self.Consistent)
    (front : self.sessionQueue = oldestId :: queue) (count : Nat) :
    self.dropOldest (count + 1) = (self.erase oldestId).dropOldest count := by
  rw [dropOldest, dropOldest, consistent.queue_erase front, front, take_succ_cons,
    drop_succ_cons, foldl_cons]
  rfl

theorem Consistent.exists_lookup (consistent : self.Consistent)
    (front : self.sessionQueue = oldestId :: queue) :
    ∃ session, self.sessions.lookup oldestId = some session := by
  have stored := (consistent.mem_queue oldestId).mp (by simp [front])
  exact isSome_iff_exists.mp (AList.lookup_isSome.mpr stored)

theorem Consistent.removeOldestSession_eq (consistent : self.Consistent)
    (front : self.sessionQueue = oldestId :: queue)
    (found : self.sessions.lookup oldestId = some session) :
    self.removeOldestSession = (.ok (bytes session), self.erase oldestId) := by
  have small : bytes session < 2 ^ 64 := by
    have total := consistent.bytes_le
    rw [totalBytes_erase found, maxAllSessionsBytes] at total
    omega
  have restEq : self.erase oldestId =
      { self with sessions := self.sessions.erase oldestId, sessionQueue := queue } := by
    rw [← consistent.queue_erase front]
    rfl
  rw [removeOldestSession, front, restEq]
  simp only [found, sessionBytes_eq_ok small]

theorem makeRoom_of_fits (fits : self.Fits session) :
    self.makeRoom (bytes session + self.totalBytes) = (.ok (), self) := by
  rw [makeRoom]
  exact if_pos fits

/-- The loop removes the shortest part of the queue that makes room. -/
theorem makeRoom_eq (consistent : self.Consistent) (small : bytes session ≤ maxAllSessionsBytes) :
    ∃ count, self.makeRoom (bytes session + self.totalBytes) = (.ok (), self.dropOldest count) ∧
      (self.dropOldest count).Fits session ∧
      ∀ fewer < count, ¬(self.dropOldest fewer).Fits session := by
  generalize queueEq : self.sessionQueue = queue
  induction queue generalizing self with
  | nil =>
    have empty : self.sessions.entries = [] := by
      rw [eq_nil_iff_forall_not_mem]
      intro entry member
      have queued := (consistent.mem_queue entry.1).mpr (mem_keys_of_mem member)
      simp [queueEq] at queued
    have fits : self.Fits session := by
      simpa [Fits, totalBytes, empty, maxNumSessions] using small
    exact ⟨0, makeRoom_of_fits fits, fits, fun _ less => absurd less (Nat.not_lt_zero _)⟩
  | cons oldestId queue ih =>
    by_cases fits : self.Fits session
    · exact ⟨0, makeRoom_of_fits fits, fits, fun _ less => absurd less (Nat.not_lt_zero _)⟩
    · obtain ⟨oldest, found⟩ := consistent.exists_lookup queueEq
      have removed := consistent.removeOldestSession_eq queueEq found
      obtain ⟨count, room, enough, fewest⟩ :=
        ih (consistent.erase found) (consistent.queue_erase queueEq)
      have left : checkedSub (bytes session + self.totalBytes) (bytes oldest) =
          some (bytes session + (self.erase oldestId).totalBytes) := by
        rw [checkedSub_eq_some, totalBytes_erase found]
        omega
      refine ⟨count + 1, ?_, ?_, ?_⟩
      · rw [makeRoom, if_neg (show ¬(_ ∧ _) from fits), consistent.dropOldest_succ queueEq]
        split
        next cause rest failed => simp [removed] at failed
        next freed rest succeeded =>
            rw [removed, Prod.mk.injEq, Except.ok.injEq] at succeeded
            rw [← succeeded.1, ← succeeded.2, left]
            exact room
      · rwa [consistent.dropOldest_succ queueEq]
      · intro fewer less
        cases fewer with
        | zero => exact fits
        | succ fewer =>
          rw [consistent.dropOldest_succ queueEq]
          exact fewest fewer (by omega)

/-- Dropping old sessions keeps the store consistent and adds no nonce. -/
theorem Consistent.dropOldest (consistent : self.Consistent) (count : Nat) :
    (self.dropOldest count).Consistent ∧
      (self.dropOldest count).storedNonces ≤ self.storedNonces := by
  induction count generalizing self with
  | zero => exact ⟨consistent, le_rfl⟩
  | succ count ih =>
    cases front : self.sessionQueue with
    | nil =>
      have unchanged : self.dropOldest (count + 1) = self := by
        obtain ⟨sessions, queue, usedIds⟩ := self
        cases front
        rfl
      rw [unchanged]
      exact ⟨consistent, le_rfl⟩
    | cons oldestId queue =>
      obtain ⟨session, found⟩ := consistent.exists_lookup front
      obtain ⟨kept, fewer⟩ := ih (consistent.erase found)
      rw [consistent.dropOldest_succ front, storedNonces_erase found]
      exact ⟨kept, fewer.trans (Multiset.le_add_left _ _)⟩

theorem dropOldest_subset {count : Nat} (member : id ∈ (self.dropOldest count).sessions) :
    id ∈ self.sessions := by
  change id ∈ (self.sessionQueue.take count).foldl (fun sessions id => sessions.erase id)
    self.sessions at member
  generalize self.sessionQueue.take count = removed at member
  generalize self.sessions = sessions at member ⊢
  induction removed generalizing sessions with
  | nil => exact member
  | cons oldestId removed ih => exact (AList.mem_erase.mp (ih _ member)).2

/-- A session that fits into an empty store is added, with as few removals as needed. -/
theorem exists_addNewSessionWithId (consistent : self.Consistent)
    (small : bytes session ≤ maxAllSessionsBytes) (nonempty : session.nonces ≠ [])
    (absent : id ∉ self.sessions) :
    ∃ count, self.addNewSessionWithId session id =
        (.ok (), (self.dropOldest count).push session id) ∧
      (self.dropOldest count).Fits session ∧
      ∀ fewer < count, ¬(self.dropOldest fewer).Fits session := by
  have total := consistent.bytes_le
  have needed : self.totalNeeded session = .ok (bytes session + self.totalBytes) := by
    rw [maxAllSessionsBytes] at small total
    exact ExceptRun.bind_ok_iff.mpr ⟨_, sessionBytes_eq_ok (by omega),
      ExceptRun.bind_ok_iff.mpr ⟨_, totalSessionsByteSize_eq_ok (by omega),
        okOr_eq_ok.mpr (checkedUsize_eq_some (by omega))⟩⟩
  obtain ⟨count, room, fits, fewest⟩ := makeRoom_eq consistent small
  refine ⟨count, ?_, fits, fewest⟩
  rw [addNewSessionWithId, if_neg nonempty, if_neg absent]
  simp only [needed, room]
  rfl

theorem addNewSessionWithId_adds (consistent : self.Consistent)
    (small : bytes session ≤ maxAllSessionsBytes) :
    self.Adds session id (self.addNewSessionWithId session id) := by
  by_cases empty : session.nonces = []
  · exact .inl ⟨_, if_pos empty⟩
  · by_cases present : id ∈ self.sessions
    · exact .inl ⟨_, (if_neg empty).trans (if_pos present)⟩
    · exact .inr (exists_addNewSessionWithId consistent small empty present)

theorem absent_of_added {next : AllSessions SecretNonce}
    (added : self.addNewSessionWithId session id = (.ok (), next)) : id ∉ self.sessions := by
  intro present
  unfold addNewSessionWithId at added
  split_ifs at added <;> simp at added

/-- What adding a session keeps. -/
theorem Consistent.addNewSessionWithId (consistent : self.Consistent)
    (small : bytes session ≤ maxAllSessionsBytes) (id : SessionId) :
    (self.addNewSessionWithId session id).2.Consistent ∧
      (self.addNewSessionWithId session id).2.storedNonces ≤ session.nonces + self.storedNonces ∧
      self.usedIds ⊆ (self.addNewSessionWithId session id).2.usedIds ∧
      ((self.addNewSessionWithId session id).1.isOk →
        id ∈ (self.addNewSessionWithId session id).2.usedIds) := by
  have adds : self.Adds session id _ := addNewSessionWithId_adds consistent small
  obtain ⟨cause, outcome⟩ | ⟨count, outcome, fits, -⟩ := adds
  · rw [outcome]
    exact ⟨consistent, Multiset.le_add_left _ _, Finset.Subset.refl _, fun ok => nomatch ok⟩
  · have absent : id ∉ (self.dropOldest count).sessions :=
      fun member => absent_of_added outcome (dropOldest_subset member)
    obtain ⟨kept, fewer⟩ := consistent.dropOldest count
    rw [outcome]
    refine ⟨kept.push fits absent, ?_, Finset.subset_insert _ _,
      fun _ => Finset.mem_insert_self _ _⟩
    rw [storedNonces_push absent]
    exact add_le_add_right fewer _

end MakeRoom

/-! ## Popping a nonce -/

section Pop

variable {self next : AllSessions SecretNonce} {missing : String} {nonce : SecretNonce}

theorem popNonce_eq_ok (popped : self.popNonce id missing = (.ok nonce, next)) :
    ∃ rest, self.sessions.lookup id = some ⟨rest ++ [nonce]⟩ ∧
      next = { self with sessions := self.sessions.insert id ⟨rest⟩ } := by
  unfold popNonce at popped
  split at popped
  next => simp at popped
  next session found =>
      split at popped
      next => simp at popped
      next last lastEq =>
          obtain ⟨nonceEq, nextEq⟩ := Prod.mk.inj popped
          cases nonceEq
          refine ⟨session.nonces.dropLast, ?_, nextEq.symm⟩
          rw [found, dropLast_append_getLast? _ lastEq]

/-- A session that has a nonce loses it. -/
theorem exists_popNonce {count : Nat} (missing : String)
    (found : self.sessions.lookup id = some session) (length : session.nonces.length = count + 1) :
    ∃ nonce next, self.popNonce id missing = (.ok nonce, next) ∧
      ∃ rest, next.sessions.lookup id = some rest ∧ rest.nonces.length = count := by
  have nonempty := ne_nil_of_length_eq_add_one length
  have last : session.nonces.getLast? = some (session.nonces.getLast nonempty) :=
    getLast?_eq_some_getLast nonempty
  refine ⟨session.nonces.getLast nonempty,
    { self with sessions := self.sessions.insert id ⟨session.nonces.dropLast⟩ }, ?_,
    ⟨session.nonces.dropLast⟩, AList.lookup_insert _, ?_⟩
  · simp only [popNonce, found, last]
  · simp [length]

/-- A nonce that was popped is no longer stored. -/
theorem Consistent.popNonce (consistent : self.Consistent)
    (popped : self.popNonce id missing = (.ok nonce, next)) :
    next.Consistent ∧ next.usedIds = self.usedIds ∧
      self.storedNonces = {nonce} + next.storedNonces := by
  obtain ⟨rest, found, rfl⟩ := popNonce_eq_ok popped
  have stored : id ∈ self.sessions := AList.lookup_isSome.mp (by simp [found])
  have entries : (self.sessions.insert id ⟨rest⟩).entries =
      ⟨id, ⟨rest⟩⟩ :: (self.erase id).sessions.entries := AList.entries_insert
  have members (other : SessionId) : other ∈ self.sessions.insert id ⟨rest⟩ ↔
      other ∈ self.sessions := by
    rw [AList.mem_insert, or_iff_right_of_imp]
    rintro rfl
    exact stored
  refine ⟨⟨consistent.queue_nodup, ?_, ?_, ?_, ?_⟩, rfl, ?_⟩
  · intro other
    rw [members, consistent.mem_queue]
  · have before := consistent.count_le
    rwa [length_erase found, ← length_cons, ← entries] at before
  · have before := consistent.bytes_le
    rw [totalBytes_erase found] at before
    refine le_trans ?_ before
    rw [totalBytes, entries, map_cons, sum_cons]
    refine Nat.add_le_add_right ?_ _
    rw [bytes, bytes]
    exact Nat.mul_le_mul_right _ (by simp)
  · intro other member
    exact consistent.used other ((members other).mp member)
  · have after : storedNonces { self with sessions := self.sessions.insert id ⟨rest⟩ } =
        rest + (self.erase id).storedNonces := by
      rw [storedNonces, entries, map_cons, sum_cons]
      rfl
    rw [after, storedNonces_erase found, ← Multiset.coe_add, Multiset.coe_singleton,
      add_comm (rest : Multiset SecretNonce), add_assoc]

end Pop

end AllSessions

/-! ## Calls in progress

The calls of a verifier run at the same time and meet at the lock of the store.  What a call
does between two uses of the lock concerns only its own nonces. -/

section Calls

/-- Calls that hold nonces which are not in the store. -/
inductive Call (SecretNonce : Type) where
  /-- `deposit_sign` in its loop. -/
  | depositSign (sessionId : SessionId) (session : NonceSession SecretNonce)
      (nonceIdx numRequiredSigs : Nat)
  /-- `deposit_sign` after its loop. -/
  | putBack (sessionId : SessionId) (session : NonceSession SecretNonce)
  /-- `deposit_finalize` with the nonce of the move transaction. -/
  | depositFinalize (sessionId : SessionId) (movetxSecnonce : SecretNonce)
  /-- `deposit_finalize` or `sign_optimistic_payout` with the nonces it still has to use. -/
  | partialSign (secnonces : List SecretNonce)

/-- The nonces of a call. -/
def Call.nonces : Call SecretNonce → List SecretNonce
  | .depositSign _ session _ _ => session.nonces
  | .putBack _ session => session.nonces
  | .depositFinalize _ movetxSecnonce => [movetxSecnonce]
  | .partialSign secnonces => secnonces

/-- What can happen next.  Calls in progress are named by their position. -/
inductive CallEvent (SecretNonce : Type) where
  /-- `nonce_gen` stores the nonces it generated. -/
  | nonceGen (secNonces : List SecretNonce) (draws : List SessionId)
  /-- `deposit_sign` takes a session. -/
  | takeSession (sessionId : SessionId) (numRequiredSigs : Nat)
  /-- `deposit_sign` got an aggregated nonce and a sighash. -/
  | signNext (position : Nat)
  /-- The channel of the aggregated nonces was closed. -/
  | channelClosed (position : Nat)
  /-- `deposit_sign` puts the session back. -/
  | putBack (position : Nat)
  /-- `deposit_finalize` pops the nonce of the move transaction. -/
  | popMoveTx (sessionId : SessionId)
  /-- `deposit_finalize` pops the nonce of the emergency stop transaction. -/
  | popEmergencyStop (position : Nat)
  /-- `sign_optimistic_payout` pops a nonce. -/
  | popOptPayout (sessionId : SessionId)
  /-- `musig2::partial_sign` in `deposit_finalize` or `sign_optimistic_payout`. -/
  | partialSign (position : Nat)
  /-- A call fails. -/
  | fail (position : Nat)

/-- The store, the calls in progress and what has happened so far. -/
structure NonceUse (SecretNonce : Type) where
  nonces : AllSessions SecretNonce
  calls : List (Call SecretNonce)
  /-- All nonces that were generated. -/
  generated : List SecretNonce
  /-- All ids that `nonce_gen` returned. -/
  handedOut : List SessionId
  /-- All nonces that were passed to `musig2::partial_sign`. -/
  signedWith : List SecretNonce

namespace NonceUse

/-- A verifier that was just started. -/
def new : NonceUse SecretNonce := ⟨AllSessions.new, [], [], [], []⟩

/-- A call ends or goes on as another one. -/
def replaceCall (self : NonceUse SecretNonce) (position : Nat)
    (calls : List (Call SecretNonce)) : NonceUse SecretNonce :=
  { self with calls := calls ++ self.calls.eraseIdx position }

/-- The session that an event adds to the store: `nonce_gen` checks the number of nonces and
draws an id, `deposit_sign` checks that two nonces are left. -/
def added (self : NonceUse SecretNonce) :
    CallEvent SecretNonce → Option (NonceSession SecretNonce × SessionId)
  | .nonceGen secNonces draws =>
    if numNoncesLimit < secNonces.length ∨ secNonces.length = 0 then none
    else (self.nonces.getNewUnusedId draws).map fun id => (⟨secNonces⟩, id)
  | .putBack position =>
    match self.calls[position]? with
    | some (.putBack sessionId session) =>
      if session.nonces.length ≠ 2 then none else some (session, sessionId)
    | _ => none
  | _ => none

/-- `deposit_sign` uses its last nonce, the first one of those that were generated. -/
def signNext (self : NonceUse SecretNonce) (position : Nat) (sessionId : SessionId)
    (nonces : List SecretNonce) (nonceIdx numRequiredSigs : Nat) : NonceUse SecretNonce :=
  match nonces.getLast? with
  | none => self.replaceCall position []
  | some nonce =>
    let session : NonceSession SecretNonce := ⟨nonces.dropLast⟩
    let next := if nonceIdx + 1 = numRequiredSigs then
        .putBack sessionId session
      else
        .depositSign sessionId session (nonceIdx + 1) numRequiredSigs
    { self.replaceCall position [next] with signedWith := nonce :: self.signedWith }

/-- What an event does. -/
def step (self : NonceUse SecretNonce) (event : CallEvent SecretNonce) : NonceUse SecretNonce :=
  match event with
  | .nonceGen secNonces _ =>
    match self.added event with
    | none => self
    | some (session, id) =>
      let outcome := self.nonces.addNewSessionWithId session id
      { self with
        nonces := outcome.2
        generated := secNonces ++ self.generated
        handedOut := if outcome.1.isOk then id :: self.handedOut else self.handedOut }
  | .takeSession sessionId numRequiredSigs =>
    match self.nonces.removeSessionWithId sessionId with
    | (.error _, _) => self
    | (.ok session, nonces) =>
      if numRequiredSigs + 2 ≠ session.nonces.length then { self with nonces }
      else { self with
        nonces
        calls := .depositSign sessionId ⟨session.nonces.reverse⟩ 0 numRequiredSigs :: self.calls }
  | .signNext position =>
    match self.calls[position]? with
    | some (.depositSign sessionId session nonceIdx numRequiredSigs) =>
      self.signNext position sessionId session.nonces nonceIdx numRequiredSigs
    | _ => self
  | .channelClosed position =>
    match self.calls[position]? with
    | some (.depositSign sessionId session _ _) =>
      self.replaceCall position [.putBack sessionId session]
    | _ => self
  | .putBack position =>
    match self.calls[position]? with
    | some (.putBack _ _) =>
      match self.added event with
      | none => self.replaceCall position []
      | some (session, id) =>
        { self.replaceCall position [] with
          nonces := (self.nonces.addNewSessionWithId session id).2 }
    | _ => self
  | .popMoveTx sessionId =>
    match self.nonces.popNonce sessionId "No move tx secnonce in session" with
    | (.error _, _) => self
    | (.ok nonce, nonces) =>
      { self with nonces, calls := .depositFinalize sessionId nonce :: self.calls }
  | .popEmergencyStop position =>
    match self.calls[position]? with
    | some (.depositFinalize sessionId movetxSecnonce) =>
      match self.nonces.popNonce sessionId "No emergency stop secnonce in session" with
      | (.error _, _) => self.replaceCall position []
      | (.ok nonce, nonces) =>
        { self.replaceCall position [.partialSign [movetxSecnonce, nonce]] with nonces }
    | _ => self
  | .popOptPayout sessionId =>
    match self.nonces.popNonce sessionId "No move tx secnonce in session" with
    | (.error _, _) => self
    | (.ok nonce, nonces) => { self with nonces, calls := .partialSign [nonce] :: self.calls }
  | .partialSign position =>
    match self.calls[position]? with
    | some (.partialSign (secnonce :: secnonces)) =>
      { self.replaceCall position [.partialSign secnonces] with
        signedWith := secnonce :: self.signedWith }
    | _ => self
  | .fail position => self.replaceCall position []

/-- Generated nonces are fresh. -/
def Fresh (self : NonceUse SecretNonce) : CallEvent SecretNonce → Prop
  | .nonceGen secNonces _ => secNonces.Nodup ∧ ∀ nonce ∈ secNonces, nonce ∉ self.generated
  | _ => True

/-- What any interleaving of calls can lead to. -/
inductive Reachable : NonceUse SecretNonce → Prop where
  | new : Reachable new
  | step {state : NonceUse SecretNonce} {event : CallEvent SecretNonce}
      (before : Reachable state) (fresh : state.Fresh event) : Reachable (state.step event)

/-- The nonces of all calls in progress. -/
def heldNonces (calls : List (Call SecretNonce)) : Multiset SecretNonce :=
  (calls.map fun call => (call.nonces : Multiset SecretNonce)).sum

/-- All nonces that are stored, held by a call or used up. -/
def allNonces (self : NonceUse SecretNonce) : Multiset SecretNonce :=
  self.nonces.storedNonces + heldNonces self.calls + self.signedWith

/-- The store is consistent, every nonce has one place, and ids are not handed out twice. -/
structure Sound (state : NonceUse SecretNonce) : Prop where
  store : state.nonces.Consistent
  once : state.allNonces.Nodup
  generated : ∀ nonce ∈ state.allNonces, nonce ∈ state.generated
  handedOut : state.handedOut.Nodup
  used : ∀ id ∈ state.handedOut, id ∈ state.nonces.usedIds

/-- A step that makes no new nonce and hands out no id. -/
structure Moves (state next : NonceUse SecretNonce) : Prop where
  store : next.nonces.Consistent
  fewer : next.allNonces ≤ state.allNonces
  generated : next.generated = state.generated
  handedOut : next.handedOut = state.handedOut
  used : state.nonces.usedIds ⊆ next.nonces.usedIds

theorem Moves.sound {state next : NonceUse SecretNonce} (moves : Moves state next)
    (sound : Sound state) : Sound next where
  store := moves.store
  once := Multiset.nodup_of_le moves.fewer sound.once
  generated nonce member := by
    rw [moves.generated]
    exact sound.generated nonce (Multiset.mem_of_le moves.fewer member)
  handedOut := moves.handedOut ▸ sound.handedOut
  used id member := by
    rw [moves.handedOut] at member
    exact moves.used (sound.used id member)

variable {self : NonceUse SecretNonce} {position : Nat} {call : Call SecretNonce}

theorem heldNonces_eraseIdx (running : self.calls[position]? = some call) :
    heldNonces self.calls = call.nonces + heldNonces (self.calls.eraseIdx position) := by
  obtain ⟨inside, rfl⟩ := List.getElem?_eq_some_iff.mp running
  have split := (getElem_cons_eraseIdx_perm inside).symm
  rw [heldNonces, (split.map _).sum_eq, map_cons, sum_cons]
  rfl

theorem heldNonces_append (left right : List (Call SecretNonce)) :
    heldNonces (left ++ right) = heldNonces left + heldNonces right := by
  rw [heldNonces, map_append, sum_append]
  rfl

@[simp] theorem heldNonces_nil : heldNonces ([] : List (Call SecretNonce)) = 0 := rfl

@[simp] theorem heldNonces_cons (call : Call SecretNonce) (calls : List (Call SecretNonce)) :
    heldNonces (call :: calls) = call.nonces + heldNonces calls := by
  rw [heldNonces, map_cons, sum_cons]
  rfl

/-- A call goes on with nonces it had before. -/
theorem moves_replaceCall (store : self.nonces.Consistent)
    (running : self.calls[position]? = some call) {calls : List (Call SecretNonce)}
    (fewer : heldNonces calls ≤ call.nonces) : Moves self (self.replaceCall position calls) where
  store := store
  fewer := by
    rw [allNonces, allNonces, heldNonces_eraseIdx running, replaceCall, heldNonces_append]
    gcongr
  generated := rfl
  handedOut := rfl
  used := Finset.Subset.refl _

theorem moves_refl (store : self.nonces.Consistent) : Moves self self :=
  ⟨store, le_rfl, rfl, rfl, Finset.Subset.refl _⟩

theorem moves_fail (store : self.nonces.Consistent) (position : Nat) :
    Moves self (self.step (.fail position)) := by
  cases running : self.calls[position]? with
  | some call => exact moves_replaceCall store running (Multiset.zero_le _)
  | none =>
    have unchanged : self.step (.fail position) = self := by
      rw [step, replaceCall, eraseIdx_of_length_le (List.getElem?_eq_none_iff.mp running)]
      rfl
    rw [unchanged]
    exact moves_refl store

theorem moves_takeSession (store : self.nonces.Consistent) (sessionId : SessionId)
    (numRequiredSigs : Nat) : Moves self (self.step (.takeSession sessionId numRequiredSigs)) := by
  rw [step]
  cases found : self.nonces.sessions.lookup sessionId with
  | none =>
    simp only [AllSessions.removeSessionWithId, found]
    exact moves_refl store
  | some session =>
    have kept := store.erase found
    have nonces := AllSessions.storedNonces_erase found
    simp only [AllSessions.removeSessionWithId, found]
    split
    · refine ⟨kept, ?_, rfl, rfl, Finset.Subset.refl _⟩
      rw [allNonces, allNonces, nonces]
      gcongr
      exact Multiset.le_add_left _ _
    · refine ⟨kept, ?_, rfl, rfl, Finset.Subset.refl _⟩
      rw [allNonces, allNonces, nonces, heldNonces_cons, Call.nonces, Multiset.coe_reverse]
      refine le_of_eq ?_
      change (self.nonces.erase sessionId).storedNonces + (_ + _) + _ = _
      abel

theorem moves_signNext (store : self.nonces.Consistent) (position : Nat) :
    Moves self (self.step (.signNext position)) := by
  rw [step]
  split
  next sessionId session nonceIdx numRequiredSigs running =>
      rw [signNext]
      split
      next => exact moves_replaceCall store running (Multiset.zero_le _)
      next nonce last =>
          have split : (session.nonces : Multiset SecretNonce) =
              (session.nonces.dropLast : Multiset SecretNonce) + {nonce} := by
            nth_rewrite 1 [← dropLast_append_getLast? nonce last]
            rw [← Multiset.coe_add, Multiset.coe_singleton]
          refine ⟨store, le_of_eq ?_, rfl, rfl, Finset.Subset.refl _⟩
          simp only [allNonces, heldNonces_eraseIdx running, replaceCall, heldNonces_append,
            heldNonces_cons, heldNonces_nil, ← Multiset.cons_coe, ← Multiset.singleton_add]
          split_ifs <;> simp only [Call.nonces, split] <;> abel
  next => exact moves_refl store

theorem moves_channelClosed (store : self.nonces.Consistent) (position : Nat) :
    Moves self (self.step (.channelClosed position)) := by
  rw [step]
  split
  next sessionId session nonceIdx numRequiredSigs running =>
      exact moves_replaceCall store running (by simp [Call.nonces])
  next => exact moves_refl store

variable {event : CallEvent SecretNonce}

/-- Every session that is added fits into an empty store. -/
theorem bytes_added {session : NonceSession SecretNonce}
    (adds : self.added event = some (session, id)) :
    AllSessions.bytes session ≤ maxAllSessionsBytes := by
  have limit : session.nonces.length ≤ numNoncesLimit := by
    unfold added at adds
    split at adds
    next secNonces draws =>
        split_ifs at adds with wrong
        obtain ⟨_, _, made⟩ := map_eq_some_iff.mp adds
        rw [← (Prod.mk.inj made).1]
        exact Nat.le_of_not_lt fun more => wrong (.inl more)
    next position =>
        split at adds
        next =>
            split_ifs at adds with wrong
            cases adds
            rw [ne_eq, not_not] at wrong
            rw [wrong]
            decide
        next => cases adds
    next => cases adds
  rw [AllSessions.bytes]
  exact (Nat.mul_le_mul_right _ limit).trans (by decide)

theorem moves_putBack (store : self.nonces.Consistent) (position : Nat) :
    Moves self (self.step (.putBack position)) := by
  rw [step]
  split
  next sessionId session running =>
      split
      next => exact moves_replaceCall store running (Multiset.zero_le _)
      next other id adds =>
          obtain ⟨kept, fewer, used, -⟩ := store.addNewSessionWithId (bytes_added adds) id
          have same : other = session := by
            simp only [added, running] at adds
            split_ifs at adds
            exact (Prod.mk.inj (some.inj adds)).1.symm
          refine ⟨kept, ?_, rfl, rfl, used⟩
          have split : self.allNonces = (other.nonces + self.nonces.storedNonces) +
              heldNonces (self.calls.eraseIdx position) + self.signedWith := by
            rw [allNonces, heldNonces_eraseIdx running, same, Call.nonces]
            abel
          rw [split]
          simp only [allNonces, replaceCall, nil_append]
          gcongr
  next => exact moves_refl store

/-- A call starts with a nonce it popped. -/
theorem moves_popped (store : self.nonces.Consistent) {sessionId : SessionId} {missing : String}
    {nonce : SecretNonce} {nonces : AllSessions SecretNonce}
    (popped : self.nonces.popNonce sessionId missing = (.ok nonce, nonces))
    (holds : call.nonces = [nonce]) :
    Moves self { self with nonces, calls := call :: self.calls } := by
  obtain ⟨kept, used, stored⟩ := store.popNonce popped
  refine ⟨kept, le_of_eq ?_, rfl, rfl, used.ge⟩
  simp only [allNonces, stored, heldNonces_cons, holds, Multiset.coe_singleton]
  abel

theorem moves_popMoveTx (store : self.nonces.Consistent) (sessionId : SessionId) :
    Moves self (self.step (.popMoveTx sessionId)) := by
  rw [step]
  split
  next => exact moves_refl store
  next popped => exact moves_popped store popped rfl

theorem moves_popOptPayout (store : self.nonces.Consistent) (sessionId : SessionId) :
    Moves self (self.step (.popOptPayout sessionId)) := by
  rw [step]
  split
  next => exact moves_refl store
  next popped => exact moves_popped store popped rfl

theorem moves_popEmergencyStop (store : self.nonces.Consistent) (position : Nat) :
    Moves self (self.step (.popEmergencyStop position)) := by
  rw [step]
  split
  next sessionId movetxSecnonce running =>
      split
      next => exact moves_replaceCall store running (Multiset.zero_le _)
      next nonce nonces popped =>
          obtain ⟨kept, used, stored⟩ := store.popNonce popped
          refine ⟨kept, le_of_eq ?_, rfl, rfl, used.ge⟩
          simp only [allNonces, stored, heldNonces_eraseIdx running, replaceCall,
            heldNonces_append, heldNonces_cons, heldNonces_nil, Call.nonces,
            ← Multiset.cons_coe, ← Multiset.singleton_add, Multiset.coe_nil]
          abel
  next => exact moves_refl store

theorem moves_partialSign (store : self.nonces.Consistent) (position : Nat) :
    Moves self (self.step (.partialSign position)) := by
  rw [step]
  split
  next secnonce secnonces running =>
      refine ⟨store, le_of_eq ?_, rfl, rfl, Finset.Subset.refl _⟩
      simp only [allNonces, heldNonces_eraseIdx running, replaceCall, heldNonces_append,
        heldNonces_cons, heldNonces_nil, Call.nonces, ← Multiset.cons_coe,
        ← Multiset.singleton_add]
      abel
  next => exact moves_refl store

/-- `nonce_gen` stores fresh nonces under an id that was never used. -/
theorem sound_nonceGen (sound : Sound self) {secNonces : List SecretNonce}
    {draws : List SessionId} (fresh : self.Fresh (.nonceGen secNonces draws)) :
    Sound (self.step (.nonceGen secNonces draws)) := by
  rw [step]
  split
  next => exact sound
  next session id adds =>
      obtain ⟨kept, fewer, used, new⟩ := sound.store.addNewSessionWithId (bytes_added adds) id
      obtain ⟨sessionEq, unused⟩ : session = ⟨secNonces⟩ ∧ id ∉ self.nonces.usedIds := by
        simp only [added] at adds
        split_ifs at adds
        obtain ⟨drawn, found, made⟩ := map_eq_some_iff.mp adds
        obtain ⟨rfl, rfl⟩ := Prod.mk.inj made
        exact ⟨rfl, by simpa using find?_some found⟩
      have next : (self.nonces.addNewSessionWithId session id).2.storedNonces +
          heldNonces self.calls + self.signedWith ≤ secNonces + self.allNonces := by
        rw [sessionEq] at fewer
        rw [sessionEq, allNonces, ← add_assoc, ← add_assoc]
        gcongr
      have once : ((secNonces : Multiset SecretNonce) + self.allNonces).Nodup := by
        rw [Multiset.nodup_add, Multiset.coe_nodup]
        refine ⟨fresh.1, sound.once, Multiset.disjoint_left.mpr ?_⟩
        intro nonce generated
        exact fun stored => fresh.2 nonce generated (sound.generated nonce stored)
      refine ⟨kept, Multiset.nodup_of_le next once, ?_, ?_, ?_⟩
      · intro nonce member
        rw [mem_append]
        exact (Multiset.mem_add.mp (Multiset.mem_of_le next member)).imp_right
          (sound.generated nonce)
      · dsimp only
        split_ifs
        · exact nodup_cons.mpr ⟨fun old => unused (sound.used id old), sound.handedOut⟩
        · exact sound.handedOut
      · dsimp only
        intro other member
        split_ifs at member with stored
        · obtain rfl | member := mem_cons.mp member
          · exact new stored
          · exact used (sound.used other member)
        · exact used (sound.used other member)

theorem sound_new : Sound (new : NonceUse SecretNonce) where
  store := AllSessions.consistent_new
  once := Multiset.nodup_zero
  generated nonce member := absurd member (Multiset.notMem_zero nonce)
  handedOut := nodup_nil
  used _ member := absurd member not_mem_nil

/-- What every event keeps. -/
theorem sound_step (sound : Sound self) (fresh : self.Fresh event) : Sound (self.step event) := by
  cases event with
  | nonceGen secNonces draws => exact sound_nonceGen sound fresh
  | takeSession sessionId numRequiredSigs =>
    exact (moves_takeSession sound.store sessionId numRequiredSigs).sound sound
  | signNext position => exact (moves_signNext sound.store position).sound sound
  | channelClosed position => exact (moves_channelClosed sound.store position).sound sound
  | putBack position => exact (moves_putBack sound.store position).sound sound
  | popMoveTx sessionId => exact (moves_popMoveTx sound.store sessionId).sound sound
  | popEmergencyStop position => exact (moves_popEmergencyStop sound.store position).sound sound
  | popOptPayout sessionId => exact (moves_popOptPayout sound.store sessionId).sound sound
  | partialSign position => exact (moves_partialSign sound.store position).sound sound
  | fail position => exact (moves_fail sound.store position).sound sound

theorem Reachable.sound {state : NonceUse SecretNonce} (reachable : Reachable state) :
    Sound state := by
  induction reachable with
  | new => exact sound_new
  | step _ fresh ih => exact sound_step ih fresh

/-- In every interleaving of the calls no nonce signs twice, the store is consistent, no id is
handed out twice, and every session that is added is added as `AllSessions.Adds` says. -/
theorem nonces_used_once {state : NonceUse SecretNonce} (reachable : Reachable state) :
    state.signedWith.Nodup ∧ state.nonces.Consistent ∧ state.handedOut.Nodup ∧
      ∀ event session id, state.added event = some (session, id) →
        state.nonces.Adds session id (state.nonces.addNewSessionWithId session id) := by
  have sound := reachable.sound
  refine ⟨?_, sound.store, sound.handedOut, ?_⟩
  · exact Multiset.coe_nodup.mp (Multiset.nodup_of_le (Multiset.le_add_left _ _) sound.once)
  · intro event session id adds
    exact AllSessions.addNewSessionWithId_adds sound.store (bytes_added adds)

/-- The events of one deposit with a single signature. -/
def depositEvents : List (CallEvent Nat) :=
  [.nonceGen [10, 11, 12] [7], .takeSession 7 1, .signNext 0, .putBack 0, .popMoveTx 7,
    .popEmergencyStop 0, .partialSign 0, .partialSign 0]

theorem reachable_generated : Reachable ((new : NonceUse Nat).step (.nonceGen [10, 11, 12] [7])) :=
  .step .new ⟨by decide, by decide⟩

theorem nonces_used_once_deposit : (depositEvents.foldl step new).signedWith = [12, 11, 10] ∧
      (depositEvents.foldl step new).signedWith.Nodup := by
  have reachable : Reachable (depositEvents.foldl step new) := by
    simp only [depositEvents, foldl_cons, foldl_nil]
    exact .step (.step (.step (.step (.step (.step (.step reachable_generated
      trivial) trivial) trivial) trivial) trivial) trivial) trivial
  exact ⟨by decide +kernel, (nonces_used_once reachable).1⟩

/-- In every interleaving each nonce is in one place, stored, held by a call or used up, and was
generated. -/
theorem nonce_in_one_place {state : NonceUse SecretNonce} (reachable : Reachable state) :
    (state.nonces.storedNonces + heldNonces state.calls + state.signedWith).Nodup ∧
      ∀ nonce ∈ state.allNonces, nonce ∈ state.generated :=
  ⟨reachable.sound.once, reachable.sound.generated⟩

/-- While a deposit is signed, one nonce is used up, one is held by a call and one is stored. -/
theorem nonce_in_one_place_deposit :
    let state := (depositEvents.take 5).foldl step new
    state.signedWith = [10] ∧ heldNonces state.calls = {11} ∧ state.nonces.storedNonces = {12} ∧
      state.allNonces.Nodup := by
  have reachable : Reachable ((depositEvents.take 5).foldl step new) := by
    simp only [depositEvents, take, foldl_cons, foldl_nil]
    exact .step (.step (.step (.step reachable_generated trivial) trivial) trivial) trivial
  exact ⟨by decide +kernel, by decide +kernel, by decide +kernel, (nonce_in_one_place reachable).1⟩

end NonceUse

end Calls

end Clementine
