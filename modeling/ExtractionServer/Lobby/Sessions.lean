import ExtractionServer.Library.Expiry
import ExtractionServer.Library.Transition
import ExtractionServer.Lobby.Scripts

/-! Login sessions in time: the keys `sess_<UUID>` and `user_sess:<ID>` under the commands of
signups, logins, logouts and the middleware's refresh.
-/

namespace ExtractionServer.Lobby

open Transition

-----------------------------------------------------------------------------------------
-- Commands
-----------------------------------------------------------------------------------------

/-- `SESSION_TTL_SEC`, in milliseconds. -/
def SESSION_TTL : Nat := 900000

def DEFAULT_AGGRESSION : Int := 5

/-- A row of `users`. -/
structure UserRow where
  uid : Int
  loginId : String
  rating : Int := 1500
  aggressionLevel : Int
deriving DecidableEq, Repr

/-- `idRegex`: 4 to 16 letters and digits. -/
def idRegex (id : String) : Bool :=
  id.toList.all (·.isAlphanum) && 4 ≤ id.length && id.length ≤ 16

/-- How the collation of `login_id` compares ids of letters and digits. -/
def sameLogin (first second : String) : Bool :=
  first.toLower == second.toLower

/-- The command of a signup that comes next. -/
inductive SignupStage where
  | hSet
  | expire
  | set
deriving DecidableEq, Repr

/-- A signup that has inserted its row. -/
structure Signup where
  id : String
  uid : Int
  stage : SignupStage := .hSet
deriving DecidableEq, Repr

/-- The keys of login sessions, the accounts, and the signups between two of their commands.
-/
structure AuthState where
  now : Nat := 0
  users : List UserRow := []
  sessions : Table String (Expiry.Entry SessionHash) := ∅
  userSess : Table String (Expiry.Entry String) := ∅
  signups : Table String Signup := ∅
  /-- The session ids that have been made. -/
  issued : List String := []

namespace AuthState

inductive Action where
  | wait (milliseconds : Nat)
  | signupInsert (id sessionId : String) (insertId : Int)
  | signupCommand (sessionId : String)
  /-- A login whose password has been accepted, with the locks and tickets of its time. -/
  | login (id sessionId : String) (redis : Redis)
  | logout (sessionId : String)
  | refreshSession (sessionId : String)
  /-- A refresh whose header names a match ticket, which has a `user_id` too. -/
  | refreshTicket (userId : String)

/-- The login session of a key that has not expired. -/
def session (auth : AuthState) (key : String) : Option (Expiry.Entry SessionHash) :=
  Expiry.get auth.sessions auth.now key

/-- The value of `user_sess:<id>`, unless it has expired. -/
def holder (auth : AuthState) (id : String) : Option (Expiry.Entry String) :=
  Expiry.get auth.userSess auth.now id

/-- `EXPIRE sessionId`. -/
def expireSession (auth : AuthState) (sessionId : String) : AuthState :=
  { auth with
    sessions := Expiry.touch auth.sessions auth.now sessionId (auth.now + SESSION_TTL) }

/-- `EXPIRE user_sess:<id>`. -/
def expireHolder (auth : AuthState) (id : String) : AuthState :=
  { auth with userSess := Expiry.touch auth.userSess auth.now id (auth.now + SESSION_TTL) }

/-- The next command of a signup. -/
def signupCommand (auth : AuthState) (sessionId : String) (signup : Signup) : AuthState :=
  match signup.stage with
  | .hSet =>
      -- The id of the session is fresh, so there is no lifetime that the `HSET` would keep.
      let hash : SessionHash :=
        { userId := signup.id
          dbId := signup.uid
          userType := "1"
          rating := 1500
          aggression := DEFAULT_AGGRESSION }
      { auth with
        sessions := auth.sessions.insert sessionId { value := hash }
        signups := auth.signups.insert sessionId { signup with stage := .expire } }
  | .expire =>
      { auth.expireSession sessionId with
        signups := auth.signups.insert sessionId { signup with stage := .set } }
  | .set =>
      { auth with
        userSess :=
          auth.userSess.insert signup.id
            { value := sessionId, deadline := some (auth.now + SESSION_TTL) }
        signups := auth.signups.erase sessionId }

/-- The part of `loginTakeover` that issues the new login session. -/
def issueSession (auth : AuthState) (newSessKey : String) (session : SessionHash)
    : AuthState :=
  let oldSess := (auth.holder session.userId).map (·.value)
  let deadline := some (auth.now + SESSION_TTL)
  let sessions := (oldSess.map (auth.sessions.erase ·)).getD auth.sessions
  { auth with
    sessions := sessions.insert newSessKey { value := session, deadline }
    userSess := auth.userSess.insert session.userId { value := newSessKey, deadline }
    issued := newSessKey :: auth.issued }

/-- The script `logout`. -/
def logout (auth : AuthState) (sessionId : String) : AuthState :=
  match auth.session sessionId with
  | none => auth
  | some entry =>
      let userId := entry.value.userId
      { auth with
        sessions := auth.sessions.erase sessionId
        userSess :=
          if (auth.holder userId).map (·.value) = some sessionId then auth.userSess.erase userId
          else auth.userSess }

/-- The script `refreshSession`. -/
def refreshSession (auth : AuthState) (sessionId : String) : AuthState :=
  match auth.session sessionId with
  | none => auth
  | some entry => (auth.expireHolder entry.value.userId).expireSession sessionId

/-- One command. Session ids are fresh UUIDs, and `insertId` is a fresh key. -/
def next (auth : AuthState) : Action → Option AuthState
  | .wait milliseconds => some { auth with now := auth.now + milliseconds }
  | .signupInsert id sessionId insertId =>
      if idRegex id ∧ sessionId ∉ auth.issued
          ∧ ∀ row ∈ auth.users, sameLogin row.loginId id = false ∧ row.uid ≠ insertId
      then
        some
          { auth with
            users :=
              { uid := insertId, loginId := id, aggressionLevel := DEFAULT_AGGRESSION }
                :: auth.users
            signups := auth.signups.insert sessionId { id, uid := insertId }
            issued := sessionId :: auth.issued }
      else none
  | .signupCommand sessionId =>
      (auth.signups.lookup sessionId).map (auth.signupCommand sessionId)
  | .login id sessionId redis =>
      match auth.users.find? (sameLogin ·.loginId id) with
      | none => some auth
      | some user =>
          let session : SessionHash :=
            { userId := id
              dbId := user.uid
              userType := "1"
              rating := user.rating
              aggression := user.aggressionLevel }
          if idRegex id ∧ sessionId ∉ auth.issued then
            if (redis.loginTakeover sessionId session).2.1 = 0 then some auth
            else some (auth.issueSession sessionId session)
          else none
  | .logout sessionId => some (auth.logout sessionId)
  | .refreshSession sessionId => some (auth.refreshSession sessionId)
  | .refreshTicket userId => some (auth.expireHolder userId)

end AuthState

/-- Login sessions of the server, from a start without any. -/
def authSystem : System AuthState AuthState.Action :=
  .ofNext (fun auth => auth = {}) AuthState.next

namespace AuthState

/-- No signup of the id has a command to come. -/
def Settled (auth : AuthState) (id : String) : Prop :=
  ∀ sessionId signup, auth.signups.lookup sessionId = some signup → signup.id ≠ id

/-- At most one login session meets the condition, and `user_sess:<id>` holds its key. -/
structure OneSession (auth : AuthState) (condition : SessionHash → Prop) (id : String)
    : Prop where
  unique : ∀ first second a b, auth.session first = some a → auth.session second = some b →
    condition a.value → condition b.value → first = second
  held : ∀ key entry, auth.session key = some entry → condition entry.value →
    (auth.holder id).map (·.value) = some key

/-- When a signup writes `user_sess`, its id has no other login session. -/
def undisturbed (auth : AuthState) : Action → Prop
  | .signupCommand sessionId =>
      ∀ signup, auth.signups.lookup sessionId = some signup → signup.stage = .set →
        ∀ key entry, auth.session key = some entry → entry.value.userId = signup.id →
          key = sessionId
  | _ => True

/-- A login spells the id as it has been registered. -/
def asRegistered (auth : AuthState) : Action → Prop
  | .login id _ _ => ∀ row ∈ auth.users, sameLogin row.loginId id → row.loginId = id
  | _ => True

/-- The system whose signups write `user_sess` over no other login session. -/
def undisturbedSystem : System AuthState Action :=
  authSystem.restrict fun before action _ => before.undisturbed action

/-- The system whose logins also spell the ids as registered. -/
def registeredSystem : System AuthState Action :=
  undisturbedSystem.restrict fun before action _ => before.asRegistered action

-----------------------------------------------------------------------------------------
-- Sessions that are held
-----------------------------------------------------------------------------------------

/-- The entry of `user_sess` holds a key at least as long as a login session lives. -/
structure Holds (auth : AuthState) (key : String) (entry : Expiry.Entry SessionHash)
    : Prop where
  limited : entry.deadline.isSome
  held : ∃ holder, auth.holder entry.value.userId = some holder ∧ holder.value = key
    ∧ ∀ time, entry.alive time = true → holder.alive time = true

/-- Every login session belongs to a signup that is under way or is held. -/
structure Guarded (auth : AuthState) : Prop where
  known : ∀ key, key ∈ auth.sessions ∨ key ∈ auth.signups → key ∈ auth.issued
  bounded : ∀ key entry, auth.session key = some entry →
    ∀ limit ∈ entry.deadline, limit ≤ auth.now + SESSION_TTL
  pending : ∀ key signup entry, auth.signups.lookup key = some signup →
    auth.session key = some entry →
    entry.value.userId = signup.id ∧ (signup.stage = .set → entry.deadline.isSome)
  held : ∀ key entry, auth.session key = some entry → key ∉ auth.signups →
    auth.Holds key entry

theorem lt_deadline (auth : AuthState) : auth.now < auth.now + SESSION_TTL :=
  Nat.lt_add_of_pos_right (by decide)

namespace Guarded

variable {auth : AuthState}

theorem initial : Guarded {} := by
  refine ⟨fun key mem => ?_, fun key entry found => ?_, fun key signup entry found => ?_,
    fun key entry found => ?_⟩
  · rcases mem with mem | mem <;> exact absurd mem (AList.notMem_empty key)
  all_goals cases found

theorem wait (h : auth.Guarded) (milliseconds : Nat)
    : Guarded { auth with now := auth.now + milliseconds } := by
  have earlier : ∀ {key entry},
      session { auth with now := auth.now + milliseconds } key = some entry →
      auth.session key = some entry :=
    Expiry.get_of_later (Nat.le_add_right _ _)
  refine ⟨h.known, fun key entry found limit mem => ?_,
    fun key signup entry pending found => h.pending key signup entry pending (earlier found),
    fun key entry found settled => ?_⟩
  · have le := h.bounded key entry (earlier found) limit mem
    dsimp only
    omega
  · obtain ⟨limited, holder, there, value, covers⟩ := h.held key entry (earlier found) settled
    obtain ⟨stored, _⟩ := Expiry.get_eq_some.mp there
    have alive := (Expiry.get_eq_some.mp found).2
    exact ⟨limited, holder, Expiry.get_eq_some.mpr ⟨stored, covers _ alive⟩, value, covers⟩

/-- A refresh of `user_sess` outlives the login sessions, whose deadlines are nearer. -/
theorem expireHolder (h : auth.Guarded) (id : String) : (auth.expireHolder id).Guarded := by
  refine ⟨h.known, h.bounded, h.pending, fun key entry found settled => ?_⟩
  obtain ⟨limited, holder, there, value, covers⟩ := h.held key entry found settled
  refine ⟨limited, ?_⟩
  by_cases same : entry.value.userId = id
  · subst same
    refine ⟨{ holder with deadline := some (auth.now + SESSION_TTL) }, ?_, value,
      fun time alive => ?_⟩
    · exact (Expiry.get_touch_self (auth.lt_deadline)).trans (congrArg (Option.map _) there)
    · obtain ⟨limit, isLimit⟩ := Option.isSome_iff_exists.mp limited
      have le := h.bounded key entry found limit isLimit
      rw [Expiry.Entry.alive_iff isLimit] at alive
      exact (Expiry.Entry.alive_iff rfl time).mpr (Nat.lt_of_lt_of_le alive le)
  · exact ⟨holder, (Expiry.get_touch_ne same _).trans there, value, covers⟩

/-- What a login session was before a refresh. -/
theorem session_expireSession {key other : String} {entry : Expiry.Entry SessionHash}
    (found : (auth.expireSession key).session other = some entry)
    : ∃ old, auth.session other = some old ∧ entry.value = old.value
        ∧ (other ≠ key ∧ entry = old
          ∨ other = key ∧ entry.deadline = some (auth.now + SESSION_TTL)) := by
  by_cases same : other = key
  · subst same
    obtain ⟨old, there, rfl⟩ :=
      Option.map_eq_some_iff.mp ((Expiry.get_touch_self auth.lt_deadline).symm.trans found)
    exact ⟨old, there, rfl, .inr ⟨rfl, rfl⟩⟩
  · exact ⟨entry, (Expiry.get_touch_ne same _).symm.trans found, rfl, .inl ⟨same, rfl⟩⟩

/-- A refresh of a login session, whose holder has been refreshed if there is one. -/
theorem expireSession (h : auth.Guarded) (key : String)
    (refreshed : ∀ entry, auth.session key = some entry → key ∉ auth.signups →
      ∀ holder, auth.holder entry.value.userId = some holder →
        holder.deadline = some (auth.now + SESSION_TTL))
    : (auth.expireSession key).Guarded := by
  refine ⟨fun other mem => ?_, fun other entry found limit mem => ?_,
    fun other signup entry pending found => ?_, fun other entry found settled => ?_⟩
  · exact h.known other (mem.imp_left (Table.mem_adjust key other _ _).mp)
  · obtain ⟨old, there, _, ⟨_, rfl⟩ | ⟨_, deadline⟩⟩ := session_expireSession found
    · exact h.bounded other entry there limit mem
    · rw [deadline] at mem
      cases mem
      exact Nat.le_refl _
  · obtain ⟨old, there, same, cases⟩ := session_expireSession found
    obtain ⟨userId, limited⟩ := h.pending other signup old pending there
    refine ⟨same ▸ userId, fun stage => ?_⟩
    rcases cases with ⟨_, rfl⟩ | ⟨_, deadline⟩
    · exact limited stage
    · rw [deadline, Option.isSome_some]
  · obtain ⟨old, there, same, ⟨_, rfl⟩ | ⟨rfl, deadline⟩⟩ := session_expireSession found
    · obtain ⟨limited, held⟩ := h.held other entry there settled
      exact ⟨limited, held⟩
    · obtain ⟨_, holder, held, value, _⟩ := h.held other old there settled
      refine ⟨by rw [deadline, Option.isSome_some], holder, same ▸ held, value, ?_⟩
      intro time alive
      rw [Expiry.Entry.alive_iff deadline] at alive
      rwa [Expiry.Entry.alive_iff (refreshed old there settled holder held)]

theorem refreshSession (h : auth.Guarded) (sessionId : String)
    : (auth.refreshSession sessionId).Guarded := by
  unfold AuthState.refreshSession
  cases found : auth.session sessionId with
  | none => exact h
  | some entry =>
      refine (h.expireHolder entry.value.userId).expireSession sessionId ?_
      intro again there settled holder held
      obtain rfl : entry = again := Option.some.inj (found.symm.trans there)
      obtain ⟨old, _, rfl⟩ :=
        Option.map_eq_some_iff.mp ((Expiry.get_touch_self auth.lt_deadline).symm.trans held)
      rfl

theorem logout (h : auth.Guarded) (sessionId : String) : (auth.logout sessionId).Guarded := by
  unfold AuthState.logout
  cases gone : auth.session sessionId with
  | none => exact h
  | some entry =>
      have other_of_found : ∀ {key found},
          Expiry.get (auth.sessions.erase sessionId) auth.now key = some found →
          key ≠ sessionId ∧ auth.session key = some found := by
        intro key found there
        have ne : key ≠ sessionId := by
          rintro rfl
          rw [Expiry.get_erase_self] at there
          cases there
        exact ⟨ne, (Expiry.get_erase_ne ne).symm.trans there⟩
      refine ⟨fun key mem => ?_, fun key found there => ?_,
        fun key signup found pending there => ?_, fun key found there settled => ?_⟩
      · exact h.known key (mem.imp_left fun mem => (AList.mem_erase.mp mem).2)
      · exact h.bounded key found (other_of_found there).2
      · exact h.pending key signup found pending (other_of_found there).2
      · obtain ⟨ne, there⟩ := other_of_found there
        obtain ⟨limited, holder, held, value, covers⟩ := h.held key found there settled
        refine ⟨limited, holder, ?_, value, covers⟩
        change Expiry.get (if _ then _ else _) auth.now _ = _
        by_cases own : (auth.holder entry.value.userId).map (·.value) = some sessionId
        · rw [if_pos own]
          refine (Expiry.get_erase_ne fun same => ne ?_).trans held
          rw [← same, held, Option.map_some, value] at own
          exact Option.some.inj own
        · rw [if_neg own]
          exact held

theorem mem_issueSession {newSessKey key : String} {session : SessionHash}
    (mem : key ∈ (auth.issueSession newSessKey session).sessions)
    : key = newSessKey ∨ key ∈ auth.sessions := by
  refine ((AList.mem_insert _).mp mem).imp_right fun old => ?_
  cases held : auth.holder session.userId with
  | none => rwa [held] at old
  | some holder =>
      rw [held] at old
      exact (AList.mem_erase.mp old).2

/-- A login erases the session that `user_sess:<id>` holds. -/
theorem session_issueSession {newSessKey key : String} {session : SessionHash}
    {entry : Expiry.Entry SessionHash}
    (found : (auth.issueSession newSessKey session).session key = some entry)
    : key = newSessKey
        ∧ entry = { value := session, deadline := some (auth.now + SESSION_TTL) }
      ∨ key ≠ newSessKey ∧ auth.session key = some entry
        ∧ (auth.holder session.userId).map (·.value) ≠ some key := by
  by_cases same : key = newSessKey
  · subst same
    obtain ⟨stored, _⟩ := Expiry.get_eq_some.mp found
    exact .inl ⟨rfl, (Option.some.inj ((AList.lookup_insert _).symm.trans stored)).symm⟩
  · refine .inr ⟨same, ?_⟩
    have found := (Expiry.get_insert_ne same _).symm.trans found
    cases held : auth.holder session.userId with
    | none =>
        rw [held] at found
        exact ⟨found, fun absurd => by cases absurd⟩
    | some holder =>
        rw [held] at found
        have ne : key ≠ holder.value := by
          rintro rfl
          rw [Option.map_some, Option.map_some, Option.getD_some, Expiry.get_erase_self]
            at found
          cases found
        exact ⟨(Expiry.get_erase_ne ne).symm.trans found,
          fun same => ne (Option.some.inj same).symm⟩

/-- A login leaves no other session of its id but those of signups under way. -/
theorem issueSession (h : auth.Guarded) {newSessKey : String} {session : SessionHash}
    (fresh : newSessKey ∉ auth.issued)
    : (auth.issueSession newSessKey session).Guarded := by
  refine ⟨fun key mem => ?_, fun key entry found => ?_,
    fun key signup entry pending found => ?_, fun key entry found settled => ?_⟩
  · rcases mem with mem | mem
    · rcases mem_issueSession mem with rfl | old
      · exact List.mem_cons_self
      · exact List.mem_cons_of_mem _ (h.known key (.inl old))
    · exact List.mem_cons_of_mem _ (h.known key (.inr mem))
  · rcases session_issueSession found with ⟨_, rfl⟩ | ⟨_, old, _⟩
    · intro limit mem
      cases mem
      exact Nat.le_refl _
    · exact h.bounded key entry old
  · rcases session_issueSession found with ⟨rfl, _⟩ | ⟨_, old, _⟩
    · exact absurd (h.known key (.inr (Table.mem_of_lookup pending))) fresh
    · exact h.pending key signup entry pending old
  · rcases session_issueSession found with ⟨rfl, rfl⟩ | ⟨_, old, dropped⟩
    · refine ⟨rfl, _, Expiry.get_insert_self _ _ ?_, rfl, fun _ => id⟩
      exact (Expiry.Entry.alive_iff rfl auth.now).mpr auth.lt_deadline
    · obtain ⟨limited, holder, held, value, covers⟩ := h.held key entry old settled
      refine ⟨limited, holder, (Expiry.get_insert_ne (fun same => dropped ?_) _).trans held,
        value, covers⟩
      rw [← same, held, Option.map_some, value]

/-- A signup goes on to another command. -/
theorem setStage (h : auth.Guarded) {sessionId : String} {signup : Signup}
    (pending : auth.signups.lookup sessionId = some signup) (stage : SignupStage)
    (limited : stage = .set → ∀ entry, auth.session sessionId = some entry →
      entry.deadline.isSome)
    : Guarded
        { auth with signups := auth.signups.insert sessionId { signup with stage } } := by
  have pendingKey := Table.mem_of_lookup pending
  refine ⟨fun key mem => h.known key (mem.imp_right fun mem => ?_), h.bounded,
    fun key other entry found there => ?_, fun key entry found settled => ?_⟩
  · exact ((AList.mem_insert _).mp mem).elim (fun same => same ▸ pendingKey) id
  · by_cases same : key = sessionId
    · subst same
      obtain rfl := Option.some.inj ((AList.lookup_insert _).symm.trans found)
      exact ⟨(h.pending key signup entry pending there).1, fun last => limited last entry there⟩
    · exact h.pending key other entry ((AList.lookup_insert_ne same).symm.trans found) there
  · obtain ⟨limited, held⟩ := h.held key entry found
      fun mem => settled ((AList.mem_insert _).mpr (.inr mem))
    exact ⟨limited, held⟩

/-- The `HSET` of a signup. -/
theorem hSet (h : auth.Guarded) {sessionId : String} {signup : Signup}
    (pending : auth.signups.lookup sessionId = some signup) (first : signup.stage = .hSet)
    {hash : SessionHash} (own : hash.userId = signup.id)
    : Guarded { auth with sessions := auth.sessions.insert sessionId { value := hash } } := by
  have pendingKey := Table.mem_of_lookup pending
  refine ⟨fun key mem => ?_, fun key entry found => ?_, fun key other entry known found => ?_,
    fun key entry found settled => ?_⟩
  · refine h.known key (or_iff_not_imp_right.mpr fun settled => ?_)
    rcases mem with mem | mem
    · rcases (AList.mem_insert _).mp mem with rfl | mem
      · exact absurd pendingKey settled
      · exact mem
    · exact absurd mem settled
  · by_cases same : key = sessionId
    · subst same
      obtain ⟨stored, _⟩ := Expiry.get_eq_some.mp found
      obtain rfl := Option.some.inj ((AList.lookup_insert _).symm.trans stored)
      intro limit mem
      cases mem
    · exact h.bounded key entry ((Expiry.get_insert_ne same _).symm.trans found)
  · by_cases same : key = sessionId
    · subst same
      obtain ⟨stored, _⟩ := Expiry.get_eq_some.mp found
      obtain rfl := Option.some.inj ((AList.lookup_insert _).symm.trans stored)
      obtain rfl : signup = other := Option.some.inj (pending.symm.trans known)
      refine ⟨own, fun last => ?_⟩
      rw [first] at last
      cases last
    · exact h.pending key other entry known ((Expiry.get_insert_ne same _).symm.trans found)
  · have ne : key ≠ sessionId := fun same => settled (same ▸ pendingKey)
    obtain ⟨limited, held⟩ :=
      h.held key entry ((Expiry.get_insert_ne ne _).symm.trans found) settled
    exact ⟨limited, held⟩

/-- The `SET` of a signup, which has to find no other session of the id. -/
theorem set (h : auth.Guarded) {sessionId : String} {signup : Signup}
    (pending : auth.signups.lookup sessionId = some signup) (last : signup.stage = .set)
    (undisturbed : ∀ key entry, auth.session key = some entry →
      entry.value.userId = signup.id → key = sessionId)
    : Guarded
        { auth with
          userSess :=
            auth.userSess.insert signup.id
              { value := sessionId, deadline := some (auth.now + SESSION_TTL) }
          signups := auth.signups.erase sessionId } := by
  refine ⟨fun key mem => h.known key (mem.imp_right fun mem => (AList.mem_erase.mp mem).2),
    h.bounded, fun key other entry found there => ?_, fun key entry found settled => ?_⟩
  · have ne := (AList.mem_erase.mp (Table.mem_of_lookup found)).1
    exact h.pending key other entry ((AList.lookup_erase_ne ne).symm.trans found) there
  · by_cases same : key = sessionId
    · subst same
      obtain ⟨own, limited⟩ := h.pending key signup entry pending found
      obtain ⟨limit, isLimit⟩ := Option.isSome_iff_exists.mp (limited last)
      refine ⟨limited last, { value := key, deadline := some (auth.now + SESSION_TTL) }, ?_, rfl,
        fun time alive => ?_⟩
      · rw [own]
        exact Expiry.get_insert_self _ _
          ((Expiry.Entry.alive_iff rfl auth.now).mpr auth.lt_deadline)
      · rw [Expiry.Entry.alive_iff isLimit] at alive
        exact (Expiry.Entry.alive_iff rfl time).mpr
          (Nat.lt_of_lt_of_le alive (h.bounded key entry found limit isLimit))
    · obtain ⟨limited, holder, held, value, covers⟩ :=
        h.held key entry found fun mem => settled (AList.mem_erase.mpr ⟨same, mem⟩)
      exact ⟨limited, holder,
        (Expiry.get_insert_ne (fun own => same (undisturbed key entry found own)) _).trans held,
        value, covers⟩

theorem signupInsert (h : auth.Guarded) (users : List UserRow) {sessionId : String}
    (fresh : sessionId ∉ auth.issued) (signup : Signup)
    : Guarded
        { auth with
          users
          signups := auth.signups.insert sessionId signup
          issued := sessionId :: auth.issued } := by
  have unknown : ∀ {key entry}, auth.session key = some entry → key ≠ sessionId := by
    rintro key entry found rfl
    exact fresh (h.known key (.inl (Table.mem_of_lookup (Expiry.get_eq_some.mp found).1)))
  refine ⟨fun key mem => ?_, h.bounded, fun key other entry pending found => ?_,
    fun key entry found settled => ?_⟩
  · rcases mem with mem | mem
    · exact List.mem_cons_of_mem _ (h.known key (.inl mem))
    · rcases (AList.mem_insert _).mp mem with rfl | mem
      · exact List.mem_cons_self
      · exact List.mem_cons_of_mem _ (h.known key (.inr mem))
  · exact h.pending key other entry
      ((AList.lookup_insert_ne (unknown found)).symm.trans pending) found
  · obtain ⟨limited, held⟩ := h.held key entry found
      fun mem => settled ((AList.mem_insert _).mpr (.inr mem))
    exact ⟨limited, held⟩

/-- Every step whose signup writes `user_sess` over no other session. -/
theorem next (h : auth.Guarded) {action : Action} {after : AuthState}
    (step : auth.next action = some after) (undisturbed : auth.undisturbed action)
    : after.Guarded := by
  cases action with
  | wait milliseconds =>
      cases step
      exact h.wait milliseconds
  | signupInsert id sessionId insertId =>
      simp only [AuthState.next] at step
      split at step
      · next allowed =>
          cases step
          exact h.signupInsert _ allowed.2.1 _
      · cases step
  | signupCommand sessionId =>
      obtain ⟨signup, pending, rfl⟩ := Option.map_eq_some_iff.mp step
      unfold AuthState.signupCommand
      cases stage : signup.stage with
      | hSet =>
          exact (h.hSet pending stage rfl).setStage pending .expire fun last => by cases last
      | expire =>
          have touched := h.expireSession sessionId
            fun _ _ settled => absurd (Table.mem_of_lookup pending) settled
          refine touched.setStage pending .set fun _ entry found => ?_
          obtain ⟨_, _, _, ⟨ne, _⟩ | ⟨_, deadline⟩⟩ := session_expireSession found
          · exact absurd rfl ne
          · rw [deadline, Option.isSome_some]
      | set => exact h.set pending stage (undisturbed signup pending stage)
  | login id sessionId redis =>
      simp only [AuthState.next] at step
      split at step
      · cases step
        exact h
      · split at step
        · next allowed =>
            split at step
            · cases step
              exact h
            · cases step
              exact h.issueSession allowed.2
        · cases step
  | logout sessionId =>
      cases step
      exact h.logout sessionId
  | refreshSession sessionId =>
      cases step
      exact h.refreshSession sessionId
  | refreshTicket userId =>
      cases step
      exact h.expireHolder userId

end Guarded

-----------------------------------------------------------------------------------------
-- One session per account
-----------------------------------------------------------------------------------------

/-- Once its signup is over, an id has at most one login session. -/
theorem Guarded.oneSession {auth : AuthState} (h : auth.Guarded) {id : String}
    (settled : auth.Settled id)
    : auth.OneSession (·.userId = id) id := by
  have held : ∀ key entry, auth.session key = some entry → entry.value.userId = id →
      (auth.holder id).map (·.value) = some key := by
    intro key entry found own
    have noSignup : key ∉ auth.signups := by
      intro mem
      obtain ⟨signup, pending⟩ := Table.exists_lookup_of_mem mem
      exact settled key signup pending ((h.pending key signup entry pending found).1 ▸ own)
    obtain ⟨_, holder, held, value, _⟩ := h.held key entry found noSignup
    rw [← own, held, Option.map_some, value]
  refine ⟨fun first second a b foundA foundB ownA ownB => ?_, held⟩
  exact Option.some.inj ((held first a foundA ownA).symm.trans (held second b foundB ownB))

/-- Login sessions and signups have the key and the id of a row of `users`. -/
structure Registered (auth : AuthState) : Prop where
  distinct : ∀ first ∈ auth.users, ∀ second ∈ auth.users, first.uid = second.uid →
    first = second
  sessions : ∀ key entry, auth.sessions.lookup key = some entry →
    ∃ row ∈ auth.users, row.uid = entry.value.dbId ∧ row.loginId = entry.value.userId
  signups : ∀ key signup, auth.signups.lookup key = some signup →
    ∃ row ∈ auth.users, row.uid = signup.uid ∧ row.loginId = signup.id

namespace Registered

variable {auth : AuthState}

/-- A step that keeps the accounts and adds no login session of a stranger. -/
theorem of_sessions (h : auth.Registered) {after : AuthState} (users : after.users = auth.users)
    (sessions : ∀ key entry, after.sessions.lookup key = some entry →
      (∃ old, auth.sessions.lookup key = some old ∧ entry.value = old.value)
      ∨ ∃ row ∈ auth.users, row.uid = entry.value.dbId ∧ row.loginId = entry.value.userId)
    (signups : ∀ key signup, after.signups.lookup key = some signup →
      ∃ old, auth.signups.lookup key = some old ∧ signup.id = old.id ∧ signup.uid = old.uid)
    : after.Registered := by
  refine ⟨users ▸ h.distinct, fun key entry found => ?_, fun key signup pending => ?_⟩
  · rw [users]
    rcases sessions key entry found with ⟨old, found, same⟩ | row
    · rw [same]
      exact h.sessions key old found
    · exact row
  · obtain ⟨old, pending, id, uid⟩ := signups key signup pending
    rw [users, id, uid]
    exact h.signups key old pending

/-- A refresh changes deadlines only. -/
theorem expireSession (h : auth.Registered) (key : String)
    : (auth.expireSession key).Registered := by
  refine h.of_sessions rfl (fun other entry found => .inl ?_)
    fun other signup pending => ⟨signup, pending, rfl, rfl⟩
  rcases Table.lookup_adjust_cases found with ⟨rfl, old, found, changed⟩ | ⟨_, found⟩
  · refine ⟨old, found, ?_⟩
    rw [changed]
    split <;> rfl
  · exact ⟨entry, found, rfl⟩

theorem refreshSession (h : auth.Registered) (sessionId : String)
    : (auth.refreshSession sessionId).Registered := by
  unfold AuthState.refreshSession
  cases auth.session sessionId with
  | none => exact h
  | some entry =>
      have refreshed : (auth.expireHolder entry.value.userId).Registered :=
        ⟨h.distinct, h.sessions, h.signups⟩
      exact refreshed.expireSession sessionId

/-- What a table without a key holds. -/
theorem old_of_erase {key gone : String} {entry : Expiry.Entry SessionHash}
    (found : (auth.sessions.erase gone).lookup key = some entry)
    : auth.sessions.lookup key = some entry := by
  have ne := (AList.mem_erase.mp (Table.mem_of_lookup found)).1
  exact (AList.lookup_erase_ne ne).symm.trans found

theorem logout (h : auth.Registered) (sessionId : String)
    : (auth.logout sessionId).Registered := by
  unfold AuthState.logout
  cases auth.session sessionId with
  | none => exact h
  | some _ =>
      exact h.of_sessions rfl
        (fun key entry found => .inl ⟨entry, old_of_erase found, rfl⟩)
        fun key signup pending => ⟨signup, pending, rfl, rfl⟩

/-- A login with the id and the key of a row. -/
theorem issueSession (h : auth.Registered) (newSessKey : String) {session : SessionHash}
    (row : ∃ row ∈ auth.users, row.uid = session.dbId ∧ row.loginId = session.userId)
    : (auth.issueSession newSessKey session).Registered := by
  refine h.of_sessions rfl (fun key entry found => ?_)
    fun key signup pending => ⟨signup, pending, rfl, rfl⟩
  by_cases same : key = newSessKey
  · subst same
    obtain rfl := Option.some.inj ((AList.lookup_insert _).symm.trans found)
    exact .inr row
  · have found := (AList.lookup_insert_ne same).symm.trans found
    refine .inl ⟨entry, ?_, rfl⟩
    cases held : auth.holder session.userId with
    | none => rwa [held] at found
    | some holder =>
        rw [held] at found
        exact old_of_erase found

theorem signupCommand (h : auth.Registered) {sessionId : String} {signup : Signup}
    (pending : auth.signups.lookup sessionId = some signup)
    : (auth.signupCommand sessionId signup).Registered := by
  have later : ∀ (stage : SignupStage) key other,
      (auth.signups.insert sessionId { signup with stage }).lookup key = some other →
      ∃ old, auth.signups.lookup key = some old ∧ other.id = old.id ∧ other.uid = old.uid := by
    intro stage key other found
    by_cases same : key = sessionId
    · subst same
      obtain rfl := Option.some.inj ((AList.lookup_insert _).symm.trans found)
      exact ⟨signup, pending, rfl, rfl⟩
    · exact ⟨other, (AList.lookup_insert_ne same).symm.trans found, rfl, rfl⟩
  unfold AuthState.signupCommand
  cases signup.stage with
  | hSet =>
      refine h.of_sessions rfl (fun key entry found => ?_) (later .expire)
      by_cases same : key = sessionId
      · subst same
        obtain rfl := Option.some.inj ((AList.lookup_insert _).symm.trans found)
        exact .inr (h.signups key signup pending)
      · exact .inl ⟨entry, (AList.lookup_insert_ne same).symm.trans found, rfl⟩
  | expire =>
      refine (h.expireSession sessionId).of_sessions rfl (fun key entry found => ?_)
        (later .set)
      exact .inl ⟨entry, found, rfl⟩
  | set =>
      refine h.of_sessions rfl (fun key entry found => .inl ⟨entry, found, rfl⟩)
        fun key other found => ?_
      have ne := (AList.mem_erase.mp (Table.mem_of_lookup found)).1
      exact ⟨other, (AList.lookup_erase_ne ne).symm.trans found, rfl, rfl⟩

/-- The row of a signup has a new key. -/
theorem signupInsert (h : auth.Registered) {row : UserRow} {sessionId : String}
    (fresh : ∀ old ∈ auth.users, old.uid ≠ row.uid) (issued : List String)
    : Registered
        { auth with
          users := row :: auth.users
          signups := auth.signups.insert sessionId { id := row.loginId, uid := row.uid }
          issued } := by
  refine ⟨fun first memFirst second memSecond same => ?_, fun key entry found => ?_,
    fun key signup pending => ?_⟩
  · rcases List.mem_cons.mp memFirst with rfl | oldFirst
    · rcases List.mem_cons.mp memSecond with rfl | oldSecond
      · rfl
      · exact absurd same.symm (fresh second oldSecond)
    · rcases List.mem_cons.mp memSecond with rfl | oldSecond
      · exact absurd same (fresh first oldFirst)
      · exact h.distinct first oldFirst second oldSecond same
  · obtain ⟨old, mem, own⟩ := h.sessions key entry found
    exact ⟨old, List.mem_cons_of_mem _ mem, own⟩
  · by_cases same : key = sessionId
    · subst same
      obtain rfl := Option.some.inj ((AList.lookup_insert _).symm.trans pending)
      exact ⟨row, List.mem_cons_self, rfl, rfl⟩
    · obtain ⟨old, mem, own⟩ :=
        h.signups key signup ((AList.lookup_insert_ne same).symm.trans pending)
      exact ⟨old, List.mem_cons_of_mem _ mem, own⟩

/-- Every step whose login spells its id as registered. -/
theorem next (h : auth.Registered) {action : Action} {after : AuthState}
    (step : auth.next action = some after) (spelled : auth.asRegistered action)
    : after.Registered := by
  cases action with
  | wait milliseconds =>
      cases step
      exact ⟨h.distinct, h.sessions, h.signups⟩
  | signupInsert id sessionId insertId =>
      simp only [AuthState.next] at step
      split at step
      · next allowed =>
          cases step
          exact h.signupInsert (fun old mem => (allowed.2.2 old mem).2) _
      · cases step
  | signupCommand sessionId =>
      obtain ⟨signup, pending, rfl⟩ := Option.map_eq_some_iff.mp step
      exact h.signupCommand pending
  | login id sessionId redis =>
      simp only [AuthState.next] at step
      split at step
      · cases step
        exact h
      · next user found =>
          have mem := List.mem_of_find?_eq_some found
          have same := spelled user mem
            (List.find?_some (p := fun row : UserRow => sameLogin row.loginId id) found)
          split at step
          · split at step
            · cases step
              exact h
            · cases step
              exact h.issueSession sessionId ⟨user, mem, rfl, same⟩
          · cases step
  | logout sessionId =>
      cases step
      exact h.logout sessionId
  | refreshSession sessionId =>
      cases step
      exact h.refreshSession sessionId
  | refreshTicket userId =>
      cases step
      exact ⟨h.distinct, h.sessions, h.signups⟩

end Registered

theorem guarded_of_reachable {auth : AuthState} (reached : undisturbedSystem.Reachable auth)
    : auth.Guarded := by
  have invariant : undisturbedSystem.Inductive Guarded := by
    refine ⟨?_, fun before action after h step => h.next step.1 step.2⟩
    rintro auth rfl
    exact .initial
  exact invariant.reachable reached

theorem registered_of_reachable {auth : AuthState} (reached : registeredSystem.Reachable auth)
    : auth.Registered := by
  have invariant : registeredSystem.Inductive Registered := by
    refine ⟨?_, fun before action after h step => h.next step.1.1 step.2⟩
    rintro auth rfl
    refine ⟨fun first mem => ?_, fun key entry found => ?_, fun key signup pending => ?_⟩
    · cases mem
    · cases found
    · cases pending
  exact invariant.reachable reached

/-- In a run in which no signup writes `user_sess` while its id has another login session, an
id has at most one login session once its signup is over, and `user_sess` holds its key. If
every login also spells its id as registered, this is so of every account.
-/
theorem one_session_per_account {auth : AuthState}
    (reached : undisturbedSystem.Reachable auth)
    : (∀ id, auth.Settled id → auth.OneSession (·.userId = id) id)
      ∧ (registeredSystem.Reachable auth →
        ∀ row ∈ auth.users, auth.Settled row.loginId →
          auth.OneSession (·.dbId = row.uid) row.loginId) := by
  have guarded := guarded_of_reachable reached
  refine ⟨fun id settled => guarded.oneSession settled, fun spelled row mem settled => ?_⟩
  have one := guarded.oneSession settled
  have registered := registered_of_reachable spelled
  have own : ∀ {key entry}, auth.session key = some entry → entry.value.dbId = row.uid →
      entry.value.userId = row.loginId := by
    intro key entry found same
    obtain ⟨other, known, uid, loginId⟩ :=
      registered.sessions key entry (Expiry.get_eq_some.mp found).1
    rw [← loginId, registered.distinct other known row mem (uid.trans same)]
  refine ⟨fun first second a b foundA foundB ownA ownB => ?_, fun key entry found same => ?_⟩
  · exact one.unique first second a b foundA foundB (own foundA ownA) (own foundB ownB)
  · exact one.held key entry found (own found same)

/-- The state after a command that is enabled. -/
def perform (auth : AuthState) (action : Action) : AuthState :=
  (auth.next action).getD auth

theorem perform_reachable {auth : AuthState} (reached : registeredSystem.Reachable auth)
    (action : Action) (enabled : (auth.next action).isSome = true)
    (undisturbed : auth.undisturbed action) (spelled : auth.asRegistered action)
    : registeredSystem.Reachable (auth.perform action) := by
  obtain ⟨after, step⟩ := Option.isSome_iff_exists.mp enabled
  rw [perform, step, Option.getD_some]
  exact .step reached ⟨⟨step, undisturbed⟩, spelled⟩

/-- A signup before its `SET`. -/
def almostSignedUp : AuthState :=
  ((perform {} (.signupInsert "alpha" "sess_signup" 1)).perform
    (.signupCommand "sess_signup")).perform (.signupCommand "sess_signup")

def signedUp : AuthState := almostSignedUp.perform (.signupCommand "sess_signup")

theorem signedUp_reachable : registeredSystem.Reachable signedUp := by
  have notLast : ∀ {auth : AuthState},
      (auth.signups.lookup "sess_signup").all (·.stage ≠ .set) = true →
      auth.undisturbed (.signupCommand "sess_signup") := by
    intro auth early signup pending last
    rw [pending, Option.all_some, decide_eq_true_eq] at early
    exact absurd last early
  have inserted := perform_reachable (.initial rfl)
    (.signupInsert "alpha" "sess_signup" 1) (by decide +kernel) trivial trivial
  have set := perform_reachable inserted (.signupCommand "sess_signup")
    (by decide +kernel) (notLast (by decide +kernel)) trivial
  have expiring := perform_reachable set (.signupCommand "sess_signup")
    (by decide +kernel) (notLast (by decide +kernel)) trivial
  refine perform_reachable expiring (.signupCommand "sess_signup") (by decide +kernel) ?_ trivial
  intro signup _ _ key entry found _
  have keys : almostSignedUp.sessions.keys = ["sess_signup"] := by decide +kernel
  have mem : key ∈ almostSignedUp.sessions.keys :=
    Table.mem_of_lookup (Expiry.get_eq_some.mp found).1
  rw [keys] at mem
  exact List.mem_singleton.mp mem

/-- Witness: the account of a signup has its one login session. -/
theorem signedUp_oneSession
    : signedUp.OneSession (·.userId = "alpha") "alpha"
      ∧ signedUp.OneSession (·.dbId = 1) "alpha" := by
  have settled : signedUp.Settled "alpha" := by
    have none : signedUp.signups.keys = [] := by decide +kernel
    intro sessionId signup pending
    have mem : sessionId ∈ signedUp.signups.keys := Table.mem_of_lookup pending
    rw [none] at mem
    cases mem
  have row : { uid := 1, loginId := "alpha", aggressionLevel := 5 } ∈ signedUp.users := by
    decide +kernel
  obtain ⟨byId, byAccount⟩ := one_session_per_account signedUp_reachable.of_restrict
  exact ⟨byId "alpha" settled, byAccount signedUp_reachable _ row settled⟩

-----------------------------------------------------------------------------------------
-- A login before the end of a signup
-----------------------------------------------------------------------------------------

/-- The owner of a new account logs in while the signup still has its `SET` to do. -/
def raceActions : List Action :=
  [.signupInsert "alpha" "sess_signup" 1, .signupCommand "sess_signup",
    .signupCommand "sess_signup", .login "alpha" "sess_login" {},
    .signupCommand "sess_signup"]

/-- After the race two login sessions have the same `user_id`. -/
def race : AuthState :=
  (replay next (fun _ _ _ => true) {} raceActions).getD {}

theorem race_reachable : authSystem.Reachable race := by
  have run := System.Run.of_replay (fun auth => auth = {}) next (fun _ _ _ => true)
    raceActions {} {} (by decide +kernel)
  exact run.of_restrict.reachable (.initial rfl)

theorem two_sessions_after_race
    : ¬ ∀ auth, authSystem.Reachable auth → ∀ id, auth.Settled id →
        auth.OneSession (·.userId = id) id := by
  intro claimed
  have settled : race.Settled "alpha" := by
    have none : race.signups.keys = [] := by decide +kernel
    intro sessionId signup pending
    have mem : sessionId ∈ race.signups.keys := Table.mem_of_lookup pending
    rw [none] at mem
    cases mem
  have one := claimed race race_reachable "alpha" settled
  have both : (race.session "sess_signup").map (·.value.userId) = some "alpha"
      ∧ (race.session "sess_login").map (·.value.userId) = some "alpha" := by
    decide +kernel
  obtain ⟨first, foundFirst, ownFirst⟩ := Option.map_eq_some_iff.mp both.1
  obtain ⟨second, foundSecond, ownSecond⟩ := Option.map_eq_some_iff.mp both.2
  have same := one.unique _ _ first second foundFirst foundSecond ownFirst ownSecond
  exact absurd same (by decide)

end AuthState

end ExtractionServer.Lobby
