import NewsReader.Session.Basic

/-!
# Callers of one session

The parts of a program that hold a handle on a session use it at the same time. A lock keeps them
apart: any number of callers may look, or one caller alone may change the token.

A change has four steps. The caller takes the lock, lets the vault do its part, writes what is held
and gives the lock back. A look takes the lock together with others, reads and gives it back. The
steps of one caller come in this order, and between any two of them the others may take theirs.
-/

namespace NewsReader.Session

/-- A change of the token. -/
inductive Change where
  /-- Hold a token and keep it. -/
  | set (token : String)
  /-- Drop the token and do not keep it. -/
  | clear
  deriving DecidableEq

namespace Change

/-- What is held after the change. -/
def held : Change → Option String
  | set token => some token
  | clear => none

/-- The part of the change that the vault does. -/
def keep (change : Change) (v : Vault) : Except Vault.Fault Unit × Vault :=
  match change with
  | set token => v.save token
  | clear => v.clear

/-- The change of a session that nobody else uses. -/
def apply (change : Change) (s : Session) : Except Vault.Fault Unit × Session :=
  match change with
  | set token => s.setToken token
  | clear => s.clear

/-- A change is the part of the vault, and then what is held. -/
theorem apply_eq (change : Change) (s : Session) :
    change.apply s = ((change.keep s.vault).1, ⟨change.held, (change.keep s.vault).2⟩) := by
  cases change <;> rfl

end Change

/-- Who has the lock. -/
inductive Lock where
  /-- The callers that look, by their number. The lock is free if there are none. -/
  | shared (readers : Nat)
  /-- The one caller that changes the token. -/
  | exclusive
  deriving DecidableEq

/-- How far a caller is. -/
inductive Stage where
  /-- The caller does not have the lock. -/
  | idle
  /-- The caller has the lock together with others. -/
  | reading
  /-- The caller has the lock alone, and has changed nothing yet. -/
  | locked (change : Change)
  /-- The vault has done its part. -/
  | stored (change : Change) (result : Except Vault.Fault Unit)
  /-- What is held was written. -/
  | written (change : Change) (result : Except Vault.Fault Unit)

/-- The caller has the lock together with others. -/
def Stage.isReading : Stage → Bool
  | reading => true
  | _ => false

/-- The caller is in the middle of a change. -/
def Stage.isChanging : Stage → Bool
  | idle | reading => false
  | _ => true

/-- A step of a caller. -/
inductive Act where
  /-- Take the lock for a change. -/
  | begin (change : Change)
  /-- Let the vault do its part. -/
  | store
  /-- Write what is held. -/
  | write
  /-- Give the lock back after a change. -/
  | finish
  /-- Take the lock for a look. -/
  | enter
  /-- Read the token. -/
  | readToken
  /-- Read whether somebody is logged in. -/
  | readState
  /-- Give the lock back after a look. -/
  | leave
  deriving DecidableEq

/-- What a caller gets out of its step. -/
inductive Report where
  /-- A change is over, with what the vault said. -/
  | done (change : Change) (result : Except Vault.Fault Unit)
  /-- A token was read. -/
  | token (token : String)
  /-- A state was read. -/
  | state (state : State)

/-- What a step of a caller depends on. -/
structure View where
  /-- The session. -/
  session : Session
  /-- The lock. -/
  lock : Lock
  /-- How far the caller is. -/
  stage : Stage

/-- Take a step, if the caller is at it and does not have to wait for the lock. -/
def View.act (v : View) : Act → Option (View × Option Report)
  | .begin change =>
    match v.stage, v.lock with
    | .idle, .shared 0 => some ({ v with lock := .exclusive, stage := .locked change }, none)
    | _, _ => none
  | .store =>
    match v.stage with
    | .locked change =>
      let (result, vault) := change.keep v.session.vault
      some ({ v with session.vault := vault, stage := .stored change result }, none)
    | _ => none
  | .write =>
    match v.stage with
    | .stored change result =>
      some ({ v with session.held := change.held, stage := .written change result }, none)
    | _ => none
  | .finish =>
    match v.stage with
    | .written change result =>
      some ({ v with lock := .shared 0, stage := .idle }, some (.done change result))
    | _ => none
  | .enter =>
    match v.stage, v.lock with
    | .idle, .shared readers =>
      some ({ v with lock := .shared (readers + 1), stage := .reading }, none)
    | _, _ => none
  | .readToken =>
    match v.stage with
    | .reading => some (v, some (.token v.session.token))
    | _ => none
  | .readState =>
    match v.stage with
    | .reading => some (v, some (.state v.session.state))
    | _ => none
  | .leave =>
    match v.stage, v.lock with
    | .reading, .shared (readers + 1) =>
      some ({ v with lock := .shared readers, stage := .idle }, none)
    | _, _ => none

/-- A session, its lock, and the callers that use it. -/
structure Callers where
  /-- The session. -/
  session : Session
  /-- The lock. -/
  lock : Lock
  /-- How far each caller is. -/
  stages : List Stage

namespace Callers

/-- What can happen next. -/
inductive Move where
  /-- There is one more handle, and a caller for it. -/
  | clone
  /-- A caller takes a step. -/
  | act (caller : Nat) (act : Act)
  /-- The operations that the vault refuses change. -/
  | refuse (operations : List Vault.Operation)
  deriving DecidableEq

/-- One caller of a session. -/
def start (s : Session) : Callers :=
  ⟨s, .shared 0, [.idle]⟩

/-- A caller takes a step, if it can. -/
def act (c : Callers) (caller : Nat) (act : Act) : Option (Callers × Option Report) := do
  let stage ← c.stages[caller]?
  let (view, report) ← View.act ⟨c.session, c.lock, stage⟩ act
  some (⟨view.session, view.lock, c.stages.set caller view.stage⟩, report)

/-- Make a move. A step that the caller cannot take now is not taken. -/
def step (c : Callers) : Move → Callers × Option Report
  | .clone => ({ c with stages := c.stages ++ [.idle] }, none)
  | .act caller act => (c.act caller act).getD (c, none)
  | .refuse operations => ({ c with session.vault := c.session.vault.refuse operations }, none)

/-- Make moves one after the other. The reports of earlier moves come first. -/
def run (c : Callers) : List Move → Callers × List Report
  | [] => (c, [])
  | move :: moves =>
    let (c, report) := c.step move
    let (c, reports) := c.run moves
    (c, report.toList ++ reports)

end Callers

end NewsReader.Session
