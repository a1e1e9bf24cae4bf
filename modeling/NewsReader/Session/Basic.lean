import NewsReader.Log.Event
import NewsReader.Vault.Basic

/-!
# Sessions

A session holds the token that stands for the user, and keeps it in a vault. All parts of the
program use the one session, so that a change of the token counts for all of them at once.

Two changes are possible: the token is set, or it is cleared. Each reaches the vault first and then
what is held, and what is held changes even if the vault fails.
-/

namespace NewsReader

/-- A held token and the vault that keeps it. -/
structure Session where
  /-- The token, if one was set since the last clearing. -/
  held : Option String
  /-- The vault. -/
  vault : Vault
  deriving DecidableEq

namespace Session

/-- Whether somebody is logged in. -/
inductive State where
  | anonymous
  | authenticated
  deriving DecidableEq

/-- The written state. -/
def State.text : State → String
  | anonymous => "Anonymous"
  | authenticated => "Authenticated"

/-- A session without a token, whatever the vault keeps. -/
def new (vault : Vault) : Session :=
  ⟨none, vault⟩

/-- A session with the token that the vault keeps. An empty token, or a vault that fails, means
none. -/
def restore (vault : Vault) : Session × List Event :=
  match vault.load with
  | .ok token =>
    let held := token.filter (!·.isEmpty)
    (⟨held, vault⟩, [.restored held.isSome])
  | .error fault => (⟨none, vault⟩, [.loadingFailed fault.message, .restored false])

/-- The held token, or the empty text. -/
def token (s : Session) : String :=
  s.held.getD ""

/-- Whether somebody is logged in. -/
def state (s : Session) : State :=
  if s.token.isEmpty then .anonymous else .authenticated

/-- Somebody is logged in. -/
def isAuthenticated (s : Session) : Bool :=
  s.state == .authenticated

/-- What is shown of a session. The token is not. -/
def shown (s : Session) : String :=
  "Session \x7b state: " ++ s.state.text ++ " \x7d"

/-- Hold a token and keep it. -/
def setToken (s : Session) (token : String) : Except Vault.Fault Unit × Session :=
  let (result, vault) := s.vault.save token
  (result, ⟨some token, vault⟩)

/-- Drop the token and do not keep it. -/
def clear (s : Session) : Except Vault.Fault Unit × Session :=
  let (result, vault) := s.vault.clear
  (result, ⟨none, vault⟩)

/-- The held token after setting one. -/
@[simp] theorem held_setToken (s : Session) (token : String) :
    (s.setToken token).2.held = some token := rfl

/-- The held token after clearing. -/
@[simp] theorem held_clear (s : Session) : s.clear.2.held = none := rfl

end Session

end NewsReader
