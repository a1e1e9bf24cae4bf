import NewsReader.Session.Basic
import NewsReader.Vault.Step

/-!
# Handles on a session

The parts of a program have handles on one session, and a vault outlives the session over it. A step
is a change of the session, a new session in place of the old one, or a step of the vault itself.

A session over a memory of its own leaves the vault aside; the vault is still there for the steps
that are about it.
-/

namespace NewsReader

namespace Session

/-- One session, the handles on it, and the vault that it may have left aside. -/
structure Handles where
  /-- The session that all handles are on. -/
  session : Session
  /-- The vault, if the session does not use it. -/
  aside : Option Vault
  /-- The number of handles. -/
  count : Nat
  deriving DecidableEq

/-- A step of a program with handles on a session. -/
inductive Step where
  /-- Start a session without a token. -/
  | new
  /-- Start a session with the kept token. -/
  | restore
  /-- Start a session over a memory of its own. -/
  | inMemory
  /-- Make one more handle. -/
  | clone
  /-- Set the token. -/
  | setToken (token : String)
  /-- Clear the token. -/
  | clear
  /-- Load from the vault itself. -/
  | vaultLoad
  /-- Save to the vault itself. -/
  | vaultSave (token : String)
  /-- Clear the vault itself. -/
  | vaultClear
  /-- Something happens from outside. -/
  | incident (incident : Vault.Incident)
  /-- Only look. -/
  | look
  deriving DecidableEq

/-- A step answers as a step of a vault does. -/
abbrev Answer :=
  Vault.Answer

namespace Handles

/-- One handle on a session without a token. -/
def start (vault : Vault) : Handles :=
  ⟨Session.new vault, none, 1⟩

/-- The vault, wherever it is. -/
def vault (h : Handles) : Vault :=
  h.aside.getD h.session.vault

/-- Put a vault in the place of the vault. -/
def withVault (h : Handles) (vault : Vault) : Handles :=
  match h.aside with
  | none => { h with session := { h.session with vault } }
  | some _ => { h with aside := some vault }

/-- The session as each of the handles shows it. -/
def all (h : Handles) : List Session :=
  List.replicate h.count h.session

/-- Take a step of the vault itself. -/
def atVault (h : Handles) (step : Vault.Step) : Answer × Handles × List Event :=
  let (answer, vault) := h.vault.step step
  (answer, h.withVault vault, [])

/-- Take a step. -/
def step (h : Handles) : Step → Answer × Handles × List Event
  | .new => (.ok none, start h.vault, [])
  | .restore =>
    let (session, events) := Session.restore h.vault
    (.ok none, ⟨session, none, 1⟩, events)
  | .inMemory => (.ok none, ⟨Session.new (.memory none), some h.vault, 1⟩, [])
  | .clone => (.ok none, { h with count := h.count + 1 }, [])
  | .setToken token =>
    let (result, session) := h.session.setToken token
    (Vault.Answer.done result, { h with session }, [])
  | .clear =>
    let (result, session) := h.session.clear
    (Vault.Answer.done result, { h with session }, [])
  | .vaultLoad => h.atVault .load
  | .vaultSave token => h.atVault (.save token)
  | .vaultClear => h.atVault .clear
  | .incident incident => h.atVault (.incident incident)
  | .look => (.ok none, h, [])

end Handles

end Session

end NewsReader
