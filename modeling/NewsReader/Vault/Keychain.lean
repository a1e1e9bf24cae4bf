import NewsReader.Vault.Fault

/-!
# The keychain

A keychain keeps secrets, each under a service and a key. A secret is a run of bytes; a token is one
that is UTF-8. A locked keychain refuses operations.
-/

namespace NewsReader.Vault

/-- Where a secret is kept. -/
structure Slot where
  /-- The service. -/
  service : String
  /-- The key. -/
  key : String
  deriving DecidableEq

/-- The secrets of a machine. -/
structure Keychain where
  /-- The secrets, at most one for each slot. -/
  entries : List (Slot × List UInt8)
  /-- The operations that are refused. -/
  locked : List Operation
  deriving DecidableEq

namespace Keychain

/-- A keychain without secrets that refuses nothing. -/
def empty : Keychain :=
  ⟨[], []⟩

/-- The secret of a slot. -/
def find? (k : Keychain) (slot : Slot) : Option (List UInt8) :=
  k.entries.lookup slot

/-- Take the secret of a slot away. -/
def erase (k : Keychain) (slot : Slot) : Keychain :=
  { k with entries := k.entries.filter (·.1 ≠ slot) }

/-- Put a secret into a slot. -/
def put (k : Keychain) (slot : Slot) (secret : List UInt8) : Keychain :=
  { k with entries := (slot, secret) :: (k.erase slot).entries }

/-- The first of the operations that is refused. -/
def refusal? (k : Keychain) (operations : List Operation) : Option Fault :=
  (operations.find? k.locked.contains).map .locked

/-- The token in a slot, if there is one. -/
def load (k : Keychain) (slot : Slot) : Except Fault (Option String) :=
  match k.refusal? [.create, .load] with
  | some fault => .error fault
  | none =>
    match k.find? slot with
    | none => .ok none
    | some secret =>
      match Text.decode? secret with
      | some cs => .ok (some (String.ofList cs))
      | none => .error .secret

/-- Put a token into a slot. -/
def save (k : Keychain) (slot : Slot) (token : String) : Except Fault Unit × Keychain :=
  match k.refusal? [.create, .save] with
  | some fault => (.error fault, k)
  | none => (.ok (), k.put slot (Text.encode token.toList))

/-- Take the token out of a slot. -/
def clear (k : Keychain) (slot : Slot) : Except Fault Unit × Keychain :=
  match k.refusal? [.create, .clear] with
  | some fault => (.error fault, k)
  | none => (.ok (), k.erase slot)

end Keychain

end NewsReader.Vault
