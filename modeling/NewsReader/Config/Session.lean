import NewsReader.Config.Basic
import NewsReader.Session.Basic

/-!
# The session of a configuration

The configuration says where the token is kept. A session starts with the token that is kept there;
one in memory starts without a token.
-/

namespace NewsReader

/-- The places of a machine where a token can be kept. -/
structure Places where
  /-- The directory for the session file. -/
  cache : Vault.CacheDirectory
  /-- The keychain. -/
  keychain : Vault.Keychain
  deriving DecidableEq

namespace Places

/-- The vault of a kind. -/
def vault (p : Places) : StoreKind → Vault
  | .file => .directory p.cache
  | .keyring => .keychain Vault.defaultSlot p.keychain
  | .memory => .memory none

/-- The places after a vault has been used. -/
def after (p : Places) : Vault → Places
  | .directory cache => { p with cache }
  | .keychain _ keychain => { p with keychain }
  | _ => p

end Places

/-- The session that the configuration asks for. -/
def Config.session (c : Config) (p : Places) : Session × List Event :=
  match c.store with
  | .memory => (Session.new (p.vault .memory), [])
  | kind => Session.restore (p.vault kind)

end NewsReader
