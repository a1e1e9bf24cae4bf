import NewsReader.Vault.CacheDirectory
import NewsReader.Vault.Keychain

/-!
# Vaults

A vault keeps one token from one run to the next: in a file, in a slot of the keychain, or in
memory, where nothing outlives the run. An unreliable vault is one in memory that can be told to
refuse operations, as the keychain can.
-/

namespace NewsReader

/-- A place that keeps one token. -/
inductive Vault where
  /-- The memory of the program. -/
  | memory (token : Option String)
  /-- The memory of the program, with the operations that it refuses. -/
  | unreliable (token : Option String) (refused : List Vault.Operation)
  /-- A file in a directory. -/
  | directory (directory : Vault.CacheDirectory)
  /-- A slot of the keychain. -/
  | keychain (slot : Vault.Slot) (keychain : Vault.Keychain)
  deriving DecidableEq

namespace Vault

/-- The slot that is used if no other is asked for. -/
def defaultSlot : Slot :=
  ⟨"newsfeed", "authToken"⟩

/-- The kept token. -/
def load : Vault → Except Fault (Option String)
  | memory token => .ok token
  | unreliable token refused => if refused.contains .load then .error .refused else .ok token
  | directory d => d.load
  | keychain slot k => k.load slot

/-- Keep a token in place of the kept one. -/
def save (v : Vault) (token : String) : Except Fault Unit × Vault :=
  match v with
  | memory _ => (.ok (), memory (some token))
  | unreliable _ refused =>
    if refused.contains .save then (.error .refused, v)
    else (.ok (), unreliable (some token) refused)
  | directory d => let (result, d) := d.save token; (result, directory d)
  | keychain slot k => let (result, k) := k.save slot token; (result, keychain slot k)

/-- Keep no token. -/
def clear (v : Vault) : Except Fault Unit × Vault :=
  match v with
  | memory _ => (.ok (), memory none)
  | unreliable _ refused =>
    if refused.contains .clear then (.error .refused, v) else (.ok (), unreliable none refused)
  | directory d => let (result, d) := d.clear; (result, directory d)
  | keychain slot k => let (result, k) := k.clear slot; (result, keychain slot k)

/-- Name the operations that are refused from now on, where that can be done. -/
def refuse (v : Vault) (operations : List Operation) : Vault :=
  match v with
  | unreliable token _ => unreliable token operations
  | keychain slot k => keychain slot { k with locked := operations }
  | v => v

end Vault

end NewsReader
