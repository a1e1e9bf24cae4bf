import NewsReader.Vault.Basic

/-!
# Steps of a vault

The steps of a vault are its three operations and the incidents that happen to the place that it
uses: somebody else writes there, or the operations that are refused change. A vault is used over
many runs of the program, so the steps come in any order.
-/

namespace NewsReader.Vault

/-- Something that happens to the place that a vault uses, from outside. -/
inductive Incident where
  /-- The operations that are refused change. -/
  | refuse (operations : List Operation)
  /-- A secret is put into a slot of the keychain. -/
  | putSecret (slot : Slot) (secret : List UInt8)
  /-- The session file is written. -/
  | writeFile (bytes : List UInt8)
  /-- The session file becomes a directory. -/
  | fileToDirectory
  /-- The directory becomes a file. -/
  | directoryToFile
  /-- The directory is opened to everybody. -/
  | loosen
  deriving DecidableEq

/-- The vault after an incident. Nothing happens to a vault that does not use such a place. -/
def meet (v : Vault) : Incident → Vault
  | .refuse operations => v.refuse operations
  | .putSecret slot secret =>
    match v with
    | keychain own k => keychain own (k.put slot secret)
    | v => v
  | .writeFile bytes =>
    match v with
    | directory d => directory (d.putSession (.file bytes))
    | v => v
  | .fileToDirectory =>
    match v with
    | directory d => directory (d.putSession .directory)
    | v => v
  | .directoryToFile =>
    match v with
    | directory d => directory d.block
    | v => v
  | .loosen =>
    match v with
    | directory d => directory d.loosen
    | v => v

/-- A step of a vault. -/
inductive Step where
  /-- Load the token. -/
  | load
  /-- Save a token. -/
  | save (token : String)
  /-- Clear the token. -/
  | clear
  /-- Something happens from outside. -/
  | incident (incident : Incident)
  deriving DecidableEq

/-- What a step answers: nothing, a token that may be missing, or a fault. -/
abbrev Answer :=
  Except Fault (Option String)

/-- An answer without a token. -/
def Answer.done : Except Fault Unit → Answer :=
  Except.map fun _ => none

/-- The answer after a success. -/
@[simp] theorem Answer.done_ok (u : Unit) : Answer.done (.ok u) = .ok none := rfl

/-- The answer after a fault. -/
@[simp] theorem Answer.done_error (fault : Fault) : Answer.done (.error fault) = .error fault := rfl

/-- The answer is a fault exactly if the result was. -/
theorem Answer.done_eq_error_iff {result : Except Fault Unit} {fault : Fault} :
    Answer.done result = .error fault ↔ result = .error fault := by
  cases result <;> simp

/-- Take a step. -/
def step (v : Vault) : Step → Answer × Vault
  | .load => (v.load, v)
  | .save token =>
    let (result, v) := v.save token
    (Answer.done result, v)
  | .clear =>
    let (result, v) := v.clear
    (Answer.done result, v)
  | .incident incident => (.ok none, v.meet incident)

/-- Take steps one after the other. -/
def run (v : Vault) (steps : List Step) : Vault :=
  steps.foldl (fun v s => (v.step s).2) v

end NewsReader.Vault
