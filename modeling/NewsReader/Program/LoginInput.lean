import NewsReader.Text.Blank

/-!
# Names and passwords

A name and a password are sent to the server only if the name is not blank, the password is not
empty, and neither is too long.
-/

namespace NewsReader.Program

/-- The greatest length of a name. -/
def nameLimit : Nat :=
  50

/-- The greatest length of a password. -/
def passwordLimit : Nat :=
  128

/-- A reason why a name and a password are not sent. -/
inductive LoginFault where
  /-- One of them is missing. -/
  | missing
  /-- The name is too long. -/
  | longName
  /-- The password is too long. -/
  | longPassword
  deriving DecidableEq

/-- What is said about a text that is too long. -/
def limitText (what : String) (limit : Nat) : String :=
  what ++ " must be at most " ++ String.ofList (Nat.toDigits 10 limit) ++ " characters"

/-- The text of the fault. -/
def LoginFault.text : LoginFault → String
  | missing => "Name and password required"
  | longName => limitText "Name" nameLimit
  | longPassword => limitText "Password" passwordLimit

/-- Whether a name and a password can be sent. -/
def checkLogin (name password : String) : Except LoginFault Unit :=
  if Text.isBlankText name ∨ password.isEmpty then .error .missing
  else if nameLimit < name.length then .error .longName
  else if passwordLimit < password.length then .error .longPassword
  else .ok ()

/-- A name and a password can be sent exactly if none of the faults is there. -/
theorem checkLogin_eq_ok_iff {name password : String} :
    checkLogin name password = .ok () ↔
      Text.isBlankText name = false ∧ password.isEmpty = false ∧
        name.length ≤ nameLimit ∧ password.length ≤ passwordLimit := by
  unfold checkLogin
  split
  · next h => rcases h with h | h <;> simp [h]
  · next h =>
    simp only [not_or, Bool.not_eq_true] at h
    split
    · next hn => simp [h, Nat.not_le.2 hn]
    · next hn =>
      split
      · next hp => simp [h, Nat.not_le.2 hp]
      · next hp => simp [h, Nat.not_lt.1 hn, Nat.not_lt.1 hp]

end NewsReader.Program
