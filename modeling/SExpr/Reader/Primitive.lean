import SExpr.Reader.Basic
import SExpr.Text.Quoted

/-!
# Readers of characters

The readers that look at characters themselves.  Each notes what it wanted where it did not find
it: at its own place, except that a run which is too short fails at its end.
-/

namespace SExpr.Reader

variable {L α β : Type} [Log L]

/-- Fail, a number of characters further on, for want of something. -/
def failAt (distance : Nat) (what : String) : Reader L α := fun _ =>
  ⟨.missing, Log.shift distance (Log.missed what)⟩

/-- Read exactly this text. -/
def token (text : String) : Reader L Unit := fun ahead =>
  if text.toList.isPrefixOf ahead then ⟨.found () text.length, Log.nothing⟩
  else failAt 0 (Text.quoted text) ahead

/-- Read one character for which the function gives a value. -/
def pick (value? : Char → Option α) (what : String) : Reader L α := fun ahead =>
  match ahead.head?.bind value? with
  | some value => ⟨.found value 1, Log.nothing⟩
  | none => failAt 0 what ahead

/-- Read one character that is accepted. -/
def satisfy (accept : Char → Bool) (what : String) : Reader L Char :=
  pick (fun c => if accept c then some c else none) what

/-- Read all the accepted characters ahead, which have to be that many at least. -/
def many (accept : Char → Bool) (what : String) (atLeast : Nat) : Reader L (List Char) :=
  fun ahead =>
    let run := ahead.takeWhile accept
    if run.length < atLeast then failAt run.length what ahead
    else ⟨.found run run.length, Log.nothing⟩

/-- Read a thing for which the function gives a value; without one, fail where it starts. -/
def refine (reader : Reader L α) (value? : α → Option β) (what : String) : Reader L β :=
  fun ahead =>
    match reader ahead with
    | ⟨.found raw length, log⟩ =>
      match value? raw with
      | some value => ⟨.found value length, log⟩
      | none => ⟨.missing, Log.join log (Log.missed what)⟩
    | ⟨.missing, log⟩ => ⟨.missing, log⟩
    | ⟨.tooDeep offset, log⟩ => ⟨.tooDeep offset, log⟩

/-- Make sure that a thing is not ahead, and read nothing. -/
def notAhead (reader : Reader L α) : Reader L Unit := fun ahead =>
  match reader ahead with
  | ⟨.found _ _, log⟩ => ⟨.missing, log⟩
  | ⟨.missing, log⟩ => ⟨.found () 0, log⟩
  | ⟨.tooDeep offset, log⟩ => ⟨.tooDeep offset, log⟩

/-- Run a check only if the text ahead calls for it. -/
def checkWhen (called : List Char → Bool) (check : Reader L Unit) : Reader L Unit := fun ahead =>
  if called ahead then check ahead else succeed () ahead

/-- Read at least one decimal digit. -/
def digits : Reader L (List Char) := many Char.isDigit "digit" 1

end SExpr.Reader
