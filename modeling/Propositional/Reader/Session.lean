import Propositional.Reader.Production

/-!
# Reading step by step

A session applies one call after another to the same cursor.  A call that fails leaves the cursor
where it failed, with the constructs that were open there still counted as open, and the next call
goes on from it.
-/

namespace Propositional.Session

/-- What may be asked of a cursor. -/
inductive Call where
  | finished
  | lookahead
  | accept (word : List Char)
  | read (production : Production)
deriving DecidableEq

/-- What a call gives. -/
inductive Answer where
  | flag (value : Bool)
  | char (char : Option Char)
  | formula (formula : Formula)
deriving DecidableEq

/-- The reader of a call. -/
def Call.reader : Call → Reader Answer
  | finished => return .flag (← Reader.lookahead).isNone
  | lookahead => return .char (← Reader.lookahead)
  | accept word => return .flag (← Reader.accept word)
  | read production => return .formula (← production.read)

/-- One call of a session: its outcome, and the cursor after it. -/
structure Step where
  outcome : Except Rejection Answer
  cursor : Cursor

/-- Apply a call to a cursor. -/
def step (cursor : Cursor) (call : Call) : Step :=
  match call.reader cursor with
  | .ok answer cursor => ⟨.ok answer, cursor⟩
  | .error error cursor => ⟨.error error, cursor⟩

/-- Apply calls in turn, starting from a cursor. -/
def run (cursor : Cursor) : List Call → List Step
  | [] => []
  | call :: calls => step cursor call :: run (step cursor call).cursor calls

end Propositional.Session
