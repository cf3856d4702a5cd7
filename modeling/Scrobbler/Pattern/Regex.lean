import Scrobbler.Pattern.Automaton
import Scrobbler.Pattern.Parse

/-!
# Compiled patterns

A pattern is compiled by reading it and building its automaton. Reading may fail, and the
error is then shown with the pattern; building fails when the pattern uses a word boundary
over Unicode word characters, for which no table is known here, or when its automaton would
exceed the size limit, as a large counted repetition makes it. A compiled pattern answers
whether a text holds a match anywhere in it.
-/

namespace Scrobbler

namespace Pattern

/-- A compiled pattern. -/
structure Regex where
  /-- The automaton that matches it. -/
  automaton : Automaton
  deriving DecidableEq, Repr

/-- The greatest size in bytes a compiled pattern may take. -/
def sizeLimit : Nat := 10485760

/-- The greatest number of states a compiled pattern may have: a state takes 32 bytes. -/
def stateLimit : Nat := sizeLimit / 32

/-- Compiles a pattern, or tells why it cannot be. -/
def Regex.compile (pattern : String) : Except String Regex :=
  match parse pattern with
  | .error e => .error (e.render pattern)
  | .ok h =>
    if h.usesUnicodeWord then .error "error building NFA"
    else if stateLimit < h.size then
      .error ("Compiled regex exceeds size limit of " ++ toString sizeLimit ++ " bytes.")
    else .ok ⟨Automaton.ofHir h⟩

/-- Whether a text holds a match of a compiled pattern. -/
def Regex.isMatch (r : Regex) (text : String) : Bool := r.automaton.finds text

end Pattern

end Scrobbler
