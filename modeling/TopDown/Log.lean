import TopDown.Production
import TopDown.Text.Quoted

/-!
# The log

The search for the lookahead, the table and the parser say what they meet on their way.

* `Event`, one constructor for each kind of message, with `Event.level` and `Event.message`;
* `Logged`, a value with the events that led to it, in order.
-/

namespace TopDown

/-- How much an event matters. -/
inductive Level where
  | warn
  | debug
  | trace
  deriving DecidableEq

/-- The name of a level. -/
def Level.text : Level → String
  | warn => "WARN"
  | debug => "DEBUG"
  | trace => "TRACE"

/-- What is met on the way. -/
inductive Event where
  /-- Two alternatives share a lookahead word of length `k`. -/
  | sharedLookahead (p q : Production) (k : Nat)
  /-- Lookahead `k` tells all alternatives apart. -/
  | foundLookahead (k : Nat)
  /-- The lookahead word selected `q` and now selects `p`. -/
  | takenOver (w : Word) (p q : Production)
  /-- The table for lookahead `k` is complete. -/
  | tabulated (k entries : Nat)
  /-- The input holds a character that is no terminal. -/
  | foreignCharacter (c : Char)
  /-- The nonterminal comes up again without any input read. -/
  | leftRecursion (a : Nonterminal) (position : Nat)
  /-- The table has no production for the nonterminal before the lookahead word. -/
  | noEntry (a : Nonterminal) (w : Word)
  /-- The nonterminal is expanded by the production that the lookahead word selects. -/
  | expanded (a : Nonterminal) (w : Word) (p : Production)
  /-- Another terminal was due. -/
  | unexpected (t : Terminal) (position : Nat)
  deriving DecidableEq

namespace Event

/-- The level of an event. -/
def level : Event → Level
  | takenOver .. => .warn
  | sharedLookahead .. | foundLookahead .. | tabulated .. => .debug
  | foreignCharacter .. | leftRecursion .. => .debug
  | noEntry .. | expanded .. | unexpected .. => .trace

/-- The wording of an event. -/
def message : Event → String
  | sharedLookahead p q k =>
    p.text ++ " and " ++ q.text ++ " share a lookahead with k = " ++ toString k
  | foundLookahead k => "grammar is LL(" ++ toString k ++ ")"
  | takenOver w p q =>
    "lookahead " ++ Word.text w ++ " of " ++ p.text ++ " is taken over from " ++ q.text
  | tabulated k entries =>
    "LL(" ++ toString k ++ ") table with " ++ toString entries ++ " entries"
  | foreignCharacter c => quoteChar c ++ " is not a terminal of the grammar"
  | leftRecursion a i => a.text ++ " derives itself at position " ++ toString i
  | noEntry a w => "no entry for " ++ a.text ++ " on " ++ Word.text w
  | expanded a w p => a.text ++ " on " ++ Word.text w ++ ": " ++ p.text
  | unexpected t i => "expected " ++ t.text ++ " at position " ++ toString i

/-- The event as a line of the log. -/
def text (e : Event) : String := e.level.text ++ " " ++ e.message

end Event

/-- A value and the events that led to it. -/
structure Logged (α : Type) where
  log : List Event
  value : α

namespace Logged

instance : Monad Logged where
  map f x := ⟨x.log, f x.value⟩
  pure a := ⟨[], a⟩
  bind x f := ⟨x.log ++ (f x.value).log, (f x.value).value⟩

/-- Say that an event has happened. -/
def tell (e : Event) : Logged Unit := ⟨[e], ()⟩

variable {α β : Type}

@[simp] theorem log_pure (a : α) : (pure a : Logged α).log = [] := rfl

@[simp] theorem value_pure (a : α) : (pure a : Logged α).value = a := rfl

@[simp] theorem log_bind (x : Logged α) (f : α → Logged β) :
    (x >>= f).log = x.log ++ (f x.value).log := rfl

@[simp] theorem value_bind (x : Logged α) (f : α → Logged β) :
    (x >>= f).value = (f x.value).value := rfl

@[simp] theorem log_map (f : α → β) (x : Logged α) : (f <$> x).log = x.log := rfl

@[simp] theorem value_map (f : α → β) (x : Logged α) : (f <$> x).value = f x.value := rfl

@[simp] theorem log_tell (e : Event) : (tell e).log = [e] := rfl

end Logged

end TopDown
