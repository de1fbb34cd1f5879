import TopDown.Grammar.Basic

/-!
# Sample grammars

Small grammars on which general results are tried.

* `Sample.chain`: `S -> aA`, `A -> b`;
* `Sample.nested`: `S -> aSb | c`;
* `Sample.lists`: `S -> AbBc | d`, `A -> aA | λ`, `B -> xB | y`;
* `Sample.listsExchanged`: the same with `S` for `A`, `x` for `y` and the other way round, and in
  another order;
* `Sample.sharedPrefix`: `S -> abc | abd`;
* `Sample.sharedLetter`: `S -> abAc | acd`, `A -> aaSb | abb`;
* `Sample.sharedLeader`: `S -> Ab | Ac`, `A -> a`;
* `Sample.detached`: `S -> a`, `A -> Sb`, where no form derived from `S` holds `A`;
* `Sample.nestedExtended`: `Sample.nested` with `A -> Sd | dA` and the terminal `d` besides;
* `Sample.leftRecursive`: `S -> A`, `A -> Ab`;
* `Sample.mutuallyLeftRecursive`: `S -> Ab | c`, `A -> Sa | d`;
* `Sample.repeatedLambda`: `S -> AAb`, `A -> λ`;
* `Sample.unmentioned`: `A -> a`, where no production mentions `S`.
-/

namespace TopDown

namespace Sample

def a : Terminal := .letter 'a' (by decide)

def b : Terminal := .letter 'b' (by decide)

def c : Terminal := .letter 'c' (by decide)

def d : Terminal := .letter 'd' (by decide)

def x : Terminal := .letter 'x' (by decide)

def y : Terminal := .letter 'y' (by decide)

def S : Nonterminal := .sentence

def A : Nonterminal := ⟨'A', by decide⟩

def B : Nonterminal := ⟨'B', by decide⟩

/-- `S -> aA`, `A -> b`. -/
def chain : Grammar where
  nonterminals := .ofList [S, A]
  terminals := .ofList [a, b]
  start := S
  productions := [⟨S, [.terminal a, .nonterminal A]⟩, ⟨A, [.terminal b]⟩]
  start_mem := by decide
  nodup := by decide
  declared := by decide

/-- `S -> aSb | c`. -/
def nested : Grammar where
  nonterminals := .ofList [S]
  terminals := .ofList [a, b, c]
  start := S
  productions := [⟨S, [.terminal a, .nonterminal S, .terminal b]⟩, ⟨S, [.terminal c]⟩]
  start_mem := by decide
  nodup := by decide
  declared := by decide

/-- `S -> AbBc | d`, `A -> aA | λ`, `B -> xB | y`. -/
def lists : Grammar where
  nonterminals := .ofList [S, A, B]
  terminals := .ofList [a, b, c, d, x, y]
  start := S
  productions := [⟨S, [.nonterminal A, .terminal b, .nonterminal B, .terminal c]⟩,
    ⟨S, [.terminal d]⟩, ⟨A, [.terminal a, .nonterminal A]⟩, ⟨A, []⟩,
    ⟨B, [.terminal x, .nonterminal B]⟩, ⟨B, [.terminal y]⟩]
  start_mem := by decide
  nodup := by decide
  declared := by decide

/-- `B -> x`, `S -> λ`, `A -> d | SbBc`, `S -> aS`, `B -> yB`, from `A`. -/
def listsExchanged : Grammar where
  nonterminals := .ofList [S, A, B]
  terminals := .ofList [a, b, c, d, x, y]
  start := A
  productions := [⟨B, [.terminal x]⟩, ⟨S, []⟩, ⟨A, [.terminal d]⟩,
    ⟨A, [.nonterminal S, .terminal b, .nonterminal B, .terminal c]⟩,
    ⟨S, [.terminal a, .nonterminal S]⟩, ⟨B, [.terminal y, .nonterminal B]⟩]
  start_mem := by decide
  nodup := by decide
  declared := by decide

/-- `S -> abc | abd`. -/
def sharedPrefix : Grammar where
  nonterminals := .ofList [S]
  terminals := .ofList [a, b, c, d]
  start := S
  productions := [⟨S, [.terminal a, .terminal b, .terminal c]⟩,
    ⟨S, [.terminal a, .terminal b, .terminal d]⟩]
  start_mem := by decide
  nodup := by decide
  declared := by decide

/-- `S -> abAc | acd`, `A -> aaSb | abb`. -/
def sharedLetter : Grammar where
  nonterminals := .ofList [S, A]
  terminals := .ofList [a, b, c, d]
  start := S
  productions := [⟨S, [.terminal a, .terminal b, .nonterminal A, .terminal c]⟩,
    ⟨S, [.terminal a, .terminal c, .terminal d]⟩,
    ⟨A, [.terminal a, .terminal a, .nonterminal S, .terminal b]⟩,
    ⟨A, [.terminal a, .terminal b, .terminal b]⟩]
  start_mem := by decide
  nodup := by decide
  declared := by decide

/-- `S -> Ab | Ac`, `A -> a`. -/
def sharedLeader : Grammar where
  nonterminals := .ofList [S, A]
  terminals := .ofList [a, b, c]
  start := S
  productions := [⟨S, [.nonterminal A, .terminal b]⟩, ⟨S, [.nonterminal A, .terminal c]⟩,
    ⟨A, [.terminal a]⟩]
  start_mem := by decide
  nodup := by decide
  declared := by decide

/-- `S -> a`, `A -> Sb`. -/
def detached : Grammar where
  nonterminals := .ofList [S, A]
  terminals := .ofList [a, b]
  start := S
  productions := [⟨S, [.terminal a]⟩, ⟨A, [.nonterminal S, .terminal b]⟩]
  start_mem := by decide
  nodup := by decide
  declared := by decide

/-- `A -> Sd`, `S -> aSb`, `A -> dA`, `S -> c`. -/
def nestedExtended : Grammar where
  nonterminals := .ofList [S, A]
  terminals := .ofList [a, b, c, d]
  start := S
  productions := [⟨A, [.nonterminal S, .terminal d]⟩,
    ⟨S, [.terminal a, .nonterminal S, .terminal b]⟩, ⟨A, [.terminal d, .nonterminal A]⟩,
    ⟨S, [.terminal c]⟩]
  start_mem := by decide
  nodup := by decide
  declared := by decide

/-- `S -> A`, `A -> Ab`. -/
def leftRecursive : Grammar where
  nonterminals := .ofList [S, A]
  terminals := .ofList [b]
  start := S
  productions := [⟨S, [.nonterminal A]⟩, ⟨A, [.nonterminal A, .terminal b]⟩]
  start_mem := by decide
  nodup := by decide
  declared := by decide

/-- `S -> Ab | c`, `A -> Sa | d`. -/
def mutuallyLeftRecursive : Grammar where
  nonterminals := .ofList [S, A]
  terminals := .ofList [a, b, c, d]
  start := S
  productions := [⟨S, [.nonterminal A, .terminal b]⟩, ⟨S, [.terminal c]⟩,
    ⟨A, [.nonterminal S, .terminal a]⟩, ⟨A, [.terminal d]⟩]
  start_mem := by decide
  nodup := by decide
  declared := by decide

/-- `S -> AAb`, `A -> λ`. -/
def repeatedLambda : Grammar where
  nonterminals := .ofList [S, A]
  terminals := .ofList [b]
  start := S
  productions := [⟨S, [.nonterminal A, .nonterminal A, .terminal b]⟩, ⟨A, []⟩]
  start_mem := by decide
  nodup := by decide
  declared := by decide

/-- `A -> a`. -/
def unmentioned : Grammar where
  nonterminals := .ofList [S, A]
  terminals := .ofList [a, b]
  start := S
  productions := [⟨A, [.terminal a]⟩]
  start_mem := by decide
  nodup := by decide
  declared := by decide

end Sample

end TopDown
