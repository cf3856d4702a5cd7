import Scrobbler.Pattern.Hir

/-!
# Matching with an automaton

What a pattern means is turned into a nondeterministic automaton, built back to front so that
each piece is given the state to go on to: a state reads one character of a set, checks a
condition on the place between characters, splits into two ways, or accepts. Repetition
copies its body: the least number of copies in sequence, then either a loop or the optional
copies up to the greatest number.

A text is searched by following every way at once. At each place the states reachable
without reading a character are collected, the start state among them wherever the match
may begin; the text matches as soon as an accepting state is reached, and otherwise the
collected states read the next character. Each round marks a state as seen before following
it, so a round takes at most a few steps per state, which bounds it.
-/

namespace Scrobbler

namespace Pattern

/-- A state of an automaton. -/
inductive Node where
  /-- Reads a character of a set, then goes on. -/
  | chars (set : CharSet) (next : Nat)
  /-- Goes both ways. -/
  | split (left right : Nat)
  /-- Goes on where a condition holds. -/
  | look (l : Look) (next : Nat)
  /-- Accepts. -/
  | accept
  deriving DecidableEq, Repr

/-- Adds the states of an expression going on to `next`: the state it starts at, and the
states. -/
def build : Hir → Nat → Array Node → Nat × Array Node
  | .empty, next, ns => (next, ns)
  | .chars set, next, ns => (ns.size, ns.push (.chars set next))
  | .look l, next, ns => (ns.size, ns.push (.look l next))
  | .cat a b, next, ns =>
    let (mid, ns) := build b next ns
    build a mid ns
  | .alt a b, next, ns =>
    let (ea, ns) := build a next ns
    let (eb, ns) := build b next ns
    (ns.size, ns.push (.split ea eb))
  | .rep least most body, next, ns =>
    let (tail, ns) := match most with
      | none =>
        let loop := ns.size
        let (entry, ns) := build body loop (ns.push (.split next next))
        (loop, ns.setIfInBounds loop (.split entry next))
      | some m =>
        (List.range (m - least)).foldl
          (fun (acc : Nat × Array Node) _ =>
            let (entry, ns) := build body acc.1 acc.2
            (ns.size, ns.push (.split entry next)))
          (next, ns)
    (List.range least).foldl (fun (acc : Nat × Array Node) _ => build body acc.1 acc.2) (tail, ns)

/-- An automaton: its states and the one it starts at. -/
structure Automaton where
  /-- The states. -/
  nodes : Array Node
  /-- The start state. -/
  start : Nat
  deriving DecidableEq, Repr

/-- The automaton of an expression. -/
def Automaton.ofHir (h : Hir) : Automaton :=
  let (start, nodes) := build h 0 #[.accept]
  ⟨nodes, start⟩

namespace Automaton

/-- The states that read a character or accept, reachable from `todo` without reading a
character between `before` and `after`; `seen` marks the states already followed. -/
def closure (a : Automaton) (before after : Option Char) :
    Nat → List Nat → Array Bool → List Nat → List Nat
  | 0, _, _, live => live
  | _, [], _, live => live
  | fuel + 1, s :: todo, seen, live =>
    if seen.getD s true then a.closure before after fuel todo seen live
    else
      let seen := seen.setIfInBounds s true
      match a.nodes[s]? with
      | some (.split l r) => a.closure before after fuel (l :: r :: todo) seen live
      | some (.look l n) =>
        if l.holds before after then a.closure before after fuel (n :: todo) seen live
        else a.closure before after fuel todo seen live
      | some (.chars ..) => a.closure before after fuel todo seen (s :: live)
      | some .accept => a.closure before after fuel todo seen (s :: live)
      | none => a.closure before after fuel todo seen live

/-- The states reachable without reading, from the start state and `seeds`. -/
def reach (a : Automaton) (before after : Option Char) (seeds : List Nat) : List Nat :=
  a.closure before after (3 * a.nodes.size + seeds.length + 2) (a.start :: seeds)
    (Array.replicate a.nodes.size false) []

/-- Whether a state accepts. -/
def accepts (a : Automaton) (s : Nat) : Bool := a.nodes[s]? == some .accept

/-- The states reached by reading a character from some states. -/
def step (a : Automaton) (c : Char) (live : List Nat) : List Nat :=
  live.filterMap fun (s : Nat) => match (a.nodes[s]? : Option Node) with
    | some (.chars set n) => if set.contains c.toNat then some n else none
    | _ => none

/-- Whether a match ends in the rest of the text, `before` being the character before it and
`seeds` the states reached so far. -/
def search (a : Automaton) : Option Char → List Nat → List Char → Bool
  | before, seeds, [] => (a.reach before none seeds).any a.accepts
  | before, seeds, c :: rest =>
    let live := a.reach before (some c) seeds
    live.any a.accepts || a.search (some c) (a.step c live) rest

/-- Whether a text holds a match anywhere. -/
def finds (a : Automaton) (text : String) : Bool := a.search none [] text.toList

end Automaton

example : (Automaton.ofHir (.cat (.chars (CharSet.single 0x61)) (.look .stop))).finds "ba" :=
  by decide +kernel
example : !(Automaton.ofHir (.cat (.look .start) (.chars (CharSet.single 0x61)))).finds "ba" :=
  by decide +kernel

end Pattern

end Scrobbler
