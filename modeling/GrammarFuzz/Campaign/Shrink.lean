import GrammarFuzz.Campaign.Basic

/-!
# Shrinking failing programs

A failing program is shrunk in rounds.  A round asks about the trees that one cut leads to, in
the order of the cuts; the first one that fails replaces the program, whatever its
error is.  The last round is one in which none fails.
-/

namespace GrammarFuzz.Campaign

variable {σ S : Type}

/-- A failing program: its tree, its source and its error. -/
structure Failing where
  tree : Tree
  source : String
  error : String

/-- The first of some cuts of a tree after which the program still fails. -/
def firstFailingCut (campaign : Campaign σ S) (tree : Tree) :
    List Tree.Cut → Work σ S (Option Failing)
  | [] => return none
  | cut :: rest => do
    let candidate := tree.apply cut
    let source := candidate.source campaign.config.separator
    match ← campaign.error? source with
    | some error => return some ⟨candidate, source, error⟩
    | none => firstFailingCut campaign tree rest

/-- Rounds of cuts, at most `fuel` of them; `steps` cuts have been accepted before. -/
def shrinkRounds (campaign : Campaign σ S) :
    (fuel : Nat) → (failing : Failing) → (steps : Nat) → Work σ S (Failing × Nat)
  | 0, failing, steps => return (failing, steps)
  | fuel + 1, failing, steps => do
    match ← campaign.firstFailingCut failing.tree failing.tree.cuts with
    | some smaller => shrinkRounds campaign fuel smaller (steps + 1)
    | none => return (failing, steps)

/-- Shrinks a failing program as far as single cuts lead, and counts the accepted cuts.  Every
accepted cut makes the tree smaller, so there are no more rounds than nodes. -/
def shrink (campaign : Campaign σ S) (failing : Failing) : Work σ S (Failing × Nat) := do
  let (failing, steps) ← campaign.shrinkRounds failing.tree.size failing 0
  Work.count fun stats => { stats with cuts := stats.cuts + steps }
  Work.inform ("Minimization finished after " ++ toString steps ++ " cuts: " ++
    toString failing.tree.tokens.length ++ " tokens, " ++ toString failing.tree.size ++
    " nodes, depth " ++ toString failing.tree.depth)
  return (failing, steps)

end GrammarFuzz.Campaign
