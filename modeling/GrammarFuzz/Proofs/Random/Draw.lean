import GrammarFuzz.Proofs.Step
import GrammarFuzz.Random.Draw

/-!
# Random draws

A draw from a list gives an item of that list, whatever the source has to offer.
-/

namespace GrammarFuzz.Random.Draw

variable {α β : Type}

theorem pick_mem (failure : DrawError) (items : List α) :
    Meets (fun _ => True) (pick failure items) (· ∈ items) fun _ => True := by
  unfold pick
  split
  · exact Meets.throw trivial
  · exact Meets.bind (Meets.trivial _) fun place _ => Meets.pure (List.get_mem items place)

theorem uniform_mem (items : List α) :
    Meets (fun _ => True) (uniform items) (· ∈ items) fun _ => True :=
  pick_mem .emptyUniform items

/-- A weighted draw gives an item, however the weights are. -/
theorem weighted_mem [Scalar α] (items : List β) (weights : List α) :
    Meets (fun _ => True) (weighted items weights) (· ∈ items) fun _ => True := by
  unfold weighted
  split
  · exact Meets.throw trivial
  · dsimp only
    split
    · exact Meets.throw trivial
    · split
      · exact Meets.throw trivial
      · split
        · split
          · exact Meets.throw trivial
          · exact Meets.throw trivial
        · split
          · exact Meets.throw trivial
          · refine Meets.bind (Meets.trivial _) fun point _ => ?_
            split
            · rename_i item hitem
              exact Meets.pure (List.mem_of_getElem? hitem)
            · exact Meets.throw trivial

end GrammarFuzz.Random.Draw
