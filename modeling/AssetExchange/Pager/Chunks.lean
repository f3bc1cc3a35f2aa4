/-!
# Chunks of a list

`chunks size items` cuts a list into pieces of `size` items from the front; only the
last piece may be shorter, and no piece is empty. A size of zero counts as one.
-/

namespace AssetExchange

universe u

variable {alpha : Type u}

/-- Cuts a list into pieces of the given size. -/
def chunks (size : Nat) (items : List alpha) : List (List alpha) :=
  match items with
  | [] => []
  | first :: rest =>
      (first :: rest.take (size - 1)) :: chunks size (rest.drop (size - 1))
termination_by items.length
decreasing_by
  simp only [List.length_drop, List.length_cons]
  omega

@[simp] theorem chunks_nil (size : Nat) : chunks size ([] : List alpha) = [] := by
  simp [chunks]

theorem chunks_cons (size : Nat) (first : alpha) (rest : List alpha) :
    chunks size (first :: rest) =
      (first :: rest.take (size - 1)) :: chunks size (rest.drop (size - 1)) := by
  rw [chunks]

/-- The pieces together are the list. -/
theorem flatten_chunks (size : Nat) (items : List alpha) :
    (chunks size items).flatten = items := by
  fun_induction chunks size items with
  | case1 => rfl
  | case2 first rest inductionHypothesis =>
      rw [List.flatten_cons, inductionHypothesis, List.cons_append, List.take_append_drop]

theorem ne_nil_of_mem_chunks {size : Nat} {items piece : List alpha}
    (member : piece ∈ chunks size items) : piece ≠ [] := by
  fun_induction chunks size items with
  | case1 => simp at member
  | case2 first rest inductionHypothesis =>
      rcases List.mem_cons.1 member with same | later
      · subst same
        exact List.cons_ne_nil _ _
      · exact inductionHypothesis later

end AssetExchange
