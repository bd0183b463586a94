/-
AlertRelay/Proofs/Server/Body.lean

What is gathered of a body.

The limit is looked at with every chunk that arrives, but only the sum decides: a body is too large
exactly if its chunks are longer than the limit taken together, wherever they were cut
(`read_eq`).  A body that is too large is refused for that, also if it has been cut off.
-/
import AlertRelay.Server.Body

namespace AlertRelay

namespace Body

/-- **Chunks** are gathered as one, or are too long as one. -/
theorem gather_eq {before : Bytes} (chunks : List Bytes) (hbefore : before.length ≤ limit) :
    gather before chunks =
      if limit < before.length + chunks.flatten.length then .error .tooLarge
      else .ok (before ++ chunks.flatten) := by
  induction chunks generalizing before with
  | nil => simp [gather, Nat.not_lt.2 hbefore]
  | cons chunk rest ih =>
    rw [gather, List.flatten_cons, List.length_append]
    by_cases hlong : limit < before.length + chunk.length
    · -- too long already, and the other chunks make it no shorter
      have htotal : limit < before.length + (chunk.length + rest.flatten.length) := by omega
      rw [if_pos hlong, if_pos htotal]
    · have hle : (before ++ chunk).length ≤ limit := by
        rw [List.length_append]
        exact Nat.not_lt.1 hlong
      rw [if_neg hlong, ih hle, List.length_append, Nat.add_assoc, List.append_assoc]

/-- **A body** in one equation. -/
theorem read_eq (b : Body) :
    b.read =
      if limit < b.chunks.flatten.length then .error .tooLarge
      else match b.cut with
        | some c => .error (.cut c)
        | none => .ok b.chunks.flatten := by
  have hgather : gather [] b.chunks =
      if limit < [].length + b.chunks.flatten.length then .error .tooLarge
      else .ok ([] ++ b.chunks.flatten) := gather_eq b.chunks (Nat.zero_le limit)
  rw [List.length_nil, Nat.zero_add, List.nil_append] at hgather
  rw [read, hgather]
  by_cases hlong : limit < b.chunks.flatten.length
  · rw [if_pos hlong, if_pos hlong]
  · cases b.cut with
    | none => simp only [if_neg hlong]
    | some c => simp only [if_neg hlong]

/-- A body that is not cut off and short enough is what its chunks hold. -/
theorem read_of_le {b : Body} (hcut : b.cut = none) (hle : b.chunks.flatten.length ≤ limit) :
    b.read = .ok b.chunks.flatten := by
  rw [read_eq, if_neg (Nat.not_lt.2 hle), hcut]

end Body

end AlertRelay
