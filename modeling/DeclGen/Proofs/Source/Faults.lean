import DeclGen.Source.Reader
import Mathlib.Tactic.Lemma

/-!
# The place of a fault

Whatever tree the parser makes of a malformed text, the line and the column that are told lead to a place in
the text, and the text that is told stands there (`SourceFile.exists_place_of_parse`). The search through the
tree passes parts over, and still finds the first faulty node of all (`Source.SyntaxNode.firstFault?_eq_find?`).
-/

namespace DeclGen

namespace Source

/-! ## The search through the tree -/

namespace SyntaxNode

/-- The node itself is faulty. -/
def isFaulty : SyntaxNode → Bool
  | mk faulty _ _ _ => faulty

/-- The nodes of a tree, a node before its parts. -/
def nodes : SyntaxNode → List SyntaxNode
  | mk faulty start stop parts => mk faulty start stop parts :: nodesIn parts
where
  /-- The nodes of a row of trees. -/
  nodesIn : List SyntaxNode → List SyntaxNode
    | [] => []
    | n :: rest => nodes n ++ nodesIn rest

/-- A tree has a fault when one of its nodes is faulty. -/
theorem hasFault_eq_any : ∀ n : SyntaxNode, n.hasFault = n.nodes.any isFaulty
  | mk faulty start stop parts => by
    rw [hasFault, nodes, List.any_cons, inRow parts]
    rfl
where
  inRow : ∀ parts : List SyntaxNode, hasFault.anyHasFault parts = (nodes.nodesIn parts).any isFaulty
    | [] => rfl
    | n :: rest => by
      rw [hasFault.anyHasFault, nodes.nodesIn, List.any_append, hasFault_eq_any n, inRow rest]

/-- The search finds the first faulty node of all. -/
theorem firstFault?_eq_find? : ∀ n : SyntaxNode, n.firstFault? = n.nodes.find? isFaulty
  | mk faulty start stop parts => by
    rw [firstFault?, nodes]
    cases faulty with
    | true => rfl
    | false => exact inRow parts
where
  inRow : ∀ parts : List SyntaxNode, firstFault?.firstFaultIn? parts = (nodes.nodesIn parts).find? isFaulty
    | [] => rfl
    | n :: rest => by
      rw [firstFault?.firstFaultIn?, nodes.nodesIn, List.find?_append, ← firstFault?_eq_find? n, ← inRow rest]
      split
      · exact Option.orElse_eq_or
      next hfault =>
        -- a part that is passed over holds nothing that could be found
        have hnone : n.firstFault? = none := by
          rw [firstFault?_eq_find? n, List.find?_eq_none]
          rw [hasFault_eq_any, List.any_eq_true] at hfault
          exact fun m hm hfaulty => hfault ⟨m, hm, hfaulty⟩
        rw [hnone, Option.none_or]

end SyntaxNode

/-! ## The place in the text -/

namespace Fault

/-- The fault is told of this place of a text, with the beginning of what stands there. -/
structure IsAt (f : Fault) (front rest : List Char) : Prop where
  line : f.line = front.count '\n' + 1
  column : f.column = (lastLine front).utf8ByteSize + 1
  snippet : f.snippet.toList <+: rest
  length_le : f.snippet.length ≤ snippetLength

lemma isAt_ofNode (source : String) : ∀ n : SyntaxNode, ∃ front rest,
    source.toList = front ++ rest ∧ (ofNode source n).IsAt front rest
  | .mk _ start stop _ => by
    refine ⟨source.toList.take start, source.toList.drop start, (List.take_append_drop _ _).symm, rfl, rfl, ?_, ?_⟩
    · show (String.ofList _).toList <+: _
      rw [String.toList_ofList, List.extract_eq_take_drop]
      exact (List.take_prefix _ _).trans (List.take_prefix _ _)
    · show (String.ofList _).length ≤ _
      rw [String.length_ofList]
      exact List.length_take_le _ _

/-- The column counts bytes, of which the letter in front of the fault has two. -/
example : ofNode "a\nñb ;" (.mk true 5 6 []) = ⟨2, 5, ";"⟩ := by decide

end Fault

end Source

/-- Of every malformed text a place is told that is one of the text. -/
theorem SourceFile.exists_place_of_parse [ErrorRecovery] {source : String} {fault : Source.Fault}
    (h : SourceFile.parse source = .error (@SourceError.malformed fault)) :
    ∃ front rest, source.toList = front ++ rest ∧ fault.IsAt front rest := by
  have hfault : fault = .ofText source := by
    unfold SourceFile.parse at h
    split at h
    · exact (SourceError.malformed.inj (Except.error.inj h)).symm
    · split at h <;> cases h
  rw [hfault]
  exact Source.Fault.isAt_ofNode source _

end DeclGen
