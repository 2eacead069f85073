import ClassChart.Proofs.Declaration.Index
import ClassChart.Proofs.Text.Pieces

/-! What the index answers, said of the declarations that it was made from. A name with a qualifier is
matched by whole segments: exactly if a declaration is called so, and else as the end of a longer
qualified name. -/
namespace ClassChart

/-- The segments of a qualified name end in those of another one, and there are more before them. -/
def EndsInSegments (full qualifiedName : String) : Prop :=
  Text.segments full <:+ Text.segments qualifiedName ∧
    Text.segments full ≠ Text.segments qualifiedName

instance (full qualifiedName : String) : Decidable (EndsInSegments full qualifiedName) :=
  inferInstanceAs (Decidable (_ ∧ _))

namespace Index

theorem endsIn_eq (full qualifiedName : String) :
    endsIn full qualifiedName = decide (EndsInSegments full qualifiedName) := by
  rw [Bool.eq_iff_iff, endsIn, List.isSuffixOf_iff_suffix, decide_eq_true_iff]
  exact Text.dot_suffix_iff

theorem size_ofDeclarations (ds : List Declaration) :
    (ofDeclarations ds).size = (ds.map (·.qualifiedName)).eraseDups.length := by
  have hentries : (ofDeclarations ds).byQualified =
      (firstBy Declaration.qualifiedName [] ds).map fun d => (d.qualifiedName, d.symbol) := by
    rw [ofDeclarations_eq, ← keepAll_eq]
  rw [size, hentries, List.length_map, ← firstBy_id, ← map_firstBy, List.length_map]

/-- A name alone means the first declaration of it. With a qualifier it means the first declaration
of just that qualified name; if there is none, the first whose qualified name properly ends in its
segments; and if there is none either, nothing. -/
theorem lookup_resolves_segments (ds : List Declaration) :
    (∀ name qualifier, (ofDeclarations ds).lookup? name qualifier =
      if qualifier = "" then (ds.find? (·.name = name)).map Declaration.symbol
      else match ds.find? (·.qualifiedName = qualifier ++ "." ++ name) with
        | some d => some d.symbol
        | none => (ds.find? fun d => EndsInSegments (qualifier ++ "." ++ name) d.qualifiedName).map
            Declaration.symbol) ∧
      (ofDeclarations ds).size = (ds.map (·.qualifiedName)).eraseDups.length := by
  refine ⟨fun name qualifier => ?_, size_ofDeclarations ds⟩
  have hequal (s t : String) : (s == t) = decide (t = s) := by
    rw [beq_eq_decide, decide_eq_decide, eq_comm]
  rw [lookup?_ofDeclarations]
  simp only [hequal, endsIn_eq]
  split
  · rfl
  · cases ds.find? (·.qualifiedName = qualifier ++ "." ++ name) <;> rfl

/-- A qualifier that ends inside a segment fits nothing, though the simple name is declared. -/
example :
    let order : Declaration := ⟨"Order", "class", "a.cs", "App.Models", [], [], [], [], [], 1⟩
    (ofDeclarations [order]).lookup? "Order" "Models" = some order.symbol ∧
      (ofDeclarations [order]).lookup? "Order" "dels" = none := by
  decide +kernel

end Index
end ClassChart
