import ClassChart.Proofs.List.ByKey
import ClassChart.Proofs.List.Runs
import ClassChart.Proofs.Syntax.Walk
import ClassChart.Source.File

/-! The path under which all that comes from one file is reported. For a file under the root of the
project it is the path from there. Whether a file is there is judged by the text of its path alone: one
that starts with the text of the root loses it, also where a longer name goes on from it. -/
namespace ClassChart

structure SourceUnit.ReportedAs (u : SourceUnit) (shown : String) : Prop where
  file : u.file = shown
  declarations : ∀ d ∈ u.declarations, d.file = shown
  faults : ∀ fault ∈ u.faults, fault.file = shown

namespace Syntax
variable {source : Source} {file : String}

theorem file_of_declared {place : Place} {kind : TypeKind} {n : Node} {d : Declaration}
    (h : d ∈ declared source file place kind n) : d.file = file := by
  unfold declared at h
  split at h
  · exact absurd h List.not_mem_nil
  split at h
  · rw [List.mem_singleton.mp h]
    rfl
  · rw [List.mem_singleton.mp h]
    rfl

theorem Enumerates.file_eq {P : Spot → Prop} {names outer : List String} {spots : List Spot}
    {ds : List Declaration} (h : Enumerates source file P names outer spots ds) :
    ∀ d ∈ ds, d.file = file := by
  intro d hd
  obtain ⟨s, _, hs⟩ := exists_of_forall₂ h.declares.flip hd
  obtain ⟨kind, _, hdeclared⟩ := hs.whole
  exact file_of_declared (hdeclared ▸ List.mem_singleton_self d)

theorem file_of_fault {marked : Node → Bool} {root : Node} {fault : ReadFault}
    (h : fault ∈ faults marked source file root) : fault.file = file := by
  unfold faults at h
  split at h
  · rw [List.mem_singleton.mp h]
  · exact absurd h List.not_mem_nil

theorem sourceUnit_reportedAs (source : Source) (file : String) (root : Node) :
    (sourceUnit source file root).ReportedAs file := by
  obtain ⟨spots, hspots⟩ := declarations_enumerated source file root
  exact ⟨rfl, hspots.file_eq, fun fault => file_of_fault⟩

end Syntax

namespace Source
open Files

theorem unreadable_reportedAs (file message : String) :
    (unreadable file message).ReportedAs file :=
  ⟨rfl, fun d hd => absurd hd List.not_mem_nil, fun fault hfault => by
    rw [List.mem_singleton.mp hfault]⟩

theorem unitAt_reportedAs (parse : Parser) (disk : Disk) (root : String) {path : String}
    (h : isSource path = true) :
    ∃ u, unitAt parse disk root path = .ok u ∧ u.ReportedAs (reported root path) := by
  obtain ⟨language, hlanguage⟩ := Option.isSome_iff_exists.mp h
  cases hcontent : disk.content path with
  | error cause =>
    refine ⟨_, ?_, unreadable_reportedAs _ (cause.message path)⟩
    simp only [unitAt, hlanguage, hcontent]
  | ok content =>
    refine ⟨unitOf parse (clean content) (reported root path), ?_, Syntax.sourceUnit_reportedAs _ _ _⟩
    simp only [unitAt, hlanguage, hcontent]

end Source

namespace Files

def separators : List Char := ['/', '\\']

/-- The path is the root, or goes on from it with a separator. This is about roots that do not end in a
separator themselves. -/
def LiesUnder (root path : String) : Prop :=
  path = root ∨ root.toList ++ ['/'] <+: path.toList ∨ root.toList ++ ['\\'] <+: path.toList

instance (root path : String) : Decidable (LiesUnder root path) :=
  inferInstanceAs (Decidable (_ ∨ _ ∨ _))

section
variable {root path : String}

theorem reported_elsewhere (h : ¬ root.toList <+: path.toList) : reported root path = path := by
  rw [reported, if_neg]
  rintro ⟨_, hprefix⟩
  exact h (List.isPrefixOf_iff_prefix.mp hprefix)

/-- Behind the text of the root, separators are taken off up to the first other character. -/
theorem reported_append (hroot : root ≠ "") {front rest : List Char}
    (hpath : path.toList = root.toList ++ (front ++ rest)) (hfront : ∀ c ∈ front, c ∈ separators)
    (hrest : ∀ c ∈ rest.head?, c ∉ separators) : reported root path = String.ofList rest := by
  have hprefix : root.toList.isPrefixOf path.toList = true := by
    rw [hpath, List.isPrefixOf_iff_prefix]
    exact List.prefix_append _ _
  have hdrop : path.toList.drop root.length = front ++ rest := by
    rw [hpath, ← String.length_toList, List.drop_left]
  have hseparators (c : Char) : (c = '/' ∨ c = '\\') ↔ c ∈ separators := by simp [separators]
  rw [reported, if_pos ⟨hroot, hprefix⟩, hdrop]
  simp only [hseparators]
  rw [dropWhile_run (by simpa using hfront) (by simpa using hrest)]

theorem head_of_not_under {rest : String} (hunder : ¬LiesUnder root (root ++ rest)) :
    ∀ c ∈ rest.toList.head?, c ∉ separators := by
  intro c hc hseparator
  obtain ⟨more, hmore⟩ := List.head?_eq_some_iff.mp hc
  have hprefix : root.toList ++ [c] <+: (root ++ rest).toList :=
    ⟨more, by rw [String.toList_append, hmore, List.append_assoc, List.singleton_append]⟩
  have hcases : c = '/' ∨ c = '\\' := by simpa [separators] using hseparator
  cases hcases with
  | inl hslash => exact hunder (.inr (.inl (hslash ▸ hprefix)))
  | inr hbackslash => exact hunder (.inr (.inr (hbackslash ▸ hprefix)))

theorem reported_inner (hroot : root ≠ "") {inner : String}
    (hinner : ∀ c ∈ inner.toList.head?, c ∉ separators) :
    reported root (root ++ "/" ++ inner) = inner := by
  have hpath : (root ++ "/" ++ inner).toList = root.toList ++ (['/'] ++ inner.toList) := by simp
  have hslash : ∀ c ∈ ['/'], c ∈ separators := List.forall_mem_singleton.mpr (by decide)
  rw [reported_append hroot hpath hslash hinner, String.ofList_toList]

theorem reported_of_not_under (hroot : root ≠ "") {rest : String}
    (hunder : ¬LiesUnder root (root ++ rest)) : reported root (root ++ rest) = rest := by
  have hpath : (root ++ rest).toList = root.toList ++ ([] ++ rest.toList) := by simp
  rw [reported_append hroot hpath (by simp) (head_of_not_under hunder), String.ofList_toList]

end
end Files

namespace Source
open Files

/-- A file under the root of the project is reported by its path from there, with all that it declares
and all that is wrong with it. A file elsewhere is reported by its whole path exactly if that does not
start with the text of the root; else that start is missing. -/
theorem path_reported_from_root (parse : Parser) (disk : Disk) {root path : String}
    (hsource : isSource path = true) (hroot : root ≠ "") :
    ∃ u, unitAt parse disk root path = .ok u ∧
      (∀ inner, path = root ++ "/" ++ inner → (∀ c ∈ inner.toList.head?, c ∉ separators) →
        u.ReportedAs inner) ∧
      (¬LiesUnder root path →
        (u.ReportedAs path ↔ ¬root.toList <+: path.toList) ∧
          ∀ rest, path = root ++ rest → u.ReportedAs rest) := by
  obtain ⟨u, hunit, hshown⟩ := unitAt_reportedAs parse disk root hsource
  refine ⟨u, hunit, fun inner hpath hinner => ?_, fun hunder => ?_⟩
  · rw [hpath, reported_inner hroot hinner] at hshown
    exact hshown
  have hcut : ∀ rest, path = root ++ rest → u.ReportedAs rest := by
    rintro rest rfl
    rwa [reported_of_not_under hroot hunder] at hshown
  refine ⟨⟨fun hwhole hprefix => ?_, fun hprefix => ?_⟩, hcut⟩
  · obtain ⟨rest, hrest⟩ := hprefix
    have hpath : path = root ++ String.ofList rest := by
      rw [← String.toList_inj, String.toList_append, String.toList_ofList, hrest]
    -- the unit would name its file with the root in front and without
    have hsame : root ++ String.ofList rest = String.ofList rest :=
      hpath.symm.trans (hwhole.file.symm.trans (hcut _ hpath).file)
    exact hroot (by simpa using hsame)
  · rwa [reported_elsewhere hprefix] at hshown

def siblings : Disk :=
  ⟨.dir "" [.dir "d" [.file "a.cs" "class A : { }".toUTF8.toList],
    .file "da.cs" "class A {}".toUTF8.toList], []⟩

/-- The trees of both files. The colon without a base is an error. -/
def siblingTrees : Parser := fun text =>
  let node (kind : Syntax.NodeKind) (start stop : Nat) (role : Option Syntax.Role)
      (children : List Syntax.Node) : Syntax.Node :=
    .mk ⟨kind, start, stop, role, true, false, false⟩ children
  let word : Syntax.Node := .mk ⟨.other "class", 0, 5, none, false, false, false⟩ []
  let unit (stop : Nat) (children : List Syntax.Node) : Syntax.Node :=
    node (.other "compilation_unit") 0 stop none [node (.declaration .class) 0 stop none children]
  let name := node .identifier 6 7 (some .name) []
  if text = "class A {}" then unit 10 [word, name, node .declarationList 8 10 (some .body) []]
  else unit 13 [word, name, node .error 8 9 none [], node .declarationList 10 13 (some .body) []]

theorem path_reported_from_root_of_siblings :
    (isSource "d/a.cs" = true ∧ isSource "da.cs" = true ∧ "d" ≠ "" ∧ ¬LiesUnder "d" "da.cs") ∧
      (∃ u, unitAt siblingTrees siblings "d" "d/a.cs" = .ok u ∧ u.declarations ≠ [] ∧
        u.faults ≠ [] ∧ u.ReportedAs "a.cs") ∧
      ∃ u, unitAt siblingTrees siblings "d" "da.cs" = .ok u ∧ u.ReportedAs "a.cs" := by
  have hinside : isSource "d/a.cs" = true := by decide +kernel
  have hbeside : isSource "da.cs" = true := by decide +kernel
  have hroot : "d" ≠ "" := by decide
  have hunder : ¬LiesUnder "d" "da.cs" := by decide
  have hbroken : (unitAt siblingTrees siblings "d" "d/a.cs").toOption.map
      (fun u => (u.declarations.length, u.faults.length)) = some (1, 1) := by
    decide +kernel
  obtain ⟨u, hu, hinner, _⟩ := path_reported_from_root siblingTrees siblings hinside hroot
  obtain ⟨v, hv, _, houter⟩ := path_reported_from_root siblingTrees siblings hbeside hroot
  rw [hu] at hbroken
  obtain ⟨hdeclarations, hfaults⟩ := Prod.mk.inj (Option.some.inj hbroken)
  refine ⟨⟨hinside, hbeside, hroot, hunder⟩, ⟨u, hu, ?_, ?_, hinner "a.cs" rfl (by simp [separators])⟩,
    v, hv, (houter hunder).2 "a.cs" rfl⟩
  · exact List.ne_nil_of_length_eq_add_one hdeclarations
  · exact List.ne_nil_of_length_eq_add_one hfaults

/-- The file beside the directory is reported as if it lay in it, and so is what it declares. -/
theorem sibling_path_cut :
    isSource "da.cs" = true ∧ ¬LiesUnder "d" "da.cs" ∧
      ∃ u, unitAt siblingTrees siblings "d" "da.cs" = .ok u ∧
        u.file = "a.cs" ∧ u.declarations.map (·.file) = ["a.cs"] ∧ ¬u.ReportedAs "da.cs" := by
  have hread : (unitAt siblingTrees siblings "d" "da.cs").toOption.map
      (fun u => (u.file, u.declarations.map (·.file))) = some ("a.cs", ["a.cs"]) := by
    decide +kernel
  refine ⟨by decide +kernel, by decide, ?_⟩
  cases hunit : unitAt siblingTrees siblings "d" "da.cs" with
  | error e => simp [hunit, Except.toOption] at hread
  | ok u =>
    rw [hunit] at hread
    obtain ⟨hfile, hdeclarations⟩ := Prod.mk.inj (Option.some.inj hread)
    refine ⟨u, rfl, hfile, hdeclarations, fun hwhole => ?_⟩
    rw [hwhole.file] at hfile
    exact absurd hfile (by decide)

end Source
end ClassChart
