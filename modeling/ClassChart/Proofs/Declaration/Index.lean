import ClassChart.Declaration.Index
import ClassChart.Proofs.List.FirstSeen
import Mathlib.Data.List.DropRight
import Mathlib.Data.List.Find

/-! Which declaration the index answers with. It is the first of its name, or of those whose
qualified name fits the qualifier. All that can fit a name have one simple name, so of the order of
declarations only that within one simple name counts. -/
namespace ClassChart

namespace Text

def lastSegment (s : List Char) : List Char := s.rtakeWhile (· ≠ '.')

theorem lastSegment_append_dot (s t : List Char) : lastSegment (s ++ '.' :: t) = lastSegment t := by
  induction t using List.reverseRecOn with
  | nil => simp [lastSegment]
  | append_singleton t c ih =>
    have hassoc : s ++ '.' :: (t ++ [c]) = (s ++ '.' :: t) ++ [c] := by simp
    unfold lastSegment at ih ⊢
    rw [hassoc, List.rtakeWhile_concat, List.rtakeWhile_concat, ih]

theorem lastSegment_of_not_mem {s : List Char} (h : '.' ∉ s) : lastSegment s = s := by
  refine List.rtakeWhile_eq_self_iff.mpr fun c hc => ?_
  simpa using fun hdot : c = '.' => h (hdot ▸ hc)

end Text

/-- Names as they are in source: without a dot. -/
def Dotless (ds : List Declaration) : Prop := ∀ d ∈ ds, '.' ∉ d.name.toList

def simpleName (qualifiedName : String) : String :=
  String.ofList (Text.lastSegment qualifiedName.toList)

theorem simpleName_qualifiedName {d : Declaration} (h : '.' ∉ d.name.toList) :
    simpleName d.qualifiedName = d.name := by
  have hlast : Text.lastSegment d.qualifiedName.toList = d.name.toList := by
    unfold Declaration.qualifiedName Text.dotted Declaration.path
    by_cases hpath : (if d.scope = "" then [] else [d.scope]) ++ d.outer = []
    · rw [hpath, List.nil_append, String.intercalate_singleton, Text.lastSegment_of_not_mem h]
    · rw [String.intercalate_append_of_ne_nil hpath (List.cons_ne_nil _ _),
        String.intercalate_singleton, String.toList_append, String.toList_append, List.append_assoc]
      exact (Text.lastSegment_append_dot _ _).trans (Text.lastSegment_of_not_mem h)
  rw [simpleName, hlast, String.ofList_toList]

namespace Index

theorem keepAll_eq (key : Declaration → String) (ds : List Declaration) :
    ds.foldl (fun entries d => keepFirst (key d) d.symbol entries) [] =
      (firstBy key [] ds).map fun d => (key d, d.symbol) := by
  induction ds using List.reverseRecOn with
  | nil => rfl
  | append_singleton ds d ih =>
    have hkeys : ((firstBy key [] ds).map fun d => (key d, d.symbol)).any (·.1 == key d) = true ↔
        key d ∈ ds.map key := by
      rw [← List.mem_eraseDups, ← firstBy_id, ← map_firstBy]
      simp
    rw [List.foldl_append, ih, List.foldl_cons, List.foldl_nil, keepFirst, firstBy_concat]
    by_cases hmet : key d ∈ ds.map key
    · rw [if_pos (hkeys.mpr hmet), if_pos (.inr hmet), List.append_nil]
    · rw [if_neg (mt hkeys.mp hmet), if_neg (by simpa using hmet), List.map_append]
      rfl

theorem find?_keepAll (p : String → Bool) (key : Declaration → String) (ds : List Declaration) :
    ((ds.foldl (fun entries d => keepFirst (key d) d.symbol entries) []).find?
      fun e => p e.1).map (·.2) = (ds.find? fun d => p (key d)).map Declaration.symbol := by
  rw [keepAll_eq, List.find?_map, Option.map_map]
  exact congrArg (Option.map _) (find?_firstBy p [] ds (by simp))

theorem ofDeclarations_eq (ds : List Declaration) :
    ofDeclarations ds =
      ⟨ds.foldl (fun entries d => keepFirst d.name d.symbol entries) [],
        ds.foldl (fun entries d => keepFirst d.qualifiedName d.symbol entries) []⟩ := by
  have hfrom : ∀ index : Index, ds.foldl add index =
      ⟨ds.foldl (fun entries d => keepFirst d.name d.symbol entries) index.byName,
        ds.foldl (fun entries d => keepFirst d.qualifiedName d.symbol entries)
          index.byQualified⟩ := by
    induction ds with
    | nil => exact fun _ => rfl
    | cons d rest ih => exact fun index => ih (index.add d)
  exact hfrom empty

theorem lookup_eq_find? (n : String) (entries : List (String × Symbol)) :
    entries.lookup n = (entries.find? fun e => n == e.1).map (·.2) := by
  induction entries with
  | nil => rfl
  | cons e rest ih =>
    obtain ⟨key, s⟩ := e
    rw [List.lookup_cons, List.find?_cons]
    cases h : n == key with
    | true => rfl
    | false => exact ih

def endsIn (full qualifiedName : String) : Bool :=
  ('.' :: full.toList).isSuffixOf qualifiedName.toList

/-- A lookup answers with the first declaration that fits: exactly if there is one, and by the end
of its qualified name if not. -/
theorem lookup?_ofDeclarations (ds : List Declaration) (name qualifier : String) :
    (ofDeclarations ds).lookup? name qualifier =
      if qualifier = "" then (ds.find? fun d => name == d.name).map Declaration.symbol
      else ((ds.find? fun d => qualifier ++ "." ++ name == d.qualifiedName).or
        (ds.find? fun d => endsIn (qualifier ++ "." ++ name) d.qualifiedName)).map
          Declaration.symbol := by
  rw [ofDeclarations_eq]
  unfold lookup?
  split
  · rw [lookup_eq_find?, find?_keepAll]
  · dsimp only
    rw [lookup_eq_find?, find?_keepAll (qualifier ++ "." ++ name == ·) Declaration.qualifiedName]
    have hend := find?_keepAll (endsIn (qualifier ++ "." ++ name)) Declaration.qualifiedName ds
    unfold endsIn at hend
    rw [hend]
    cases ds.find? fun d => qualifier ++ "." ++ name == d.qualifiedName <;> rfl

end Index

/-- The same declarations in another order, those of one simple name in the same order. -/
structure Reordered (ds ds' : List Declaration) : Prop where
  perm : ds.Perm ds'
  same_order : ∀ name, ds.filter (·.name = name) = ds'.filter (·.name = name)

variable {ds ds' : List Declaration}

theorem Reordered.dotless (h : Reordered ds ds') (hdot : Dotless ds) : Dotless ds' :=
  fun d hd => hdot d (h.perm.mem_iff.mpr hd)

theorem Reordered.find?_eq (h : Reordered ds ds') {p : Declaration → Bool} {name : String}
    (hp : ∀ d ∈ ds, p d = true → d.name = name) : ds.find? p = ds'.find? p := by
  have hwithin : ∀ {es : List Declaration}, (∀ d ∈ es, p d = true → d.name = name) →
      es.find? p = (es.filter (·.name = name)).find? p := by
    intro es hes
    rw [List.find?_filter]
    refine List.find?_congr fun d hd => ?_
    cases hpd : p d with
    | true => simp [hes d hd hpd]
    | false => simp
  rw [hwithin hp, h.same_order, ← hwithin fun d hd => hp d (h.perm.mem_iff.mpr hd)]

theorem name_of_exact {d : Declaration} {full : String} (hdot : '.' ∉ d.name.toList)
    (h : (full == d.qualifiedName) = true) : d.name = simpleName full := by
  rw [← simpleName_qualifiedName hdot, eq_of_beq h]

theorem name_of_endsIn {d : Declaration} {full : String} (hdot : '.' ∉ d.name.toList)
    (h : Index.endsIn full d.qualifiedName = true) : d.name = simpleName full := by
  obtain ⟨s, hs⟩ := List.isSuffixOf_iff_suffix.mp h
  rw [← simpleName_qualifiedName hdot, simpleName, simpleName, ← hs, Text.lastSegment_append_dot]

theorem declaration_of_lookup? (hdot : Dotless ds) {name qualifier : String}
    (hname : '.' ∉ name.toList) {s : Symbol}
    (h : (Index.ofDeclarations ds).lookup? name qualifier = some s) :
    ∃ d ∈ ds, d.symbol = s ∧ d.name = name := by
  rw [Index.lookup?_ofDeclarations] at h
  split at h
  · obtain ⟨d, hd, hs⟩ := Option.map_eq_some_iff.mp h
    have hsame := List.find?_some hd
    exact ⟨d, List.mem_of_find?_eq_some hd, hs, (eq_of_beq hsame).symm⟩
  · obtain ⟨d, hd, hs⟩ := Option.map_eq_some_iff.mp h
    have hfull : simpleName (qualifier ++ "." ++ name) = name := by
      have hlast : Text.lastSegment (qualifier ++ "." ++ name).toList = name.toList := by
        rw [String.toList_append, String.toList_append, List.append_assoc]
        exact (Text.lastSegment_append_dot _ _).trans (Text.lastSegment_of_not_mem hname)
      rw [simpleName, hlast, String.ofList_toList]
    cases Option.or_eq_some_iff.mp hd with
    | inl hexact =>
      have hmem := List.mem_of_find?_eq_some hexact
      have hfits := List.find?_some hexact
      exact ⟨d, hmem, hs, (name_of_exact (hdot d hmem) hfits).trans hfull⟩
    | inr hlater =>
      have hmem := List.mem_of_find?_eq_some hlater.2
      have hfits := List.find?_some hlater.2
      exact ⟨d, hmem, hs, (name_of_endsIn (hdot d hmem) hfits).trans hfull⟩

theorem Reordered.lookup?_eq (h : Reordered ds ds') (hdot : Dotless ds) :
    (Index.ofDeclarations ds).lookup? = (Index.ofDeclarations ds').lookup? := by
  funext name qualifier
  rw [Index.lookup?_ofDeclarations, Index.lookup?_ofDeclarations]
  have hname : (ds.find? fun d => name == d.name) = ds'.find? fun d => name == d.name :=
    h.find?_eq fun d _ hd => (eq_of_beq hd).symm
  have hexact : (ds.find? fun d => qualifier ++ "." ++ name == d.qualifiedName) =
      ds'.find? fun d => qualifier ++ "." ++ name == d.qualifiedName :=
    h.find?_eq fun d hd => name_of_exact (hdot d hd)
  have hend : (ds.find? fun d => Index.endsIn (qualifier ++ "." ++ name) d.qualifiedName) =
      ds'.find? fun d => Index.endsIn (qualifier ++ "." ++ name) d.qualifiedName :=
    h.find?_eq fun d hd => name_of_endsIn (hdot d hd)
  rw [hname, hexact, hend]

end ClassChart
